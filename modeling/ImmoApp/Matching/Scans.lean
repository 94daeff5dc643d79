import ImmoApp.Foundation.Pages
import ImmoApp.Matching.Counts
import Mathlib.Tactic.NormNum

/-!
# Resumable count scans

`count_matches_all_*_task` leases the checkpoint of its stream.  A small scan that has not started is answered by one
query; otherwise the task reads pages of active ids after the checkpoint, counts each page and saves its progress, until
its row budget, which is one of the whole scan, or its time is used up.

The database and the candidates stay as they are during a scan, and runs follow each other.
-/

namespace ImmoApp.Matching

open Crm List

/-- A row of `task_scan_checkpoints`. -/
structure CheckpointRow where
  lastId : ℕ
  rowsProcessed : ℕ
  attempt : ℕ
  leaseOwner : Option String
  leaseUntil : Option ℕ

def CheckpointRow.start : CheckpointRow := ⟨0, 0, 0, none, none⟩

/-- The condition under which a lease can be taken. -/
def CheckpointRow.free (row : CheckpointRow) (owner : String) (now : ℕ) : Bool :=
  row.leaseOwner.isNone || row.leaseUntil.isNone || row.leaseUntil.any (fun t => decide (t < now)) ||
    row.leaseOwner == some owner

/-- `acquire_lease`: the row, and whether it was leased. -/
def acquireLease (owner : String) (leaseSeconds now : ℕ) (row : Option CheckpointRow) : CheckpointRow × Bool :=
  let row := row.getD .start
  if row.free owner now then
    ({ row with
        leaseOwner := some owner
        leaseUntil := some (now + max 1 leaseSeconds)
        attempt := row.attempt + 1 }, true)
  else (row, false)

/-- An update of the row by the task that holds the lease. -/
def CheckpointRow.owned (f : CheckpointRow → CheckpointRow) (owner : String) (row : CheckpointRow) :
    CheckpointRow := if row.leaseOwner = some owner then f row else row

def heartbeatLease (owner : String) (leaseSeconds now : ℕ) : CheckpointRow → CheckpointRow :=
  CheckpointRow.owned (fun row => { row with leaseUntil := some (now + max 1 leaseSeconds) }) owner

def saveProgress (owner : String) (lastId rowsProcessed : ℕ) : CheckpointRow → CheckpointRow :=
  CheckpointRow.owned (fun row => { row with lastId := lastId, rowsProcessed := rowsProcessed }) owner

def releaseLease (owner : String) : CheckpointRow → CheckpointRow :=
  CheckpointRow.owned (fun row => { row with leaseOwner := none, leaseUntil := none }) owner

def resetProgress (owner : String) : CheckpointRow → CheckpointRow :=
  CheckpointRow.owned (fun _ => .start) owner

inductive ScanKind where
  /-- `count_matches_all_clients_task`. -/
  | clients
  /-- `count_matches_all_demandes_task`. -/
  | demandes
  /-- `count_matches_all_listings_task`. -/
  | listings
  /-- `count_matches_all_offers_task`. -/
  | offers

namespace ScanKind

/-- The active ids of a stream, as `count_active_*` and `iter_active_*_batches` select them. -/
def rows (kind : ScanKind) (db : Db) : List ℕ :=
  match kind with
  | .clients => (db.clients.rows.filter activeClient).map Row.id
  | .demandes => (db.demandes.rows.filter activeDemande).map Row.id
  | .listings => (db.listings.rows.filter activeListing).map Row.id
  | .offers => (db.offers.rows.filter Row.live).map Row.id

/-- `ORDER BY id`. -/
def activeIds (kind : ScanKind) (db : Db) : List ℕ := sortedIds (kind.rows db)

/-- `count_active_*`. -/
def total (kind : ScanKind) (db : Db) : ℕ := (kind.rows db).length

def countBatch (kind : ScanKind) (db : Db) (candidates : Candidates) (ids : List ℕ) : Dict ℕ ℕ :=
  match kind with
  | .clients => countClientsForIds db candidates ids
  | .demandes => countDemandesForIds db candidates ids
  | .listings => countListingsForIds db candidates ids
  | .offers => countOffersForIds db candidates ids

def countAll (kind : ScanKind) (db : Db) (candidates : Candidates) : Dict ℕ ℕ :=
  match kind with
  | .clients => batchCountAllClientsCte db candidates
  | .demandes => batchCountAllDemandesCte db candidates
  | .listings => batchCountAllListingsCte db candidates
  | .offers => batchCountAllOffersCte db candidates

end ScanKind

/-! ### A run -/

structure ScanSettings where
  batchSize : ℕ
  maxRowsPerRun : ℕ
  fullCteThreshold : ℕ
  leaseSec : ℕ

structure ScanCall where
  leaseOwner : String
  clock : ℕ → ℕ
  /-- Whether the time limit is past before each batch. -/
  late : ℕ → Bool

structure ScanReport where
  counts : Dict ℕ ℕ
  hasMore : Bool
  lastId : ℕ
  batches : ℕ

structure ScanState where
  lastId : ℕ
  rowsProcessed : ℕ
  counts : Dict ℕ ℕ
  row : CheckpointRow
  batches : ℕ

section Task

variable (settings : ScanSettings) (call : ScanCall)

def budgetExhausted (s : ScanState) : Bool :=
  decide (settings.maxRowsPerRun ≤ s.rowsProcessed) || call.late s.batches

def ScanState.process (count : List ℕ → Dict ℕ ℕ) (batch : List ℕ) (s : ScanState) : ScanState where
  lastId := lastOf batch
  rowsProcessed := s.rowsProcessed + batch.length
  counts := s.counts.update (count batch)
  row := heartbeatLease call.leaseOwner settings.leaseSec (call.clock (s.batches + 1))
    (saveProgress call.leaseOwner (lastOf batch) (s.rowsProcessed + batch.length) s.row)
  batches := s.batches + 1

def scanLoop (count : List ℕ → Dict ℕ ℕ) : List (List ℕ) → ScanState → Bool × ScanState
  | [], s => (false, s)
  | batch :: rest, s =>
    if budgetExhausted settings call s then (true, s)
    else scanLoop count rest (s.process settings call count batch)

/-- The end of a run: the lease is released where there is more to do, else the scan starts anew. -/
def finishRun (result : Bool × ScanState) : Option ScanReport × CheckpointRow :=
  (some ⟨result.2.counts, result.1, result.2.lastId, result.2.batches⟩,
    if result.1 then releaseLease call.leaseOwner result.2.row
    else resetProgress call.leaseOwner result.2.row)

/-- `count_matches_all_*_task`: the report, if the checkpoint could be leased, and the checkpoint. -/
def countMatchesAllTask (kind : ScanKind) (db : Db) (candidates : Candidates)
    (row : Option CheckpointRow) : Option ScanReport × CheckpointRow :=
  let (row, leased) := acquireLease call.leaseOwner settings.leaseSec (call.clock 0) row
  if !leased then (none, row)
  else if row.lastId = 0 ∧ kind.total db ≤ settings.fullCteThreshold then
    -- the fast path
    (some ⟨kind.countAll db candidates, false, 0, 1⟩, resetProgress call.leaseOwner row)
  else
    finishRun call (scanLoop settings call (kind.countBatch db candidates)
      (pages (kind.activeIds db) settings.batchSize row.lastId)
      ⟨row.lastId, row.rowsProcessed, [], row, 0⟩)

def countMatchesAllClientsTask := countMatchesAllTask settings call .clients

def countMatchesAllDemandesTask := countMatchesAllTask settings call .demandes

def countMatchesAllListingsTask := countMatchesAllTask settings call .listings

def countMatchesAllOffersTask := countMatchesAllTask settings call .offers

end Task

/-- The checkpoint before each run of a sequence of runs. -/
def checkpointBefore (settings : ScanSettings) (kind : ScanKind) (db : Db) (candidates : Candidates)
    (calls : ℕ → ScanCall) : ℕ → Option CheckpointRow
  | 0 => none
  | n + 1 => some (countMatchesAllTask settings (calls n) kind db candidates
      (checkpointBefore settings kind db candidates calls n)).2

def reportOf (settings : ScanSettings) (kind : ScanKind) (db : Db) (candidates : Candidates)
    (calls : ℕ → ScanCall) (n : ℕ) : Option ScanReport :=
  (countMatchesAllTask settings (calls n) kind db candidates (checkpointBefore settings kind db candidates calls n)).1

/-! ### Active ids and the keys of their counts -/

namespace ScanKind

lemma nodup_rows (kind : ScanKind) (db : Db) : (kind.rows db).Nodup := by
  cases kind with
  | clients => exact db.clients.keyed.sublist (filter_sublist.map Row.id)
  | demandes => exact db.demandes.keyed.sublist (filter_sublist.map Row.id)
  | listings => exact db.listings.keyed.sublist (filter_sublist.map Row.id)
  | offers => exact db.offers.keyed.sublist (filter_sublist.map Row.id)

lemma activeIds_perm (kind : ScanKind) (db : Db) : (kind.activeIds db).Perm (kind.rows db) :=
  sortedIds_perm _

lemma activeIds_pairwise (kind : ScanKind) (db : Db) : (kind.activeIds db).Pairwise (· < ·) :=
  sortedIds_pairwise (kind.nodup_rows db)

lemma length_activeIds (kind : ScanKind) (db : Db) : (kind.activeIds db).length = kind.total db :=
  (kind.activeIds_perm db).length_eq

variable {id : ℕ}

lemma pos_of_mem_rows {kind : ScanKind} {db : Db} (h : id ∈ kind.rows db) : 0 < id := by
  cases kind with
  | clients =>
    obtain ⟨r, hr, rfl⟩ := mem_map.mp h
    exact db.clients.positive r (mem_of_mem_filter hr)
  | demandes =>
    obtain ⟨r, hr, rfl⟩ := mem_map.mp h
    exact db.demandes.positive r (mem_of_mem_filter hr)
  | listings =>
    obtain ⟨r, hr, rfl⟩ := mem_map.mp h
    exact db.listings.positive r (mem_of_mem_filter hr)
  | offers =>
    obtain ⟨r, hr, rfl⟩ := mem_map.mp h
    exact db.offers.positive r (mem_of_mem_filter hr)

lemma countBatch_map_fst (kind : ScanKind) (db : Db) (candidates : Candidates) {ids : List ℕ}
    (h : ids.Nodup) : (kind.countBatch db candidates ids).map Prod.fst = ids := by
  have hcount : ∀ rows, (countForIds rows ids).map Prod.fst = ids := by
    intro rows
    rw [countForIds, dictOf_map_fst fun row hrow => ?_, h.dedup]
    have hkey : row.1 ∈ ((rows.filter fun row => row.1 ∈ ids).map Prod.fst).dedup := by
      rw [← distinctCounts_map_fst]
      exact mem_map_of_mem hrow
    obtain ⟨x, hx, heq⟩ := mem_map.mp (mem_dedup.mp hkey)
    rw [← heq]
    simpa using (mem_filter.mp hx).2
  cases kind <;> exact hcount _

/-- The query over everything shows an id: a client or a demande with a counted match, any listing, an
offer on the market. -/
def Shown (kind : ScanKind) (db : Db) (candidates : Candidates) (id : ℕ) : Prop :=
  match kind with
  | .clients => ∃ d offerId, CountedFor db candidates d offerId ∧ d.columns.clientId = id
  | .demandes => ∃ d offerId, CountedFor db candidates d offerId ∧ d.id = id
  | .listings => True
  | .offers => ∃ o ∈ db.offers.rows, o.id = id ∧ activeOffer o = true

lemma countAll_listings_map_fst (db : Db) (candidates : Candidates) :
    (countAll .listings db candidates).map Prod.fst = activeIds .listings db := by
  simp [countAll, batchCountAllListingsCte, activeIds, rows, Function.comp_def]

lemma countAll_offers_map_fst (db : Db) (candidates : Candidates) : (countAll .offers db candidates).map Prod.fst
      = sortedIds ((db.offers.rows.filter activeOffer).map Row.id) := by
  simp [countAll, batchCountAllOffersCte, Function.comp_def]

lemma mem_countAll_map_fst {kind : ScanKind} {db : Db} {candidates : Candidates} :
    id ∈ (kind.countAll db candidates).map Prod.fst ↔ id ∈ kind.rows db ∧ kind.Shown db candidates id := by
  cases kind with
  | clients =>
    simp only [countAll, batchCountAllClientsCte, distinctCounts_map_fst, mem_dedup, mem_map,
      Prod.exists, mem_clientOffers, exists_and_right, exists_eq_right, rows, mem_filter, Shown]
    constructor
    · rintro ⟨offerId, ⟨c, hc, rfl, hactive⟩, d, hcounted, hclient⟩
      exact ⟨⟨c, ⟨hc, hactive⟩, rfl⟩, d, ⟨offerId, hcounted⟩, hclient⟩
    · rintro ⟨⟨c, ⟨hc, hactive⟩, rfl⟩, d, ⟨offerId, hcounted⟩, hclient⟩
      exact ⟨offerId, ⟨c, hc, rfl, hactive⟩, d, hcounted, hclient⟩
  | demandes =>
    simp only [countAll, batchCountAllDemandesCte, distinctCounts_map_fst, mem_dedup, mem_map,
      Prod.exists, mem_demandeOffers, exists_and_right, exists_eq_right, rows, mem_filter, Shown]
    constructor
    · rintro ⟨offerId, d, hcounted, rfl⟩
      exact ⟨⟨d, ⟨hcounted.demande, hcounted.live⟩, rfl⟩, d, ⟨offerId, hcounted⟩, rfl⟩
    · rintro ⟨-, d, ⟨offerId, hcounted⟩, rfl⟩
      exact ⟨offerId, d, hcounted, rfl⟩
  | listings =>
    rw [countAll_listings_map_fst, (activeIds_perm .listings db).mem_iff]
    exact (and_iff_left trivial).symm
  | offers =>
    rw [countAll_offers_map_fst, (sortedIds_perm _).mem_iff]
    simp only [mem_map, mem_filter, rows, Shown]
    constructor
    · rintro ⟨o, ⟨ho, hactive⟩, rfl⟩
      have hlive : o.live = true := (Bool.and_eq_true _ _ ▸ hactive).2
      exact ⟨⟨o, ⟨ho, hlive⟩, rfl⟩, o, ho, rfl, hactive⟩
    · rintro ⟨-, o, ho, rfl, hactive⟩
      exact ⟨o, ⟨ho, hactive⟩, rfl⟩

lemma nodup_countAll_map_fst (kind : ScanKind) (db : Db) (candidates : Candidates) :
    ((kind.countAll db candidates).map Prod.fst).Nodup := by
  cases kind with
  | clients =>
    rw [countAll, batchCountAllClientsCte, distinctCounts_map_fst]
    exact nodup_dedup _
  | demandes =>
    rw [countAll, batchCountAllDemandesCte, distinctCounts_map_fst]
    exact nodup_dedup _
  | listings =>
    rw [countAll_listings_map_fst]
    exact (activeIds_perm .listings db).nodup_iff.mpr (nodup_rows .listings db)
  | offers =>
    rw [countAll_offers_map_fst]
    exact (sortedIds_perm _).nodup_iff.mpr (db.offers.keyed.sublist (filter_sublist.map Row.id))

lemma countAll_perm_iff {kind : ScanKind} {db : Db} {candidates : Candidates} :
    ((kind.countAll db candidates).map Prod.fst).Perm (kind.activeIds db) ↔
      ∀ id ∈ kind.rows db, kind.Shown db candidates id := by
  have hnodup := kind.nodup_countAll_map_fst db candidates
  have hids : (kind.activeIds db).Nodup := (kind.activeIds_perm db).nodup_iff.mpr (kind.nodup_rows db)
  rw [perm_ext_iff_of_nodup hnodup hids]
  constructor
  · intro h id hid
    exact (mem_countAll_map_fst.mp ((h id).mpr ((kind.activeIds_perm db).mem_iff.mpr hid))).2
  · intro h id
    rw [mem_countAll_map_fst, (kind.activeIds_perm db).mem_iff]
    exact and_iff_left_of_imp (h id)

end ScanKind

/-! ### The loop over the batches -/

section Loop

variable {settings : ScanSettings} {call : ScanCall} {count : List ℕ → Dict ℕ ℕ} {ids : List ℕ}

/-- The number of rows that a scan with a row budget processes, in whole batches. -/
def budgetRows (settings : ScanSettings) (rowsProcessed : ℕ) : ℕ :=
  (settings.maxRowsPerRun - rowsProcessed + settings.batchSize - 1) / settings.batchSize * settings.batchSize

variable {rows : ℕ}

section

variable (hsize : 0 < settings.batchSize)
include hsize

lemma budgetRows_add (h : rows < settings.maxRowsPerRun) :
    budgetRows settings rows = budgetRows settings (rows + settings.batchSize) + settings.batchSize := by
  have hquotient : (settings.maxRowsPerRun - rows + settings.batchSize - 1) / settings.batchSize
      = (settings.maxRowsPerRun - (rows + settings.batchSize) + settings.batchSize - 1) / settings.batchSize + 1 := by
    by_cases hfull : settings.batchSize ≤ settings.maxRowsPerRun - rows
    · rw [← Nat.add_div_right _ hsize]
      congr 1
      omega
    · have hleft : (settings.maxRowsPerRun - rows + settings.batchSize - 1) / settings.batchSize = 1 :=
        Nat.div_eq_of_lt_le (by omega) (by omega)
      have hright : (settings.maxRowsPerRun - (rows + settings.batchSize) + settings.batchSize - 1)
          / settings.batchSize = 0 := Nat.div_eq_of_lt (by omega)
      rw [hleft, hright]
  rw [budgetRows, budgetRows, hquotient, Nat.add_mul, Nat.one_mul]

lemma budgetRows_eq_zero (h : settings.maxRowsPerRun ≤ rows) : budgetRows settings rows = 0 := by
  rw [budgetRows, Nat.div_eq_of_lt (by omega), Nat.zero_mul]

lemma batchSize_le_budgetRows
    (h : rows < settings.maxRowsPerRun) : settings.batchSize ≤ budgetRows settings rows := by
  rw [budgetRows_add hsize h]
  omega

end

/-- The state of the loop is the one the checkpoint keeps, and it counted nothing after its last id. -/
structure ScanState.Kept (owner : String) (s : ScanState) : Prop where
  leased : s.row.leaseOwner = some owner
  lastId : s.row.lastId = s.lastId
  rowsProcessed : s.row.rowsProcessed = s.rowsProcessed
  counted : ∀ id ∈ s.counts.map Prod.fst, id ≤ s.lastId

variable {s : ScanState}

lemma ScanState.Kept.process (hids : ids.Pairwise (· < ·))
    (hcount : ∀ batch : List ℕ, batch.Nodup → (count batch).map Prod.fst = batch)
    (h : s.Kept call.leaseOwner) (hpage : page ids settings.batchSize s.lastId ≠ []) :
    (s.process settings call count (page ids settings.batchSize s.lastId)).Kept call.leaseOwner ∧
      (s.process settings call count (page ids settings.batchSize s.lastId)).counts.map Prod.fst
        = s.counts.map Prod.fst ++ page ids settings.batchSize s.lastId := by
  have hnodup : (page ids settings.batchSize s.lastId).Nodup :=
    (((hids.filter _).imp ne_of_lt).sublist (take_sublist _ _))
  have hkeys : (s.counts.update (count (page ids settings.batchSize s.lastId))).map Prod.fst
      = s.counts.map Prod.fst ++ page ids settings.batchSize s.lastId := by
    rw [Dict.map_fst_update_of_new fun id hid hold => ?_, hcount _ hnodup]
    rw [hcount _ hnodup] at hid
    exact absurd (h.counted id hold) (not_le.mpr (mem_of_mem_page hid).2)
  have hle : s.lastId ≤ lastOf (page ids settings.batchSize s.lastId) :=
    (mem_of_mem_page (lastOf_mem hpage)).2.le
  refine ⟨⟨?_, ?_, ?_, ?_⟩, hkeys⟩
  · simp [ScanState.process, heartbeatLease, saveProgress, CheckpointRow.owned, h.leased]
  · simp [ScanState.process, heartbeatLease, saveProgress, CheckpointRow.owned, h.leased]
  · simp [ScanState.process, heartbeatLease, saveProgress, CheckpointRow.owned, h.leased]
  · intro id hid
    change id ∈ (s.counts.update _).map Prod.fst at hid
    rw [hkeys] at hid
    rcases mem_append.mp hid with hold | hnew
    · exact (h.counted id hold).trans hle
    · exact le_lastOf hids hnew

structure LoopEnd (settings : ScanSettings) (owner : String) (ids : List ℕ) (s : ScanState)
    (hasMore : Bool) (s' : ScanState) : Prop where
  kept : s'.Kept owner
  le : s.lastId ≤ s'.lastId
  ends : hasMore = false ↔ (remaining ids s.lastId).length ≤ budgetRows settings s.rowsProcessed
  covers : hasMore = false → s'.counts.map Prod.fst = s.counts.map Prod.fst ++ remaining ids s.lastId
  /-- Otherwise the budget is used up, and rows remain. -/
  stops : hasMore = true → settings.maxRowsPerRun ≤ s'.rowsProcessed ∧ remaining ids s'.lastId ≠ []
  /-- Where rows remain and the budget is not used up, a batch is counted. -/
  progress : remaining ids s.lastId ≠ [] → s.rowsProcessed < settings.maxRowsPerRun →
    s.batches < s'.batches ∧ s.lastId < s'.lastId
  batches : s.batches ≤ s'.batches

lemma loopEnd_of_nil (h : s.Kept call.leaseOwner) (hnil : remaining ids s.lastId = []) :
    LoopEnd settings call.leaseOwner ids s false s where
  kept := h
  le := le_rfl
  ends := by simp [hnil]
  covers := by simp [hnil]
  stops := by simp
  progress := fun hne => absurd hnil hne
  batches := le_rfl

lemma scanLoop_spec (hids : ids.Pairwise (· < ·)) (hsize : 0 < settings.batchSize)
    (hcount : ∀ batch : List ℕ, batch.Nodup → (count batch).map Prod.fst = batch)
    (htime : ∀ n, call.late n = false) {fuel : ℕ} (h : s.Kept call.leaseOwner)
    (hfuel : (remaining ids s.lastId).length ≤ fuel) :
    LoopEnd settings call.leaseOwner ids s
      (scanLoop settings call count (pagesFrom ids settings.batchSize fuel s.lastId) s).1
      (scanLoop settings call count (pagesFrom ids settings.batchSize fuel s.lastId) s).2 := by
  induction fuel generalizing s with
  | zero => exact loopEnd_of_nil h (eq_nil_of_length_eq_zero (Nat.le_zero.mp hfuel))
  | succ fuel ih =>
    rw [pagesFrom]
    by_cases hpage : page ids settings.batchSize s.lastId = []
    · rw [if_pos hpage]
      exact loopEnd_of_nil h ((page_eq_nil_iff hsize).mp hpage)
    rw [if_neg hpage, scanLoop, budgetExhausted, htime, Bool.or_false]
    have hne : remaining ids s.lastId ≠ [] := fun hnil => hpage ((page_eq_nil_iff hsize).mpr hnil)
    have hpos : 0 < (remaining ids s.lastId).length := length_pos_of_ne_nil hne
    by_cases hused : settings.maxRowsPerRun ≤ s.rowsProcessed
    · -- the budget is used up before the batch
      rw [if_pos (by simpa using hused)]
      refine ⟨h, le_rfl, ?_, by simp, fun _ => ⟨hused, hne⟩, fun _ hlt => ?_, le_rfl⟩
      · rw [budgetRows_eq_zero hsize hused]
        simp [hne]
      · omega
    · rw [if_neg (by simpa using hused)]
      obtain ⟨hkept, hkeys⟩ := h.process hids hcount hpage
      have hlt : s.lastId < lastOf (page ids settings.batchSize s.lastId) :=
        (mem_of_mem_page (lastOf_mem hpage)).2
      have hdrop : remaining ids (lastOf (page ids settings.batchSize s.lastId))
          = (remaining ids s.lastId).drop settings.batchSize := remaining_lastOf hids hpage
      have hend := ih hkept (by
        change (remaining ids (lastOf (page ids settings.batchSize s.lastId))).length ≤ fuel
        rw [hdrop, length_drop]
        omega)
      refine ⟨hend.kept, hlt.le.trans hend.le, ?_, fun hdone => ?_, hend.stops, fun _ _ => ?_, ?_⟩
      · refine hend.ends.trans ?_
        change (remaining ids (lastOf (page ids settings.batchSize s.lastId))).length ≤
          budgetRows settings (s.rowsProcessed + (page ids settings.batchSize s.lastId).length) ↔ _
        rw [hdrop, length_drop, page, length_take]
        by_cases hlast : (remaining ids s.lastId).length ≤ settings.batchSize
        · have hallowed := batchSize_le_budgetRows hsize (not_le.mp hused)
          omega
        · rw [budgetRows_add hsize (not_le.mp hused), min_eq_left (by omega)]
          omega
      · refine (hend.covers hdone).trans ?_
        change _ ++ remaining ids (lastOf (page ids settings.batchSize s.lastId)) = _
        rw [hkeys, hdrop, append_assoc, page, take_append_drop]
      · exact ⟨Nat.lt_of_succ_le hend.batches, hlt.trans_le hend.le⟩
      · exact (Nat.le_succ _).trans hend.batches

end Loop

/-! ### Runs -/

section Runs

variable {settings : ScanSettings} {kind : ScanKind} {db : Db} {candidates : Candidates}

def found (row : Option CheckpointRow) : CheckpointRow := row.getD .start

def Idle (row : Option CheckpointRow) : Prop := (found row).leaseOwner = none

def leased (settings : ScanSettings) (call : ScanCall) (row : Option CheckpointRow) : CheckpointRow :=
  { found row with
    leaseOwner := some call.leaseOwner
    leaseUntil := some (call.clock 0 + max 1 settings.leaseSec)
    attempt := (found row).attempt + 1 }

variable {row : Option CheckpointRow} {owner : String}

lemma acquireLease_of_idle {call : ScanCall} (h : Idle row) :
    acquireLease call.leaseOwner settings.leaseSec (call.clock 0) row = (leased settings call row, true) := by
  have hfree : (row.getD .start).free call.leaseOwner (call.clock 0) = true := by
    have hnone : (row.getD CheckpointRow.start).leaseOwner = none := h
    simp [CheckpointRow.free, hnone]
  rw [acquireLease, if_pos hfree]
  rfl

lemma releaseLease_of_leased {row : CheckpointRow} (h : row.leaseOwner = some owner) :
    releaseLease owner row = { row with leaseOwner := none, leaseUntil := none } := if_pos h

lemma resetProgress_of_leased {row : CheckpointRow}
    (h : row.leaseOwner = some owner) : resetProgress owner row = .start := if_pos h

lemma task_fast (call : ScanCall) (h : Idle row)
    (hlast : (found row).lastId = 0) (hsmall : kind.total db ≤ settings.fullCteThreshold) :
    countMatchesAllTask settings call kind db candidates row
      = (some ⟨kind.countAll db candidates, false, 0, 1⟩, .start) := by
  rw [countMatchesAllTask, acquireLease_of_idle h]
  have hcond : (leased settings call row).lastId = 0 ∧ kind.total db ≤ settings.fullCteThreshold :=
    ⟨hlast, hsmall⟩
  simp only [Bool.not_true, Bool.false_eq_true, if_false, if_pos hcond]
  rw [resetProgress_of_leased rfl]

lemma task_slow (candidates : Candidates) (hsize : 0 < settings.batchSize) {call : ScanCall}
    (htime : ∀ n, call.late n = false) (h : Idle row)
    (hslow : ¬ ((found row).lastId = 0 ∧ kind.total db ≤ settings.fullCteThreshold)) :
    ∃ hasMore s, LoopEnd settings call.leaseOwner (kind.activeIds db)
        ⟨(found row).lastId, (found row).rowsProcessed, [], leased settings call row, 0⟩ hasMore s ∧
      countMatchesAllTask settings call kind db candidates row = finishRun call (hasMore, s) := by
  have hkept : ScanState.Kept call.leaseOwner ⟨(leased settings call row).lastId,
      (leased settings call row).rowsProcessed, [], leased settings call row, 0⟩ :=
    ⟨rfl, rfl, rfl, by simp⟩
  have hfuel : (remaining (kind.activeIds db) (leased settings call row).lastId).length ≤
      (kind.activeIds db).length := length_filter_le _ _
  have hslow' : ¬ ((leased settings call row).lastId = 0 ∧ kind.total db ≤ settings.fullCteThreshold) := hslow
  rw [countMatchesAllTask, acquireLease_of_idle h]
  simp only [Bool.not_true, Bool.false_eq_true, if_false, if_neg hslow']
  exact ⟨_, _, scanLoop_spec (kind.activeIds_pairwise db) hsize
    (fun batch => kind.countBatch_map_fst db candidates) htime hkept hfuel, rfl⟩

variable {s : ScanState}

lemma finishRun_done {call : ScanCall} (h : s.Kept call.leaseOwner) :
    finishRun call (false, s) = (some ⟨s.counts, false, s.lastId, s.batches⟩, .start) := by
  rw [finishRun, if_neg Bool.false_ne_true, resetProgress_of_leased h.leased]

lemma finishRun_more {call : ScanCall} (h : s.Kept call.leaseOwner) :
    finishRun call (true, s) = (some ⟨s.counts, true, s.lastId, s.batches⟩,
      ⟨s.lastId, s.rowsProcessed, s.row.attempt, none, none⟩) := by
  rw [finishRun, if_pos rfl, releaseLease_of_leased h.leased]
  simp only [h.lastId, h.rowsProcessed]

end Runs

/-! ### Scans -/

def reportKeys : Option ScanReport → List ℕ
  | none => []
  | some r => r.counts.map Prod.fst

/-- Repeated runs reach one without more to do, together they count each active id once, and every run
that starts with unprocessed rows counts a batch. -/
def ScanMeets (settings : ScanSettings) (kind : ScanKind) (db : Db) (candidates : Candidates)
    (calls : ℕ → ScanCall) : Prop :=
  (∃ k, (∀ n < k, (reportOf settings kind db candidates calls n).map ScanReport.hasMore = some true) ∧
    (reportOf settings kind db candidates calls k).map ScanReport.hasMore = some false ∧
    ((List.range (k + 1)).flatMap fun n =>
      reportKeys (reportOf settings kind db candidates calls n)).Perm (kind.activeIds db)) ∧
  ∀ n, remaining (kind.activeIds db) (found (checkpointBefore settings kind db candidates calls n)).lastId ≠ [] →
    ∃ r, reportOf settings kind db candidates calls n = some r ∧ 1 ≤ r.batches

/-- A scan answered by the query over everything shows every active id, and another fits in the budget of
one run, in whole batches. -/
def ScanFits (settings : ScanSettings) (kind : ScanKind) (db : Db) (candidates : Candidates) : Prop :=
  if kind.total db ≤ settings.fullCteThreshold then ∀ id ∈ kind.rows db, kind.Shown db candidates id
  else kind.total db ≤ (settings.maxRowsPerRun + settings.batchSize - 1) / settings.batchSize * settings.batchSize

section Meets

variable {settings : ScanSettings} {kind : ScanKind} {db : Db} {candidates : Candidates}
  {calls : ℕ → ScanCall}

lemma remaining_activeIds_zero (kind : ScanKind) (db : Db) : remaining (kind.activeIds db) 0 = kind.activeIds db := by
  refine filter_eq_self.mpr fun id hid => ?_
  have hpos := ScanKind.pos_of_mem_rows ((kind.activeIds_perm db).mem_iff.mp hid)
  simpa using hpos

lemma report_fast (hsmall : kind.total db ≤ settings.fullCteThreshold) (n : ℕ) :
    found (checkpointBefore settings kind db candidates calls n) = .start ∧
      reportOf settings kind db candidates calls n = some ⟨kind.countAll db candidates, false, 0, 1⟩ := by
  have hstart : ∀ n, found (checkpointBefore settings kind db candidates calls n) = .start := by
    intro n
    induction n with
    | zero => rfl
    | succ n ih =>
      rw [checkpointBefore, task_fast (calls n) (by rw [Idle, ih]; rfl) (by rw [ih]; rfl) hsmall]
      rfl
  refine ⟨hstart n, ?_⟩
  rw [reportOf, task_fast (calls n) (by rw [Idle, hstart n]; rfl) (by rw [hstart n]; rfl) hsmall]

variable {row : Option CheckpointRow}

lemma task_start (candidates : Candidates) (hsize : 0 < settings.batchSize) {call : ScanCall}
    (htime : ∀ n, call.late n = false) (hrow : found row = .start)
    (hlarge : ¬ kind.total db ≤ settings.fullCteThreshold) :
    ∃ hasMore s, LoopEnd settings call.leaseOwner (kind.activeIds db)
        ⟨0, 0, [], leased settings call row, 0⟩ hasMore s ∧
      countMatchesAllTask settings call kind db candidates row = finishRun call (hasMore, s) := by
  have hidle : Idle row := by
    rw [Idle, hrow]
    rfl
  have h := task_slow candidates hsize htime hidle fun hcond => hlarge hcond.2
  rw [hrow] at h
  exact h

lemma report_fits (hsize : 0 < settings.batchSize) (hbudget : 0 < settings.maxRowsPerRun)
    (htime : ∀ m n, (calls m).late n = false)
    (hlarge : ¬ kind.total db ≤ settings.fullCteThreshold)
    (hfits : kind.total db ≤ budgetRows settings 0) (n : ℕ) :
    found (checkpointBefore settings kind db candidates calls n) = .start ∧
      ∃ r, reportOf settings kind db candidates calls n = some r ∧ r.hasMore = false ∧
        r.counts.map Prod.fst = kind.activeIds db ∧ 1 ≤ r.batches := by
  have hdone : ∀ {call : ScanCall} {row : Option CheckpointRow}, (∀ n, call.late n = false) →
      found row = .start → ∃ s : ScanState, countMatchesAllTask settings call kind db candidates row
        = (some ⟨s.counts, false, s.lastId, s.batches⟩, .start) ∧
        s.counts.map Prod.fst = kind.activeIds db ∧ 1 ≤ s.batches := by
    intro call row hcall hrow
    obtain ⟨hasMore, s, hend, htask⟩ := task_start candidates hsize hcall hrow hlarge
    have hmore : hasMore = false := by
      rw [hend.ends]
      change (remaining (kind.activeIds db) 0).length ≤ budgetRows settings 0
      rw [remaining_activeIds_zero, kind.length_activeIds]
      exact hfits
    subst hmore
    have hne : remaining (kind.activeIds db) 0 ≠ [] := by
      rw [remaining_activeIds_zero]
      intro hnil
      have hlength := kind.length_activeIds db
      rw [hnil] at hlength
      exact hlarge (hlength ▸ Nat.zero_le _)
    refine ⟨s, htask.trans (finishRun_done hend.kept), ?_, (hend.progress hne hbudget).1⟩
    exact (hend.covers rfl).trans (remaining_activeIds_zero kind db)
  have hstart : ∀ n, found (checkpointBefore settings kind db candidates calls n) = .start := by
    intro n
    induction n with
    | zero => rfl
    | succ n ih =>
      obtain ⟨s, htask, -⟩ := hdone (htime n) ih
      rw [checkpointBefore, htask]
      rfl
  obtain ⟨s, htask, hkeys, hbatches⟩ := hdone (htime n) (hstart n)
  refine ⟨hstart n, ⟨s.counts, false, s.lastId, s.batches⟩, ?_, rfl, hkeys, hbatches⟩
  rw [reportOf, htask]

/-- A checkpoint whose budget is used up while rows remain. -/
structure Stalled (settings : ScanSettings) (ids : List ℕ) (row : Option CheckpointRow) : Prop where
  idle : Idle row
  used : settings.maxRowsPerRun ≤ (found row).rowsProcessed
  moved : (found row).lastId ≠ 0
  rest : remaining ids (found row).lastId ≠ []

lemma Stalled.task (hsize : 0 < settings.batchSize) {call : ScanCall}
    (htime : ∀ n, call.late n = false) (h : Stalled settings (kind.activeIds db) row) :
    (countMatchesAllTask settings call kind db candidates row).1.map ScanReport.hasMore = some true ∧
      Stalled settings (kind.activeIds db) (some (countMatchesAllTask settings call kind db candidates row).2) := by
  obtain ⟨hasMore, s, hend, htask⟩ := task_slow candidates hsize htime h.idle (fun hcond => h.moved hcond.1)
  have hmore : hasMore = true := by
    by_contra hfalse
    have hlength := hend.ends.mp (by simpa using hfalse)
    rw [budgetRows_eq_zero hsize h.used] at hlength
    exact h.rest (eq_nil_of_length_eq_zero (Nat.le_zero.mp hlength))
  subst hmore
  rw [htask, finishRun_more hend.kept]
  have hle : (found row).lastId ≤ s.lastId := hend.le
  refine ⟨rfl, rfl, (hend.stops rfl).1, ?_, (hend.stops rfl).2⟩
  intro hzero
  have hlast : s.lastId = 0 := hzero
  exact h.moved (by omega)

lemma report_stalls (hsize : 0 < settings.batchSize) (hbudget : 0 < settings.maxRowsPerRun)
    (htime : ∀ m n, (calls m).late n = false)
    (hlarge : ¬ kind.total db ≤ settings.fullCteThreshold)
    (hfits : ¬ kind.total db ≤ budgetRows settings 0) (n : ℕ) :
    (reportOf settings kind db candidates calls n).map ScanReport.hasMore = some true := by
  have hfirst : (reportOf settings kind db candidates calls 0).map ScanReport.hasMore = some true ∧
      Stalled settings (kind.activeIds db) (checkpointBefore settings kind db candidates calls 1) := by
    have hnew : found none = .start := rfl
    obtain ⟨hasMore, s, hend, htask⟩ := task_start candidates hsize (htime 0) hnew hlarge
    have hlength : (remaining (kind.activeIds db) 0).length = kind.total db := by
      rw [remaining_activeIds_zero, kind.length_activeIds]
    have hmore : hasMore = true := by
      by_contra hfalse
      have hle : (remaining (kind.activeIds db) 0).length ≤ budgetRows settings 0 :=
        hend.ends.mp (by simpa using hfalse)
      exact hfits (hlength ▸ hle)
    subst hmore
    have hne : remaining (kind.activeIds db) 0 ≠ [] := by
      intro hnil
      rw [hnil] at hlength
      exact hlarge (hlength ▸ Nat.zero_le _)
    have hprogress := (hend.progress hne hbudget).2
    have hmoved : s.lastId ≠ 0 := Nat.ne_of_gt hprogress
    have hreport : reportOf settings kind db candidates calls 0 = some ⟨s.counts, true, s.lastId, s.batches⟩ := by
      rw [reportOf, checkpointBefore, htask, finishRun_more hend.kept]
    have hrow : checkpointBefore settings kind db candidates calls 1
        = some ⟨s.lastId, s.rowsProcessed, s.row.attempt, none, none⟩ := by
      rw [checkpointBefore, checkpointBefore, htask, finishRun_more hend.kept]
    rw [hreport, hrow]
    exact ⟨rfl, rfl, (hend.stops rfl).1, hmoved, (hend.stops rfl).2⟩
  have hstalled : ∀ n, Stalled settings (kind.activeIds db)
      (checkpointBefore settings kind db candidates calls (n + 1)) := by
    intro n
    induction n with
    | zero => exact hfirst.2
    | succ n ih => exact (ih.task hsize (htime (n + 1))).2
  cases n with
  | zero => exact hfirst.1
  | succ n => exact ((hstalled n).task hsize (htime (n + 1))).1

/-- For every database, batch size and row budget, repeated runs finish, count each active id once and
make progress exactly when a small scan shows every active id and a larger one fits in one budget. -/
theorem scan_meets_iff_fits (hsize : 0 < settings.batchSize) (hbudget : 0 < settings.maxRowsPerRun)
    (htime : ∀ m n, (calls m).late n = false) :
    ScanMeets settings kind db candidates calls ↔ ScanFits settings kind db candidates := by
  by_cases hsmall : kind.total db ≤ settings.fullCteThreshold
  · rw [ScanFits, if_pos hsmall, ← ScanKind.countAll_perm_iff]
    have hreport : ∀ n, _ ∧ reportOf settings kind db candidates calls n = _ := report_fast hsmall
    constructor
    · rintro ⟨⟨k, hmore, -, hkeys⟩, -⟩
      have hzero : k = 0 := by
        by_contra hne
        have hfirst := hmore 0 (Nat.pos_of_ne_zero hne)
        rw [(hreport 0).2] at hfirst
        simp at hfirst
      subst hzero
      simpa [(hreport 0).2, reportKeys] using hkeys
    · intro hkeys
      refine ⟨⟨0, fun n hn => absurd hn (Nat.not_lt_zero n), ?_, ?_⟩, fun n _ => ?_⟩
      · rw [(hreport 0).2]
        rfl
      · simpa [(hreport 0).2, reportKeys] using hkeys
      · exact ⟨_, (hreport n).2, le_rfl⟩
  · rw [ScanFits, if_neg hsmall]
    constructor
    · rintro ⟨⟨k, -, hdone, -⟩, -⟩
      by_contra hfits
      have hstalls : (reportOf settings kind db candidates calls k).map ScanReport.hasMore = some true :=
        report_stalls hsize hbudget htime hsmall hfits k
      rw [hdone] at hstalls
      simp at hstalls
    · intro hfits
      have hreport : ∀ n, _ ∧ ∃ r, reportOf settings kind db candidates calls n = some r ∧ _ :=
        report_fits hsize hbudget htime hsmall hfits
      refine ⟨⟨0, fun n hn => absurd hn (Nat.not_lt_zero n), ?_, ?_⟩, fun n _ => ?_⟩
      · obtain ⟨-, r, hr, hdone, -⟩ := hreport 0
        rw [hr, Option.map_some, hdone]
      · obtain ⟨-, r, hr, -, hkeys, -⟩ := hreport 0
        simp [hr, reportKeys, hkeys]
      · obtain ⟨-, r, hr, -, -, hbatches⟩ := hreport n
        exact ⟨r, hr, hbatches⟩

end Meets

def defaultScanSettings : ScanSettings := ⟨1000, 200000, 1000, 120⟩

def manyListings : ℕ → Table ListingColumns
  | 0 => Table.empty
  | n + 1 => (manyListings n).insert
      { agencyId := 1, familyName := "", familyNameEnc := "", familyNameSearchIdx := []
        phone := "", phoneEnc := "", phoneSearchIdx := [], remarks := "", remarksEnc := ""
        isVip := false, status := .available } 0

def manyListingsDb (n : ℕ) : Db := { Db.empty with listings := manyListings n }

lemma total_manyListingsDb (n : ℕ) : ScanKind.total .listings (manyListingsDb n) = n := by
  change (((manyListings n).rows.filter activeListing).map Row.id).length = n
  induction n with
  | zero => rfl
  | succ n ih =>
    rw [length_map] at ih ⊢
    rw [manyListings, Table.insert, filter_append, length_append, ih]
    rfl

/-- Runs of one task whose time limit is never reached. -/
def promptCalls (n : ℕ) : ScanCall := ⟨"task", fun m => n + m, fun _ => false⟩

/-- As many listings as the budget of a run are scanned. -/
theorem scan_meets_two_hundred_thousand :
    ScanMeets defaultScanSettings .listings (manyListingsDb 200000) Keyed.empty promptCalls := by
  refine (scan_meets_iff_fits (by decide) (by decide) fun _ _ => rfl).mpr ?_
  rw [ScanFits, total_manyListingsDb, if_neg (by decide)]
  decide

/-- One more listing is never reached: the budget is used up in the first run and stays so. -/
theorem scan_stalls_after_budget : ¬ ∀ (settings : ScanSettings) (kind : ScanKind) (db : Db) (candidates : Candidates)
      (calls : ℕ → ScanCall), 0 < settings.batchSize → 0 < settings.maxRowsPerRun →
        (∀ m n, (calls m).late n = false) → ScanMeets settings kind db candidates calls := by
  intro h
  obtain ⟨⟨k, -, hdone, -⟩, -⟩ := h defaultScanSettings .listings (manyListingsDb 200001) Keyed.empty
    promptCalls (by decide) (by decide) fun _ _ => rfl
  have hlarge : ¬ ScanKind.total .listings (manyListingsDb 200001) ≤ defaultScanSettings.fullCteThreshold := by
    rw [total_manyListingsDb]
    decide
  have hbudget : ¬ ScanKind.total .listings (manyListingsDb 200001) ≤ budgetRows defaultScanSettings 0 := by
    rw [total_manyListingsDb]
    decide
  have hstalls : (reportOf defaultScanSettings .listings (manyListingsDb 200001) Keyed.empty promptCalls
      k).map ScanReport.hasMore = some true :=
    report_stalls (by decide) (by decide) (fun _ _ => rfl) hlarge hbudget k
  rw [hdone] at hstalls
  simp at hstalls

end ImmoApp.Matching
