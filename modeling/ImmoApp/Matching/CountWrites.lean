import ImmoApp.Matching.CountChunks
import ImmoApp.Matching.RebuildBatches

/-!
# Storing counts

`match_cache_write.py` stores the count of one client, or those of many.  The single store deletes the cached row of a
client that is missing, inactive, deleted or of no agency; the batch leaves such a row as it is, so that
`rebuild_match_cache_dirty` counts a marked row of such a client again in every run.

`count_stores_agree_iff` says for which clients the two do the same, and after which tables the task leaves no row
marked.  The tables are those that row-level security shows to the session.
-/

namespace ImmoApp.Matching

open Keyed
open Bool hiding and_assoc not_not not_or

open List Option

namespace CountWrites

structure StoredClient where
  agencyId : Option ℤ
  visibility : Option String
  ownerUserId : Option ℤ
  status : Option String
  deleted : Bool

/-- A row of `match_counts_cache`. -/
structure CachedCount where
  agencyId : ℤ
  count : ℤ
  visibility : String
  ownerUserId : Option ℤ
  computedAt : ℕ
  isDirty : Bool

/-- `clients`. -/
abbrev ClientTable := Keyed ℤ StoredClient

/-- `match_counts_cache`: there is a unique index on the client. -/
abbrev CountCache := Keyed ℤ CachedCount

structure CacheSettings where
  cacheBatchThreshold : ℕ
  cacheChunkSize : ℕ
  cacheChunkSize_pos : 0 < cacheChunkSize
  matchCacheDbBatchSize : ℕ
  matchCacheDbBatchSize_pos : 0 < matchCacheDbBatchSize

/-! ### Stores -/

/-- One row of `_UPSERT_SQL_COMPOSITE`.  A row that the client has with another agency is no conflict of the statement,
and the unique index on the client refuses the new one. -/
def upsertCountRow (cache : CountCache) (item : ℤ × CachedCount) : Option CountCache :=
  if (cache.get? item.1).all fun old => old.agencyId == item.2.agencyId then some (cache.set item.1 item.2)
  else none

/-- `_upsert_count_rows`; the migrations make the key that its first statement names. -/
def upsertCountRows (cache : CountCache) (items : List (ℤ × CachedCount)) : Option CountCache :=
  items.foldlM upsertCountRow cache

def deleteClientCache (clientId : ℤ) (cache : CountCache) : CountCache :=
  cache.delete fun id _ => id == clientId

section Stores

variable (settings : CacheSettings) (clients : ClientTable) (now : ℕ)

/-- `store_count`; `row_str` raises for a client without a visibility. -/
def storeCount (clientId count : ℤ) (cache : CountCache) : Option CountCache :=
  match clients.get? clientId with
  | none => some (deleteClientCache clientId cache)
  | some c =>
    if c.status.getD "active" ≠ "active" ∨ c.deleted = true then some (deleteClientCache clientId cache)
    else match c.agencyId with
      | none => some (deleteClientCache clientId cache)
      | some agencyId => c.visibility.bind fun visibility =>
        upsertCountRows cache [(clientId, ⟨agencyId, count, visibility, c.ownerUserId, now, false⟩)]

/-- `SELECT … FROM clients WHERE status = 'active' AND deleted_at IS NULL AND id IN (…) ORDER BY id`, for ids in
ascending order. -/
def selectActive (ids : List ℤ) : List (ℤ × StoredClient) :=
  ids.filterMap fun id => ((clients.get? id).filter fun c => c.status == some "active" && !c.deleted).map fun c =>
    (id, c)

/-- What `client_info` holds for a client. -/
structure ClientInfo where
  agencyId : ℤ
  visibility : String
  ownerUserId : Option ℤ

def ClientInfo.row (metadata : ClientInfo) (count : ℤ) : CachedCount :=
  ⟨metadata.agencyId, count, metadata.visibility, metadata.ownerUserId, now, false⟩

def readClientInfo (info : Dict ℤ ClientInfo) (row : ℤ × StoredClient) : Option (Dict ℤ ClientInfo) :=
  match row.2.agencyId with
  | none => some info
  | some agencyId => row.2.visibility.map fun visibility =>
    info.set row.1 ⟨agencyId, visibility, row.2.ownerUserId⟩

def storeCountsBatch (counts : Dict ℤ ℤ) (cache : CountCache) : Option CountCache :=
  let ids := RebuildState.normalizedIds (counts.map Prod.fst)
  ((slicesOf ids 900).foldlM (fun info chunk => (selectActive clients chunk).foldlM readClientInfo info)
      []).bind fun clientInfo =>
    let items := ids.filterMap fun id => (Dict.get? clientInfo id).map fun metadata =>
      (id, metadata.row now ((counts.get? id).getD 0))
    if items.length < settings.cacheBatchThreshold then upsertCountRows cache items
    else (slicesOf items settings.cacheChunkSize).foldlM upsertCountRows cache

/-- `store_count` for each positive id of a dictionary. -/
def storeEach (counts : Keyed ℤ ℤ) (cache : CountCache) : Option CountCache :=
  (counts.entries.filter fun e => 0 < e.1).foldlM (fun cache e => storeCount clients now e.1 e.2 cache) cache

end Stores

section Refresh

variable (settings : CacheSettings) (clients : ClientTable) (now : ℕ) (matched : List (ℕ × ℕ))

/-- `batch_count_clients_paginated`, for the joined rows of clients and matching offers. -/
def batchCountClientsPaginated (clientIds : List ℤ) : Dict ℤ ℤ :=
  (CounterHelpers.countInChunks matched clientIds
    (CounterHelpers.iterIdChunks clientIds CounterHelpers.maxDirectIds)).map fun e => (e.1, (e.2 : ℤ))

/-- `_process_dirty` and `_process_missing`: one transaction. -/
def processBatch (batch : List ℤ) (cache : CountCache) : Option CountCache :=
  let counts := batchCountClientsPaginated matched batch
  if counts = [] then some cache else storeCountsBatch settings clients now counts cache

/-- `adaptive_batch_process`: a transaction that raises is rolled back and ends the task. -/
def processBatches : List (List ℤ) → CountCache → CountCache × Bool
  | [], cache => (cache, false)
  | batch :: batches, cache =>
    match processBatch settings clients now matched batch cache with
    | none => (cache, true)
    | some cache => processBatches batches cache

/-- `WHERE id > last ORDER BY id LIMIT size`, over the ids that a query selects. -/
def idPage (ids : List ℤ) (last : ℤ) : List ℤ :=
  ((Crm.sortedSet (· ≤ ·) ids).filter (last < ·)).take settings.matchCacheDbBatchSize

def processPages (select : CountCache → List ℤ) : ℕ → ℤ → CountCache → CountCache × Bool
  | 0, _, cache => (cache, false)
  | rounds + 1, last, cache =>
    let ids := idPage settings (select cache) last
    match ids.getLast? with
    | none => (cache, false)
    | some last =>
      let result := processBatches settings clients now matched (slicesOf ids 100) cache
      if result.2 then result else processPages select rounds last result.1

/-- `SELECT client_id FROM match_counts_cache WHERE is_dirty = 1`. -/
def dirtyIds (cache : CountCache) : List ℤ := (cache.entries.filter fun e => e.2.isDirty).map Prod.fst

def missingIds (cache : CountCache) : List ℤ :=
  (clients.entries.filter fun e => e.2.status == some "active" && !e.2.deleted && (cache.get? e.1).isNone).map Prod.fst

/-- `rebuild_match_cache_dirty`, and whether it raises.  Every page has a new id, which bounds the rounds. -/
def rebuildMatchCacheDirty (cache : CountCache) : CountCache × Bool :=
  let result := processPages settings clients now matched dirtyIds cache.entries.length 0 cache
  if result.2 then result
  else processPages settings clients now matched (missingIds clients) clients.entries.length 0 result.1

end Refresh

/-! ### One row -/

def StoredClient.Countable (c : StoredClient) : Prop :=
  c.status = some "active" ∧ c.deleted = false ∧ c.agencyId ≠ none

instance (c : StoredClient) : Decidable c.Countable := inferInstanceAs (Decidable (_ ∧ _))

def Countable (clients : ClientTable) (id : ℤ) : Prop := ∃ c, clients.get? id = some c ∧ c.Countable

instance (clients : ClientTable) (id : ℤ) : Decidable (Countable clients id) :=
  match h : clients.get? id with
  | none => isFalse fun ⟨c, hc, _⟩ => by rw [h] at hc; cases hc
  | some c => decidable_of_iff c.Countable
      ⟨fun hc => ⟨c, h, hc⟩, fun ⟨_, hc, hcount⟩ => Option.some.inj (h.symm.trans hc) ▸ hcount⟩

section Rows

variable (clients : ClientTable) (now : ℕ)

/-- What a single store does with the row of its client: `none` raises, `some none` deletes it. -/
def rowToStore (item : ℤ × ℤ) : Option (Option CachedCount) :=
  match clients.get? item.1 with
  | none => some none
  | some c =>
    if c.status.getD "active" ≠ "active" ∨ c.deleted = true then some none
    else match c.agencyId with
      | none => some none
      | some agencyId => c.visibility.map fun visibility =>
        some ⟨agencyId, item.2, visibility, c.ownerUserId, now, false⟩

def storedRow (item : ℤ × ℤ) (row : Option CachedCount) : Option (Option CachedCount) :=
  (rowToStore clients now item).bind fun new =>
    if new.all fun r => row.all fun old => old.agencyId == r.agencyId then some new else none

variable {clients now}

lemma storeCount_eq (item : ℤ × ℤ) (cache : CountCache) :
    storeCount clients now item.1 item.2 cache = (rowToStore clients now item).bind fun new =>
      match new with
      | none => some (deleteClientCache item.1 cache)
      | some row => upsertCountRow cache (item.1, row) := by
  unfold storeCount rowToStore
  cases clients.get? item.1 with
  | none => rfl
  | some c =>
    dsimp only
    split
    · rfl
    · cases c.agencyId with
      | none => rfl
      | some =>
        cases c.visibility with
        | none => rfl
        | some => simp [upsertCountRows]

lemma get?_deleteClientCache (clientId : ℤ) (cache : CountCache) (k : ℤ) :
    (deleteClientCache clientId cache).get? k = if k = clientId then none else cache.get? k := by
  rw [deleteClientCache, get?_delete]
  by_cases hk : k = clientId
  · rw [if_pos hk, hk]
    cases cache.get? clientId <;> simp
  · rw [if_neg hk]
    cases cache.get? k <;> simp [hk]

variable (clients now) in
lemma refusableStep_storeCount :
    Keyed.RefusableStep Prod.fst (storedRow clients now) fun item => storeCount clients now item.1 item.2 := by
  constructor
  · intro item cache hnone
    rw [storeCount_eq]
    unfold storedRow at hnone
    cases hnew : rowToStore clients now item with
    | none => rfl
    | some new =>
      rw [hnew, bind_some] at hnone
      split at hnone
      · cases hnone
      · next hother =>
        cases new with
        | none => exact absurd rfl hother
        | some => exact if_neg hother
  · intro item cache row hrow
    rw [storeCount_eq]
    unfold storedRow at hrow
    cases hnew : rowToStore clients now item with
    | none =>
      rw [hnew] at hrow
      cases hrow
    | some new =>
      rw [hnew, bind_some] at hrow
      split at hrow
      · next hsame =>
        obtain rfl := some.inj hrow
        cases new with
        | none => exact ⟨_, rfl, get?_deleteClientCache item.1 cache⟩
        | some row => exact ⟨_, if_pos hsame, fun k => get?_set cache item.1 k row⟩
      · cases hrow

end Rows

/-! ### The batch -/

section Batch

variable (clients : ClientTable) (now : ℕ)

/-- What is read of a client: `none` raises, `some none` leaves the client out. -/
def infoOf (id : ℤ) : Option (Option ClientInfo) :=
  match (clients.get? id).filter fun c => c.status == some "active" && !c.deleted with
  | none => some none
  | some c =>
    match c.agencyId with
    | none => some none
    | some agencyId => c.visibility.map fun visibility => some ⟨agencyId, visibility, c.ownerUserId⟩

/-- The counts of the clients that the batch stores. -/
def countableItems (counts : Dict ℤ ℤ) : List (ℤ × ℤ) :=
  ((RebuildState.normalizedIds (counts.map Prod.fst)).filter fun id => Countable clients id).map fun id =>
    (id, (counts.get? id).getD 0)

lemma map_fst_countableItems (counts : Dict ℤ ℤ) : (countableItems clients counts).map Prod.fst =
    (RebuildState.normalizedIds (counts.map Prod.fst)).filter fun id => Countable clients id := by
  rw [countableItems, List.map_map]
  exact List.map_id _

lemma nodup_countableItems (counts : Dict ℤ ℤ) : ((countableItems clients counts).map Prod.fst).Nodup := by
  rw [map_fst_countableItems]
  exact (Crm.nodup_sortedSet _ _).filter _

variable {clients now}

lemma infoOf_of_not_countable {id : ℤ} (h : ¬Countable clients id) : infoOf clients id = some none := by
  unfold infoOf
  cases hclient : clients.get? id with
  | none => rfl
  | some c =>
    by_cases hactive : (c.status == some "active" && !c.deleted) = true
    · simp only [filter_some, hactive, if_true]
      cases hagency : c.agencyId with
      | none => rfl
      | some =>
        rw [and_eq_true, beq_iff_eq, not_eq_true'] at hactive
        exact absurd ⟨c, hclient, hactive.1, hactive.2, by simp [hagency]⟩ h
    · simp only [filter_some, hactive]
      rfl

variable (now) in
lemma rowToStore_of_countable {id : ℤ} (h : Countable clients id) (count : ℤ) :
    ∃ metadata : Option ClientInfo, infoOf clients id = metadata.map some ∧
      rowToStore clients now (id, count) = metadata.map fun m => some (m.row now count) := by
  obtain ⟨c, hclient, hstatus, hdeleted, hagency⟩ := h
  obtain ⟨agencyId, hagency⟩ := ne_none_iff_exists'.mp hagency
  refine ⟨c.visibility.map fun visibility => ⟨agencyId, visibility, c.ownerUserId⟩, ?_, ?_⟩
  · have hactive : (clients.get? id).filter (fun c => c.status == some "active" && !c.deleted) = some c := by
      rw [hclient, filter_some, if_pos (by simp [hstatus, hdeleted])]
    simp [infoOf, hactive, hagency, Function.comp_def]
  · simp [rowToStore, hclient, hstatus, hdeleted, hagency, ClientInfo.row, Function.comp_def]

lemma readClientInfo_chunks (ids : List ℤ) (info : Dict ℤ ClientInfo) :
    (slicesOf ids 900).foldlM (fun info chunk => (selectActive clients chunk).foldlM readClientInfo info) info =
      ids.foldlM (fun info id => (infoOf clients id).map fun m => m.elim info (info.set id)) info := by
  rw [← foldlM_slicesOf _ ids (by decide : 0 < 900) info]
  congr 1
  funext info chunk
  induction chunk generalizing info with
  | nil => rfl
  | cons id chunk ih =>
    have hrow : (selectActive clients (id :: chunk)).foldlM readClientInfo info =
        ((infoOf clients id).map fun m => m.elim info (info.set id)).bind fun info =>
          (selectActive clients chunk).foldlM readClientInfo info := by
      unfold infoOf
      cases hclient : (clients.get? id).filter fun c => c.status == some "active" && !c.deleted with
      | none =>
        rw [selectActive, filterMap_cons_none (by rw [hclient]; rfl)]
        rfl
      | some c =>
        rw [selectActive, filterMap_cons_some (by rw [hclient]; rfl), foldlM_cons, readClientInfo]
        dsimp only
        cases c.agencyId with
        | none => rfl
        | some => cases c.visibility <;> rfl
    rw [hrow, foldlM_cons]
    simp only [ih]
    rfl

variable (clients) in
/-- The loop raises where a client that is to be stored has no visibility, and otherwise knows those clients. -/
lemma readClientInfo_spec (ids : List ℤ) (info : Dict ℤ ClientInfo) : ((∃ id ∈ ids, infoOf clients id = none) ∧
        ids.foldlM (fun info id => (infoOf clients id).map fun m => m.elim info (info.set id)) info = none) ∨
      ∃ info', ids.foldlM (fun info id => (infoOf clients id).map fun m => m.elim info (info.set id)) info =
          some info' ∧
        ∀ id, (id ∉ ids → info'.get? id = info.get? id) ∧ (id ∈ ids → infoOf clients id ≠ none ∧
            info'.get? id = ((infoOf clients id).getD none).or (info.get? id)) := by
  induction ids generalizing info with
  | nil => exact .inr ⟨info, rfl, fun id => ⟨fun _ => rfl, fun h => absurd h not_mem_nil⟩⟩
  | cons j ids ih =>
    rw [foldlM_cons]
    cases hj : infoOf clients j with
    | none => exact .inl ⟨⟨j, mem_cons_self, hj⟩, rfl⟩
    | some m =>
      rw [map_some, bind_eq_bind, bind_some]
      rcases ih (m.elim info (info.set j)) with ⟨⟨i, hi, hnone⟩, hfold⟩ | ⟨info', hfold, hget⟩
      · exact .inl ⟨⟨i, mem_cons_of_mem j hi, hnone⟩, hfold⟩
      · have hset : ∀ id, (m.elim info (info.set j)).get? id =
            if id = j then m.or (info.get? id) else info.get? id := by
          intro id
          cases m with
          | none => simp
          | some => simp [Dict.get?_set]
        refine .inr ⟨info', hfold, fun id => ⟨fun hout => ?_, fun hin => ?_⟩⟩
        · rw [mem_cons, not_or] at hout
          rw [(hget id).1 hout.2, hset, if_neg hout.1]
        · by_cases hlater : id ∈ ids
          · obtain ⟨hne, hvalue⟩ := (hget id).2 hlater
            refine ⟨hne, ?_⟩
            rw [hvalue, hset]
            split
            · next heq =>
              rw [heq, hj, getD_some]
              cases m <;> simp
            · rfl
          · obtain rfl : id = j := (mem_cons.mp hin).resolve_right hlater
            rw [(hget id).1 hlater, hset, if_pos rfl, hj]
            exact ⟨by simp, rfl⟩

lemma upsertCountRows_items {info : Dict ℤ ClientInfo} {ids : List ℤ}
    (hinfo : ∀ id ∈ ids, infoOf clients id = some (info.get? id)) (count : ℤ → ℤ) (cache : CountCache) :
    upsertCountRows cache (ids.filterMap fun id => (info.get? id).map fun metadata =>
        (id, metadata.row now (count id))) =
      ((ids.filter fun id => Countable clients id).map fun id => (id, count id)).foldlM
        (fun cache item => storeCount clients now item.1 item.2 cache) cache := by
  unfold upsertCountRows
  induction ids generalizing cache with
  | nil => rfl
  | cons id _ ih =>
    have hlater := ih fun id hid => hinfo id (mem_cons_of_mem _ hid)
    have hid := hinfo id mem_cons_self
    by_cases hcountable : Countable clients id
    · obtain ⟨metadata, hread, hrow⟩ := rowToStore_of_countable now hcountable (count id)
      rw [hid] at hread
      cases metadata with
      | none => cases hread
      | some m =>
        have hget : info.get? id = some m := some.inj hread
        rw [filterMap_cons_some (by rw [hget]; rfl), filter_cons_of_pos (by simpa using hcountable),
          map_cons, foldlM_cons, foldlM_cons, storeCount_eq, hrow]
        simp only [hlater]
        rfl
    · rw [infoOf_of_not_countable hcountable] at hid
      have hget : info.get? id = none := (some.inj hid).symm
      rw [filterMap_cons_none (by rw [hget]; rfl), filter_cons_of_neg (by simpa using hcountable)]
      exact hlater cache

/-- The batch stores the counts of the clients that it selects, one after the other. -/
theorem storeCountsBatch_eq (settings : CacheSettings) (counts : Dict ℤ ℤ) (cache : CountCache) :
    storeCountsBatch settings clients now counts cache =
      (countableItems clients counts).foldlM (fun cache item => storeCount clients now item.1 item.2 cache) cache := by
  rw [storeCountsBatch, readClientInfo_chunks]
  rcases readClientInfo_spec clients (RebuildState.normalizedIds (counts.map Prod.fst)) [] with
    ⟨⟨id, hid, hnone⟩, hfold⟩ | ⟨info, hfold, hget⟩
  · -- a client without a visibility is refused by both
    have hcountable : Countable clients id := by
      by_contra hout
      rw [infoOf_of_not_countable hout] at hnone
      cases hnone
    obtain ⟨metadata, hread, hrow⟩ := rowToStore_of_countable now hcountable ((counts.get? id).getD 0)
    rw [hnone] at hread
    have hmetadata : metadata = none := by
      cases metadata with
      | none => rfl
      | some => cases hread
    rw [hmetadata] at hrow
    have htreats := (refusableStep_storeCount clients now).treatsAll (nodup_countableItems clients counts) cache
    rw [hfold]
    refine (htreats.refused.mpr ⟨(id, (counts.get? id).getD 0), ?_, ?_⟩).symm
    · exact mem_map.mpr ⟨id, mem_filter.mpr ⟨hid, by simpa using hcountable⟩, rfl⟩
    · rw [storedRow, hrow]
      rfl
  · have hinfo : ∀ id ∈ RebuildState.normalizedIds (counts.map Prod.fst), infoOf clients id = some (info.get? id) := by
      intro id hid
      obtain ⟨hread, hvalue⟩ := (hget id).2 hid
      obtain ⟨m, hm⟩ := ne_none_iff_exists'.mp hread
      rw [hvalue, hm, getD_some, Dict.get?_nil, or_none]
    rw [hfold, bind_some, countableItems, ← upsertCountRows_items hinfo]
    dsimp only
    split
    · rfl
    · exact foldlM_slicesOf upsertCountRow _ settings.cacheChunkSize_pos cache

end Batch

/-! ### What the refresh cleans -/

/-- The count of a client is refused: it has no visibility, or its cached row names another agency. -/
def Refused (clients : ClientTable) (cache : CountCache) (id : ℤ) : Prop :=
  ∃ c, clients.get? id = some c ∧
    (c.visibility = none ∨ ∃ row, cache.get? id = some row ∧ c.agencyId ≠ some row.agencyId)

def Accepted (clients : ClientTable) (cache : CountCache) (id : ℤ) : Prop :=
  0 < id ∧ Countable clients id ∧ ¬Refused clients cache id

section Cleaning

variable {clients : ClientTable} {now : ℕ} {cache : CountCache} {ids ids' : List ℤ}

lemma Refused.congr {cache' : CountCache} {id : ℤ} (h : cache'.get? id = cache.get? id) :
    Refused clients cache' id ↔ Refused clients cache id := by
  unfold Refused
  rw [h]

variable (now cache) in
/-- For a client that the batch stores, the single store is refused or leaves a clean row of its agency. -/
lemma storedRow_of_countable {id : ℤ} (h : Countable clients id) (count : ℤ) :
    (Refused clients cache id ∧ storedRow clients now (id, count) (cache.get? id) = none) ∨
      ¬Refused clients cache id ∧ ∃ row, storedRow clients now (id, count) (cache.get? id) = some (some row) ∧
        row.isDirty = false ∧ ∀ c, clients.get? id = some c → c.agencyId = some row.agencyId := by
  obtain ⟨c, hclient, hstatus, hdeleted, hagency⟩ := h
  obtain ⟨agencyId, hagency⟩ := ne_none_iff_exists'.mp hagency
  have hrefused : Refused clients cache id ↔
      c.visibility = none ∨ ∃ row, cache.get? id = some row ∧ agencyId ≠ row.agencyId := by
    simp [Refused, hclient, hagency]
  have hstored : storedRow clients now (id, count) (cache.get? id) = c.visibility.bind fun visibility =>
      if (cache.get? id).all fun old => old.agencyId == agencyId then
        some (some ⟨agencyId, count, visibility, c.ownerUserId, now, false⟩) else none := by
    simp only [storedRow, rowToStore, hclient, hstatus, hdeleted, hagency]
    cases c.visibility <;> simp
  rw [hrefused, hstored]
  cases c.visibility with
  | none => exact .inl ⟨.inl rfl, rfl⟩
  | some =>
    rw [bind_some]
    cases hrow : cache.get? id with
    | none =>
      refine .inr ⟨by simp, _, if_pos rfl, rfl, fun c' hc' => ?_⟩
      rw [hclient] at hc'
      rw [← some.inj hc', hagency]
    | some row =>
      by_cases hsame : row.agencyId = agencyId
      · refine .inr ⟨by simp [hsame], _, if_pos (by simp [hsame]), rfl, fun c' hc' => ?_⟩
        rw [hclient] at hc'
        rw [← some.inj hc', hagency]
      · exact .inl ⟨.inr ⟨row, rfl, Ne.symm hsame⟩, if_neg (by simpa using hsame)⟩

/-- What a part of the refresh does to the rows of some clients: those that are accepted become clean, the others stay
as they are, and it raises only where one is refused. -/
structure Cleaned (clients : ClientTable) (ids : List ℤ) (cache : CountCache) (result : CountCache × Bool) :
    Prop where
  raised : result.2 = true → ∃ id ∈ ids, 0 < id ∧ Countable clients id ∧ Refused clients cache id
  row : ∀ id, result.1.get? id = cache.get? id ∨
    (id ∈ ids ∧ Accepted clients cache id) ∧ ∃ row, result.1.get? id = some row ∧ row.isDirty = false ∧
      ∀ c, clients.get? id = some c → c.agencyId = some row.agencyId
  clean : result.2 = false → ∀ id ∈ ids, 0 < id → Countable clients id →
    ∃ row, result.1.get? id = some row ∧ row.isDirty = false

lemma Cleaned.nil (h : ∀ id, id ∉ ids) : Cleaned clients ids cache (cache, false) := by
  refine ⟨?_, fun id => .inl rfl, fun _ id hid => absurd hid (h id)⟩
  intro hraised
  cases hraised

variable {result : CountCache × Bool}

section

variable (h : Cleaned clients ids cache result)
include h

lemma Cleaned.of_raised (hraised : result.2 = true)
    (hids : ∀ id ∈ ids, id ∈ ids') : Cleaned clients ids' cache result := by
  refine ⟨fun _ => ?_, fun id => ?_, fun hdone => ?_⟩
  · obtain ⟨id, hid, hrest⟩ := h.raised hraised
    exact ⟨id, hids id hid, hrest⟩
  · rcases h.row id with hkept | ⟨⟨hid, haccepted⟩, hrow⟩
    · exact .inl hkept
    · exact .inr ⟨⟨hids id hid, haccepted⟩, hrow⟩
  · rw [hraised] at hdone
    cases hdone

lemma Cleaned.congr (hids : ∀ id, id ∈ ids ↔ id ∈ ids') : Cleaned clients ids' cache result := by
  refine ⟨fun hraised => ?_, fun id => ?_, fun hdone id hid => h.clean hdone id ((hids id).mpr hid)⟩
  · obtain ⟨id, hid, hrest⟩ := h.raised hraised
    exact ⟨id, (hids id).mp hid, hrest⟩
  · rw [← hids]
    exact h.row id

lemma Cleaned.refused_iff (id : ℤ) : Refused clients result.1 id ↔ Refused clients cache id := by
  rcases h.row id with hkept | ⟨⟨-, haccepted⟩, _, hrow, -, hagency⟩
  · exact Refused.congr hkept
  · refine iff_of_false ?_ haccepted.2.2
    rintro ⟨c, hclient, hvisibility | ⟨_, hrow', hother⟩⟩
    · exact haccepted.2.2 ⟨c, hclient, .inl hvisibility⟩
    · rw [hrow] at hrow'
      rw [← some.inj hrow'] at hother
      exact hother (hagency c hclient)

end

lemma Cleaned.append {mid : CountCache} (h : Cleaned clients ids cache (mid, false))
    (h' : Cleaned clients ids' mid result) : Cleaned clients (ids ++ ids') cache result := by
  refine ⟨fun hraised => ?_, fun id => ?_, fun hdone id hid hpos hcountable => ?_⟩
  · obtain ⟨id, hid, hpos, hcountable, hrefused⟩ := h'.raised hraised
    exact ⟨id, mem_append_right ids hid, hpos, hcountable, (h.refused_iff id).mp hrefused⟩
  · rcases h'.row id with hkept | ⟨⟨hid, hpos, hcountable, hrefused⟩, hrow⟩
    · rw [hkept]
      rcases h.row id with hkept | ⟨⟨hid, haccepted⟩, hrow⟩
      · exact .inl hkept
      · exact .inr ⟨⟨mem_append_left ids' hid, haccepted⟩, hrow⟩
    · exact .inr ⟨⟨mem_append_right ids hid, hpos, hcountable, mt (h.refused_iff id).mpr hrefused⟩, hrow⟩
  · rcases mem_append.mp hid with hid | hid
    · obtain ⟨row, hrow, hclean⟩ := h.clean rfl id hid hpos hcountable
      rcases h'.row id with hkept | ⟨-, row', hrow', hclean', -⟩
      · exact ⟨row, hkept.trans hrow, hclean⟩
      · exact ⟨row', hrow', hclean'⟩
    · exact h'.clean hdone id hid hpos hcountable

end Cleaning

section Run

variable {settings : CacheSettings} {clients : ClientTable} {now : ℕ} {matched : List (ℕ × ℕ)}

variable {id : ℤ}

variable (matched) in
lemma mem_batchCountClientsPaginated {clientIds : List ℤ} :
    id ∈ (batchCountClientsPaginated matched clientIds).map Prod.fst ↔ id ∈ clientIds := by
  have hkeys : (batchCountClientsPaginated matched clientIds).map Prod.fst =
      (CounterHelpers.countInChunks matched clientIds
        (CounterHelpers.iterIdChunks clientIds CounterHelpers.maxDirectIds)).map Prod.fst := by
    rw [batchCountClientsPaginated, List.map_map]
    rfl
  rw [hkeys, CounterHelpers.mem_countInChunks (CounterHelpers.flatten_iterIdChunks clientIds (by decide))]

variable (settings clients now matched) in
lemma cleaned_processBatch (batch : List ℤ) (cache : CountCache) :
    Cleaned clients batch cache (match processBatch settings clients now matched batch cache with
      | none => (cache, true)
      | some cache => (cache, false)) := by
  unfold processBatch
  by_cases hcounts : batchCountClientsPaginated matched batch = []
  · rw [if_pos hcounts]
    refine Cleaned.nil fun id hid => ?_
    rw [← mem_batchCountClientsPaginated matched, hcounts] at hid
    exact not_mem_nil hid
  · rw [if_neg hcounts, storeCountsBatch_eq]
    have htreats := (refusableStep_storeCount clients now).treatsAll
      (nodup_countableItems clients (batchCountClientsPaginated matched batch)) cache
    have hmem : ∀ id, id ∈ (countableItems clients (batchCountClientsPaginated matched batch)).map Prod.fst ↔
        id ∈ batch ∧ 0 < id ∧ Countable clients id := by
      intro id
      rw [map_fst_countableItems, mem_filter, RebuildState.mem_normalizedIds, mem_batchCountClientsPaginated,
        decide_eq_true_eq, and_assoc]
    cases hresult : (countableItems clients (batchCountClientsPaginated matched batch)).foldlM
        (fun cache item => storeCount clients now item.1 item.2 cache) cache with
    | none =>
      refine ⟨fun _ => ?_, fun id => .inl rfl, fun hdone => ?_⟩
      · obtain ⟨item, hitem, hnone⟩ := htreats.refused.mp hresult
        obtain ⟨hid, hpos, hcountable⟩ := (hmem item.1).mp (mem_map_of_mem hitem)
        refine ⟨item.1, hid, hpos, hcountable, ?_⟩
        rcases storedRow_of_countable now cache hcountable item.2 with
          ⟨hrefused, -⟩ | ⟨-, row, hrow, -⟩
        · exact hrefused
        · rw [hnone] at hrow
          cases hrow
      · cases hdone
    | some cache' =>
      -- the row of every client that is stored is clean
      have hstored : ∀ id, id ∈ batch → 0 < id → Countable clients id → ¬Refused clients cache id ∧
          ∃ row, cache'.get? id = some row ∧ row.isDirty = false ∧
            ∀ c, clients.get? id = some c → c.agencyId = some row.agencyId := by
        intro id hid hpos hcountable
        obtain ⟨item, hitem, rfl⟩ := mem_map.mp ((hmem id).mpr ⟨hid, hpos, hcountable⟩)
        have hwritten := htreats.row cache' hresult item hitem
        rcases storedRow_of_countable now cache hcountable item.2 with
          ⟨-, hnone⟩ | ⟨haccepted, row, hrow, hclean, hagency⟩
        · rw [hnone] at hwritten
          cases hwritten
        · rw [hrow] at hwritten
          exact ⟨haccepted, row, (some.inj hwritten).symm, hclean, hagency⟩
      refine ⟨fun hraised => ?_, fun id => ?_, fun _ id hid hpos hcountable => ?_⟩
      · cases hraised
      · by_cases hid : id ∈ batch ∧ 0 < id ∧ Countable clients id
        · obtain ⟨hbatch, hpos, hcountable⟩ := hid
          obtain ⟨haccepted, hrow⟩ := hstored id hbatch hpos hcountable
          exact .inr ⟨⟨hbatch, hpos, hcountable, haccepted⟩, hrow⟩
        · exact .inl (htreats.other cache' hresult id (mt (hmem id).mp hid))
      · obtain ⟨-, row, hrow, hclean, -⟩ := hstored id hid hpos hcountable
        exact ⟨row, hrow, hclean⟩

variable (settings clients now matched) in
lemma cleaned_processBatches (batches : List (List ℤ)) (cache : CountCache) :
    Cleaned clients batches.flatten cache (processBatches settings clients now matched batches cache) := by
  induction batches generalizing cache with
  | nil => exact Cleaned.nil fun id => not_mem_nil
  | cons batch _ ih =>
    have hfirst := cleaned_processBatch settings clients now matched batch cache
    rw [processBatches, flatten_cons]
    cases hresult : processBatch settings clients now matched batch cache with
    | none =>
      rw [hresult] at hfirst
      exact hfirst.of_raised rfl fun id hid => mem_append_left _ hid
    | some mid =>
      rw [hresult] at hfirst
      exact hfirst.append (ih mid)

lemma idPage_split {ids : List ℤ} {last next : ℤ} (hnext : (idPage settings ids last).getLast? = some next)
    (hid : id ∈ (Crm.sortedSet (· ≤ ·) ids).filter (last < ·)) :
    (id ∈ idPage settings ids last ↔ id ≤ next) ∧
      (next < id → id ∈ ((Crm.sortedSet (· ≤ ·) ids).filter (last < ·)).drop settings.matchCacheDbBatchSize) := by
  have hsorted : ((Crm.sortedSet (· ≤ ·) ids).filter (last < ·)).Pairwise (· < ·) :=
    (Crm.pairwise_sortedSet ids).filter _
  rw [← take_append_drop settings.matchCacheDbBatchSize ((Crm.sortedSet (· ≤ ·) ids).filter (last < ·)),
    pairwise_append] at hsorted
  obtain ⟨htake, -, hafter⟩ := hsorted
  have hmem : next ∈ idPage settings ids last := mem_of_getLast? hnext
  -- the last id of a page is its greatest
  have hle : ∀ id ∈ idPage settings ids last, id ≤ next := by
    intro id hid
    change (idPage settings ids last).Pairwise (· < ·) at htake
    rw [← dropLast_append_getLast? next hnext] at hid htake
    rw [pairwise_append] at htake
    rcases mem_append.mp hid with hid | hid
    · exact (htake.2.2 id hid next mem_cons_self).le
    · rw [mem_singleton.mp hid]
  rw [← take_append_drop settings.matchCacheDbBatchSize ((Crm.sortedSet (· ≤ ·) ids).filter (last < ·)),
    mem_append] at hid
  rcases hid with hid | hid
  · exact ⟨iff_of_true hid (hle id hid), fun hlt => absurd (hle id hid) (not_le.mpr hlt)⟩
  · have hlt := hafter next hmem id hid
    exact ⟨iff_of_false (fun hin => absurd (hle id hin) (not_le.mpr hlt)) (not_le.mpr hlt), fun _ => hid⟩

lemma mem_idsAfter {ids : List ℤ} {last : ℤ} :
    id ∈ (Crm.sortedSet (· ≤ ·) ids).filter (last < ·) ↔ id ∈ ids.filter (last < ·) := by
  simp

/-- The loop over the pages cleans the rows of the ids after the last one, where what a query selects is read off the
rows.  The induction is on the ids that are left. -/
lemma cleaned_processPages {select : CountCache → List ℤ}
    (hselect : ∀ cache cache' : CountCache, ∀ id, cache'.get? id = cache.get? id →
      (id ∈ select cache' ↔ id ∈ select cache)) (rounds : ℕ) (last : ℤ) (cache : CountCache)
    (hrounds : ((Crm.sortedSet (· ≤ ·) (select cache)).filter (last < ·)).length ≤ rounds) :
    Cleaned clients ((select cache).filter (last < ·)) cache
      (processPages settings clients now matched select rounds last cache) := by
  induction rounds generalizing last cache with
  | zero =>
    rw [processPages]
    refine Cleaned.nil fun id hid => ?_
    rw [← mem_idsAfter, length_eq_zero_iff.mp (Nat.le_zero.mp hrounds)] at hid
    exact not_mem_nil hid
  | succ _ ih =>
    rw [processPages]
    dsimp only
    cases hnext : (idPage settings (select cache) last).getLast? with
    | none =>
      rw [getLast?_eq_none_iff, idPage, take_eq_nil_iff] at hnext
      have hnone := hnext.resolve_left settings.matchCacheDbBatchSize_pos.ne'
      refine Cleaned.nil fun id hid => ?_
      rw [← mem_idsAfter, hnone] at hid
      exact not_mem_nil hid
    | some next =>
      dsimp only
      have hpage : ∀ id ∈ idPage settings (select cache) last, id ∈ (select cache).filter (last < ·) :=
        fun id hid => mem_idsAfter.mp (mem_of_mem_take hid)
      have hbatches := cleaned_processBatches settings clients now matched
        (slicesOf (idPage settings (select cache) last) 100) cache
      rw [flatten_slicesOf _ (by decide : 0 < 100)] at hbatches
      generalize hresult : processBatches settings clients now matched
        (slicesOf (idPage settings (select cache) last) 100) cache = result at hbatches
      obtain ⟨mid, raised⟩ := result
      cases raised with
      | true => exact hbatches.of_raised rfl hpage
      | false =>
        have hlt : last < next := by
          simpa using (mem_filter.mp (hpage next (mem_of_getLast? hnext))).2
        -- an id that is not on the page is selected as before
        have hafter : ∀ id, id ∉ idPage settings (select cache) last → (id ∈ select mid ↔ id ∈ select cache) := by
          intro id hid
          rcases hbatches.row id with hkept | ⟨⟨hmem, -⟩, -⟩
          · exact hselect cache mid id hkept
          · exact absurd hmem hid
        have hle : ∀ id ∈ idPage settings (select cache) last, id ≤ next := fun id hid =>
          (idPage_split hnext (mem_of_mem_take hid)).1.mp hid
        have hleft : ∀ id, id ∈ (select mid).filter (next < ·) ↔ id ∈ (select cache).filter (last < ·) ∧ next < id := by
          intro id
          simp only [mem_filter, decide_eq_true_eq]
          by_cases hin : id ∈ idPage settings (select cache) last
          · exact iff_of_false (fun h => absurd (hle id hin) (not_le.mpr h.2))
              fun h => absurd (hle id hin) (not_le.mpr h.2)
          · rw [hafter id hin]
            exact ⟨fun h => ⟨⟨h.1, hlt.trans h.2⟩, h.2⟩, fun h => ⟨h.1.1, h.2⟩⟩
        refine (hbatches.append (ih next mid ?_)).congr fun id => ?_
        · -- the page has at least one of the ids that were left
          have hsub : (Crm.sortedSet (· ≤ ·) (select mid)).filter (next < ·) ⊆
              ((Crm.sortedSet (· ≤ ·) (select cache)).filter (last < ·)).drop settings.matchCacheDbBatchSize := by
            intro id hid
            obtain ⟨hid, hgt⟩ := (hleft id).mp (mem_idsAfter.mp hid)
            exact (idPage_split hnext (mem_idsAfter.mpr hid)).2 hgt
          have hlength := (subperm_of_subset ((Crm.nodup_sortedSet _ (select mid)).filter _) hsub).length_le
          have hpos := settings.matchCacheDbBatchSize_pos
          have hsome : 0 < ((Crm.sortedSet (· ≤ ·) (select cache)).filter (last < ·)).length :=
            length_pos_of_mem (mem_idsAfter.mpr (hpage next (mem_of_getLast? hnext)))
          rw [length_drop] at hlength
          omega
        · rw [mem_append, hleft]
          constructor
          · rintro (hid | ⟨hid, -⟩)
            · exact hpage id hid
            · exact hid
          · intro hid
            rcases le_or_gt id next with hle | hgt
            · exact .inl ((idPage_split hnext (mem_idsAfter.mpr hid)).1.mpr hle)
            · exact .inr ⟨hid, hgt⟩

lemma mem_dirtyIds {cache : CountCache} :
    id ∈ dirtyIds cache ↔ ∃ row, cache.get? id = some row ∧ row.isDirty = true := by
  simp only [dirtyIds, List.mem_map, List.mem_filter, Prod.exists, exists_and_right, exists_eq_right, mem_entries_iff]

lemma mem_missingIds {cache : CountCache} : id ∈ missingIds clients cache ↔ cache.get? id = none ∧
      ∃ c, clients.get? id = some c ∧ c.status = some "active" ∧ c.deleted = false := by
  simp only [missingIds, List.mem_map, List.mem_filter, Prod.exists, exists_and_right, exists_eq_right,
    mem_entries_iff, and_eq_true, beq_iff_eq, not_eq_true', Option.isNone_iff_eq_none]
  exact ⟨fun ⟨c, hc, ⟨hstatus, hlive⟩, hnone⟩ => ⟨hnone, c, hc, hstatus, hlive⟩,
    fun ⟨hnone, c, hc, hstatus, hlive⟩ => ⟨c, hc, ⟨hstatus, hlive⟩, hnone⟩⟩

variable (settings clients now matched) in
lemma cleaned_dirty (cache : CountCache) : Cleaned clients ((dirtyIds cache).filter (0 < ·)) cache
    (processPages settings clients now matched dirtyIds cache.entries.length 0 cache) := by
  refine cleaned_processPages (fun cache cache' id heq => ?_) _ 0 cache ?_
  · rw [mem_dirtyIds, mem_dirtyIds, heq]
  · refine (length_filter_le _ _).trans ((Crm.length_sortedSet_le _ _).trans ?_)
    rw [dirtyIds, length_map]
    exact length_filter_le _ _

variable (settings clients now matched) in
lemma cleaned_missing (cache : CountCache) : Cleaned clients ((missingIds clients cache).filter (0 < ·)) cache
    (processPages settings clients now matched (missingIds clients) clients.entries.length 0 cache) := by
  refine cleaned_processPages (fun cache cache' id heq => ?_) _ 0 cache ?_
  · rw [mem_missingIds, mem_missingIds, heq]
  · refine (length_filter_le _ _).trans ((Crm.length_sortedSet_le _ _).trans ?_)
    rw [missingIds, length_map]
    exact length_filter_le _ _

lemma dirtyIds_missing (cache : CountCache) (id : ℤ) :
    id ∈ dirtyIds (processPages settings clients now matched (missingIds clients) clients.entries.length 0 cache).1 ↔
      id ∈ dirtyIds cache := by
  rw [mem_dirtyIds, mem_dirtyIds]
  rcases (cleaned_missing settings clients now matched cache).row id with hkept | ⟨⟨hid, -⟩, _, hrow, hclean, -⟩
  · rw [hkept]
  · have hnone := (mem_missingIds.mp (mem_filter.mp hid).1).1
    simp [hrow, hnone, hclean]

lemma dirtyIds_rebuildMatchCacheDirty (cache : CountCache) :
    (∀ id, id ∉ dirtyIds (rebuildMatchCacheDirty settings clients now matched cache).1) ↔
      ∀ id ∈ dirtyIds cache, Accepted clients cache id := by
  have hfirst := cleaned_dirty settings clients now matched cache
  unfold rebuildMatchCacheDirty
  generalize processPages settings clients now matched dirtyIds cache.entries.length 0 cache = first at hfirst
  obtain ⟨mid, raised⟩ := first
  -- a marked row whose count is not stored stays marked
  have hstays : ∀ id ∈ dirtyIds cache, ¬Accepted clients cache id → id ∈ dirtyIds mid := by
    intro id hid hrejected
    rcases hfirst.row id with hkept | ⟨⟨-, haccepted⟩, -⟩
    · rw [mem_dirtyIds] at hid ⊢
      rw [hkept]
      exact hid
    · exact absurd haccepted hrejected
  cases raised with
  | true =>
    obtain ⟨id, hid, hpos, hcountable, hrefused⟩ := hfirst.raised rfl
    have hdirty := (mem_filter.mp hid).1
    exact iff_of_false (fun hnone => hnone id (hstays id hdirty fun haccepted => haccepted.2.2 hrefused))
      fun hall => (hall id hdirty).2.2 hrefused
  | false =>
    simp only [false_eq_true, if_false, dirtyIds_missing]
    constructor
    · intro hnone id hid
      by_contra hrejected
      exact hnone id (hstays id hid hrejected)
    · intro hall id hid
      obtain ⟨row, hrow, hdirty⟩ := mem_dirtyIds.mp hid
      rcases hfirst.row id with hkept | ⟨-, _, hrow', hclean, -⟩
      · have hbefore : id ∈ dirtyIds cache := mem_dirtyIds.mpr ⟨row, hkept.symm.trans hrow, hdirty⟩
        obtain ⟨hpos, hcountable, -⟩ := hall id hbefore
        obtain ⟨_, hrow', hclean⟩ := hfirst.clean rfl id
          (mem_filter.mpr ⟨hbefore, by simpa using hpos⟩) hpos hcountable
        rw [hrow'] at hrow
        rw [← some.inj hrow, hclean] at hdirty
        cases hdirty
      · rw [hrow'] at hrow
        rw [← some.inj hrow, hclean] at hdirty
        cases hdirty

end Run

/-! ### The two stores -/

/-- There is nothing to store for a client that the batch leaves out: it has no cached row, or it has no status and its
row is already the one of the count. -/
def NothingToStore (clients : ClientTable) (now : ℕ) (cache : CountCache) (item : ℤ × ℤ) : Prop :=
  match (clients.get? item.1).filter fun c => c.status == none && !c.deleted && c.agencyId.isSome with
  | none => cache.get? item.1 = none
  | some c => ∃ agencyId visibility, c.agencyId = some agencyId ∧ c.visibility = some visibility ∧
      cache.get? item.1 = some ⟨agencyId, item.2, visibility, c.ownerUserId, now, false⟩

section Agreement

variable {clients : ClientTable} {now : ℕ} {cache : CountCache}

variable {item : ℤ × ℤ}

lemma storedRow_of_deleting (h : rowToStore clients now item = some none) (row : Option CachedCount) :
    storedRow clients now item row = some row ↔ row = none := by
  rw [storedRow, h, bind_some, all_none, if_pos rfl, some_inj, eq_comm]

lemma storedRow_eq_self_iff (h : ¬Countable clients item.1) :
    storedRow clients now item (cache.get? item.1) = some (cache.get? item.1) ↔
      NothingToStore clients now cache item := by
  unfold NothingToStore
  cases hclient : clients.get? item.1 with
  | none => exact storedRow_of_deleting (by rw [rowToStore, hclient]) _
  | some c =>
    rw [filter_some]
    by_cases hstatusless : (c.status == none && !c.deleted && c.agencyId.isSome) = true
    · -- the row of a client without a status is written
      rw [if_pos hstatusless]
      simp only [and_eq_true, beq_iff_eq, not_eq_true', isSome_iff_exists] at hstatusless
      obtain ⟨⟨hstatus, hdeleted⟩, agencyId, hagency⟩ := hstatusless
      have hrow : rowToStore clients now item = c.visibility.map fun visibility =>
          some ⟨agencyId, item.2, visibility, c.ownerUserId, now, false⟩ := by
        simp [rowToStore, hclient, hstatus, hdeleted, hagency]
      dsimp only
      rw [storedRow, hrow, hagency]
      cases c.visibility with
      | none => simp
      | some visibility =>
        rw [map_some, bind_some]
        constructor
        · intro heq
          split at heq
          · exact ⟨agencyId, visibility, rfl, rfl, (some.inj heq).symm⟩
          · cases heq
        · rintro ⟨_, _, hagency', hvisibility', heq⟩
          obtain ⟨⟩ := hagency'
          obtain ⟨⟩ := hvisibility'
          rw [heq, if_pos (by simp)]
    · rw [if_neg hstatusless]
      refine storedRow_of_deleting ?_ _
      rw [rowToStore, hclient]
      dsimp only
      by_cases hgone : c.status.getD "active" ≠ "active" ∨ c.deleted = true
      · rw [if_pos hgone]
      · rw [if_neg hgone]
        rw [not_or, not_not, not_eq_true] at hgone
        obtain ⟨hactive, hdeleted⟩ := hgone
        cases hagency : c.agencyId with
        | none => rfl
        | some =>
          cases hstatus : c.status with
          | none => simp [hstatus, hdeleted, hagency] at hstatusless
          | some =>
            rw [hstatus, getD_some] at hactive
            exact absurd ⟨c, hclient, by rw [hstatus, hactive], hdeleted, by simp [hagency]⟩ h

lemma storedRow_eq_none_iff (h : Countable clients item.1) :
    storedRow clients now item (cache.get? item.1) = none ↔ Refused clients cache item.1 := by
  rcases storedRow_of_countable now cache h item.2 with
    ⟨hrefused, hnone⟩ | ⟨haccepted, row, hrow, -⟩
  · exact iff_of_true hnone hrefused
  · refine iff_of_false ?_ haccepted
    rw [hrow]
    exact fun heq => by cases heq

lemma mem_countableItems {counts : Keyed ℤ ℤ} : item ∈ countableItems clients counts.entries ↔
      item ∈ counts.entries ∧ 0 < item.1 ∧ Countable clients item.1 := by
  rw [countableItems, List.mem_map]
  constructor
  · rintro ⟨_, hid, rfl⟩
    obtain ⟨hid, hcountable⟩ := List.mem_filter.mp hid
    obtain ⟨hkey, hpos⟩ := RebuildState.mem_normalizedIds.mp hid
    obtain ⟨_, hcount⟩ := Option.ne_none_iff_exists'.mp (mem_keys_iff.mp hkey)
    refine ⟨mem_entries_iff.mpr ?_, hpos, by simpa using hcountable⟩
    rw [hcount]
    exact congrArg some (congrArg (fun found => Option.getD found 0) hcount).symm
  · rintro ⟨hitem, hpos, hcountable⟩
    have hcount := mem_entries_iff.mp hitem
    refine ⟨item.1, List.mem_filter.mpr ⟨RebuildState.mem_normalizedIds.mpr
      ⟨List.mem_map_of_mem hitem, hpos⟩, by simpa using hcountable⟩, ?_⟩
    exact Prod.ext rfl (congrArg (fun found => Option.getD found 0) hcount)

/-- The batch stores as the single stores do exactly when one of its own rows is refused, or there is nothing to store
for the clients that it leaves out. -/
theorem storeCountsBatch_same_iff (settings : CacheSettings) (counts : Keyed ℤ ℤ) :
    Option.Rel Keyed.Same (storeCountsBatch settings clients now counts.entries cache)
        (storeEach clients now counts cache) ↔
      (∃ item ∈ counts.entries, 0 < item.1 ∧ Countable clients item.1 ∧ Refused clients cache item.1) ∨
        ∀ item ∈ counts.entries, 0 < item.1 → ¬Countable clients item.1 → NothingToStore clients now cache item := by
  have hkeys : ((counts.entries.filter fun e => 0 < e.1).map Prod.fst).Nodup :=
    List.Nodup.sublist (List.Sublist.map _ filter_sublist) counts.nodup
  have hall := (refusableStep_storeCount clients now).treatsAll hkeys cache
  have hpart := (refusableStep_storeCount clients now).treatsAll (nodup_countableItems clients counts.entries) cache
  rw [storeCountsBatch_eq, storeEach, hall.same_iff hpart hkeys]
  · refine or_congr ⟨?_, ?_⟩ ⟨?_, ?_⟩
    · rintro ⟨item, hitem, hnone⟩
      obtain ⟨hitem, hpos, hcountable⟩ := mem_countableItems.mp hitem
      exact ⟨item, hitem, hpos, hcountable, (storedRow_eq_none_iff hcountable).mp hnone⟩
    · rintro ⟨item, hitem, hpos, hcountable, hrefused⟩
      exact ⟨item, mem_countableItems.mpr ⟨hitem, hpos, hcountable⟩, (storedRow_eq_none_iff hcountable).mpr hrefused⟩
    · intro hkeep item hitem hpos hout
      exact (storedRow_eq_self_iff hout).mp (hkeep item (mem_filter.mpr ⟨hitem, by simpa using hpos⟩)
        fun hin => hout (mem_countableItems.mp hin).2.2)
    · intro hkeep item hitem hout
      obtain ⟨hitem, hpos⟩ := mem_filter.mp hitem
      rw [decide_eq_true_eq] at hpos
      have hnot : ¬Countable clients item.1 := fun hcountable =>
        hout (mem_countableItems.mpr ⟨hitem, hpos, hcountable⟩)
      exact (storedRow_eq_self_iff hnot).mpr (hkeep item hitem hpos hnot)
  · intro item hitem
    obtain ⟨hitem, hpos, -⟩ := mem_countableItems.mp hitem
    exact mem_filter.mpr ⟨hitem, by simpa using hpos⟩

variable (clients now cache) in
/-- For which counts the batch stores what the single stores do, and after which tables the refresh leaves no row
marked. -/
theorem count_stores_agree_iff (settings : CacheSettings) (matched : List (ℕ × ℕ)) : (∀ counts : Keyed ℤ ℤ,
      Option.Rel Keyed.Same (storeCountsBatch settings clients now counts.entries cache)
          (storeEach clients now counts cache) ↔
        (∃ item ∈ counts.entries, 0 < item.1 ∧ Countable clients item.1 ∧ Refused clients cache item.1) ∨
          ∀ item ∈ counts.entries, 0 < item.1 → ¬Countable clients item.1 → NothingToStore clients now cache item) ∧
      ((∀ id, id ∉ dirtyIds (rebuildMatchCacheDirty settings clients now matched cache).1) ↔
        ∀ id ∈ dirtyIds cache, Accepted clients cache id) :=
  ⟨fun counts => storeCountsBatch_same_iff settings counts, dirtyIds_rebuildMatchCacheDirty cache⟩

end Agreement

def archivedClient : ClientTable := ⟨[(1, ⟨some 1, some "shared", none, some "archived", false⟩)], by simp⟩

def archivedCache : CountCache := ⟨[(1, ⟨1, 4, "shared", none, 0, true⟩)], by simp⟩

def defaultSettings : CacheSettings := ⟨1000, 5000, by decide, 1000, by decide⟩

def archivedCounts : Keyed ℤ ℤ := ⟨[(1, 0)], by simp⟩

/-- The single store deletes the row of an archived client; the batch leaves it, and the refresh leaves it marked. -/
theorem archived_row_kept :
    ¬Option.Rel Keyed.Same (storeCountsBatch defaultSettings archivedClient 7 archivedCounts.entries archivedCache)
        (storeEach archivedClient 7 archivedCounts archivedCache) ∧
      1 ∈ dirtyIds (rebuildMatchCacheDirty defaultSettings archivedClient 7 [] archivedCache).1 := by
  refine ⟨fun hsame => ?_, by decide⟩
  have hbatch : storeCountsBatch defaultSettings archivedClient 7 archivedCounts.entries archivedCache =
      some archivedCache := by
    rw [storeCountsBatch_eq]
    rfl
  have hsingle : storeEach archivedClient 7 archivedCounts archivedCache =
      some (deleteClientCache 1 archivedCache) := rfl
  rw [hbatch, hsingle] at hsame
  obtain ⟨hsame⟩ := hsame
  have hrow := hsame 1
  rw [get?_deleteClientCache, if_pos rfl] at hrow
  cases hrow

end CountWrites

end ImmoApp.Matching
