import ImmoApp.Foundation.Totals
import ImmoApp.Matching.OfferPairs

/-!
# The rebuild of an offer and its updates

`update_offer` commits, requests a rebuild of the offer and queues a task.  The task reads the demandes that are
compatible with the offer, tries the lock, reads the generation, clears the stored matches, recomputes the demandes in
batches and completes the row, in separate transactions.

A run whose list is older than its generation completes the row for updates it knows nothing of, and the task of such an
update is skipped while the run holds the lock.  `offer_rebuild_covers` says when the updates are covered.
-/

namespace ImmoApp.Matching

open Crm List Option Dict

/-! ### The parties -/

structure OfferEnv where
  backend : Backend
  sql : SqlArithmetic
  access : Access
  settings : PairSettings
  pendingStaleSec : ℤ
  offerId : ℕ

structure OfferCaller where
  hints : List ℕ
  requested : Bool

inductive OfferPhase where
  | listed
  | locked
  | started
  | computing
  | completed
  | released
  deriving DecidableEq

structure OfferRun where
  hints : List ℕ
  seen : Db
  phase : OfferPhase
  startGeneration : ℕ
  chunks : List (List ℕ)
  needsRerun : Bool
  /-- History: the moment it has read the generation. -/
  began : ℕ

structure OfferChange where
  moment : ℕ
  stored : List ℕ

structure Recomputation where
  demandeId : ℕ
  moment : ℕ

structure OfferDesk where
  store : MatchStore
  table : RebuildTable
  callers : Keyed ℕ OfferCaller
  queue : List (List ℕ)
  runs : Dict ℕ OfferRun
  moment : ℕ
  lastChange : Option OfferChange
  recomputed : List Recomputation

inductive OfferAction where
  /-- `update_offer` commits, or raises. -/
  | update (caller : ℕ) (payload : OfferPayload) (now : ℕ)
  | request (caller : ℕ) (clock : Clock)
  | enqueue (caller : ℕ)
  | start (task index : ℕ)
  | tryLock (task : ℕ)
  | readGeneration (task : ℕ)
  | clear (task : ℕ)
  | compute (task : ℕ)
  | complete (task now : ℕ)
  | release (task : ℕ)
  | rerun (task : ℕ)

def pairedDemandeIds (artifacts : Artifacts) (offerId : ℕ) : List ℕ :=
  normalizedIds (((artifacts.pairs.entries.map Prod.fst).filter fun k => k.2 == offerId).map Prod.fst)

/-- `demande_ids`: the work list. -/
def OfferRun.demandeIds (offerId : ℕ) (r : OfferRun) : List ℕ := offerWorkList r.seen offerId r.hints

def OfferRun.holdsLock (r : OfferRun) : Bool :=
  match r.phase with
  | .locked | .started | .computing | .completed => true
  | .listed | .released => false

namespace OfferDesk

def start (store : MatchStore) (table : RebuildTable) (queue : List (List ℕ)) : OfferDesk :=
  ⟨store, table, Keyed.empty, queue, [], 0, none, []⟩

def advance (s : OfferDesk) : OfferDesk := { s with moment := s.moment + 1 }

def atPhase (s : OfferDesk) (task : ℕ) (phase : OfferPhase) (f : OfferRun → Option OfferDesk) :
    Option OfferDesk :=
  (s.runs.get? task).bind fun r => if r.phase = phase then (f r).map advance else none

variable (env : OfferEnv)

def step (s : OfferDesk) : OfferAction → Option OfferDesk
  | .update caller payload now =>
    if (s.callers.get? caller).isSome then none
    else match updateOffer env.backend env.offerId payload now s.store with
      | .error _ => some s.advance
      | .ok c => some { s with
          store := c.commit s.store
          callers := s.callers.set caller ⟨c.demandeIdsHint, false⟩
          lastChange := some ⟨s.moment, pairedDemandeIds s.store.artifacts env.offerId⟩ }.advance
  | .request caller clock =>
    (s.callers.get? caller).bind fun c =>
      if c.requested then none
      else
        let x := requestRebuild env.pendingStaleSec .offer env.offerId 0 clock s.table
        some { s with
          table := x.1
          callers := if x.2 then s.callers.set caller ⟨c.hints, true⟩ else s.callers.deleteKey caller }.advance
  | .enqueue caller =>
    (s.callers.get? caller).bind fun c =>
      if c.requested then
        some { s with queue := s.queue ++ [c.hints], callers := s.callers.deleteKey caller }.advance
      else none
  | .start task index =>
    if (s.runs.get? task).isSome then none
    else (s.queue[index]?).map fun hints => { s with
      queue := s.queue.eraseIdx index
      runs := s.runs.set task ⟨hints, s.store.db, .listed, 0, [], false, 0⟩ }.advance
  | .tryLock task =>
    s.atPhase task .listed fun r =>
      if s.runs.any fun e => e.2.holdsLock then some { s with runs := s.runs.erase task }
      else some { s with runs := s.runs.set task { r with phase := .locked } }
  | .readGeneration task =>
    s.atPhase task .locked fun r => some { s with
      runs := s.runs.set task { r with
        phase := .started
        startGeneration := getGeneration s.table .offer env.offerId
        began := s.moment } }
  | .clear task =>
    s.atPhase task .started fun r => some { s with
      store := { s.store with artifacts := s.store.artifacts.clearForOffer env.offerId }
      runs := s.runs.set task { r with
        phase := .computing
        chunks := demandeChunks env.settings (r.demandeIds env.offerId) } }
  | .compute task =>
    s.atPhase task .computing fun r =>
      match r.chunks with
      | [] => none
      | chunk :: chunks =>
        (computeMatchPairsForDemandes env.sql env.access env.settings s.store.db chunk
          (some defaultMatchPairsLimit) s.store.artifacts).map fun x => { s with
            store := { s.store with artifacts := x.1 }
            runs := s.runs.set task { r with chunks := chunks }
            recomputed := s.recomputed ++ chunk.map fun id => ⟨id, s.moment⟩ }
  | .complete task now =>
    s.atPhase task .computing fun r =>
      if r.chunks = [] then
        let x := completeRebuild .offer env.offerId r.startGeneration now s.table
        some { s with
          table := x.1
          runs := s.runs.set task { r with phase := .completed, needsRerun := x.2 } }
      else none
  | .release task =>
    s.atPhase task .completed fun r => some { s with
      runs := if r.needsRerun then s.runs.set task { r with phase := .released } else s.runs.erase task }
  | .rerun task =>
    s.atPhase task .released fun r => some { s with
      queue := s.queue ++ [r.demandeIds env.offerId]
      runs := s.runs.erase task }

/-- The demandes that the offer is compatible with, and those that had a stored pair with it at its last
update. -/
def concerned (s : OfferDesk) : List ℕ :=
  getDemandeIdsForOffer s.store.db env.offerId ++ (s.lastChange.map OfferChange.stored).getD []

/-- Every demande concerned has been recomputed after the last update. -/
def Covered (s : OfferDesk) : Prop :=
  ∀ u ∈ s.lastChange, ∀ id ∈ s.concerned env, ∃ c ∈ s.recomputed, c.demandeId = id ∧ u.moment < c.moment

/-- All updates that have committed have requested their rebuild. -/
def AllRequested (s : OfferDesk) : Prop := ∀ e ∈ s.callers.entries, e.2.requested = true

def Idle (s : OfferDesk) : Prop :=
  ∀ row ∈ s.table.get? (.offer, env.offerId), row.pending = false

/-- Where a run completes the row at the generation it has read, and no update has its request still to
come: each demande concerned was compatible when the run read its list, or is among its hints. -/
def ListFresh (s : OfferDesk) : OfferAction → Prop
  | .complete task _ => ∀ r ∈ s.runs.get? task,
      getGeneration s.table .offer env.offerId ≤ r.startGeneration → s.AllRequested →
        ∀ id ∈ s.concerned env, id ∈ getDemandeIdsForOffer r.seen env.offerId ∨ id ∈ r.hints
  | _ => True

instance (s : OfferDesk) : Decidable (s.AllRequested) := by
  unfold AllRequested
  infer_instance

instance (s : OfferDesk) : Decidable (s.Idle env) := by
  unfold Idle
  infer_instance

instance (s : OfferDesk) : Decidable (s.Covered env) := by
  unfold Covered
  infer_instance

instance (s : OfferDesk) (action : OfferAction) : Decidable (s.ListFresh env action) := by
  cases action <;> unfold ListFresh <;> infer_instance

/-! ### The invariant -/

structure RunOk (s : OfferDesk) (r : OfferRun) : Prop where
  /-- It has read no more than the generation of the row. -/
  starts : r.phase = .started ∨ r.phase = .computing → r.startGeneration ≤ getGeneration s.table .offer env.offerId
  past : r.phase = .started ∨ r.phase = .computing → r.began ≤ s.moment
  /-- Without a request since, it has read it after the last update. -/
  began : r.phase = .started ∨ r.phase = .computing →
    getGeneration s.table .offer env.offerId ≤ r.startGeneration → s.AllRequested →
      ∀ u ∈ s.lastChange, u.moment < r.began
  computed : r.phase = .computing → ∀ id ∈ r.demandeIds env.offerId, id ∈ r.chunks.flatten ∨
    ∃ c ∈ s.recomputed, c.demandeId = id ∧ r.began ≤ c.moment

/-- What the runs and the recomputations have to do with the row. -/
structure Tracks (s : OfferDesk) : Prop where
  past : ∀ u ∈ s.lastChange, u.moment < s.moment
  stored : ∀ u ∈ s.lastChange, ∀ id ∈ u.stored, 0 < id
  runs : ∀ e ∈ s.runs, s.RunOk env e.2
  /-- Where the row is not pending and all updates have requested, they are covered. -/
  covered : s.Idle env → s.AllRequested → s.Covered env

section Steps

variable {env} {s t : OfferDesk} {r : OfferRun} {task : ℕ} {action : OfferAction}

lemma RunOk.of_phase (hstarted : r.phase ≠ .started) (hcomputing : r.phase ≠ .computing) : s.RunOk env r where
  starts := fun h => absurd h (not_or.mpr ⟨hstarted, hcomputing⟩)
  past := fun h => absurd h (not_or.mpr ⟨hstarted, hcomputing⟩)
  began := fun h => absurd h (not_or.mpr ⟨hstarted, hcomputing⟩)
  computed := fun h => absurd h hcomputing

lemma RunOk.keep (h : s.RunOk env r)
    (hgeneration : getGeneration t.table .offer env.offerId = getGeneration s.table .offer env.offerId)
    (hrequested : t.AllRequested → s.AllRequested) (hchange : t.lastChange = s.lastChange)
    (hmoment : s.moment ≤ t.moment) (hrecomputed : s.recomputed ⊆ t.recomputed) : t.RunOk env r where
  starts hphase := (h.starts hphase).trans hgeneration.ge
  past hphase := (h.past hphase).trans hmoment
  began hphase hreached hall := by
    rw [hchange]
    exact h.began hphase (hgeneration ▸ hreached) (hrequested hall)
  computed hphase id hid := by
    rcases h.computed hphase id hid with hchunk | ⟨c, hc, hdone⟩
    · exact .inl hchunk
    · exact .inr ⟨c, hrecomputed hc, hdone⟩

lemma Tracks.keep (h : s.Tracks env) (hdb : t.store.db = s.store.db) (htable : t.table = s.table)
    (hrequested : t.AllRequested → s.AllRequested) (hchange : t.lastChange = s.lastChange)
    (hmoment : s.moment ≤ t.moment) (hrecomputed : s.recomputed ⊆ t.recomputed)
    (hruns : ∀ e ∈ t.runs, e ∈ s.runs ∨ t.RunOk env e.2) : t.Tracks env where
  past := by
    rw [hchange]
    exact fun u hu => (h.past u hu).trans_le hmoment
  stored := by
    rw [hchange]
    exact h.stored
  runs e he := by
    rcases hruns e he with hold | hok
    · exact (h.runs e hold).keep (by rw [htable]) hrequested hchange hmoment hrecomputed
    · exact hok
  covered hidle hall u hu id hid := by
    rw [hchange] at hu
    rw [concerned, hdb, hchange] at hid
    rw [Idle, htable] at hidle
    obtain ⟨c, hc, hdone⟩ := h.covered hidle (hrequested hall) u hu id hid
    exact ⟨c, hrecomputed hc, hdone⟩

lemma atPhase_eq_some {phase : OfferPhase} {f : OfferRun → Option OfferDesk} (h : s.atPhase task phase f = some t) :
    ∃ r t', s.runs.get? task = some r ∧ r.phase = phase ∧ f r = some t' ∧ t'.advance = t := by
  obtain ⟨r, hr, h⟩ := bind_eq_some_iff.mp h
  split at h
  · next hphase =>
    obtain ⟨t', ht', rfl⟩ := map_eq_some_iff.mp h
    exact ⟨r, t', hr, hphase, ht', rfl⟩
  · cases h

section

variable (h : s.Tracks env)
include h

lemma Tracks.update {c : Change} {caller : ℕ} :
    Tracks env { s with
      store := c.commit s.store
      callers := s.callers.set caller ⟨c.demandeIdsHint, false⟩
      lastChange := some ⟨s.moment, pairedDemandeIds s.store.artifacts env.offerId⟩ }.advance := by
  have hnot : ¬ AllRequested { s with
      store := c.commit s.store
      callers := s.callers.set caller ⟨c.demandeIdsHint, false⟩
      lastChange := some ⟨s.moment, pairedDemandeIds s.store.artifacts env.offerId⟩ }.advance := by
    intro hall
    have hcaller := hall (caller, ⟨c.demandeIdsHint, false⟩)
      (Keyed.mem_entries_iff.mpr (by rw [OfferDesk.advance, Keyed.get?_set, if_pos rfl]))
    cases hcaller
  refine ⟨fun u hu => ?_, fun u hu id hid => ?_, fun e he => ?_, fun _ hall => absurd hall hnot⟩
  · cases hu
    exact Nat.lt_succ_self _
  · cases hu
    exact (mem_normalizedIds.mp hid).2
  · have hrun := h.runs e he
    exact ⟨hrun.starts, fun hphase => (hrun.past hphase).trans (Nat.le_succ _),
      fun _ _ hall => absurd hall hnot, hrun.computed⟩

lemma Tracks.request {clock : Clock} {callers : Keyed ℕ OfferCaller} :
    Tracks env { s with
      table := (requestRebuild env.pendingStaleSec .offer env.offerId 0 clock s.table).1
      callers := callers }.advance := by
  obtain ⟨hpending, hgeneration⟩ := RebuildRow.request_spec env.pendingStaleSec .offer 0 clock
    ((s.table.get? (.offer, env.offerId)).getD (RebuildRow.new clock.db))
  have hrow : (requestRebuild env.pendingStaleSec .offer env.offerId 0 clock s.table).1.get?
      (.offer, env.offerId) = some (((s.table.get? (.offer, env.offerId)).getD
        (RebuildRow.new clock.db)).request env.pendingStaleSec .offer 0 clock).1 := by
    rw [requestRebuild, get?_set, if_pos rfl]
  have hnext : getGeneration (requestRebuild env.pendingStaleSec .offer env.offerId 0 clock s.table).1 .offer
      env.offerId = getGeneration s.table .offer env.offerId + 1 := by
    rw [getGeneration, hrow, map_some, getD_some, hgeneration, getGeneration]
    cases s.table.get? (.offer, env.offerId) <;> rfl
  refine ⟨fun u hu => (h.past u hu).trans (Nat.lt_succ_self _), h.stored, fun e he => ?_, fun hidle => ?_⟩
  · have hrun := h.runs e he
    refine ⟨fun hphase => ?_, fun hphase => (hrun.past hphase).trans (Nat.le_succ _),
      fun hphase hreached => ?_, hrun.computed⟩
    · exact (hrun.starts hphase).trans (hnext ▸ Nat.le_succ _)
    · have hstarts := hrun.starts hphase
      have hreached : getGeneration s.table .offer env.offerId + 1 ≤ e.2.startGeneration := hnext ▸ hreached
      omega
  · have hfalse := hidle _ hrow
    rw [hpending] at hfalse
    cases hfalse

/-- A run completes the row: without a request since it has read the generation, its list covers the update. -/
lemma Tracks.complete {now : ℕ} {needsRerun : Bool} (hrun : s.runs.get? task = some r)
    (hphase : r.phase = .computing) (hchunks : r.chunks = []) (hfresh : s.ListFresh env (.complete task now)) :
    Tracks env { s with
      table := (completeRebuild .offer env.offerId r.startGeneration now s.table).1
      runs := s.runs.set task { r with phase := .completed, needsRerun := needsRerun } }.advance := by
  have hrow : (completeRebuild .offer env.offerId r.startGeneration now s.table).1.get? (.offer, env.offerId)
      = (s.table.get? (.offer, env.offerId)).map fun row => (row.complete r.startGeneration now).1 := by
    simp only [get?_completeRebuild, if_true]
  have hgeneration : getGeneration (completeRebuild .offer env.offerId r.startGeneration now s.table).1 .offer
      env.offerId = getGeneration s.table .offer env.offerId := by
    rw [getGeneration, hrow, Option.map_map, getGeneration]
    rfl
  refine ⟨fun u hu => (h.past u hu).trans (Nat.lt_succ_self _), h.stored, fun e he => ?_, fun hidle hall => ?_⟩
  · rcases mem_set.mp he with rfl | ⟨hold, _⟩
    · exact RunOk.of_phase (fun h => by cases h) fun h => by cases h
    · exact (h.runs e hold).keep hgeneration id rfl (Nat.le_succ _) (fun _ h => h)
  · cases hget : s.table.get? (.offer, env.offerId) with
    | none => exact h.covered (fun row hrow => by rw [hget] at hrow; cases hrow) hall
    | some row =>
      have hdone : (row.complete r.startGeneration now).1.pending = false := by
        refine hidle _ (hrow.trans ?_)
        rw [hget, map_some]
      have hreached : getGeneration s.table .offer env.offerId ≤ r.startGeneration := by
        rw [getGeneration, hget, map_some, getD_some]
        simpa [RebuildRow.complete] using hdone
      intro u hu id hid
      have hok := h.runs (task, r) (mem_of_get? hrun)
      have hbegan := hok.began (.inr hphase) hreached hall u hu
      -- the list has the demande, and what is on it was computed after the generation was read
      have hlist : id ∈ r.demandeIds env.offerId := by
        refine mem_offerWorkList.mpr ((hfresh r hrun hreached hall id hid).imp_right fun hhint => ⟨hhint, ?_⟩)
        rcases mem_append.mp hid with hcompatible | hstored
        · obtain ⟨d, hd, o, -, -, -, rfl⟩ := mem_getDemandeIdsForOffer.mp hcompatible
          exact s.store.db.demandes.positive d hd
        · rw [mem_def.mp hu] at hstored
          exact h.stored u hu id hstored
      rcases hok.computed hphase id hlist with hchunk | ⟨c, hc, hid, hafter⟩
      · rw [hchunks] at hchunk
        cases hchunk
      · exact ⟨c, hc, hid, hbegan.trans_le hafter⟩

lemma Tracks.taskStep {runs : Dict ℕ OfferRun} {artifacts : Artifacts} {queue : List (List ℕ)}
    {recomputed : List Recomputation} (hrecomputed : s.recomputed ⊆ recomputed)
    (hruns : ∀ e ∈ runs, e ∈ s.runs ∨ RunOk env { s with
      store := { s.store with artifacts := artifacts }
      queue := queue
      runs := runs
      recomputed := recomputed }.advance e.2) :
    Tracks env { s with
      store := { s.store with artifacts := artifacts }
      queue := queue
      runs := runs
      recomputed := recomputed }.advance :=
  h.keep rfl rfl id rfl (Nat.le_succ _) hrecomputed hruns

lemma Tracks.step (hfresh : s.ListFresh env action)
    (hstep : OfferDesk.step env s action = some t) : t.Tracks env := by
  cases action with
  | update =>
    rw [OfferDesk.step] at hstep
    split at hstep
    · cases hstep
    · split at hstep
      · cases hstep
        exact h.taskStep (fun _ hc => hc) fun e he => .inl he
      · cases hstep
        exact h.update
  | request =>
    obtain ⟨c, hc, hstep⟩ := bind_eq_some_iff.mp hstep
    split at hstep
    · cases hstep
    · cases hstep
      exact h.request
  | enqueue caller =>
    obtain ⟨c, hc, hstep⟩ := bind_eq_some_iff.mp hstep
    split at hstep
    · next hrequested =>
      cases hstep
      refine h.keep rfl rfl (fun hall e he => ?_) rfl (Nat.le_succ _) (fun _ hc => hc) fun e he => .inl he
      have hget := Keyed.mem_entries_iff.mp he
      by_cases hcaller : e.1 = caller
      · rw [hcaller, hc] at hget
        rw [← some.inj hget]
        exact hrequested
      · refine hall e (Keyed.mem_entries_iff.mpr ?_)
        rw [OfferDesk.advance, Keyed.get?_deleteKey, if_neg hcaller]
        exact hget
    · cases hstep
  | start =>
    rw [OfferDesk.step] at hstep
    split at hstep
    · cases hstep
    · obtain ⟨_, -, rfl⟩ := map_eq_some_iff.mp hstep
      refine h.taskStep (fun _ hc => hc) fun e he => ?_
      rcases mem_set.mp he with rfl | ⟨hold, _⟩
      · exact .inr (RunOk.of_phase (fun h => by cases h) fun h => by cases h)
      · exact .inl hold
  | tryLock =>
    obtain ⟨r, t', hr, hphase, ht', rfl⟩ := atPhase_eq_some hstep
    split at ht'
    · cases ht'
      exact h.taskStep (fun _ hc => hc) fun e he => .inl (mem_erase.mp he).1
    · cases ht'
      refine h.taskStep (fun _ hc => hc) fun e he => ?_
      rcases mem_set.mp he with rfl | ⟨hold, _⟩
      · exact .inr (RunOk.of_phase (fun h => by cases h) fun h => by cases h)
      · exact .inl hold
  | readGeneration =>
    obtain ⟨r, t', hr, hphase, ht', rfl⟩ := atPhase_eq_some hstep
    cases ht'
    refine h.taskStep (fun _ hc => hc) fun e he => ?_
    rcases mem_set.mp he with rfl | ⟨hold, _⟩
    · exact .inr ⟨fun _ => le_rfl, fun _ => Nat.le_succ _, fun _ _ _ => h.past, fun h => by cases h⟩
    · exact .inl hold
  | clear task =>
    obtain ⟨r, t', hr, hphase, ht', rfl⟩ := atPhase_eq_some hstep
    cases ht'
    have hok := h.runs (task, r) (mem_of_get? hr)
    refine h.taskStep (fun _ hc => hc) fun e he => ?_
    rcases mem_set.mp he with rfl | ⟨hold, _⟩
    · refine .inr ⟨fun _ => hok.starts (.inl hphase),
        fun _ => (hok.past (.inl hphase)).trans (Nat.le_succ _), fun _ => hok.began (.inl hphase),
        fun _ id hid => .inl ?_⟩
      exact mem_demandeChunks.mpr ⟨hid, pos_of_mem_offerWorkList hid⟩
    · exact .inl hold
  | compute task =>
    obtain ⟨r, t', hr, hphase, ht', rfl⟩ := atPhase_eq_some hstep
    have hok := h.runs (task, r) (mem_of_get? hr)
    split at ht'
    · cases ht'
    · next chunk chunks hchunks =>
      obtain ⟨x, -, rfl⟩ := map_eq_some_iff.mp ht'
      refine h.taskStep (subset_append_left _ _) fun e he => ?_
      rcases mem_set.mp he with rfl | ⟨hold, _⟩
      · refine .inr ⟨fun _ => hok.starts (.inr hphase),
          fun _ => (hok.past (.inr hphase)).trans (Nat.le_succ _), fun _ => hok.began (.inr hphase),
          fun _ id hid => ?_⟩
        rcases hok.computed hphase id hid with hmem | ⟨c, hc, hdone⟩
        · rw [hchunks, flatten_cons, mem_append] at hmem
          rcases hmem with hmem | hmem
          · exact .inr ⟨⟨id, s.moment⟩, mem_append_right _ (mem_map.mpr ⟨id, hmem, rfl⟩), rfl,
              hok.past (.inr hphase)⟩
          · exact .inl hmem
        · exact .inr ⟨c, mem_append_left _ hc, hdone⟩
      · exact .inl hold
  | complete =>
    obtain ⟨r, t', hr, hphase, ht', rfl⟩ := atPhase_eq_some hstep
    split at ht'
    · next hchunks =>
      cases ht'
      exact h.complete hr hphase hchunks hfresh
    · cases ht'
  | release =>
    obtain ⟨r, _, _, _, ht', rfl⟩ := atPhase_eq_some hstep
    cases ht'
    refine h.taskStep (fun _ hc => hc) fun e he => ?_
    split at he
    · rcases mem_set.mp he with rfl | ⟨hold, _⟩
      · exact .inr (RunOk.of_phase (fun h => by cases h) fun h => by cases h)
      · exact .inl hold
    · exact .inl (mem_erase.mp he).1
  | rerun =>
    obtain ⟨r, _, _, _, ht', rfl⟩ := atPhase_eq_some hstep
    cases ht'
    exact h.taskStep (fun _ hc => hc) fun e he => .inl (mem_erase.mp he).1

end

lemma tracks_start (store : MatchStore) (table : RebuildTable) (queue : List (List ℕ)) :
    (start store table queue).Tracks env where
  past := fun u hu => by cases hu
  stored := fun u hu => by cases hu
  runs := fun e he => by cases he
  covered := fun _ _ u hu => by cases hu

/-- In a run that meets the condition, whenever the row is not pending and all updates have requested their
rebuild, every demande that the offer is compatible with and every demande that had a stored pair with it
has been recomputed after the last update. -/
theorem offer_rebuild_covers {store : MatchStore} {table : RebuildTable} {queue : List (List ℕ)}
    {actions : List OfferAction}
    (hfresh : Guarded (OfferDesk.step env) (fun s action => s.ListFresh env action) (start store table queue) actions)
    (hrun : run (OfferDesk.step env) (start store table queue) actions = some s) (hidle : s.Idle env)
    (hrequested : s.AllRequested) : s.Covered env := by
  have htracks : s.Tracks env :=
    run_invariant (fun _ _ _ h hfresh hstep => h.step hfresh hstep) (tracks_start store table queue) hfresh hrun
  exact htracks.covered hidle hrequested

end Steps

/-- The lookup tables of the sample know how to sell. -/
def sellEnv : OfferEnv where
  backend := { sampleBackend with
    lookups := { sampleBackend.lookups with actions := [⟨actionIdSell, "sell", none, none⟩] } }
  sql := plainSql
  access := plainAccess
  settings := plainSettings
  pendingStaleSec := 900
  offerId := 1

def soldStore : MatchStore where
  db := { hydraDb 16 with
    demandeLocations := []
    offers := Table.empty.insert { plainOffer 16 with status := "sold" } 0 }
  artifacts := ⟨Keyed.empty, Keyed.empty⟩
  counts := Keyed.empty

def updateStatus (caller : ℕ) (status : String) : List OfferAction :=
  [.update caller { rowVersion := some caller, status := some status } caller, .request caller ⟨0, 0⟩,
    .enqueue caller]

/-- The offer becomes available while the task of an earlier update has the lock: it runs again. -/
theorem offer_rebuild_covers_rerun : ∃ s, run (step sellEnv) (start soldStore [] [])
      (updateStatus 1 "sold" ++ [.start 1 0, .tryLock 1, .readGeneration 1] ++ updateStatus 2 "available" ++
        [.start 2 0, .tryLock 2, .clear 1, .complete 1 0, .release 1, .rerun 1, .start 3 0, .tryLock 3,
          .readGeneration 3, .clear 3, .compute 3, .complete 3 0, .release 3]) = some s ∧
    1 ∈ s.concerned sellEnv ∧ s.Covered sellEnv := by
  obtain ⟨s, hrun, hs⟩ := map_eq_some_iff.mp (by decide +kernel : (run (step sellEnv) (start soldStore [] [])
      (updateStatus 1 "sold" ++ [.start 1 0, .tryLock 1, .readGeneration 1] ++ updateStatus 2 "available" ++
        [.start 2 0, .tryLock 2, .clear 1, .complete 1 0, .release 1, .rerun 1, .start 3 0, .tryLock 3,
          .readGeneration 3, .clear 3, .compute 3, .complete 3 0, .release 3])).map (fun s =>
      (decide (1 ∈ s.concerned sellEnv), decide (s.Idle sellEnv), decide s.AllRequested)) = some (true, true, true))
  obtain ⟨hconcerned, hs⟩ := Prod.mk.inj hs
  obtain ⟨hidle, hrequested⟩ := Prod.mk.inj hs
  exact ⟨s, hrun, of_decide_eq_true hconcerned, offer_rebuild_covers (by decide +kernel) hrun
    (of_decide_eq_true hidle) (of_decide_eq_true hrequested)⟩

/-- The offer becomes available between the work list of an earlier task and its generation: the task of
the update is skipped, the row is completed, and the demande is not recomputed. -/
theorem update_not_covered : ∃ s, run (step sellEnv) (start soldStore [] [])
      (updateStatus 1 "sold" ++ [.start 1 0] ++ updateStatus 2 "available" ++
        [.tryLock 1, .readGeneration 1, .start 2 0, .tryLock 2, .clear 1, .complete 1 0, .release 1]) = some s ∧
    s.Idle sellEnv ∧ s.AllRequested ∧ s.queue = [] ∧ s.runs.isEmpty = true ∧
    getDemandeIdsForOffer s.store.db 1 = [1] ∧ ¬ s.Covered sellEnv := by
  obtain ⟨s, hrun, hs⟩ := map_eq_some_iff.mp (by decide +kernel : (run (step sellEnv) (start soldStore [] [])
      (updateStatus 1 "sold" ++ [.start 1 0] ++ updateStatus 2 "available" ++
        [.tryLock 1, .readGeneration 1, .start 2 0, .tryLock 2, .clear 1, .complete 1 0, .release 1])).map (fun s =>
      decide (s.Idle sellEnv ∧ s.AllRequested ∧ s.queue = [] ∧ s.runs.isEmpty = true ∧
        getDemandeIdsForOffer s.store.db 1 = [1] ∧ ¬ s.Covered sellEnv)) = some true)
  exact ⟨s, hrun, of_decide_eq_true hs⟩

end OfferDesk

end ImmoApp.Matching
