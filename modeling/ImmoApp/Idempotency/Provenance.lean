import ImmoApp.Idempotency.Records

/-!
# Where replayed responses come from

The hashes of a record are written when it is inserted, and its response later, perhaps by a request
that took the record over.  Every response that is replayed was stored by the handler's run of a request
with the scope and the hashes of the request that receives it (`replay_provenance`), in every run,
whatever leases expire, whichever records are deleted and inserted again or purged in between.
-/

namespace ImmoApp.Idempotency

open List

variable {codec : Codec}

structure StoredFor (e : StoreEvent) (context : IdempotencyContext) (response : Response) : Prop where
  /-- The handler ran for a request with the same scope. -/
  scope : e.context.scope = context.scope
  hashes : e.context.hashes = context.hashes
  response : response = buildReplayResponse e.columns context.scope.idempotencyKey

/-- Every replayed response was stored by a run for the same scope and hashes, and no request with
other hashes than its scope's record receives a replay. -/
structure ReplaysOwned (codec : Codec) (s : Engine) : Prop where
  provenance : ∀ e ∈ s.replays, ∃ e' ∈ s.stores, StoredFor e' e.context e.response
  /-- A request whose hashes differ from those of the record is not answered with a replay. -/
  mismatch : ∀ request c cached reloaded t, s.attempts.get? request = some (.selecting c) →
    (∃ r ∈ s.records, r.scope = c.context.scope ∧ r.hashes ≠ c.context.hashes) →
    s.step codec (.select request cached reloaded) = some t → t.replays = s.replays

/-- The response of a record was stored by a run for its scope and hashes. -/
structure Sourced (s : Engine) : Prop where
  sound : Sound s
  completed : ∀ r ∈ s.records, r.state = .completed → r.response.isSome
  /-- A stored response comes from a run for the record's scope and hashes. -/
  sourced : ∀ r ∈ s.records, ∀ columns, r.response = some columns → ∃ e ∈ s.stores,
    e.context.scope = r.scope ∧ e.context.hashes = r.hashes ∧ e.columns = columns
  replays : ∀ e ∈ s.replays, ∃ e' ∈ s.stores, StoredFor e' e.context e.response

lemma sourced_init : Sourced Engine.init where
  sound := sound_init
  completed := by simp [Engine.init]
  sourced := by simp [Engine.init]
  replays := by simp [Engine.init]

variable {r : IdempotencyRecord} {response : Response} {context : IdempotencyContext} {s t : Engine}

lemma response_of_completedAnswer {cached reloaded : Keyring} {rawKey : String}
    (h : completedAnswer codec cached reloaded r rawKey = .replayed response) :
    response = buildReplayResponse (r.response.getD .absent) rawKey := by
  unfold completedAnswer completedReplayOrIntegrityError at h
  dsimp only at h
  split at h
  · cases h
  · split at h
    · cases h
    · split at h
      · cases h
      · exact (Answer.replayed.inj h).symm

lemma mem_storeIdempotency {keyring : Keyring}
    {now : ℕ} {records : List IdempotencyRecord}
    (h : r ∈ storeIdempotency codec keyring context response now records) :
    r ∈ records ∨ (response.isAuthFailure = false ∧ ∃ x ∈ records, context.hits x = true ∧
      r = withResponse (storeColumns codec keyring context response) now x) := by
  unfold storeIdempotency at h
  split at h
  · exact .inl (mem_filter.mp h).1
  · next hauth =>
    obtain ⟨x, hx, rfl⟩ := mem_map.mp h
    split
    · next hhits => exact .inr ⟨by simpa using hauth, x, hx, hhits, rfl⟩
    · exact .inl hx

lemma hits_iff : context.hits r = true ↔ r.id = context.recordId ∧ r.scope = context.scope := by
  simp [IdempotencyContext.hits]

private lemma Sourced.of_records (h : Sourced s) (sound : Sound t)
    (records : ∀ r ∈ t.records, (∃ x ∈ s.records, SameRecord x r ∧ r.response = x.response ∧
      (r.state = .completed → x.state = .completed)) ∨ (r.response = none ∧ r.state = .inProgress))
    (stores : t.stores = s.stores) (replays : t.replays = s.replays) : Sourced t where
  sound := sound
  completed := by
    intro r hr hstate
    rcases records r hr with ⟨x, hx, _, hresponse, hcompleted⟩ | ⟨_, hprogress⟩
    · rw [hresponse]
      exact h.completed x hx (hcompleted hstate)
    · rw [hprogress] at hstate
      cases hstate
  sourced := by
    intro r hr columns hcolumns
    rw [stores]
    rcases records r hr with ⟨x, hx, hsame, hresponse, _⟩ | ⟨hnone, _⟩
    · rw [hsame.scope, hsame.hashes]
      exact h.sourced x hx columns (hresponse.symm.trans hcolumns)
    · rw [hnone] at hcolumns
      cases hcolumns
  replays := by
    rw [stores, replays]
    exact h.replays

lemma Sourced.step {a : Action} (h : Sourced s) (hstep : s.step codec a = some t) :
    Sourced t := by
  have hsound := h.sound.step hstep
  have hkept : ∀ r ∈ s.records, ∃ x ∈ s.records, SameRecord x r ∧ r.response = x.response ∧
      (r.state = .completed → x.state = .completed) :=
    fun r hr => ⟨r, hr, sameRecord_refl r, rfl, id⟩
  cases step_move hstep with
  | moved _ _ _ eq =>
    subst eq
    exact h.of_records hsound (fun r hr => .inl (hkept r hr)) rfl rfl
  | replayed _ _ _ _ r _ fetch hashes state answer eq =>
    subst eq
    obtain ⟨hmem, hscope⟩ := fetchRecord_some fetch
    refine ⟨hsound, h.completed, h.sourced, fun e he => ?_⟩
    rcases mem_append.mp he with he | he
    · exact h.replays e he
    · obtain rfl := mem_singleton.mp he
      obtain ⟨columns, hcolumns⟩ := Option.isSome_iff_exists.mp (h.completed r hmem state)
      obtain ⟨e', he', hescope, hehashes, hecolumns⟩ := h.sourced r hmem columns hcolumns
      refine ⟨e', he', hescope.trans hscope, hehashes.trans hashes, ?_⟩
      rw [response_of_completedAnswer answer, hcolumns, hecolumns]
      rfl
  | inserted _ _ _ _ eq =>
    unfold Engine.tryInsert at eq
    split at eq
    · cases eq
    · cases eq
      refine h.of_records hsound (fun r hr => ?_) rfl rfl
      rcases mem_append.mp hr with hr | hr
      · exact .inl (hkept r hr)
      · rw [mem_singleton.mp hr]
        exact .inr ⟨rfl, rfl⟩
  | tookOver _ _ _ _ _ _ _ eq =>
    subst eq
    refine h.of_records hsound (fun r' hr' => .inl ?_) rfl rfl
    obtain ⟨x, hx, rfl⟩ := mem_map.mp hr'
    split
    · exact ⟨x, hx, ⟨rfl, rfl, rfl⟩, rfl, fun hstate => by cases hstate⟩
    · exact hkept x hx
  | stored request context response keyring now _ running eq =>
    subst eq
    have hgrow : s.stores ⊆ (s.store codec request context response keyring now).stores := by
      unfold Engine.store
      dsimp only
      split
      · exact List.Subset.refl _
      · exact subset_append_left _ _
    refine ⟨hsound, ?_, ?_, ?_⟩
    · intro r hr hstate
      rcases mem_storeIdempotency hr with hr | ⟨_, x, _, _, rfl⟩
      · exact h.completed r hr hstate
      · rfl
    · intro r hr columns hcolumns
      rcases mem_storeIdempotency hr with hr | ⟨hauth, x, hx, hhits, rfl⟩
      · obtain ⟨e, he, hrest⟩ := h.sourced r hr columns hcolumns
        exact ⟨e, hgrow he, hrest⟩
      · -- the run that stores has the scope and the hashes of the record it got hold of
        obtain ⟨hid, hscope⟩ := hits_iff.mp hhits
        obtain ⟨_, hhashes⟩ := h.sound.held request context running x hx hid
        refine ⟨⟨request, context, storeColumns codec keyring context response⟩, ?_, hscope.symm,
          hhashes.symm, Option.some.inj hcolumns⟩
        simp [Engine.store, hauth]
    · intro e he
      obtain ⟨e', he', hstored⟩ := h.replays e he
      exact ⟨e', hgrow he', hstored⟩
  | purged _ _ _ eq =>
    subst eq
    exact h.of_records hsound (fun r hr => .inl (hkept r (mem_filter.mp hr).1)) rfl rfl

lemma judge_of_mismatch (h : Sound s) {c : Check}
    (hr : r ∈ s.records) (hscope : r.scope = c.context.scope) (hhashes : r.hashes ≠ c.context.hashes)
    (cached reloaded : Keyring) :
    judge codec cached reloaded s.records c = .answer (.refused mismatchResponse) := by
  have hfetch : fetchRecord s.records c.context.scope = some r := hscope ▸ h.fetchRecord_of_mem hr
  unfold judge
  rw [hfetch]
  exact if_pos hhashes

/-- In every run every replayed response was stored by the handler's run of a request with the same
scope and the same hashes, and a request whose hashes differ from its scope's record is never answered
with a replay. -/
theorem replay_provenance (codec : Codec) (acts : List Action) (s : Engine)
    (hrun : run (Engine.step codec) Engine.init acts = some s) : ReplaysOwned codec s := by
  have hsourced : Sourced s :=
    run_invariant_of_step (fun _ _ _ h hs => h.step hs) sourced_init hrun
  refine ⟨hsourced.replays, ?_⟩
  rintro _ c _ _ t hatt ⟨r, hr, hscope, hhashes⟩ hstep
  simp only [Engine.step, hatt, judge_of_mismatch hsourced.sound hr hscope hhashes] at hstep
  cases hstep
  rfl

/-- A request is run and stored; the same request is sent again, and one with another body. -/
def repeatedRequest : List Action :=
  [sampleArrival 1 "b" 0, .insert 1, .store 1 sampleCreated noKeys 1,
    sampleArrival 2 "b" 2, .insert 2, .select 2 noKeys noKeys,
    sampleArrival 3 "other" 3, .insert 3, .select 3 noKeys noKeys]

/-- Only the repeated request receives the response, and it is its own. -/
theorem replay_provenance_repeatedRequest : ∃ s, run (Engine.step sampleCodec) Engine.init repeatedRequest = some s ∧
      s.replays.map ReplayEvent.request = [2] ∧ ReplaysOwned sampleCodec s := by
  have hfacts : (run (Engine.step sampleCodec) Engine.init repeatedRequest).map
      (fun s => s.replays.map ReplayEvent.request) = some [2] := by decide +kernel
  obtain ⟨s, hrun, hs⟩ := Option.map_eq_some_iff.mp hfacts
  exact ⟨s, hrun, hs, replay_provenance sampleCodec repeatedRequest s hrun⟩

end ImmoApp.Idempotency
