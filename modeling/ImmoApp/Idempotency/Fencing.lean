import ImmoApp.Idempotency.Provenance

/-!
# Fencing

A request whose record was taken over may still be running, and it will store its response.  The update
of a store looks for the record's id and scope, and the deletion after a refusal for the scope alone;
neither looks at who holds the record.  So a late store changes what its successor has written, or
deletes it.  Where every late store finds no record, records that are completed stay as they are until
they are purged (`fenced_records`).
-/

namespace ImmoApp.Idempotency

open List Option

variable {codec : Codec}

/-- A store by a request whose record was taken over changes nothing, and a completed record stays as
it is unless it is purged after it expired. -/
structure Fenced (s : Engine) (a : Action) (t : Engine) : Prop where
  late : ∀ request response keyring now, a = .store request response keyring now →
    request ∈ s.supplanted → t.records = s.records
  completed : ∀ r ∈ s.records, r.state = .completed →
    r ∈ t.records ∨ ∃ now limit, a = .purge now limit ∧ r.expiresAt < now

def storeHits (context : IdempotencyContext) (response : Response)
    (records : List IdempotencyRecord) : List IdempotencyRecord :=
  if response.isAuthFailure then records.filter fun r => r.scope = context.scope
  else records.filter context.hits

/-- A request whose record was taken over stores only where its statement finds no record. -/
def LateStoresMiss (s : Engine) : Action → Prop
  | .store request response _ _ => request ∈ s.supplanted →
    ∀ context, s.attempts.get? request = some (.running context) → storeHits context response s.records = []
  | _ => True

instance (s : Engine) (a : Action) : Decidable (LateStoresMiss s a) :=
  match a with
  | .store request response _ _ =>
    match h : s.attempts.get? request with
    | some (.running context) =>
      decidable_of_iff (request ∈ s.supplanted → storeHits context response s.records = []) (by
        simp [LateStoresMiss, h])
    | some (.inserting _) | some (.selecting _) | some (.insertingAgain _) | some .over | none =>
      .isTrue (by simp [LateStoresMiss, h])
  | .arrive .. | .insert _ | .select .. | .insertAgain _ | .purge .. => .isTrue trivial

variable {keyring : Keyring} {context : IdempotencyContext} {response : Response} {now request : ℕ} {s t : Engine}
  {r : IdempotencyRecord}

variable {records : List IdempotencyRecord} {a : Action}

lemma storeIdempotency_of_miss (h : storeHits context response records = []) :
    storeIdempotency codec keyring context response now records = records := by
  unfold storeHits at h
  unfold storeIdempotency
  split at h
  · next hauth =>
    rw [if_pos hauth, filter_eq_self]
    intro r hr
    have hmiss := filter_eq_nil_iff.mp h r hr
    simpa using hmiss
  · next hauth =>
    rw [if_neg hauth]
    conv_rhs => rw [← map_id records]
    refine map_congr_left fun r hr => ?_
    rw [if_neg (filter_eq_nil_iff.mp h r hr)]
    rfl

/-- What holds as long as late stores find nothing: a request that runs and was not supplanted holds
its record, which is in progress. -/
structure Leased (s : Engine) : Prop where
  sound : Sound s
  leased : ∀ request context, s.attempts.get? request = some (.running context) →
    request ∉ s.supplanted → ∃ r ∈ s.records, r.id = context.recordId ∧ r.holder = request ∧ r.state = .inProgress

lemma leased_init : Leased Engine.init where
  sound := sound_init
  leased := by simp [Engine.init]

lemma Leased.hits (h : Leased s)
    (hrunning : s.attempts.get? request = some (.running context)) (hnot : request ∉ s.supplanted)
    (response : Response) (hr : r ∈ s.records)
    (hhit : r ∈ storeHits context response s.records) :
    r.holder = request ∧ r.state = .inProgress := by
  obtain ⟨x, hx, hid, hholder, hstate⟩ := h.leased request context hrunning hnot
  have hxscope := (h.sound.held request context hrunning x hx hid).1
  have heq : r = x := by
    unfold storeHits at hhit
    split at hhit
    · have hscope : r.scope = context.scope := by simpa using (mem_filter.mp hhit).2
      exact h.sound.eq_of_scope hr hx (hscope.trans hxscope.symm)
    · have hids := hits_iff.mp (mem_filter.mp hhit).2
      exact h.sound.eq_of_id hr hx (hids.1.trans hid.symm)
  rw [heq]
  exact ⟨hholder, hstate⟩

lemma mem_storeIdempotency_of_miss (hr : r ∈ records) (hmiss : r ∉ storeHits context response records) :
    r ∈ storeIdempotency codec keyring context response now records := by
  unfold storeHits at hmiss
  unfold storeIdempotency
  split at hmiss
  · next hauth =>
    rw [if_pos hauth]
    refine mem_filter.mpr ⟨hr, ?_⟩
    by_contra hscope
    exact hmiss (mem_filter.mpr ⟨hr, by simpa using hscope⟩)
  · next hauth =>
    rw [if_neg hauth]
    refine mem_map.mpr ⟨r, hr, if_neg fun hhits => ?_⟩
    exact hmiss (mem_filter.mpr ⟨hr, hhits⟩)

/-- Under the condition, a store leaves every record alone but the one in progress that the storing
request holds. -/
lemma Leased.mem_store (h : Leased s) (hmiss : LateStoresMiss s (.store request response keyring now))
    (hrunning : s.attempts.get? request = some (.running context))
    (hr : r ∈ s.records) (hother : r.holder ≠ request ∨ r.state ≠ .inProgress) :
    r ∈ storeIdempotency codec keyring context response now s.records := by
  refine mem_storeIdempotency_of_miss hr fun hhit => ?_
  by_cases hlate : request ∈ s.supplanted
  · rw [hmiss hlate context hrunning] at hhit
    cases hhit
  · obtain ⟨hholder, hstate⟩ := h.hits hrunning hlate response hr hhit
    rcases hother with hne | hne
    · exact hne hholder
    · exact hne hstate

lemma mem_purgeExpired {limit : ℕ} (h : Sound s)
    (hr : r ∈ s.records) (hkeep : r.state = .inProgress ∨ now ≤ r.expiresAt) :
    r ∈ purgeExpired now limit s.records := by
  refine mem_filter.mpr ⟨hr, decide_eq_true fun hdoomed => ?_⟩
  obtain ⟨x, hx, hid⟩ := mem_map.mp hdoomed
  have hmem := (mem_insertionSort _).mp (mem_of_mem_take hx)
  obtain ⟨hx, hcond⟩ := mem_filter.mp hmem
  rw [h.eq_of_id hx hr hid] at hcond
  simp only [decide_eq_true_eq] at hcond
  rcases hkeep with hstate | _
  · exact hcond.2 hstate
  · omega

lemma Leased.step (h : Leased s) (hmiss : LateStoresMiss s a) (hstep : s.step codec a = some t) : Leased t := by
  refine ⟨h.sound.step hstep, ?_⟩
  cases step_move hstep with
  | moved _ _ idle eq =>
    subst eq
    intro request' context hatt hnot
    rcases running_of_set hatt with ⟨_, hrun⟩ | ⟨_, hold⟩
    · exact absurd hrun (idle context)
    · exact h.leased request' context hold hnot
  | replayed _ _ _ _ _ _ _ _ _ _ eq =>
    subst eq
    intro request' context hatt hnot
    rcases running_of_set hatt with ⟨_, hrun⟩ | ⟨_, hold⟩
    · cases hrun
    · exact h.leased request' context hold hnot
  | inserted _ _ _ _ eq =>
    unfold Engine.tryInsert at eq
    split at eq
    · cases eq
    · cases eq
      intro request' context hatt hnot
      rcases running_of_set hatt with ⟨heq, hrun⟩ | ⟨_, hold⟩
      · cases hrun
        exact ⟨_, mem_append_right _ mem_cons_self, rfl, heq.symm, rfl⟩
      · obtain ⟨r, hr, hrest⟩ := h.leased request' context hold hnot
        exact ⟨r, mem_append_left _ hr, hrest⟩
  | tookOver request c r fetch _ _ _ eq =>
    subst eq
    obtain ⟨hmem, _⟩ := fetchRecord_some fetch
    intro request' context hatt hnot
    rcases running_of_set hatt with ⟨heq, hrun⟩ | ⟨_, hold⟩
    · cases hrun
      refine ⟨takenOver c request r, mem_map.mpr ⟨r, hmem, if_pos rfl⟩, rfl, heq.symm, rfl⟩
    · have hnot' : request' ∉ s.supplanted := fun hin => hnot (mem_append_left _ hin)
      obtain ⟨x, hx, hid, hholder, hstate⟩ := h.leased request' context hold hnot'
      -- the record that was taken over belongs to the request that is supplanted now
      have hother : x.id ≠ r.id := by
        intro heq
        rw [h.sound.eq_of_id hx hmem heq] at hholder
        exact hnot (mem_append_right _ (by simp [hholder]))
      exact ⟨x, mem_map.mpr ⟨x, hx, if_neg hother⟩, hid, hholder, hstate⟩
  | stored _ _ _ _ _ action running eq =>
    subst eq
    subst action
    intro request' context' hatt hnot
    rcases running_of_set hatt with ⟨_, hrun⟩ | ⟨hne, hold⟩
    · cases hrun
    · obtain ⟨r, hr, hid, hholder, hstate⟩ := h.leased request' context' hold hnot
      exact ⟨r, h.mem_store hmiss running hr (.inl (hholder ▸ hne)), hid, hholder, hstate⟩
  | purged _ _ _ eq =>
    subst eq
    intro request' context hatt hnot
    obtain ⟨r, hr, hid, hholder, hstate⟩ := h.leased request' context hatt hnot
    exact ⟨r, mem_purgeExpired h.sound hr (.inl hstate), hid, hholder, hstate⟩

lemma step_store (hstep : s.step codec (.store request response keyring now) = some t) :
    ∃ context, s.attempts.get? request = some (.running context) ∧
      t = s.store codec request context response keyring now := by
  simp only [Engine.step] at hstep
  split at hstep
  · next context hatt =>
    cases hstep
    exact ⟨context, hatt, rfl⟩
  · cases hstep

lemma Leased.fenced (h : Leased s) (hmiss : LateStoresMiss s a) (hstep : s.step codec a = some t) : Fenced s a t := by
  refine ⟨?_, ?_⟩
  · rintro _ _ _ now rfl hlate
    obtain ⟨context, hrunning, rfl⟩ := step_store hstep
    exact storeIdempotency_of_miss (hmiss hlate context hrunning)
  · intro r hr hstate
    cases step_move hstep with
    | moved _ _ _ eq =>
      subst eq
      exact .inl hr
    | replayed _ _ _ _ _ _ _ _ _ _ eq =>
      subst eq
      exact .inl hr
    | inserted _ _ _ _ eq =>
      unfold Engine.tryInsert at eq
      split at eq
      · cases eq
      · cases eq
        exact .inl (mem_append_left _ hr)
    | tookOver _ _ r' fetch _ state _ eq =>
      subst eq
      obtain ⟨hmem, _⟩ := fetchRecord_some fetch
      have hother : r.id ≠ r'.id := by
        intro heq
        rw [h.sound.eq_of_id hr hmem heq] at hstate
        exact state hstate
      exact .inl (mem_map.mpr ⟨r, hr, if_neg hother⟩)
    | stored _ _ _ _ _ action running eq =>
      subst eq
      subst action
      exact .inl (h.mem_store hmiss running hr (.inr (by simp [hstate])))
    | purged now limit action eq =>
      subst eq
      subst action
      by_cases hexpired : r.expiresAt < now
      · exact .inr ⟨now, limit, rfl, hexpired⟩
      · exact .inl (mem_purgeExpired h.sound hr (.inr (by omega)))

/-- In a run in which every store by a request whose record was taken over finds no record, late stores
change nothing and completed records stay until they are purged. -/
theorem fenced_records (codec : Codec) {acts : List Action} {s t : Engine} {a : Action}
    (hmiss : Guarded (Engine.step codec) LateStoresMiss Engine.init (acts ++ [a]))
    (hrun : run (Engine.step codec) Engine.init acts = some s) (hstep : s.step codec a = some t) :
    Fenced s a t := by
  obtain ⟨hacts, hlast⟩ := guarded_append.mp hmiss
  have hleased : Leased s :=
    run_invariant (fun _ _ _ h hm hs => h.step hm hs) leased_init hacts hrun
  exact hleased.fenced (hlast s hrun).1 hstep

/-- A slow request loses its record to a second one, which is refused and whose record is deleted; the
slow one then stores, and finds nothing. -/
def lateStoreMisses : List Action :=
  [sampleArrival 1 "b" 0, .insert 1, sampleArrival 2 "b" 10, .insert 2, .select 2 noKeys noKeys,
    .store 2 { sampleCreated with statusCode := 403 } noKeys 11]

/-- A slow request loses its record to a second one, which completes it. -/
def completedBySecond : List Action :=
  [sampleArrival 1 "b" 0, .insert 1, sampleArrival 2 "b" 10, .insert 2, .select 2 noKeys noKeys,
    .store 2 sampleCreated noKeys 11]

def slowStore (statusCode : ℕ) : Action :=
  .store 1 { sampleCreated with statusCode } noKeys 12

theorem fenced_records_lateStoreMisses : ∃ s t,
    run (Engine.step sampleCodec) Engine.init lateStoreMisses = some s ∧ s.supplanted = [1] ∧
      s.step sampleCodec (slowStore 201) = some t ∧ Fenced s (slowStore 201) t := by
  have hfacts : (run (Engine.step sampleCodec) Engine.init lateStoreMisses).map (fun s =>
      (s.supplanted, (s.step sampleCodec (slowStore 201)).isSome)) = some ([1], true) := by
    decide +kernel
  obtain ⟨s, hrun, hs⟩ := map_eq_some_iff.mp hfacts
  obtain ⟨hsupplanted, hsome⟩ := Prod.mk.inj hs
  obtain ⟨t, ht⟩ := isSome_iff_exists.mp hsome
  exact ⟨s, t, hrun, hsupplanted, ht, fenced_records sampleCodec (by decide +kernel) hrun ht⟩

/-- The slow request rewrites the record its successor completed, or deletes it. -/
theorem late_store_hits_completed_record : ¬ (∀ acts s t a, run (Engine.step sampleCodec) Engine.init acts = some s →
      s.step sampleCodec a = some t → Fenced s a t) ∧
    (run (Engine.step sampleCodec) Engine.init (completedBySecond ++ [slowStore 500])).map
      (fun s => s.records.map IdempotencyRecord.state) = some [.failedTransient] ∧
    (run (Engine.step sampleCodec) Engine.init (completedBySecond ++ [slowStore 401])).map
      (fun s => s.records) = some [] := by
  refine ⟨fun h => ?_, by decide +kernel, by decide +kernel⟩
  have hfacts : (run (Engine.step sampleCodec) Engine.init completedBySecond).map (fun s =>
      (s.supplanted, s.records.map IdempotencyRecord.state, (s.step sampleCodec (slowStore 401)).map Engine.records))
      = some ([1], [.completed], some []) := by decide +kernel
  obtain ⟨s, hrun, hs⟩ := map_eq_some_iff.mp hfacts
  simp only [Prod.mk.injEq] at hs
  obtain ⟨hsupplanted, hstates, hstep⟩ := hs
  obtain ⟨t, ht, hempty⟩ := map_eq_some_iff.mp hstep
  have hfenced := (h _ s t _ hrun ht).late 1 _ _ _ rfl (by simp [hsupplanted])
  rw [hempty] at hfenced
  rw [← hfenced] at hstates
  cases hstates

end ImmoApp.Idempotency
