import ImmoApp.Idempotency.Engine

/-!
# The records of the idempotency engine

What a step can do to the table (`Move`), and what holds of the table and the running requests in every
reachable state: ids and scopes are unique, and a running request and the record it got hold of, as
long as that record exists, have the same scope and the same hashes.  Ids are never reused, so a record
that was deleted and inserted again under the same scope is another record.
-/

namespace ImmoApp.Idempotency

open List

variable {codec : Codec}

/-! ### The kinds of step -/

inductive Move (codec : Codec) (s : Engine) (a : Action) (t : Engine) : Prop where
  /-- A request moves on without touching the table. -/
  | moved (request : ℕ) (att : Attempt) (idle : ∀ context, att ≠ .running context)
      (eq : t = s.set request att)
  /-- A request receives the response of a completed record with its hashes. -/
  | replayed (request : ℕ) (cached reloaded : Keyring) (c : Check) (r : IdempotencyRecord)
      (response : Response) (fetch : fetchRecord s.records c.context.scope = some r)
      (hashes : r.hashes = c.context.hashes) (state : r.state = .completed)
      (answer : completedAnswer codec cached reloaded r c.context.scope.idempotencyKey = .replayed response)
      (eq : t = s.answer request c (.replayed response))
  | inserted (request : ℕ) (c : Check) (free : ∀ r ∈ s.records, r.scope ≠ c.context.scope)
      (waiting : ∀ context, s.attempts.get? request ≠ some (.running context))
      (eq : s.tryInsert request c = some t)
  /-- A record that is not completed is taken over by a request with its hashes. -/
  | tookOver (request : ℕ) (c : Check) (r : IdempotencyRecord)
      (fetch : fetchRecord s.records c.context.scope = some r)
      (hashes : r.hashes = c.context.hashes) (state : r.state ≠ .completed)
      (waiting : ∀ context, s.attempts.get? request ≠ some (.running context))
      (eq : t = s.takeOver request c r)
  | stored (request : ℕ) (context : IdempotencyContext) (response : Response) (keyring : Keyring)
      (now : ℕ) (action : a = .store request response keyring now)
      (running : s.attempts.get? request = some (.running context))
      (eq : t = s.store codec request context response keyring now)
  | purged (now limit : ℕ) (action : a = .purge now limit)
      (eq : t = { s with records := purgeExpired now limit s.records })

variable {records : List IdempotencyRecord} {r r' : IdempotencyRecord} {c : Check} {s t : Engine} {request : ℕ}
  {a : Action}

lemma fetchRecord_some {scope : IdempotencyScope}
    (h : fetchRecord records scope = some r) : r ∈ records ∧ r.scope = scope :=
  ⟨mem_of_find?_eq_some h, by simpa using find?_some h⟩

lemma judge_cases {cached reloaded : Keyring} {v : Verdict} (h : judge codec cached reloaded records c = v) :
    v = .absent ∨ (∃ response, v = .answer (.refused response)) ∨
      (∃ r response, fetchRecord records c.context.scope = some r ∧ r.hashes = c.context.hashes ∧
        r.state = .completed ∧ completedAnswer codec cached reloaded r
          c.context.scope.idempotencyKey = .replayed response ∧ v = .answer (.replayed response)) ∨
      (∃ r, fetchRecord records c.context.scope = some r ∧ r.hashes = c.context.hashes ∧
        r.state ≠ .completed ∧ v = .takeOver r) := by
  unfold judge at h
  split at h
  · exact .inl h.symm
  · next r hfetch =>
    split at h
    · exact .inr (.inl ⟨_, h.symm⟩)
    · next hhashes =>
      rw [not_not] at hhashes
      split at h
      · next hstate =>
        cases hanswer : completedAnswer codec cached reloaded r c.context.scope.idempotencyKey with
        | replayed response =>
          rw [hanswer] at h
          exact .inr (.inr (.inl ⟨r, response, hfetch, hhashes, hstate, hanswer, h.symm⟩))
        | refused response =>
          rw [hanswer] at h
          exact .inr (.inl ⟨response, h.symm⟩)
      · next hstate =>
        -- the record is locked, so that the second look finds it as it was
        have hwait : waitForCompletion codec cached reloaded records c.context.scope c.context.scope.idempotencyKey
              = .refused (inProgressResponse c.context.scope.idempotencyKey) := by
          unfold waitForCompletion
          rw [hfetch]
          exact if_neg hstate
        split at h
        · split at h
          · rw [hwait] at h
            exact .inr (.inl ⟨_, h.symm⟩)
          · exact .inr (.inr (.inr ⟨r, hfetch, hhashes, hstate, h.symm⟩))
        · exact .inr (.inr (.inr ⟨r, hfetch, hhashes, hstate, h.symm⟩))

lemma tryInsert_free (h : s.tryInsert request c = some t) : ∀ r ∈ s.records, r.scope ≠ c.context.scope := by
  unfold Engine.tryInsert at h
  split at h
  · cases h
  · next hany => simpa using hany

theorem step_move (hstep : s.step codec a = some t) :
    Move codec s a t := by
  cases a with
  | arrive request =>
    simp only [Engine.step] at hstep
    split at hstep
    · cases hstep
      exact Move.moved request _ (fun _ => by simp) rfl
    · cases hstep
      exact Move.moved request _ (fun _ => by simp) rfl
    · cases hstep
  | insert request =>
    simp only [Engine.step] at hstep
    split at hstep
    · next c hatt =>
      cases htry : s.tryInsert request c with
      | some =>
        rw [htry] at hstep
        cases hstep
        exact Move.inserted request c (tryInsert_free htry) (by simp [hatt]) htry
      | none =>
        rw [htry] at hstep
        cases hstep
        exact Move.moved request _ (fun _ => by simp) rfl
    · cases hstep
  | select request cached reloaded =>
    simp only [Engine.step] at hstep
    split at hstep
    · next c hatt =>
      rcases judge_cases (rfl : judge codec cached reloaded s.records c = _) with
        hv | ⟨response, hv⟩ | ⟨r, response, hfetch, hhashes, hstate, hanswer, hv⟩ | ⟨r, hfetch, hhashes, hstate, hv⟩
      all_goals
        rw [hv] at hstep
        cases hstep
      · exact Move.moved request _ (fun _ => by simp) rfl
      · exact Move.moved request _ (fun _ => by simp) rfl
      · exact Move.replayed request cached reloaded c r response hfetch hhashes hstate hanswer rfl
      · exact Move.tookOver request c r hfetch hhashes hstate (by simp [hatt]) rfl
    · cases hstep
  | insertAgain request =>
    simp only [Engine.step] at hstep
    split at hstep
    · next c hatt =>
      cases htry : s.tryInsert request c with
      | some =>
        rw [htry] at hstep
        cases hstep
        exact Move.inserted request c (tryInsert_free htry) (by simp [hatt]) htry
      | none =>
        rw [htry] at hstep
        cases hstep
        exact Move.moved request _ (fun _ => by simp) rfl
    · cases hstep
  | store request response keyring now =>
    simp only [Engine.step] at hstep
    split at hstep
    · next context hatt =>
      cases hstep
      exact Move.stored request context response keyring now rfl hatt rfl
    · cases hstep
  | purge now limit =>
    cases hstep
    exact Move.purged now limit rfl rfl

/-! ### Records and the requests that hold them -/

/-- `y` is `x` with its identity, scope and hashes. -/
structure SameRecord (x y : IdempotencyRecord) : Prop where
  id : y.id = x.id
  scope : y.scope = x.scope
  hashes : y.hashes = x.hashes

structure Sound (s : Engine) : Prop where
  scopes : (s.records.map IdempotencyRecord.scope).Nodup
  ids : (s.records.map IdempotencyRecord.id).Nodup
  drawn : ∀ r ∈ s.records, r.id < s.nextId
  carried : ∀ request context, s.attempts.get? request = some (.running context) → context.recordId < s.nextId
  /-- A running request has the scope and the hashes of the record it got hold of. -/
  held : ∀ request context, s.attempts.get? request = some (.running context) →
    ∀ r ∈ s.records, r.id = context.recordId → r.scope = context.scope ∧ r.hashes = context.hashes

lemma sound_init : Sound Engine.init where
  scopes := by simp [Engine.init]
  ids := by simp [Engine.init]
  drawn := by simp [Engine.init]
  carried := by simp [Engine.init]
  held := by simp [Engine.init]

lemma Sound.eq_of_id (h : Sound s) (hr : r ∈ s.records) (hr' : r' ∈ s.records) (hid : r.id = r'.id) : r = r' :=
  inj_on_of_nodup_map h.ids hr hr' hid

lemma Sound.eq_of_scope (h : Sound s) (hr : r ∈ s.records)
    (hr' : r' ∈ s.records) (hscope : r.scope = r'.scope) : r = r' :=
  inj_on_of_nodup_map h.scopes hr hr' hscope

lemma Sound.fetchRecord_of_mem (h : Sound s) (hr : r ∈ s.records) : fetchRecord s.records r.scope = some r := by
  cases hfind : fetchRecord s.records r.scope with
  | none =>
    have hnone := find?_eq_none.mp hfind r hr
    simp at hnone
  | some =>
    obtain ⟨hx, hxscope⟩ := fetchRecord_some hfind
    rw [h.eq_of_scope hx hr hxscope]

private lemma Sound.of_records (h : Sound s)
    {f : IdempotencyRecord → IdempotencyRecord} (hf : ∀ r, SameRecord r (f r))
    (records : t.records.Sublist (s.records.map f)) (nextId : t.nextId = s.nextId)
    (running : ∀ request context, t.attempts.get? request = some (.running context) →
      context.recordId < s.nextId ∧ ∀ r ∈ s.records, r.id = context.recordId →
        r.scope = context.scope ∧ r.hashes = context.hashes) : Sound t := by
  have hscopes : (s.records.map f).map IdempotencyRecord.scope = s.records.map IdempotencyRecord.scope := by
    rw [map_map]
    exact map_congr_left fun r _ => (hf r).scope
  have hids : (s.records.map f).map IdempotencyRecord.id = s.records.map IdempotencyRecord.id := by
    rw [map_map]
    exact map_congr_left fun r _ => (hf r).id
  refine ⟨?_, ?_, ?_, ?_, ?_⟩
  · exact (hscopes ▸ h.scopes).sublist (records.map _)
  · exact (hids ▸ h.ids).sublist (records.map _)
  · intro r hr
    obtain ⟨x, hx, rfl⟩ := mem_map.mp (records.subset hr)
    rw [(hf x).id, nextId]
    exact h.drawn x hx
  · intro request context hatt
    rw [nextId]
    exact (running request context hatt).1
  · intro request context hatt r hr hid
    obtain ⟨x, hx, rfl⟩ := mem_map.mp (records.subset hr)
    rw [(hf x).scope, (hf x).hashes]
    exact (running request context hatt).2 x hx ((hf x).id.symm.trans hid)

lemma running_of_set {attempts : Dict ℕ Attempt} {request' : ℕ} {att : Attempt}
    {context : IdempotencyContext}
    (h : (attempts.set request att).get? request' = some (.running context)) :
    (request' = request ∧ att = .running context) ∨
      (request' ≠ request ∧ attempts.get? request' = some (.running context)) := by
  rw [Dict.get?_set] at h
  split at h
  · next heq => exact .inl ⟨heq, Option.some.inj h⟩
  · next hne => exact .inr ⟨hne, h⟩

lemma sameRecord_refl (r : IdempotencyRecord) : SameRecord r r := ⟨rfl, rfl, rfl⟩

lemma storeIdempotency_sublist (keyring : Keyring) (context : IdempotencyContext)
    (response : Response) (now : ℕ) (records : List IdempotencyRecord) :
    ∃ f, (∀ r, SameRecord r (f r)) ∧
      (storeIdempotency codec keyring context response now records).Sublist (records.map f) := by
  unfold storeIdempotency
  split
  · refine ⟨id, sameRecord_refl, ?_⟩
    rw [map_id]
    exact filter_sublist
  · refine ⟨_, fun r => ?_, List.Sublist.refl _⟩
    split
    · exact ⟨rfl, rfl, rfl⟩
    · exact sameRecord_refl r

/-- Every step keeps the records and the requests that hold them in order. -/
theorem Sound.step (h : Sound s) (hstep : s.step codec a = some t) :
    Sound t := by
  have hrunning : ∀ request context, s.attempts.get? request = some (.running context) →
      context.recordId < s.nextId ∧ ∀ r ∈ s.records, r.id = context.recordId →
        r.scope = context.scope ∧ r.hashes = context.hashes :=
    fun request context hatt => ⟨h.carried request context hatt, h.held request context hatt⟩
  have hmoved : ∀ {request att}, (∀ context, att ≠ .running context) → ∀ request' context,
      (s.attempts.set request att).get? request' = some (.running context) →
        context.recordId < s.nextId ∧ ∀ r ∈ s.records, r.id = context.recordId →
          r.scope = context.scope ∧ r.hashes = context.hashes := by
    intro request att hidle request' context hatt
    rcases running_of_set hatt with ⟨_, hrun⟩ | ⟨_, hold⟩
    · exact absurd hrun (hidle context)
    · exact hrunning request' context hold
  cases step_move hstep with
  | moved _ _ idle eq =>
    subst eq
    exact h.of_records sameRecord_refl (by simp [Engine.set]) rfl (hmoved idle)
  | replayed _ _ _ _ _ _ _ _ _ _ eq =>
    subst eq
    exact h.of_records sameRecord_refl (by simp [Engine.answer, Engine.set]) rfl (hmoved fun _ => by simp)
  | inserted _ _ free _ eq =>
    unfold Engine.tryInsert at eq
    split at eq
    · cases eq
    · cases eq
      refine ⟨?_, ?_, ?_, ?_, ?_⟩
      · rw [map_append]
        refine nodup_append.mpr ⟨h.scopes, by simp, ?_⟩
        rintro x hx y hy rfl
        obtain ⟨r, hr, rfl⟩ := mem_map.mp hx
        exact free r hr (by simpa [newRecord] using hy)
      · rw [map_append]
        refine nodup_append.mpr ⟨h.ids, by simp, ?_⟩
        rintro x hx y hy rfl
        obtain ⟨r, hr, rfl⟩ := mem_map.mp hx
        have hlt := h.drawn r hr
        simp only [map_cons, map_nil, mem_singleton, newRecord] at hy
        omega
      · intro r hr
        rcases mem_append.mp hr with hr | hr
        · exact Nat.lt_succ_of_lt (h.drawn r hr)
        · rw [mem_singleton.mp hr]
          exact Nat.lt_succ_self _
      · intro request' context hatt
        rcases running_of_set hatt with ⟨_, hrun⟩ | ⟨_, hold⟩
        · cases hrun
          exact Nat.lt_succ_self _
        · exact Nat.lt_succ_of_lt (h.carried request' context hold)
      · intro request' context hatt r hr hid
        rcases running_of_set hatt with ⟨_, hrun⟩ | ⟨_, hold⟩
        · cases hrun
          rcases mem_append.mp hr with hr | hr
          · exact absurd hid (h.drawn r hr).ne
          · rw [mem_singleton.mp hr]
            exact ⟨rfl, rfl⟩
        · rcases mem_append.mp hr with hr | hr
          · exact h.held request' context hold r hr hid
          · rw [mem_singleton.mp hr] at hid
            exact absurd hid (h.carried request' context hold).ne'
  | tookOver request c r fetch hashes _ _ eq =>
    subst eq
    obtain ⟨hmem, hscope⟩ := fetchRecord_some fetch
    refine h.of_records (f := fun r' => if r'.id = r.id then takenOver c request r' else r') ?_
      (List.Sublist.refl _) rfl ?_
    · intro r'
      split
      · exact ⟨rfl, rfl, rfl⟩
      · exact sameRecord_refl r'
    · intro request' context hatt
      rcases running_of_set hatt with ⟨_, hrun⟩ | ⟨_, hold⟩
      · cases hrun
        refine ⟨h.drawn r hmem, fun r' hr' hid => ?_⟩
        rw [h.eq_of_id hr' hmem hid]
        exact ⟨hscope, hashes⟩
      · exact hrunning request' context hold
  | stored _ context response keyring now _ _ eq =>
    subst eq
    obtain ⟨f, hf, hsub⟩ := @storeIdempotency_sublist codec keyring context response now s.records
    exact h.of_records hf hsub rfl (hmoved fun _ => by simp)
  | purged _ _ _ eq =>
    subst eq
    exact h.of_records sameRecord_refl (by simp [purgeExpired, filter_sublist]) rfl hrunning

end ImmoApp.Idempotency
