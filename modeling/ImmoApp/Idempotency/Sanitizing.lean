import ImmoApp.Foundation.JsonKeys
import ImmoApp.Idempotency.Engine

/-!
# What sanitizing leaves

A payload that is stored for replay must not carry a field with one of the words of the denylist in its name.  The
full walk looks at every object in the payload.  A replay by reference copies seven members of the payload, with
whatever is in them: `sanitized_clean_iff` says when that is enough.
-/

namespace ImmoApp.Idempotency

def NoBlockedKey (payload : Json) : Prop := ∀ key ∈ payload.keys, isBlockedKey key = false

instance (payload : Json) : Decidable (NoBlockedKey payload) :=
  inferInstanceAs (Decidable (∀ key ∈ payload.keys, isBlockedKey key = false))

/-- The members that a replay by reference copies. -/
def referenceFields : List String := ["id", "ids", "resource_id", "resource_url", "task_id", "code", "detail"]

def referencedMembers (payload : Json) : List (String × Json) :=
  referenceFields.filterMap fun key => ((payload.fields?.getD []).get? key).map fun v => (key, v)

def Referenced (payload value : Json) : Prop :=
  ∃ key ∈ referenceFields, (payload.fields?.getD []).get? key = some value

lemma noBlockedKey_scalar (v : JsonScalar) : NoBlockedKey (.scalar v) := by
  intro key hkey
  rw [Json.keys_scalar] at hkey
  cases hkey

/-- An object is free of blocked keys when its own keys are not blocked and its members are free of them. -/
lemma noBlockedKey_obj {fields : List (String × Json)} :
    NoBlockedKey (.obj fields) ↔ ∀ f ∈ fields, isBlockedKey f.1 = false ∧ NoBlockedKey f.2 := by
  unfold NoBlockedKey
  constructor
  · intro h f hf
    exact ⟨h f.1 (Json.mem_keys_obj.mpr ⟨f, hf, .inl rfl⟩),
      fun key hkey => h key (Json.mem_keys_obj.mpr ⟨f, hf, .inr hkey⟩)⟩
  · intro h key hkey
    obtain ⟨f, hf, rfl | hkey⟩ := Json.mem_keys_obj.mp hkey
    · exact (h f hf).1
    · exact (h f hf).2 key hkey

lemma noBlockedKey_arr {items : List Json} : NoBlockedKey (.arr items) ↔ ∀ item ∈ items, NoBlockedKey item := by
  unfold NoBlockedKey
  constructor
  · intro h item hitem key hkey
    exact h key (Json.mem_keys_arr.mpr ⟨item, hitem, hkey⟩)
  · intro h key hkey
    obtain ⟨item, hitem, hkey⟩ := Json.mem_keys_arr.mp hkey
    exact h item hitem key hkey

mutual

lemma noBlockedKey_sanitizeFullSafe : ∀ payload : Json, NoBlockedKey (sanitizeFullSafe payload)
  | .scalar v => by
    rw [sanitizeFullSafe]
    exact noBlockedKey_scalar v
  | .arr items => by
    rw [sanitizeFullSafe, noBlockedKey_arr]
    exact noBlockedKey_sanitizeItems items
  | .obj fields => by
    rw [sanitizeFullSafe, noBlockedKey_obj]
    exact noBlockedKey_sanitizeMapping fields

lemma noBlockedKey_sanitizeMapping : ∀ fields : List (String × Json),
    ∀ f ∈ sanitizeMapping fields, isBlockedKey f.1 = false ∧ NoBlockedKey f.2
  | [] => by simp [sanitizeMapping]
  | (key, value) :: rest => by
    have hrest := noBlockedKey_sanitizeMapping rest
    rw [sanitizeMapping]
    by_cases hdropped : isBlockedKey key = true ∨ key ∉ fullSafeFieldAllowlist
    · rw [if_pos hdropped]
      exact hrest
    · rw [if_neg hdropped]
      have hkey : isBlockedKey key = false := Bool.eq_false_iff.mpr fun h => hdropped (.inl h)
      exact List.forall_mem_cons.mpr ⟨⟨hkey, noBlockedKey_sanitizeFullSafe value⟩, hrest⟩

lemma noBlockedKey_sanitizeItems : ∀ items : List Json, ∀ item ∈ sanitizeItems items, NoBlockedKey item
  | [] => by simp [sanitizeItems]
  | item :: rest => by
    rw [sanitizeItems]
    exact List.forall_mem_cons.mpr ⟨noBlockedKey_sanitizeFullSafe item, noBlockedKey_sanitizeItems rest⟩

end

lemma isBlockedKey_referenceFields : ∀ key ∈ referenceFields, isBlockedKey key = false := by decide +kernel

lemma referenceOnlyPayload_eq (payload : Json) : referenceOnlyPayload payload =
    if referencedMembers payload = [] then .obj [("detail", .str "reference_only_replay")]
    else .obj (referencedMembers payload) := rfl

lemma mem_referencedMembers {payload : Json} {f : String × Json} : f ∈ referencedMembers payload ↔
    f.1 ∈ referenceFields ∧ (payload.fields?.getD []).get? f.1 = some f.2 := by
  simp only [referencedMembers, List.mem_filterMap, Option.map_eq_some_iff]
  constructor
  · rintro ⟨_, hkey, v, hv, rfl⟩
    exact ⟨hkey, hv⟩
  · rintro ⟨hkey, hv⟩
    exact ⟨f.1, hkey, f.2, hv, rfl⟩

lemma noBlockedKey_referenceOnlyPayload {payload : Json} :
    NoBlockedKey (referenceOnlyPayload payload) ↔ ∀ value, Referenced payload value → NoBlockedKey value := by
  have hcopied : NoBlockedKey (.obj (referencedMembers payload)) ↔
      ∀ value, Referenced payload value → NoBlockedKey value := by
    rw [noBlockedKey_obj]
    constructor
    · rintro h value ⟨key, hkey, hv⟩
      exact (h (key, value) (mem_referencedMembers.mpr ⟨hkey, hv⟩)).2
    · intro h f hf
      obtain ⟨hkey, hv⟩ := mem_referencedMembers.mp hf
      exact ⟨isBlockedKey_referenceFields f.1 hkey, h f.2 ⟨f.1, hkey, hv⟩⟩
  rw [referenceOnlyPayload_eq]
  by_cases hempty : referencedMembers payload = []
  · rw [if_pos hempty, ← hcopied, hempty, noBlockedKey_obj, noBlockedKey_obj]
    simp only [List.mem_singleton, forall_eq]
    exact ⟨fun _ f hf => (List.not_mem_nil hf).elim,
      fun _ => ⟨isBlockedKey_referenceFields "detail" (by decide), noBlockedKey_scalar _⟩⟩
  · rw [if_neg hempty, hcopied]

/-- No key of a sanitized payload is blocked, at any depth, exactly when the payload is not replayed by reference or
no value that is copied has one. -/
theorem sanitized_clean_iff (policyId : String) (replayMode : ReplayMode) (payload : Json) :
    NoBlockedKey (sanitizeReplayPayload policyId replayMode payload) ↔
      (replayMode ≠ .referenceOnly ∧ policyId ∉ referenceOnlyPolicies) ∨
        ∀ value, Referenced payload value → NoBlockedKey value := by
  unfold sanitizeReplayPayload
  by_cases hreference : replayMode = .referenceOnly ∨ policyId ∈ referenceOnlyPolicies
  · rw [if_pos hreference, noBlockedKey_referenceOnlyPayload]
    constructor
    · exact .inr
    · rintro (⟨hmode, hpolicy⟩ | h)
      · exact absurd hreference (not_or.mpr ⟨hmode, hpolicy⟩)
      · exact h
  · rw [if_neg hreference]
    refine ⟨fun _ => .inl (not_or.mp hreference), fun _ => ?_⟩
    by_cases hmode : replayMode ≠ .fullSafe
    · rw [if_pos hmode, noBlockedKey_obj]
      simp only [List.mem_singleton, forall_eq]
      exact ⟨isBlockedKey_referenceFields "detail" (by decide), noBlockedKey_scalar _⟩
    · rw [if_neg hmode]
      exact noBlockedKey_sanitizeFullSafe payload

/-- The detail of a payload of `clients/` is replayed with the mail address in it. -/
theorem reference_copies_blocked_key : ¬ NoBlockedKey (sanitizeReplayPayload "route.clients" .fullSafe
      (.obj [("id", .int 7), ("detail", .obj [("email", .str "karim@immo.dz")])])) := by
  decide +kernel

end ImmoApp.Idempotency
