import ImmoApp.Foundation.Keyed

/-!
# Operations on one row, and their batches

Since no two applications to different keys meet, every row ends up as its own application leaves it, and a batch that
treats each row so has the same result, in whichever order the keys are taken.

An operation may also be refused, and then nothing of the whole is done.  A batch that leaves some keys out has the same
result exactly when one of its own keys is refused, or the rows left out are as the operation would write them.
-/

namespace ImmoApp.Keyed

open List Option

variable {ι κ β : Type*} [DecidableEq κ]

/-- Apply an operation to one key after the other: the table at the end, and the keys to which it answered yes. -/
def applyEach (step : ι → Keyed κ β → Keyed κ β × Bool) : List ι → Keyed κ β → Keyed κ β × List ι
  | [], t => (t, [])
  | i :: rest, t =>
    let others := applyEach step rest (step i t).1
    (others.1, if (step i t).2 then i :: others.2 else others.2)

/-- The operation reads and writes the row of its key: what it writes and what it answers depend on that row. -/
structure RowStep (key : ι → κ) (write : ι → Option β → Option β) (answer : ι → Option β → Bool)
    (step : ι → Keyed κ β → Keyed κ β × Bool) : Prop where
  get? : ∀ i t k, (step i t).1.get? k = if k = key i then write i (t.get? k) else t.get? k
  answer : ∀ i t, (step i t).2 = answer i (t.get? (key i))

/-- Each of the keys is treated as the operation on its row says. -/
structure TreatsEach (key : ι → κ) (write : ι → Option β → Option β) (answer : ι → Option β → Bool) (ids : List ι)
    (t : Keyed κ β) (result : Keyed κ β × List ι) : Prop where
  row : ∀ i ∈ ids, result.1.get? (key i) = write i (t.get? (key i))
  other : ∀ k, k ∉ ids.map key → result.1.get? k = t.get? k
  answers : ∀ i, i ∈ result.2 ↔ i ∈ ids ∧ answer i (t.get? (key i)) = true

variable {key : ι → κ} {write : ι → Option β → Option β} {answer : ι → Option β → Bool}

/-- Applied to distinct keys one after the other, the operation treats each of them. -/
theorem RowStep.treatsEach {step : ι → Keyed κ β → Keyed κ β × Bool} (h : RowStep key write answer step)
    (hkey : Function.Injective key) {ids : List ι} (hids : ids.Nodup) (t : Keyed κ β) :
    TreatsEach key write answer ids t (applyEach step ids t) := by
  induction ids generalizing t with
  | nil =>
    refine ⟨?_, fun _ _ => rfl, ?_⟩
    · intro i hi
      cases hi
    · intro i
      exact ⟨fun hi => (not_mem_nil hi).elim, fun hi => (not_mem_nil hi.1).elim⟩
  | cons j rest ih =>
    obtain ⟨hj, hrest⟩ := nodup_cons.mp hids
    have hlater := ih hrest (step j t).1
    -- the first application leaves the rows of the later ones alone
    have hkept : ∀ i ∈ rest, (step j t).1.get? (key i) = t.get? (key i) := by
      intro i hi
      have hne : key i ≠ key j := fun heq => hj (hkey heq ▸ hi)
      rw [h.get?, if_neg hne]
    have hfirst : key j ∉ rest.map key := by
      rw [List.mem_map_of_injective hkey]
      exact hj
    refine ⟨?_, ?_, ?_⟩
    · intro i hi
      rcases mem_cons.mp hi with rfl | hi
      · exact (hlater.other _ hfirst).trans (by rw [h.get?, if_pos rfl])
      · exact (hlater.row i hi).trans (by rw [hkept i hi])
    · intro k hk
      rw [map_cons, mem_cons, not_or] at hk
      exact (hlater.other k hk.2).trans (by rw [h.get?, if_neg hk.1])
    · intro i
      have hmem : i ∈ (applyEach step (j :: rest) t).2 ↔
          (i = j ∧ (step j t).2 = true) ∨ i ∈ (applyEach step rest (step j t).1).2 := by
        change i ∈ (if (step j t).2 then _ else _) ↔ _
        by_cases hyes : (step j t).2 = true
        · rw [if_pos hyes, mem_cons]
          simp only [hyes, and_true]
        · rw [if_neg hyes]
          simp only [hyes, Bool.false_eq_true, and_false, false_or]
      rw [hmem, hlater.answers, h.answer, mem_cons]
      constructor
      · rintro (⟨rfl, hyes⟩ | ⟨hi, hyes⟩)
        · exact ⟨.inl rfl, hyes⟩
        · rw [hkept i hi] at hyes
          exact ⟨.inr hi, hyes⟩
      · rintro ⟨rfl | hi, hyes⟩
        · exact .inl ⟨rfl, hyes⟩
        · rw [← hkept i hi] at hyes
          exact .inr ⟨hi, hyes⟩

/-- The treatment of some keys determines the table and the answers. -/
theorem TreatsEach.unique {ids ids' : List ι} {t : Keyed κ β} {result result' : Keyed κ β × List ι}
    (h : TreatsEach key write answer ids t result) (h' : TreatsEach key write answer ids' t result')
    (hids : ∀ i, i ∈ ids ↔ i ∈ ids') : result.1.Same result'.1 ∧ ∀ i, i ∈ result.2 ↔ i ∈ result'.2 := by
  have hkeys : ∀ k, k ∈ ids.map key ↔ k ∈ ids'.map key := by
    intro k
    simp only [List.mem_map, hids]
  refine ⟨fun k => ?_, fun i => ?_⟩
  · by_cases hk : k ∈ ids.map key
    · obtain ⟨i, hi, rfl⟩ := mem_map.mp hk
      rw [h.row i hi, h'.row i ((hids i).mp hi)]
    · rw [h.other k hk, h'.other k (fun hk' => hk ((hkeys k).mpr hk'))]
  · rw [h.answers, h'.answers, hids]

/-! ### Operations that may be refused -/

section Refusable

variable {key : ι → κ} {write : ι → Option β → Option (Option β)}

/-- The operation reads and writes the row of its key, or is refused for what that row is. -/
structure RefusableStep (key : ι → κ) (write : ι → Option β → Option (Option β))
    (step : ι → Keyed κ β → Option (Keyed κ β)) : Prop where
  refused : ∀ i t, write i (t.get? (key i)) = none → step i t = none
  written : ∀ i t row, write i (t.get? (key i)) = some row →
    ∃ t', step i t = some t' ∧ ∀ k, t'.get? k = if k = key i then row else t.get? k

/-- Each of the keys is treated as the operation on its row says, or nothing is done since one of them is refused. -/
structure TreatsAll (key : ι → κ) (write : ι → Option β → Option (Option β)) (ids : List ι) (t : Keyed κ β)
    (result : Option (Keyed κ β)) : Prop where
  refused : result = none ↔ ∃ i ∈ ids, write i (t.get? (key i)) = none
  row : ∀ t', result = some t' → ∀ i ∈ ids, write i (t.get? (key i)) = some (t'.get? (key i))
  other : ∀ t', result = some t' → ∀ k, k ∉ ids.map key → t'.get? k = t.get? k

/-- Applied to distinct keys one after the other, the operation treats all of them. -/
theorem RefusableStep.treatsAll {step : ι → Keyed κ β → Option (Keyed κ β)} (h : RefusableStep key write step)
    {ids : List ι} (hids : (ids.map key).Nodup) (t : Keyed κ β) :
    TreatsAll key write ids t (ids.foldlM (fun t i => step i t) t) := by
  induction ids generalizing t with
  | nil =>
    refine ⟨?_, ?_, ?_⟩
    · simp
    · intro t' _ i hi
      cases hi
    · rintro t' heq k -
      rw [some.inj heq]
  | cons j rest ih =>
    obtain ⟨hj, hrest⟩ := nodup_cons.mp hids
    rw [foldlM_cons]
    cases hwrite : write j (t.get? (key j)) with
    | none =>
      rw [h.refused j t hwrite]
      refine ⟨?_, ?_, ?_⟩
      · exact iff_of_true rfl ⟨j, mem_cons_self, hwrite⟩
      · intro t' heq
        cases heq
      · intro t' heq
        cases heq
    | some row =>
      obtain ⟨u, hu, hget⟩ := h.written j t row hwrite
      rw [hu, bind_eq_bind, bind_some]
      have hlater := ih hrest u
      -- the first application leaves the rows of the later ones alone
      have hkept : ∀ i ∈ rest, u.get? (key i) = t.get? (key i) := by
        intro i hi
        have hne : key i ≠ key j := fun heq => hj (heq ▸ mem_map_of_mem hi)
        rw [hget, if_neg hne]
      refine ⟨?_, ?_, ?_⟩
      · rw [hlater.refused]
        constructor
        · rintro ⟨i, hi, hnone⟩
          rw [hkept i hi] at hnone
          exact ⟨i, mem_cons_of_mem j hi, hnone⟩
        · rintro ⟨i, hi, hnone⟩
          rcases mem_cons.mp hi with rfl | hi
          · rw [hwrite] at hnone
            cases hnone
          · exact ⟨i, hi, by rw [hkept i hi, hnone]⟩
      · intro t' heq i hi
        rcases mem_cons.mp hi with rfl | hi
        · rw [hwrite, hlater.other t' heq _ hj, hget, if_pos rfl]
        · rw [← hkept i hi]
          exact hlater.row t' heq i hi
      · intro t' heq k hk
        rw [map_cons, mem_cons, not_or] at hk
        rw [hlater.other t' heq k hk.2, hget, if_neg hk.1]

/-- A treatment of all the keys against one that leaves some of them out. -/
theorem TreatsAll.same_iff {ids part : List ι} {t : Keyed κ β} {result result' : Option (Keyed κ β)}
    (h : TreatsAll key write ids t result) (h' : TreatsAll key write part t result')
    (hids : (ids.map key).Nodup) (hpart : ∀ i ∈ part, i ∈ ids) :
    Option.Rel Same result' result ↔ (∃ i ∈ part, write i (t.get? (key i)) = none) ∨
      ∀ i ∈ ids, i ∉ part → write i (t.get? (key i)) = some (t.get? (key i)) := by
  have hkey : ∀ i ∈ ids, i ∉ part → key i ∉ part.map key := by
    intro i hi hout hmem
    obtain ⟨i', hi', heq⟩ := mem_map.mp hmem
    exact hout (inj_on_of_nodup_map hids (hpart i' hi') hi heq ▸ hi')
  by_cases hrefused : ∃ i ∈ part, write i (t.get? (key i)) = none
  · obtain ⟨i, hi, hnone⟩ := hrefused
    have hresult := h.refused.mpr ⟨i, hpart i hi, hnone⟩
    have hresult' := h'.refused.mpr ⟨i, hi, hnone⟩
    rw [hresult, hresult']
    exact iff_of_true .none (.inl ⟨i, hi, hnone⟩)
  · obtain ⟨u', hu'⟩ := ne_none_iff_exists'.mp (mt h'.refused.mp hrefused)
    rw [or_iff_right hrefused, hu']
    constructor
    · intro hrel
      cases hresult : result with
      | none =>
        rw [hresult] at hrel
        cases hrel
      | some u =>
        rw [hresult] at hrel
        obtain ⟨hsame⟩ := hrel
        intro i hi hout
        rw [h.row u hresult i hi, ← hsame, h'.other u' hu' _ (hkey i hi hout)]
    · intro hkeep
      have hdone : result ≠ none := by
        intro hnone
        obtain ⟨i, hi, hwrite⟩ := h.refused.mp hnone
        by_cases hin : i ∈ part
        · exact hrefused ⟨i, hin, hwrite⟩
        · rw [hkeep i hi hin] at hwrite
          cases hwrite
      obtain ⟨u, hu⟩ := ne_none_iff_exists'.mp hdone
      rw [hu]
      refine .some fun k => ?_
      by_cases hk : k ∈ ids.map key
      · obtain ⟨i, hi, rfl⟩ := mem_map.mp hk
        have hrow := h.row u hu i hi
        by_cases hin : i ∈ part
        · exact some.inj ((h'.row u' hu' i hin).symm.trans hrow)
        · rw [hkeep i hi hin] at hrow
          rw [h'.other u' hu' _ (hkey i hi hin), some.inj hrow]
      · have hk' : k ∉ part.map key := by
          intro hmem
          obtain ⟨i, hi, rfl⟩ := mem_map.mp hmem
          exact hk (mem_map_of_mem (hpart i hi))
        rw [h'.other u' hu' k hk', h.other u hu k hk]

end Refusable

end ImmoApp.Keyed
