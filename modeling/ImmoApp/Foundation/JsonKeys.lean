import ImmoApp.Foundation.Json

/-!
# The keys of a JSON value

The keys of the objects in a value, at any depth.
-/

namespace ImmoApp.Json

mutual

/-- The keys of the objects in a value, at any depth. -/
def keys : Json → List String
  | .obj fields => fieldKeys fields
  | .arr items => itemKeys items
  | .scalar _ => []

def fieldKeys : List (String × Json) → List String
  | [] => []
  | (key, value) :: rest => key :: (value.keys ++ fieldKeys rest)

def itemKeys : List Json → List String
  | [] => []
  | item :: rest => item.keys ++ itemKeys rest

end

@[simp] lemma keys_scalar (v : JsonScalar) : (Json.scalar v).keys = [] := rfl

lemma mem_keys_obj {key : String} {fields : List (String × Json)} :
    key ∈ (Json.obj fields).keys ↔ ∃ f ∈ fields, key = f.1 ∨ key ∈ f.2.keys := by
  change key ∈ fieldKeys fields ↔ _
  induction fields with
  | nil => simp [fieldKeys]
  | cons _ _ ih =>
    rw [fieldKeys, List.mem_cons, List.mem_append, ih, List.exists_mem_cons_iff, or_assoc]

lemma mem_keys_arr {key : String} {items : List Json} :
    key ∈ (Json.arr items).keys ↔ ∃ item ∈ items, key ∈ item.keys := by
  change key ∈ itemKeys items ↔ _
  induction items with
  | nil => simp [itemKeys]
  | cons _ _ ih => rw [itemKeys, List.mem_append, ih, List.exists_mem_cons_iff]

end ImmoApp.Json
