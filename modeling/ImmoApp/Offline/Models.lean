import ImmoApp.Foundation.Json

/-!
# The models of the client

The dataclasses of `core/models_*.py`.  `from_row` reads every attribute of a row through one of the casts of
`models_cast.py`, a protected one through its ciphertext when the key is at hand; `to_dict` writes the attributes back,
without those that were joined in.  A class is the table of its attributes.

What Python does with values that are not text or numbers (`str`, `float`), the cipher and `sanitize_text` are
parameters.
-/

namespace ImmoApp.Offline

open List

/-! ### Attributes -/

structure ModelRuntime where
  str : Json → String
  /-- `float` of a number or a text; `none` where it raises. -/
  float : Json → Option Json
  /-- `get_optional_encryption_service`, with its `decrypt`; `none` where it raises. -/
  cipher : Option (String → Option String)
  sanitize : String → String

inductive Cast where
  | str (default : String)
  /-- `as_str` of a member that is there, and else a default. -/
  | strOrAbsent (absent : String)
  | int (default : ℤ)
  | optionalInt
  | optionalFloat
  | floatOrZero
  | bool
  | optionalBool
  | list

def asStr (rt : ModelRuntime) (default : String) : Option Json → String
  | none | some .null => default
  | some (.str s) => s
  | some v => rt.str v

def asInt (default : ℤ) (v : Option Json) : ℤ := (v.bind Json.toInt?).getD default

def asOptionalFloat (rt : ModelRuntime) : Option Json → Json
  | none | some .null | some (.arr _) | some (.obj _) => .null
  | some v => (rt.float v).getD .null

def Cast.read (rt : ModelRuntime) : Cast → Option Json → Json
  | .str default, v => .str (asStr rt default v)
  | .strOrAbsent absent, none => .str absent
  | .strOrAbsent _, v => .str (asStr rt "" v)
  | .int default, v => .int (asInt default v)
  | .optionalInt, v => ((v.bind Json.toInt?).map Json.int).getD .null
  | .optionalFloat, v => asOptionalFloat rt v
  | .floatOrZero, v =>
    let q := asOptionalFloat rt v
    if q.truthy then q else .scalar (.float 0)
  | .bool, v => .scalar (.bool ((v.map Json.truthy).getD false))
  | .optionalBool, none | .optionalBool, some .null => .null
  | .optionalBool, some v => .scalar (.bool v.truthy)
  | .list, some (.arr items) => .arr items
  | .list, _ => .arr []

/-- How `to_dict` writes an attribute. -/
inductive DictForm where
  | same
  | flag
  | flagOrNone
  | joined
  deriving DecidableEq

/-- What `to_dict` writes for an attribute. -/
def DictForm.write : DictForm → Json → Option Json
  | .same, v => some v
  | .flag, v => some (.int (if v.truthy then 1 else 0))
  | .flagOrNone, v => some (if v.truthy then .int 1 else .null)
  | .joined, _ => none

structure ModelField where
  name : String
  cast : Cast := .str ""
  /-- The column of its ciphertext, if it is protected. -/
  enc : Option String := none
  form : DictForm := .same

/-- The attribute that a ciphertext of the row gives, when there is one that can be decrypted. -/
def ModelField.secret (rt : ModelRuntime) (f : ModelField) (row : Dict String Json) : Option Json := do
  let column ← f.enc
  let ciphertext := asStr rt "" (row.get? column)
  if ciphertext = "" then none
  else do
    let decrypt ← rt.cipher
    let text ← decrypt ciphertext
    match f.cast with
    | .optionalFloat => rt.float (.str text)
    | _ => some (.str (rt.sanitize text))

/-- The attribute that `from_row` reads. -/
def ModelField.read (rt : ModelRuntime) (f : ModelField) (row : Dict String Json) : Json :=
  (f.secret rt row).getD (f.cast.read rt (row.get? f.name))

/-! ### Classes -/

structure ModelClass where
  fields : List ModelField
  /-- The members besides `id` without which `from_row` raises `KeyError`. -/
  required : List String
  /-- No attribute is there twice, and none is `id`. -/
  names : ("id" :: fields.map ModelField.name).Nodup
  written : ∀ k ∈ required, k ∈ (fields.filter fun f => f.form ≠ .joined).map ModelField.name

structure Model where
  id : ℤ
  fields : Dict String Json
  /-- Where the record is on its way, if that is known. -/
  syncStatus : Option String := none
  syncError : String := ""
  isLocalOnly : Bool := false

/-- The model that a row makes when nothing is missing. -/
def ModelClass.build (rt : ModelRuntime) (cls : ModelClass) (row : Dict String Json) : Model where
  id := asInt 0 (row.get? "id")
  fields := cls.fields.map fun f => (f.name, f.read rt row)

/-- The row has the members without which `from_row` raises. -/
def ModelClass.Readable (cls : ModelClass) (row : Dict String Json) : Prop :=
  ∀ k ∈ "id" :: cls.required, (row.get? k).isSome

instance (cls : ModelClass) (row : Dict String Json) : Decidable (cls.Readable row) :=
  inferInstanceAs (Decidable (∀ k ∈ _, _))

/-- `from_row`; there is no model where it raises `KeyError`. -/
def ModelClass.fromRow (rt : ModelRuntime) (cls : ModelClass) (row : Dict String Json) : Option Model :=
  if cls.Readable row then some (cls.build rt row) else none

def ModelClass.toDict (cls : ModelClass) (m : Model) : Dict String Json :=
  ("id", .int m.id) :: cls.fields.filterMap fun f =>
    (f.form.write ((m.fields.get? f.name).getD .null)).map fun v => (f.name, v)

section Rows

variable {rt : ModelRuntime} {cls : ModelClass} {m : Model}

@[simp] lemma get?_id_toDict (cls : ModelClass) (m : Model) : (cls.toDict m).get? "id" = some (.int m.id) := by
  rw [ModelClass.toDict, Dict.get?_cons, if_pos rfl]

lemma readable_toDict (cls : ModelClass) (m : Model) : cls.Readable (cls.toDict m) := by
  intro k hk
  rcases mem_cons.mp hk with rfl | hk
  · rw [get?_id_toDict]
    rfl
  · obtain ⟨f, hf, rfl⟩ := mem_map.mp (cls.written k hk)
    obtain ⟨hf, hform⟩ := mem_filter.mp hf
    have hwritten : ∃ v, f.form.write ((m.fields.get? f.name).getD .null) = some v := by
      cases hform' : f.form with
      | joined => simp [hform'] at hform
      | _ => exact ⟨_, rfl⟩
    obtain ⟨v, hv⟩ := hwritten
    have hmem : (f.name, v) ∈ cls.toDict m := by
      refine mem_cons_of_mem _ (mem_filterMap.mpr ⟨f, hf, ?_⟩)
      rw [hv, Option.map_some]
    rw [Option.isSome_iff_ne_none]
    exact fun hnone => Dict.get?_eq_none_iff.mp hnone _ hmem rfl

lemma get?_fields_build {f : ModelField} (hf : f ∈ cls.fields) (row : Dict String Json) :
    (cls.build rt row).fields.get? f.name = some (f.read rt row) := by
  have hnames : (cls.fields.map ModelField.name).Nodup := (nodup_cons.mp cls.names).2
  have hkeys : ((cls.build rt row).fields.map Prod.fst).Nodup := by
    rw [ModelClass.build, map_map]
    exact hnames
  exact Dict.get?_of_mem hkeys (mem_map_of_mem hf)

end Rows

/-! ### The six classes -/

/-- A protected text, with its ciphertext beside it. -/
def ModelField.secretText (name : String) : List ModelField :=
  [{ name, enc := some (name ++ "_enc") }, { name := name ++ "_enc" }]

/-- The attributes that `Client` and `Listing` share, around their own flags and status. -/
def ModelField.contact (status : String) (isVip : DictForm) : List ModelField :=
  secretText "family_name" ++ secretText "phone" ++ secretText "remarks" ++
    [{ name := "is_vip", cast := .bool, form := isVip }, { name := "status", cast := .str status },
      { name := "deleted_at" }, { name := "created_at" }, { name := "created_loc" }, { name := "updated_at" },
      { name := "row_version", cast := .int 1 }, { name := "family_name_search_idx", cast := .list },
      { name := "phone_search_idx", cast := .list }]

def ModelField.parents : List ModelField :=
  [{ name := "client_id", cast := .int 0 }, { name := "listing_id", cast := .int 0 }]

/-- The attributes of a row that every table has. -/
def ModelField.stamps : List ModelField :=
  [{ name := "deleted_at" }, { name := "created_at" }, { name := "updated_at" },
    { name := "row_version", cast := .int 1 }]

def ModelField.joinedNames : List ModelField :=
  [{ name := "client_name", form := .joined }, { name := "listing_location", form := .joined }]

def ModelField.kinds : List ModelField :=
  [{ name := "type" }, { name := "type_id", cast := .optionalInt }, { name := "action" },
    { name := "action_id", cast := .optionalInt }, { name := "wilaya" }, { name := "wilaya_id", cast := .optionalInt }]

/-- `Client`. -/
def clientModel : ModelClass where
  fields := { name := "tags" } :: ModelField.contact "active" .same
  required := []
  names := by decide
  written := by decide

/-- `Listing`. -/
def listingModel : ModelClass where
  fields := ModelField.contact "available" .flag
  required := []
  names := by decide
  written := by decide

/-- `Visit`. -/
def visitModel : ModelClass where
  fields := ModelField.parents ++
    [{ name := "scheduled_date" }, { name := "scheduled_time" }, { name := "status", cast := .str "scheduled" }] ++
    ModelField.secretText "notes" ++ ModelField.stamps ++ ModelField.joinedNames
  required := ["client_id", "listing_id"]
  names := by decide
  written := by decide

/-- `Contract`. -/
def contractModel : ModelClass where
  fields := ModelField.parents ++
    [{ name := "contract_type" }, { name := "status", cast := .str "draft" }, { name := "start_date" },
      { name := "end_date" }, { name := "amount", cast := .optionalFloat, enc := some "amount_enc" },
      { name := "amount_enc" }, { name := "deposit", cast := .optionalFloat, enc := some "deposit_enc" },
      { name := "deposit_enc" }] ++
    ModelField.secretText "terms" ++ ModelField.secretText "notes" ++ ModelField.stamps ++ ModelField.joinedNames
  required := ["client_id", "listing_id"]
  names := by decide
  written := by decide

/-- `Demande`. -/
def demandeModel : ModelClass where
  fields := { name := "client_id", cast := .int 0 } :: ModelField.kinds ++ ModelField.secretText "locations" ++
    [{ name := "beds_min", cast := .optionalInt }, { name := "surface_min", cast := .optionalFloat },
      { name := "surface_max", cast := .optionalFloat }, { name := "budget_min", cast := .optionalFloat },
      { name := "budget_max", cast := .optionalFloat }, { name := "furnished" }, { name := "floor_min", cast := .int 0 },
      { name := "floor_max", cast := .int 100 }, { name := "elevator", cast := .optionalBool, form := .flagOrNone },
      { name := "accessibility_required", cast := .optionalBool, form := .flagOrNone }, { name := "tags" }] ++
    ModelField.secretText "remarks" ++ ModelField.stamps
  required := ["client_id"]
  names := by decide
  written := by decide

/-- `Offer`. -/
def offerModel : ModelClass where
  fields := { name := "listing_id", cast := .int 0 } :: ModelField.kinds ++ ModelField.secretText "location" ++
    [{ name := "beds", cast := .optionalInt }, { name := "surface", cast := .optionalFloat },
      { name := "budget", cast := .optionalFloat }, { name := "furnished" }, { name := "floor", cast := .int 0 },
      { name := "elevator", cast := .bool, form := .flag },
      { name := "accessibility_supported", cast := .bool, form := .flag },
      { name := "price_negotiable", cast := .bool, form := .flag }, { name := "price_flex_pct", cast := .floatOrZero },
      { name := "link" }, { name := "latitude", cast := .optionalFloat }, { name := "longitude", cast := .optionalFloat }] ++
    ModelField.secretText "remarks" ++ [{ name := "status", cast := .strOrAbsent "available" }] ++ ModelField.stamps
  required := ["listing_id"]
  names := by decide
  written := by decide

end ImmoApp.Offline
