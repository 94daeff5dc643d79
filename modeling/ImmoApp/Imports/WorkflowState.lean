import ImmoApp.Foundation.Json

/-!
# The workflow state and its payload

`ImportWorkflowState` keeps the workflow of a job in typed columns and a JSON object for the keys without a
column.  The code reads it as one dictionary (`_workflow_state_payload`), changes the dictionary and copies
it back (`_copy_payload_to_workflow_state`); both go through all columns.  A key is read back as it was
written, up to the type of its column (`get?_payload_ofPayload`), and what was read is written as
it is (`normal_get?_payload`).
-/

namespace ImmoApp.Imports

open List Option Dict

/-- What Python's conversions of texts and times give. -/
structure Conversions (τ : Type) where
  str : Json → String
  isoformat : τ → String
  fromisoformat : String → Option τ
  str_str : ∀ s, str (.str s) = s
  fromisoformat_isoformat : ∀ t, fromisoformat (isoformat t) = some t
  isoformat_ne_empty : ∀ t, isoformat t ≠ ""

inductive ColumnKind where
  | text
  | flag
  | number
  | dict
  | time

def workflowColumns : Dict String ColumnKind :=
  [("run_id", .text), ("status", .text), ("fingerprint", .text), ("bundle_mode", .text),
    ("topology_side", .text), ("params", .dict), ("prepare_completed", .flag), ("prepare_counts", .dict),
    ("load_counts", .dict), ("cancel_requested", .flag), ("queue_position", .number),
    ("execution_profile", .text), ("admission_mode", .text), ("pressure_reason", .text),
    ("root_plan_index_ready", .flag), ("root_plan_index_manifest_id", .number),
    ("root_plan_index_checksum", .text), ("root_plan_index_key_count", .number),
    ("root_load_anchor_map_ready", .flag), ("root_load_anchor_map_manifest_id", .number),
    ("root_load_anchor_map_checksum", .text), ("root_load_anchor_map_key_count", .number),
    ("finalize_queued", .flag), ("finalized", .flag), ("queued_at", .time), ("started_at", .time),
    ("finished_at", .time)]

def workflowMetadataKeys : List String :=
  ["version", "prepare_chunk_counts", "execution_cost", "review_overflow_count"]

inductive Cell (τ : Type) where
  | text (s : String)
  | flag (b : Bool)
  | number (n : ℤ)
  | dict (d : Dict String Json)
  | time (t : Option τ)

def Cell.kind {τ : Type} : Cell τ → ColumnKind
  | .text _ => .text
  | .flag _ => .flag
  | .number _ => .number
  | .dict _ => .dict
  | .time _ => .time

namespace Conversions

variable {τ : Type} (py : Conversions τ)

/-- `_parse_datetimeish`: an array or an object cannot be looked up in a set. -/
def parseDatetimeish : Option Json → Option (Option τ)
  | none => some none
  | some (.scalar (.str s)) => if s = "" then some none else some (py.fromisoformat s)
  | some (.scalar _) => some none
  | some (.arr _) | some (.obj _) => none

/-- The value of a column after a copy; `int` of something that is no number fails. -/
def store : ColumnKind → Option Json → Option (Cell τ)
  | .text, v => some (.text (((v.filter Json.truthy).map py.str).getD ""))
  | .flag, v => some (.flag (v.any Json.truthy))
  | .number, v => ((v.filter Json.truthy).getD (.int 0)).toInt?.map .number
  | .dict, v => some (.dict ((v.bind Json.fields?).getD []))
  | .time, v => (py.parseDatetimeish v).map .time

/-- What the payload has for a column: a time that is missing has no key. -/
def load : Cell τ → Option Json
  | .text s => some (.str s)
  | .flag b => some (.scalar (.bool b))
  | .number n => some (.int n)
  | .dict d => some (.obj d)
  | .time t => t.map fun t => .str (py.isoformat t)

lemma truthy_str (s : String) : Json.truthy (.str s) = decide (s ≠ "") := rfl

lemma truthy_int (n : ℤ) : Json.truthy (.int n) = decide (n ≠ 0) := rfl

lemma store_load (cell : Cell τ) : py.store cell.kind (py.load cell) = some cell := by
  cases cell with
  | text s =>
    by_cases hs : s = ""
    · subst hs
      rfl
    · have htrue : (some (Json.str s)).filter Json.truthy = some (.str s) := by
        simp [filter_some, truthy_str, hs]
      simp only [Cell.kind, load, store, htrue, map_some, py.str_str, getD_some]
  | flag => simp [Cell.kind, load, store, Json.truthy]
  | number n =>
    by_cases hn : n = 0
    · subst hn
      rfl
    · have htrue : (some (Json.int n)).filter Json.truthy = some (.int n) := by
        simp [filter_some, truthy_int, hn]
      simp only [Cell.kind, load, store, htrue, getD_some]
      rfl
  | dict => simp [Cell.kind, load, store, Json.fields?]
  | time t =>
    cases t with
    | none => simp [Cell.kind, load, store, parseDatetimeish]
    | some =>
      simp [Cell.kind, load, store, parseDatetimeish, py.isoformat_ne_empty, py.fromisoformat_isoformat]

lemma kind_of_store {kind : ColumnKind} {v : Option Json} {cell : Cell τ}
    (h : py.store kind v = some cell) : cell.kind = kind := by
  cases kind with
  | text | flag | dict =>
    cases h
    rfl
  | number | time =>
    obtain ⟨x, -, rfl⟩ := map_eq_some_iff.mp h
    rfl

def normal (k : String) (v : Option Json) : Option Json :=
  match workflowColumns.get? k with
  | none => v
  | some kind => (py.store kind v).bind py.load

end Conversions

/-- A row of `ImportWorkflowState`. -/
structure WorkflowState (τ : Type) where
  cell : String → Option (Cell τ)
  metadata : Dict String Json
  kinds : ∀ k, (cell k).map Cell.kind = workflowColumns.get? k
  extra : ∀ e ∈ metadata, workflowColumns.get? e.1 = none

namespace WorkflowState

variable {τ : Type} (py : Conversions τ)

def columnPayload (st : WorkflowState τ) : Dict String Json :=
  workflowColumns.filterMap fun column =>
    ((st.cell column.1).bind py.load).map fun v => (column.1, v)

/-- `_workflow_state_payload`. -/
def payload (st : WorkflowState τ) : Dict String Json := st.metadata.update (st.columnPayload py)

def metadataOf (p : Dict String Json) : Dict String Json :=
  Dict.update (p.filter fun e => workflowMetadataKeys.contains e.1)
    (p.filter fun e => (workflowColumns.get? e.1).isNone && !workflowMetadataKeys.contains e.1)

lemma metadataOf_extra {p : Dict String Json} : ∀ e ∈ metadataOf p, workflowColumns.get? e.1 = none := by
  have hkeys : ∀ k ∈ workflowMetadataKeys, workflowColumns.get? k = none := by decide
  intro e he
  rcases mem_append.mp he with he | he
  · obtain ⟨x, hx, rfl⟩ := mem_map.mp he
    exact hkeys x.1 (by simpa using (mem_filter.mp hx).2)
  · have hx := (mem_filter.mp (mem_filter.mp he).1).2
    simp only [Bool.and_eq_true, isNone_iff_eq_none] at hx
    exact hx.1

def storable (p : Dict String Json) : Bool :=
  workflowColumns.all fun column => (py.store column.2 (p.get? column.1)).isSome

variable {kind : ColumnKind}

lemma isSome_store_of_storable {p : Dict String Json} (h : storable py p = true) {k : String}
    (hk : workflowColumns.get? k = some kind) :
    (py.store kind (p.get? k)).isSome = true :=
  all_eq_true.mp h (k, kind) (mem_of_get? hk)

/-- `_copy_payload_to_workflow_state`: every column is assigned.  It fails where a conversion does. -/
def ofPayload? (p : Dict String Json) : Option (WorkflowState τ) :=
  if h : storable py p = true then
    some
      { cell := fun k => (workflowColumns.get? k).bind fun kind => py.store kind (p.get? k)
        metadata := metadataOf p
        kinds := by
          intro k
          cases hk : workflowColumns.get? k with
          | none => rfl
          | some =>
            obtain ⟨_, hcell⟩ := Option.isSome_iff_exists.mp (isSome_store_of_storable py h hk)
            rw [Option.bind_some, hcell, Option.map_some, py.kind_of_store hcell]
        extra := metadataOf_extra }
  else none

/-! ### Reading after copying -/

lemma get?_filterMap_column {columns : Dict String ColumnKind} (f : String → Option Json) (k : String) :
    Dict.get? (columns.filterMap fun column => (f column.1).map fun v => (column.1, v)) k
      = (columns.get? k).bind fun _ => f k := by
  have hkeys : (columns.filterMap fun column => (f column.1).map fun v => (column.1, v)) =
      (columns.map Prod.fst).filterMap fun k' => (f k').map fun v => (k', v) := by
    rw [filterMap_map]
    rfl
  rw [hkeys, get?_filterMap_keys]
  cases hget : columns.get? k with
  | none =>
    refine if_neg fun hmem => ?_
    obtain ⟨column, hcolumn, rfl⟩ := mem_map.mp hmem
    exact get?_eq_none_iff.mp hget column hcolumn rfl
  | some => exact if_pos (mem_map_of_mem (mem_of_get? hget))

variable {py} {st st' : WorkflowState τ} {p : Dict String Json} {k : String}

lemma get?_payload_of_column (hk : workflowColumns.get? k = some kind) :
    (st.payload py).get? k = (st.cell k).bind py.load := by
  have hmeta : st.metadata.get? k = none := by
    rw [get?_eq_none_iff]
    rintro e he rfl
    rw [st.extra e he] at hk
    cases hk
  rw [payload, get?_update, hmeta, or_none, columnPayload,
    get?_filterMap_column fun k => (st.cell k).bind py.load, hk, bind_some]

lemma get?_payload_of_none (hk : workflowColumns.get? k = none) : (st.payload py).get? k = st.metadata.get? k := by
  rw [payload, get?_update, columnPayload,
    get?_filterMap_column fun k => (st.cell k).bind py.load, hk, bind_none, none_or]

lemma get?_metadataOf (hk : workflowColumns.get? k = none) : (metadataOf p).get? k = p.get? k := by
  rw [metadataOf, get?_update]
  by_cases hmeta : workflowMetadataKeys.contains k = true
  · have hrest : Dict.get? (p.filter fun e => (workflowColumns.get? e.1).isNone &&
        !workflowMetadataKeys.contains e.1) k = none := by
      rw [get?_eq_none_iff]
      rintro e he rfl
      have hnot := (mem_filter.mp he).2
      rw [hmeta] at hnot
      simp at hnot
    rw [hrest, none_or, get?_filter (fun k => workflowMetadataKeys.contains k) p hmeta]
  · have hfirst : Dict.get? (p.filter fun e => workflowMetadataKeys.contains e.1) k = none := by
      rw [get?_eq_none_iff]
      rintro e he rfl
      exact hmeta (mem_filter.mp he).2
    rw [hfirst, or_none]
    refine get?_filter (fun k => (workflowColumns.get? k).isNone && !workflowMetadataKeys.contains k) p ?_
    simp only [hk, isNone_none, Bool.true_and, Bool.not_eq_true']
    exact Bool.eq_false_iff.mpr hmeta

/-- What is read after a copy. -/
theorem get?_payload_ofPayload (h : ofPayload? py p = some st) : (st.payload py).get? k = py.normal k (p.get? k) := by
  rw [ofPayload?] at h
  split at h
  · cases h
    rw [Conversions.normal]
    cases hk : workflowColumns.get? k with
    | none =>
      rw [get?_payload_of_none hk]
      exact get?_metadataOf hk
    | some =>
      rw [get?_payload_of_column hk]
      dsimp only
      rw [hk, bind_some]
  · cases h

lemma store_get?_payload (hk : workflowColumns.get? k = some kind) :
    py.store kind ((st.payload py).get? k) = st.cell k := by
  obtain ⟨_, hcell, rfl⟩ := map_eq_some_iff.mp ((st.kinds k).trans hk)
  rw [get?_payload_of_column hk, hcell, bind_some, py.store_load]

theorem normal_get?_payload : py.normal k ((st.payload py).get? k) = (st.payload py).get? k := by
  rw [Conversions.normal]
  cases hk : workflowColumns.get? k with
  | none => rfl
  | some =>
    dsimp only
    rw [store_get?_payload hk, get?_payload_of_column hk]

end WorkflowState

end ImmoApp.Imports
