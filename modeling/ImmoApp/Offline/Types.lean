import Mathlib.Data.String.Basic
import ImmoApp.Foundation.EventLog
import ImmoApp.Foundation.Json

/-!
# Offline operations

The data of the client's offline journal (`offline_types.py`): entity references, operations and
conflicts.  Instants are natural numbers, standing for the second-resolution UTC texts of
`utc_now_iso`, which order as the instants do and are never empty.  Payloads are JSON objects.
-/

namespace ImmoApp.Offline

/-- The kinds of record the client mutates offline. -/
inductive EntityType where
  | client
  | demande
  | listing
  | offer
  | offerPhoto
  | visit
  | contract
  | contractArticle
  | generic
  deriving DecidableEq

def EntityType.name : EntityType → String
  | .client => "client"
  | .demande => "demande"
  | .listing => "listing"
  | .offer => "offer"
  | .offerPhoto => "offer_photo"
  | .visit => "visit"
  | .contract => "contract"
  | .contractArticle => "contract_article"
  | .generic => "generic"

def EntityType.ofName (s : String) : Option EntityType :=
  [.client, .demande, .listing, .offer, .offerPhoto, .visit, .contract, .contractArticle,
    .generic].find? fun t => t.name = s

inductive OpType where
  | create
  | update
  | delete
  | action
  deriving DecidableEq

/-- Where an operation is on its way to the server. -/
inductive OpStatus where
  | pending
  | syncing
  | blocked
  | needsReview
  | applied
  | cancelled
  deriving DecidableEq

/-- The statuses of operations the queue keeps (`_QUEUE_COMPAT_READY_STATES`). -/
def OpStatus.isQueued : OpStatus → Bool
  | .pending | .syncing | .blocked | .needsReview => true
  | .applied | .cancelled => false

/-- The statuses with which `update_operation_status` drops an operation. -/
def OpStatus.isFinal (s : OpStatus) : Bool := s = .applied ∨ s = .cancelled

@[simp] lemma OpStatus.isQueued_eq_not_isFinal (s : OpStatus) : s.isQueued = !s.isFinal := by
  cases s <;> rfl

/-- A record by its type and its local id; ids of records created offline are negative. -/
structure OfflineEntityRef where
  entityType : EntityType
  localId : ℤ
  deriving DecidableEq

namespace OfflineEntityRef

def toDict (r : OfflineEntityRef) : Json :=
  .obj [("entity_type", .str r.entityType.name), ("local_id", .int r.localId)]

/-- The reference a JSON object denotes; `none` where `from_dict` raises. -/
def fromDict : Json → Option OfflineEntityRef
  | .obj d => do
    let entityType ←
      match (Dict.get? d "entity_type").filter Json.truthy with
      | some v => EntityType.ofName v.text
      | none => some .generic
    let localId ←
      match (Dict.get? d "local_id").filter Json.truthy with
      | some v => v.toInt?
      | none => some 0
    return ⟨entityType, localId⟩
  | _ => none

@[simp] lemma fromDict_toDict (r : OfflineEntityRef) : fromDict r.toDict = some r := by
  obtain ⟨t, n⟩ := r
  have htype : (some (Json.str t.name)).filter Json.truthy = some (Json.str t.name) := by
    cases t <;> decide
  have hname : EntityType.ofName t.name = some t := by cases t <;> decide
  have hentity : Dict.get? [("entity_type", Json.str t.name), ("local_id", Json.int n)]
      "entity_type" = some (Json.str t.name) := by simp [Dict.get?_cons]
  have hlocal : Dict.get? [("entity_type", Json.str t.name), ("local_id", Json.int n)]
      "local_id" = some (Json.int n) := by simp [Dict.get?_cons]
  rw [toDict, fromDict, hentity, hlocal, htype]
  by_cases hn : n = 0
  · subst hn
    simp [Json.text, hname, Option.filter, Json.truthy]
  · simp [Json.text, hname, Option.filter, Json.truthy, hn, Json.toInt?]

end OfflineEntityRef

structure OfflineOperation where
  /-- The identity of the operation, a fresh `uuid4` text. -/
  opId : String
  accountKey : String
  entityType : EntityType
  opType : OpType
  localId : ℤ
  /-- Method, path, body, references, headers and label of the request. -/
  payload : Dict String Json
  /-- The records that must exist on the server first. -/
  parentRefs : List OfflineEntityRef := []
  /-- The key under which a generic mutation replaces an earlier one. -/
  dedupeKey : String := ""
  status : OpStatus := .pending
  attempts : ℕ := 0
  lastError : String := ""
  createdAt : ℕ
  updatedAt : ℕ
  deriving DecidableEq

structure OfflineConflict where
  opId : String
  entityType : EntityType
  localId : ℤ
  reasonCode : String
  message : String
  /-- What the server, or the refused edit, carried. -/
  serverPayload : Dict String Json
  createdAt : ℕ
  deriving DecidableEq

namespace OfflineOperation

def entity (op : OfflineOperation) : OfflineEntityRef := ⟨op.entityType, op.localId⟩

def isQueued (op : OfflineOperation) : Bool := op.status.isQueued

/-- The order of the queue: by `(created_at, op_id)`. -/
def le (a b : OfflineOperation) : Prop :=
  a.createdAt < b.createdAt ∨ (a.createdAt = b.createdAt ∧ a.opId ≤ b.opId)

instance : DecidableRel le := fun _ _ => inferInstanceAs (Decidable (_ ∨ _))

instance : Std.Total le where
  total a b := by
    unfold le
    rcases lt_trichotomy a.createdAt b.createdAt with h | h | h
    · exact Or.inl (Or.inl h)
    · rcases le_total a.opId b.opId with h' | h'
      · exact Or.inl (Or.inr ⟨h, h'⟩)
      · exact Or.inr (Or.inr ⟨h.symm, h'⟩)
    · exact Or.inr (Or.inl h)

instance : IsTrans OfflineOperation le where
  trans a b c := by
    rintro (hab | ⟨hab, hab'⟩) (hbc | ⟨hbc, hbc'⟩)
    · exact Or.inl (hab.trans hbc)
    · exact Or.inl (hbc ▸ hab)
    · exact Or.inl (hab ▸ hbc)
    · exact Or.inr ⟨hab.trans hbc, hab'.trans hbc'⟩

lemma opId_eq_of_le_of_le (a b : OfflineOperation) (hab : le a b) (hba : le b a) : a.opId = b.opId := by
  rcases hab with hab | ⟨_, hab⟩
  · rcases hba with hba | ⟨hba, _⟩ <;> omega
  · rcases hba with hba | ⟨_, hba⟩
    · omega
    · exact le_antisymm hab hba

lemma le_congr {a b a' b' : OfflineOperation} (ha : a'.createdAt = a.createdAt)
    (ha' : a'.opId = a.opId) (hb : b'.createdAt = b.createdAt) (hb' : b'.opId = b.opId)
    (h : le a b) : le a' b' := by
  unfold le
  rw [ha, ha', hb, hb']
  exact h

end OfflineOperation

/-- An entry of `op_log.jsonl`. -/
abbrev JournalEvent := LogEvent OfflineOperation String

/-- The members of a JSON object, none for a missing or any other value (`_mapping_dict`). -/
def mappingDict (v : Option Json) : Dict String Json := (v.bind Json.fields?).getD []

end ImmoApp.Offline
