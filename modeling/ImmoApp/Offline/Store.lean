import ImmoApp.Foundation.Writes
import ImmoApp.Offline.Types

/-!
# The account's files

The persistent state of one account: the pending snapshot and the operation log, with what a crash can leave in them,
the conflicts, the map from temporary to server ids and the id allocator.  Every effect of the journal is one of the
atomic writes below.  `quarantine_file` moves a file that does not parse to the `corrupt` bucket.

The metadata file, which is advisory, and files that no function here reads are left out.
-/

namespace ImmoApp.Offline

inductive JsonFile (α : Type) where
  | absent
  | unparseable
  | value (a : α)
  deriving DecidableEq

/-- What a pending snapshot that parses holds: a list, whose entries may not decode, or something
else. -/
inductive SnapshotValue where
  | list (entries : List (Option OfflineOperation))
  | other
  deriving DecidableEq

structure Disk where
  pendingFile : JsonFile SnapshotValue
  logFile : JsonFile (List JournalEvent)
  conflicts : List OfflineConflict
  /-- `temp_id_map.json`: the server id of every record created offline that the server knows. -/
  tempIds : Dict (EntityType × ℤ) ℤ
  /-- `allocator_state.json`: the last temporary id handed out for each entity type. -/
  allocator : Dict EntityType ℤ

def Disk.empty : Disk := ⟨.absent, .absent, [], [], []⟩

inductive FileWrite where
  | quarantinePending
  | quarantineLog
  | pending (items : List OfflineOperation)
  | appendEvent (e : JournalEvent)
  | truncateLog
  | conflicts (items : List OfflineConflict)
  | tempIds (m : Dict (EntityType × ℤ) ℤ)
  | allocator (m : Dict EntityType ℤ)

def JsonFile.events : JsonFile (List JournalEvent) → List JournalEvent
  | .value es => es
  | _ => []

def JsonFile.append (f : JsonFile (List JournalEvent)) (e : JournalEvent) : JsonFile (List JournalEvent) :=
  match f with
  | .absent => .value [e]
  | .unparseable => .unparseable
  | .value es => .value (es ++ [e])

def FileWrite.apply : FileWrite → Disk → Disk
  | .quarantinePending, d => { d with pendingFile := .absent }
  | .quarantineLog, d => { d with logFile := .absent }
  | .pending items, d => { d with pendingFile := .value (.list (items.map some)) }
  | .appendEvent e, d => { d with logFile := d.logFile.append e }
  | .truncateLog, d => { d with logFile := .value [] }
  | .conflicts items, d => { d with conflicts := items }
  | .tempIds m, d => { d with tempIds := m }
  | .allocator m, d => { d with allocator := m }

instance : Persistent Disk FileWrite where
  apply := FileWrite.apply

abbrev JournalProg := Prog Disk FileWrite

@[simp] lemma apply_quarantinePending (d : Disk) :
    Persistent.apply FileWrite.quarantinePending d = { d with pendingFile := .absent } := rfl
@[simp] lemma apply_quarantineLog (d : Disk) :
    Persistent.apply FileWrite.quarantineLog d = { d with logFile := .absent } := rfl
@[simp] lemma apply_pending (items : List OfflineOperation) (d : Disk) : Persistent.apply (FileWrite.pending items) d
      = { d with pendingFile := .value (.list (items.map some)) } := rfl
@[simp] lemma apply_appendEvent (e : JournalEvent) (d : Disk) :
    Persistent.apply (FileWrite.appendEvent e) d = { d with logFile := d.logFile.append e } := rfl
@[simp] lemma apply_truncateLog (d : Disk) :
    Persistent.apply FileWrite.truncateLog d = { d with logFile := .value [] } := rfl
@[simp] lemma apply_conflicts (items : List OfflineConflict) (d : Disk) :
    Persistent.apply (FileWrite.conflicts items) d = { d with conflicts := items } := rfl
@[simp] lemma apply_tempIds (m : Dict (EntityType × ℤ) ℤ) (d : Disk) :
    Persistent.apply (FileWrite.tempIds m) d = { d with tempIds := m } := rfl
@[simp] lemma apply_allocator (m : Dict EntityType ℤ) (d : Disk) :
    Persistent.apply (FileWrite.allocator m) d = { d with allocator := m } := rfl

lemma applyWrites_appendEvents {d : Disk} (h : d.logFile ≠ .unparseable) (es : List JournalEvent) :
    ∃ f, applyWrites (es.map FileWrite.appendEvent) d = { d with logFile := f }
      ∧ f ≠ .unparseable ∧ f.events = d.logFile.events ++ es := by
  induction es generalizing d with
  | nil => exact ⟨d.logFile, rfl, h, by simp⟩
  | cons e _ ih =>
    have happ : d.logFile.append e ≠ .unparseable ∧ (d.logFile.append e).events = d.logFile.events ++ [e] := by
      cases hf : d.logFile with
      | absent => exact ⟨by simp [JsonFile.append], rfl⟩
      | unparseable => exact absurd hf h
      | value => exact ⟨by simp [JsonFile.append], rfl⟩
    obtain ⟨f, hf, hne, hev⟩ := ih (d := { d with logFile := d.logFile.append e }) happ.1
    refine ⟨f, ?_, hne, ?_⟩
    · rw [List.map_cons, applyWrites_cons, apply_appendEvent, hf]
    · rw [hev]
      simp [happ.2]

/-- Load the pending snapshot, an empty list standing in for a file that is missing or does not
parse (`load_json_with_quarantine` with default `[]`). -/
def loadPendingJson : JournalProg SnapshotValue := do
  match ← Prog.read Disk.pendingFile with
  | .absent => pure (.list [])
  | .unparseable =>
    Prog.write .quarantinePending
    pure (.list [])
  | .value v => pure v

/-- Load the log, no events standing in for a file that is missing or does not parse
(`load_jsonl_with_quarantine`). -/
def loadLogJsonl : JournalProg (List JournalEvent) := do
  match ← Prog.read Disk.logFile with
  | .absent => pure []
  | .unparseable =>
    Prog.write .quarantineLog
    pure []
  | .value es => pure es

/-- The server id of a record, if it is known (`resolve_reconciled_id`); only positive entries of
the map count. -/
def Disk.resolveReconciledId (d : Disk) (ref : OfflineEntityRef) : Option ℤ :=
  if 0 < ref.localId then some ref.localId
  else (d.tempIds.get? (ref.entityType, ref.localId)).filter (0 < ·)

/-- Hand out the next temporary id of an entity type: `-1`, `-2`, and so on. -/
def allocateTempId (entityType : EntityType) : JournalProg ℤ := do
  let data ← Prog.read Disk.allocator
  let current := (data.get? entityType).getD 0
  let next := if current ≤ -1 then current - 1 else -1
  Prog.write (.allocator (Dict.set data entityType next))
  pure next

def recordReconciledId (ref : OfflineEntityRef) (serverId : ℤ) : JournalProg Unit := do
  let data ← Prog.read fun d => d.tempIds.filter fun e => 0 < e.2
  Prog.write (.tempIds (Dict.set data (ref.entityType, ref.localId) serverId))

def addConflict (c : OfflineConflict) : JournalProg Unit := do
  let items ← Prog.read Disk.conflicts
  Prog.write (.conflicts (items.filter (fun i => i.opId ≠ c.opId) ++ [c]))

def removeConflict (opId : String) : JournalProg Unit := do
  let items ← Prog.read Disk.conflicts
  Prog.write (.conflicts (items.filter fun i => i.opId ≠ opId))

end ImmoApp.Offline
