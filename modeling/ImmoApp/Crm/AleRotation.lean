import ImmoApp.Crm.Ale
import Mathlib.Algebra.GroupWithZero.Nat
import Mathlib.Data.Nat.Find

/-!
# Rotation of the encryption keys

`rotateAleKeys` re-encrypts what older keys have encrypted, at most `limit` rows of each table at a time; it
is repeated until nothing was left to re-encrypt.  The query for the rows uses `NOT LIKE` with a prefix and no
wildcard, so rows that are done, and rows that nobody can decrypt, are among them for ever.
-/

namespace ImmoApp.AleRotation

open List Option

open Crm (startsWith)

/-- AES-GCM over base64 with the keys derived from the master keys; the number stands for the nonce. -/
structure Aes (κ : Type*) where
  encrypt : κ → ℕ → String → String
  decrypt : κ → String → Option String
  encrypt_ne_empty (key : κ) (nonce : ℕ) (plaintext : String) : encrypt key nonce plaintext ≠ ""
  decrypt_encrypt (key : κ) (nonce : ℕ) (plaintext : String) :
    decrypt key (encrypt key nonce plaintext) = some plaintext

/-- `_VERSION_RE`, where `$` also stands before a newline at the end. -/
def versionRe (digit : Char → Bool) (s : String) : Bool :=
  match s.toList with
  | 'v' :: c :: rest => digit c && (if rest.getLast? = some '\n' then rest.dropLast else rest).all digit
  | _ => false

/-- `KeyringEncryptionService`, as `get_encryption_service` builds it. -/
structure Keyring (κ : Type*) where
  aes : Aes κ
  /-- `\d` of a pattern. -/
  digit : Char → Bool
  keys : List (String × κ)
  currentId : String
  currentKey : κ
  digit_colon : digit ':' = false
  lookup_current : keys.lookup currentId = some currentKey
  versionRe_current : versionRe digit currentId = true

variable {κ : Type*} (ring : Keyring κ)

def encryptRaw (aes : Aes κ) (key : κ) (nonce : ℕ) (plaintext : String) : String :=
  if plaintext = "" then "" else aes.encrypt key nonce plaintext

/-- `decrypt_raw`, `none` where it raises. -/
def decryptRaw (aes : Aes κ) (key : κ) (token : String) : Option String :=
  if token = "" then some "" else aes.decrypt key token

def currentPrefix : String := ring.currentId ++ ":"

def encrypt (nonce : ℕ) (plaintext : String) : String :=
  if plaintext = "" then "" else currentPrefix ring ++ encryptRaw ring.aes ring.currentKey nonce plaintext

/-- `decrypt`, `none` where it raises. -/
def decrypt (ciphertext : String) : Option String :=
  let keyId := String.ofList (ciphertext.toList.takeWhile (· != ':'))
  let payload := String.ofList (ciphertext.toList.dropWhile (· != ':')).tail
  let legacy := ring.keys.findSome? fun key => decryptRaw ring.aes key.2 ciphertext
  if ciphertext = "" then some ""
  else if ':' ∈ ciphertext.toList then
    match if payload = "" then none else ring.keys.lookup keyId with
    | some key => decryptRaw ring.aes key payload
    | none => if versionRe ring.digit keyId then none else legacy
  else legacy

lemma colon_notMem_current : ':' ∉ ring.currentId.toList := by
  have hversion := ring.versionRe_current
  unfold versionRe at hversion
  split at hversion
  · next c rest heq =>
    rw [Bool.and_eq_true] at hversion
    obtain ⟨hc, hrest⟩ := hversion
    rw [heq, mem_cons, mem_cons]
    rintro (h | rfl | hmem)
    · exact absurd h (by decide)
    · exact Bool.false_ne_true (ring.digit_colon.symm.trans hc)
    · have hmem' : ':' ∈ (if rest.getLast? = some '\n' then rest.dropLast else rest) := by
        split
        · next hlast =>
          obtain ⟨_, rfl⟩ := getLast?_eq_some_iff.mp hlast
          rw [dropLast_concat]
          exact (mem_append.mp hmem).resolve_right (by decide)
        · exact hmem
      exact Bool.false_ne_true (ring.digit_colon.symm.trans (all_eq_true.mp hrest _ hmem'))
  · exact absurd hversion Bool.false_ne_true

lemma startsWith_append (s t : String) : startsWith s (s ++ t) = true := by
  rw [startsWith, String.toList_append, isPrefixOf_iff_prefix]
  exact prefix_append ..

/-- The keyring reads what it writes. -/
theorem decrypt_encrypt (nonce : ℕ) {plaintext : String} (h : plaintext ≠ "") :
    decrypt ring (encrypt ring nonce plaintext) = some plaintext := by
  have htoken := ring.aes.encrypt_ne_empty ring.currentKey nonce plaintext
  have hlist : (encrypt ring nonce plaintext).toList =
      ring.currentId.toList ++ ':' :: (ring.aes.encrypt ring.currentKey nonce plaintext).toList := by
    simp [encrypt, encryptRaw, currentPrefix, h]
  have hall : ∀ c ∈ ring.currentId.toList, (c != ':') = true := by
    intro c hc
    rw [bne_iff_ne]
    rintro rfl
    exact colon_notMem_current ring hc
  have hne : encrypt ring nonce plaintext ≠ "" := by
    intro hempty
    simp [hempty] at hlist
  rw [decrypt, if_neg hne, if_pos (by simp [hlist]), hlist, takeWhile_append_of_pos hall,
    dropWhile_append_of_pos hall, takeWhile_cons_of_neg (by decide), dropWhile_cons_of_neg (by decide),
    append_nil, tail_cons, String.ofList_toList, String.ofList_toList, if_neg htoken, ring.lookup_current]
  change decryptRaw ring.aes ring.currentKey _ = _
  rw [decryptRaw, if_neg htoken, ring.aes.decrypt_encrypt]

def aleTables : List (String × List String) :=
  [("clients", ["family_name_enc", "phone_enc", "remarks_enc"]),
    ("listings", ["family_name_enc", "phone_enc", "remarks_enc"]),
    ("demandes", ["remarks_enc", "locations_enc"]),
    ("offers", ["remarks_enc", "location_enc"]),
    ("visits", ["notes_enc"]),
    ("contracts", ["amount_enc", "deposit_enc", "terms_enc", "notes_enc"])]

def aleColumns (table : String) : List String := (aleTables.lookup table).getD []

structure AleDb where
  ids : String → List ℕ
  cell : String → ℕ → String → Option String
  nodup (table : String) : (ids table).Nodup

structure Scan where
  order : AleDb → String → List ℕ
  perm (db : AleDb) (table : String) : (order db table).Perm (db.ids table)

/-- The plaintext that `_rotate_row` encrypts again for a value, `none` where it leaves the value alone. -/
def oldPlaintext (value : Option String) : Option String :=
  value.bind fun s => if s = "" || startsWith (currentPrefix ring) s then none else decrypt ring s

def oldCell (db : AleDb) (table : String) (id : ℕ) (col : String) : Option String :=
  if col ∈ aleColumns table then oldPlaintext ring (db.cell table id col) else none

/-- The condition of the query: `NOT LIKE` without a wildcard is inequality. -/
def isCandidate (db : AleDb) (table : String) (id : ℕ) : Bool :=
  (aleColumns table).any fun col => (db.cell table id col).any fun s => s != "" && s != currentPrefix ring

def iterCandidateRows (limit : ℕ) (scan : Scan) (db : AleDb) (table : String) : List ℕ :=
  let rows := (scan.order db table).filter (isCandidate ring db table)
  if limit = 0 then rows else rows.take limit

/-- `rotate_ale_keys` for real, and how many values it has rotated. -/
def rotateAleKeys (limit : ℕ) (scan : Scan) (nonce : String → ℕ → String → ℕ) (db : AleDb) : AleDb × ℕ :=
  ({ db with
      cell := fun table id col =>
        if id ∈ iterCandidateRows ring limit scan db table then
          ((oldCell ring db table id col).map (encrypt ring (nonce table id col))).or (db.cell table id col)
        else db.cell table id col },
    (aleTables.map fun (table, columns) => ((iterCandidateRows ring limit scan db table).map fun id =>
      columns.countP fun col => (oldCell ring db table id col).isSome).sum).sum)

section Runs

variable (limit : ℕ) (scan : ℕ → Scan) (nonce : ℕ → String → ℕ → String → ℕ) (db : AleDb)

def afterRuns : ℕ → AleDb
  | 0 => db
  | n + 1 => (rotateAleKeys ring limit (scan n) (nonce n) (afterRuns n)).1

def rotatedBy (n : ℕ) : ℕ :=
  (rotateAleKeys ring limit (scan n) (nonce n) (afterRuns ring limit scan nonce db n)).2

/-- The rotation ends with a run that rotates nothing, with every old value under the current key and the others as
they were. -/
structure Rotates (n : ℕ) : Prop where
  ended : rotatedBy ring limit scan nonce db n = 0
  first : ∀ m < n, rotatedBy ring limit scan nonce db m ≠ 0
  kept : ∀ table, ∀ id ∈ db.ids table, ∀ col, oldCell ring db table id col = none →
    (afterRuns ring limit scan nonce db (n + 1)).cell table id col = db.cell table id col
  moved : ∀ table, ∀ id ∈ db.ids table, ∀ col plaintext, oldCell ring db table id col = some plaintext →
    ∃ s, (afterRuns ring limit scan nonce db (n + 1)).cell table id col = some s ∧
      startsWith (currentPrefix ring) s = true ∧ decrypt ring s = some plaintext

end Runs

def NoneOld (db : AleDb) : Prop :=
  ∀ table, ∀ id ∈ db.ids table, ∀ col, oldCell ring db table id col = none

/-- No value that waits for rotation is a ciphertext of the empty text. -/
def NoneEmpty (db : AleDb) : Prop :=
  ∀ table, ∀ id ∈ db.ids table, ∀ col, oldCell ring db table id col ≠ some ""

def isOld (db : AleDb) (table : String) (id : ℕ) : Bool :=
  (aleColumns table).any fun col => (oldCell ring db table id col).isSome

def candidates (db : AleDb) (table : String) : List ℕ := (db.ids table).filter (isCandidate ring db table)

section Step

variable {ring} {limit : ℕ} {scan : Scan} {nonce : String → ℕ → String → ℕ} {db : AleDb}

lemma lookup_aleTables : ∀ table ∈ aleTables, aleColumns table.1 = table.2 := by decide

variable {table col : String} {id : ℕ}

lemma mem_of_aleColumns (h : col ∈ aleColumns table) : (table, aleColumns table) ∈ aleTables := by
  rw [aleColumns] at h ⊢
  cases hlookup : aleTables.lookup table with
  | none => simp [hlookup] at h
  | some =>
    obtain ⟨_, _, heq, -⟩ := lookup_eq_some_iff.mp hlookup
    simp [heq]

lemma oldCell_eq_some {plaintext : String} : oldCell ring db table id col = some plaintext ↔ col ∈ aleColumns table ∧
      ∃ s, db.cell table id col = some s ∧ s ≠ "" ∧ startsWith (currentPrefix ring) s = false ∧
        decrypt ring s = some plaintext := by
  unfold oldCell oldPlaintext
  split
  · next hcol =>
    cases db.cell table id col with
    | none => simp
    | some => simp [hcol, and_assoc]
  · next hcol => simp [hcol]

/-- A new ciphertext is not rotated again. -/
lemma oldPlaintext_encrypt (n : ℕ) (plaintext : String) :
    oldPlaintext ring (some (encrypt ring n plaintext)) = none := by
  by_cases h : plaintext = ""
  · simp [oldPlaintext, encrypt, h]
  · simp [oldPlaintext, encrypt, h, startsWith_append]

lemma any_of_oldCell {plaintext : String} (h : oldCell ring db table id col = some plaintext) :
    ((db.cell table id col).any fun s => s != "" && s != currentPrefix ring) = true := by
  obtain ⟨-, s, hs, hne, hfront, -⟩ := oldCell_eq_some.mp h
  have hother : s ≠ currentPrefix ring := by
    rintro rfl
    have hself := startsWith_append (currentPrefix ring) ""
    rw [String.append_empty, hfront] at hself
    exact Bool.false_ne_true hself
  simp [hs, hne, hother]

lemma isOld_iff : isOld ring db table id = true ↔ ∃ col plaintext, oldCell ring db table id col = some plaintext := by
  rw [isOld, List.any_eq_true]
  constructor
  · rintro ⟨col, -, hcol⟩
    exact ⟨col, Option.isSome_iff_exists.mp hcol⟩
  · rintro ⟨col, _, h⟩
    exact ⟨col, (oldCell_eq_some.mp h).1, by simp [h]⟩

lemma isCandidate_of_isOld (h : isOld ring db table id = true) : isCandidate ring db table id = true := by
  obtain ⟨col, _, hold⟩ := isOld_iff.mp h
  exact any_eq_true.mpr ⟨col, (oldCell_eq_some.mp hold).1, any_of_oldCell hold⟩

/-- One value after a run. -/
lemma oldCell_rotateAleKeys (table : String) (id : ℕ) (col : String) :
    oldCell ring (rotateAleKeys ring limit scan nonce db).1 table id col =
      if id ∈ iterCandidateRows ring limit scan db table then none else oldCell ring db table id col := by
  by_cases hid : id ∈ iterCandidateRows ring limit scan db table
  · rw [if_pos hid]
    cases hold : oldCell ring db table id col with
    | none =>
      rw [oldCell] at hold ⊢
      simp only [rotateAleKeys, if_pos hid]
      rw [show oldCell ring db table id col = none from hold]
      exact hold
    | some =>
      rw [oldCell]
      simp [rotateAleKeys, hid, hold, oldPlaintext_encrypt]
  · simp [oldCell, rotateAleKeys, hid]

lemma mem_candidates (h : id ∈ iterCandidateRows ring limit scan db table) : id ∈ db.ids table := by
  unfold iterCandidateRows at h
  have hmem : id ∈ (scan.order db table).filter (isCandidate ring db table) := by
    split at h
    · exact h
    · exact mem_of_mem_take h
  exact (scan.perm db table).mem_iff.mp (mem_filter.mp hmem).1

lemma rotated_eq_zero : (rotateAleKeys ring limit scan nonce db).2 = 0 ↔
    ∀ table, ∀ id ∈ iterCandidateRows ring limit scan db table, ∀ col, oldCell ring db table id col = none := by
  simp only [rotateAleKeys, List.sum_eq_zero_iff_forall_eq_nat, List.forall_mem_map, List.countP_eq_zero,
    Option.not_isSome_iff_eq_none]
  constructor
  · intro h table id hid col
    by_cases hcol : col ∈ aleColumns table
    · exact h _ (mem_of_aleColumns hcol) id hid col hcol
    · exact if_neg hcol
  · intro h table _ id hid col _
    exact h table.1 id hid col

lemma cell_of_rotated_eq_zero (h : (rotateAleKeys ring limit scan nonce db).2 = 0) :
    (rotateAleKeys ring limit scan nonce db).1 = db := by
  have hcell : (rotateAleKeys ring limit scan nonce db).1.cell = db.cell := by
    funext table id col
    by_cases hid : id ∈ iterCandidateRows ring limit scan db table
    · simp [rotateAleKeys, hid, rotated_eq_zero.mp h table id hid col]
    · simp [rotateAleKeys, hid]
  cases db
  simp only [rotateAleKeys] at hcell ⊢
  rw [hcell]

end Step

section Runs

variable {ring} {limit : ℕ} {scan : ℕ → Scan} {nonce : ℕ → String → ℕ → String → ℕ} {db : AleDb}

lemma ids_afterRuns (n : ℕ) : (afterRuns ring limit scan nonce db n).ids = db.ids := by
  induction n with
  | zero => rfl
  | succ n ih => exact ih

variable {n : ℕ}

/-- What is still old after some runs was so before, with the same plaintext. -/
lemma oldCell_antitone {k : ℕ} (hkn : k ≤ n) {table col plaintext : String} {id : ℕ}
    (h : oldCell ring (afterRuns ring limit scan nonce db n) table id col = some plaintext) :
    oldCell ring (afterRuns ring limit scan nonce db k) table id col = some plaintext := by
  induction n, hkn using Nat.le_induction with
  | base => exact h
  | succ n _ ih =>
    apply ih
    rw [afterRuns, oldCell_rotateAleKeys] at h
    split at h
    · cases h
    · exact h

lemma oldCell_of_afterRuns {table col plaintext : String} {id : ℕ}
    (h : oldCell ring (afterRuns ring limit scan nonce db n) table id col = some plaintext) :
    oldCell ring db table id col = some plaintext :=
  oldCell_antitone (Nat.zero_le n) h

/-- After some runs a value is as it was, or it is a new ciphertext of its old plaintext. -/
lemma cell_afterRuns (n : ℕ) (table : String) (id : ℕ) (col : String) :
    (afterRuns ring limit scan nonce db n).cell table id col = db.cell table id col ∨
      ∃ plaintext m, oldCell ring db table id col = some plaintext ∧
        (afterRuns ring limit scan nonce db n).cell table id col = some (encrypt ring m plaintext) := by
  induction n with
  | zero => exact .inl rfl
  | succ n ih =>
    rw [afterRuns]
    cases hold : oldCell ring (afterRuns ring limit scan nonce db n) table id col with
    | none => simpa [rotateAleKeys, hold] using ih
    | some plaintext =>
      by_cases hid : id ∈ iterCandidateRows ring limit (scan n) (afterRuns ring limit scan nonce db n) table
      · exact .inr ⟨plaintext, _, oldCell_of_afterRuns hold, by simp [rotateAleKeys, hid, hold]; rfl⟩
      · simpa [rotateAleKeys, hid] using ih

def cells (db : AleDb) : List (String × ℕ × String) :=
  aleTables.flatMap fun table => (db.ids table.1).flatMap fun id => table.2.map fun col => (table.1, id, col)

/-- The runs end: every run but the last leaves fewer old values. -/
lemma exists_rotatedBy_eq_zero : ∃ n, rotatedBy ring limit scan nonce db n = 0 := by
  by_contra! hne
  let old n := (cells db).filter fun c =>
    (oldCell ring (afterRuns ring limit scan nonce db n) c.1 c.2.1 c.2.2).isSome
  have hless : ∀ n, (old (n + 1)).length < (old n).length := by
    intro n
    have hrun := hne n
    rw [rotatedBy, Ne, rotated_eq_zero] at hrun
    simp only [not_forall] at hrun
    obtain ⟨table, id, hid, col, hcol⟩ := hrun
    obtain ⟨_, hplain⟩ := ne_none_iff_exists'.mp hcol
    have hsub : old (n + 1) = (old n).filter fun c =>
        (oldCell ring (afterRuns ring limit scan nonce db (n + 1)) c.1 c.2.1 c.2.2).isSome := by
      rw [List.filter_filter]
      refine filter_congr fun c _ => ?_
      rw [afterRuns, oldCell_rotateAleKeys]
      split <;> simp
    rw [hsub, length_filter_lt_length_iff_exists]
    refine ⟨(table, id, col), mem_filter.mpr ⟨?_, by simp [hplain]⟩, ?_⟩
    · obtain ⟨hmem, -⟩ := oldCell_eq_some.mp hplain
      have hrow : id ∈ db.ids table := by
        have hselected := mem_candidates hid
        rwa [ids_afterRuns] at hselected
      refine mem_flatMap.mpr ⟨_, mem_of_aleColumns hmem, mem_flatMap.mpr ⟨id, hrow, ?_⟩⟩
      exact mem_map_of_mem hmem
    · rw [afterRuns, oldCell_rotateAleKeys, if_pos hid]
      simp
  have hbound : ∀ n, (old n).length + n ≤ (old 0).length := by
    intro n
    induction n with
    | zero => exact le_rfl
    | succ n ih =>
      have hstep := hless n
      omega
  have hlast := hbound ((old 0).length + 1)
  omega

/-- The runs up to the first that rotates nothing do their work exactly when they leave nothing behind. -/
lemma rotates_iff (hended : rotatedBy ring limit scan nonce db n = 0)
    (hfirst : ∀ m < n, rotatedBy ring limit scan nonce db m ≠ 0) : Rotates ring limit scan nonce db n ↔
      NoneOld ring (afterRuns ring limit scan nonce db n) ∧ NoneEmpty ring db := by
  have hlast : afterRuns ring limit scan nonce db (n + 1) = afterRuns ring limit scan nonce db n :=
    cell_of_rotated_eq_zero hended
  constructor
  · rintro ⟨-, -, -, hmoved⟩
    rw [hlast] at hmoved
    constructor
    · intro table id hid col
      rw [ids_afterRuns] at hid
      refine eq_none_iff_forall_ne_some.mpr fun plaintext hold => ?_
      obtain ⟨s, hs, hfront, -⟩ := hmoved table id hid col plaintext (oldCell_of_afterRuns hold)
      obtain ⟨-, s', hs', -, hfront', -⟩ := oldCell_eq_some.mp hold
      obtain rfl : s = s' := some.inj (hs.symm.trans hs')
      rw [hfront] at hfront'
      cases hfront'
    · intro table id hid col hempty
      obtain ⟨s, hs, hfront, -⟩ := hmoved table id hid col "" hempty
      obtain ⟨-, s', hs', -, hfront', -⟩ := oldCell_eq_some.mp hempty
      rcases cell_afterRuns n table id col with hsame | ⟨plaintext, m, hold, hnew⟩
      · obtain rfl : s = s' := some.inj (hs.symm.trans (hsame.trans hs'))
        rw [hfront] at hfront'
        cases hfront'
      · obtain rfl : "" = plaintext := some.inj (hempty.symm.trans hold)
        obtain rfl : s = "" := some.inj (hs.symm.trans hnew)
        simp [startsWith, currentPrefix] at hfront
  · rintro ⟨hnone, hempty⟩
    refine ⟨hended, hfirst, fun table id _ col hold => ?_, fun table id hid col plaintext hold => ?_⟩
    · rw [hlast]
      rcases cell_afterRuns n table id col with hsame | ⟨plaintext, m, hold', -⟩
      · exact hsame
      · rw [hold] at hold'
        cases hold'
    · have hplain : plaintext ≠ "" := by
        rintro rfl
        exact hempty table id hid col hold
      rw [hlast]
      rcases cell_afterRuns n table id col with hsame | ⟨plaintext', m, hold', hnew⟩
      · have hleft := hnone table id (by rwa [ids_afterRuns]) col
        rw [oldCell, hsame] at hleft
        exact absurd (hleft.symm.trans hold) (some_ne_none _).symm
      · obtain rfl : plaintext = plaintext' := some.inj (hold.symm.trans hold')
        exact ⟨_, hnew, by simp [encrypt, hplain, startsWith_append], decrypt_encrypt ring m hplain⟩

end Runs

section Candidates

variable {ring} {limit : ℕ} {db : AleDb}

variable {table : String}

/-- A run reads all candidates where the limit leaves room for them. -/
lemma mem_iterCandidateRows {scan : Scan} (h : (candidates ring db table).length ≤ limit) {id : ℕ}
    (hid : id ∈ candidates ring db table) : id ∈ iterCandidateRows ring limit scan db table := by
  have hperm := (scan.perm db table).filter (isCandidate ring db table)
  unfold iterCandidateRows
  split
  · exact hperm.mem_iff.mpr hid
  · rw [take_of_length_le (hperm.length_eq.trans_le h)]
    exact hperm.mem_iff.mpr hid

lemma encrypt_ne {n : ℕ} {plaintext : String} (h : plaintext ≠ "") :
    encrypt ring n plaintext ≠ "" ∧ encrypt ring n plaintext ≠ currentPrefix ring := by
  have htoken := ring.aes.encrypt_ne_empty ring.currentKey n plaintext
  rw [encrypt, if_neg h, encryptRaw, if_neg h]
  constructor
  · simp [htoken]
  · simp [htoken]

/-- Rotation makes no row a candidate, and a row that was one stays one. -/
lemma isCandidate_rotateAleKeys {scan : Scan} {nonce : String → ℕ → String → ℕ} {id : ℕ}
    (hempty : ∀ col, oldCell ring db table id col ≠ some "") :
    isCandidate ring (rotateAleKeys ring limit scan nonce db).1 table id = isCandidate ring db table id := by
  refine any_congr rfl fun col => ?_
  cases hold : oldCell ring db table id col with
  | none => simp [rotateAleKeys, hold]
  | some plaintext =>
    have hplain : plaintext ≠ "" := by
      rintro rfl
      exact hempty col hold
    rw [any_of_oldCell hold]
    by_cases hid : id ∈ iterCandidateRows ring limit scan db table
    · obtain ⟨hne, hother⟩ : encrypt ring (nonce table id col) plaintext ≠ "" ∧ _ := encrypt_ne hplain
      simp [rotateAleKeys, hid, hold, hne, hother]
    · rw [← any_of_oldCell hold]
      simp [rotateAleKeys, hid]

/-- The database reads the rows first that have nothing to rotate. -/
def finishedFirst (ring : Keyring κ) : Scan where
  order db table := (db.ids table).filter (fun id => !isOld ring db table id) ++
    (db.ids table).filter (isOld ring db table)
  perm _ _ := List.perm_append_comm.trans (List.filter_append_perm _ _)

/-- With more candidates than the limit a run leaves some row behind. -/
lemma exists_isOld_finishedFirst (nonce : String → ℕ → String → ℕ) (hlimit : 0 < limit)
    (hmore : limit < (candidates ring db table).length) (hold : ∃ id ∈ db.ids table, isOld ring db table id = true) :
    ∃ id ∈ db.ids table, isOld ring (rotateAleKeys ring limit (finishedFirst ring) nonce db).1 table id = true := by
  let done := ((db.ids table).filter fun id => !isOld ring db table id).filter (isCandidate ring db table)
  let waiting := (db.ids table).filter (isOld ring db table)
  have hwaiting : waiting.filter (isCandidate ring db table) = waiting :=
    filter_eq_self.mpr fun id hid => isCandidate_of_isOld (mem_filter.mp hid).2
  have hrows : iterCandidateRows ring limit (finishedFirst ring) db table =
      done.take limit ++ waiting.take (limit - done.length) := by
    rw [← take_append, ← hwaiting, ← filter_append, iterCandidateRows, if_neg hlimit.ne']
    rfl
  have hlength : (candidates ring db table).length = done.length + waiting.length := by
    rw [← length_append, ← hwaiting, ← filter_append]
    exact (((finishedFirst ring).perm db table).filter _).length_eq.symm
  have hsome : waiting ≠ [] := by
    obtain ⟨id, hid, hisOld⟩ := hold
    exact ne_nil_of_mem (mem_filter.mpr ⟨hid, hisOld⟩)
  have hpos := length_pos_of_ne_nil hsome
  obtain ⟨id, hid⟩ : ∃ id, id ∈ waiting.drop (limit - done.length) := by
    refine exists_mem_of_ne_nil _ fun hnil => ?_
    have hle := drop_eq_nil_iff.mp hnil
    omega
  obtain ⟨hrow, hisOld⟩ := mem_filter.mp (mem_of_mem_drop hid)
  have hout : id ∉ iterCandidateRows ring limit (finishedFirst ring) db table := by
    rw [hrows, mem_append, not_or]
    constructor
    · intro hmem
      have hdone := (mem_filter.mp (mem_filter.mp (mem_of_mem_take hmem)).1).2
      simp [hisOld] at hdone
    · exact fun hmem => disjoint_take_drop ((db.nodup table).filter _) le_rfl hmem hid
  obtain ⟨col, plaintext, hcell⟩ := isOld_iff.mp hisOld
  exact ⟨id, hrow, isOld_iff.mpr ⟨col, plaintext, by rw [oldCell_rotateAleKeys, if_neg hout, hcell]⟩⟩

end Candidates

section Rotation

variable {limit : ℕ}

/-- Read in that order, some old value is never reached. -/
lemma starved {nonce : ℕ → String → ℕ → String → ℕ} {db : AleDb} {table : String} (hlimit : 0 < limit)
    (hempty : NoneEmpty ring db) (hold : ∃ id ∈ db.ids table, isOld ring db table id = true)
    (hmore : limit < (candidates ring db table).length) (n : ℕ) :
    (∃ id ∈ db.ids table,
      isOld ring (afterRuns ring limit (fun _ => finishedFirst ring) nonce db n) table id = true) ∧
      limit < (candidates ring (afterRuns ring limit (fun _ => finishedFirst ring) nonce db n) table).length := by
  induction n with
  | zero => exact ⟨hold, hmore⟩
  | succ n ih =>
    obtain ⟨hold, hmore⟩ := ih
    have hids : (afterRuns ring limit (fun _ => finishedFirst ring) nonce db n).ids = db.ids := ids_afterRuns n
    constructor
    · have hnext := exists_isOld_finishedFirst (nonce n) hlimit hmore (hids ▸ hold)
      rwa [hids] at hnext
    · refine hmore.trans_eq (congrArg List.length (filter_congr fun id hid => ?_))
      rw [hids] at hid
      exact (isCandidate_rotateAleKeys fun col hcell => hempty table id hid col (oldCell_of_afterRuns hcell)).symm

/-- Exactly which databases are rotated, whatever order the rows are read in. -/
theorem rotates_iff_candidates (hlimit : 0 < limit) (db : AleDb) :
    (∀ scan nonce, ∃ n, Rotates ring limit scan nonce db n) ↔ NoneEmpty ring db ∧
      ∀ table, (∃ id ∈ db.ids table, isOld ring db table id = true) → (candidates ring db table).length ≤ limit := by
  constructor
  · intro h
    obtain ⟨n, hn⟩ := h (fun _ => finishedFirst ring) fun _ _ _ _ => 0
    obtain ⟨hnone, hempty⟩ := (rotates_iff hn.ended hn.first).mp hn
    refine ⟨hempty, fun table hold => not_lt.mp fun hmore => ?_⟩
    obtain ⟨id, hid, hisOld⟩ := (starved ring hlimit hempty hold hmore n).1
    obtain ⟨col, plaintext, hcell⟩ := isOld_iff.mp hisOld
    rw [hnone table id (by rwa [ids_afterRuns]) col] at hcell
    cases hcell
  · rintro ⟨hempty, hroom⟩ scan nonce
    obtain ⟨n, hended, hfirst⟩ : ∃ n, rotatedBy ring limit scan nonce db n = 0 ∧
        ∀ m < n, rotatedBy ring limit scan nonce db m ≠ 0 :=
      ⟨_, Nat.find_spec exists_rotatedBy_eq_zero, fun m => Nat.find_min exists_rotatedBy_eq_zero⟩
    refine ⟨n, (rotates_iff hended hfirst).mpr ⟨?_, hempty⟩⟩
    intro table id hid col
    rw [ids_afterRuns] at hid
    refine eq_none_iff_forall_ne_some.mpr fun plaintext hcell => ?_
    have hisOld := isOld_iff.mpr ⟨col, plaintext, oldCell_of_afterRuns hcell⟩
    have hselected : id ∈ iterCandidateRows ring limit (scan 0) db table :=
      mem_iterCandidateRows (hroom table ⟨id, hid, hisOld⟩) (mem_filter.mpr ⟨hid, isCandidate_of_isOld hisOld⟩)
    cases n with
    | zero =>
      have hnone : oldCell ring db table id col = none := rotated_eq_zero.mp hended table id hselected col
      rw [afterRuns, hnone] at hcell
      cases hcell
    | succ n =>
      have hafter := oldCell_antitone (Nat.le_add_left 1 n) hcell
      rw [afterRuns, afterRuns, oldCell_rotateAleKeys, if_pos hselected] at hafter
      cases hafter

end Rotation

/-- A cipher that writes the key before the text. -/
def plainAes : Aes String where
  encrypt key _ plaintext := key ++ "/" ++ plaintext
  decrypt key token :=
    if startsWith (key ++ "/") token then some (String.ofList (token.toList.drop (key ++ "/").toList.length)) else none
  encrypt_ne_empty key _ plaintext := by simp
  decrypt_encrypt key _ plaintext := by
    have htoken : (key ++ "/" ++ plaintext).toList = (key ++ "/").toList ++ plaintext.toList := String.toList_append
    rw [if_pos (startsWith_append ..), htoken, List.drop_left, String.ofList_toList]

def twoKeys : Keyring String where
  aes := plainAes
  digit := Char.isDigit
  keys := [("v2", "new"), ("v1", "old")]
  currentId := "v2"
  currentKey := "new"
  digit_colon := by decide
  lookup_current := by decide
  versionRe_current := by decide

def twoClients : AleDb where
  ids table := if table = "clients" then [1, 2] else []
  cell table id col :=
    if table = "clients" ∧ col = "family_name_enc" then
      if id = 1 then some "v2:new/Alaoui" else some "v1:old/Bennani"
    else none
  nodup table := by split <;> decide

theorem rotates_iff_candidates_twoClients : ¬ ∀ scan nonce, ∃ n, Rotates twoKeys 1 scan nonce twoClients n := by
  rw [rotates_iff_candidates twoKeys (by decide)]
  rintro ⟨-, hroom⟩
  exact absurd (hroom "clients" ⟨2, by decide, by decide⟩) (by decide)

def inOrder : Scan := ⟨AleDb.ids, fun _ _ => List.Perm.refl _⟩

/-- The first run sees client 1 only and ends the rotation. -/
theorem client_left_behind : ¬ ∀ (ring : Keyring String) (limit : ℕ) (db : AleDb), 0 < limit →
    ∀ scan nonce, ∃ n, Rotates ring limit scan nonce db n := by
  intro h
  obtain ⟨n, hn⟩ := h twoKeys 1 twoClients (by decide) (fun _ => inOrder) fun _ _ _ _ => 0
  have hzero : rotatedBy twoKeys 1 (fun _ => inOrder) (fun _ _ _ _ => 0) twoClients 0 = 0 := by decide
  obtain rfl : n = 0 := by
    by_contra hne
    exact hn.first 0 (Nat.pos_of_ne_zero hne) hzero
  obtain ⟨s, hs, hfront, -⟩ := hn.moved "clients" 2 (by decide) "family_name_enc" "Bennani" (by decide)
  obtain rfl : s = "v1:old/Bennani" := some.inj (hs.symm.trans (by decide))
  exact absurd hfront (by decide)

end ImmoApp.AleRotation
