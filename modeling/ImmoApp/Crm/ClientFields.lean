import ImmoApp.Crm.Services

/-!
# Protected fields of clients

The name, the phone and the remarks of a client are stored encrypted.  An update rebuilds the record from a copy that
was decrypted when it was read, so that a field may be left out, sent as plain text, or sent back as its mask.
`ClientDesk` adds the plain text that was supplied last for each field.

`fields_kept`: where no call sends the mask of a phone, loses a text that reads as a blank, or finds a plain text with
the form of a mask, the stored fields are those supplied last.
-/

namespace ImmoApp.Crm

open Table

/-! ### The service -/

/-- `phone_digits`; `digit` is the class `\d` of the Unicode database. -/
def phoneDigits (digit : Char → Bool) (s : String) : String :=
  String.ofList ((strip s).toList.filter digit)

/-- `_blind_index` of `ale_policy`. -/
def AleFieldPolicy.blindIndexed (normalizer : String → String) : AleFieldPolicy :=
  ⟨true, true, .blindIndex, some normalizer⟩

/-- `str` of a value of a public column. -/
def PublicValue.str : PublicValue → String
  | .text s => s
  | .zero => "0.0"
  | .null => "None"

inductive Supplied where
  | omitted
  | plain (text : String)
  | mask (text : String)

def Supplied.value? : Supplied → Option String
  | omitted => none
  | plain text | mask text => some text

structure ClientPayload where
  id : ℕ := 0
  rowVersion : Option ℤ := none
  familyName : Supplied := .omitted
  phone : Supplied := .omitted
  remarks : Supplied := .omitted
  tags : Option String := none
  isVip : Option Bool := none
  status : Option ClientStatus := none
  updatedAt : Option ℕ := none

/-- What the client service needs besides the database. -/
structure ClientBackend where
  platform : Platform
  cipher : Cipher
  digit : Char → Bool

variable (backend : ClientBackend)

/-- The policy of the phone in `CLIENT_ALE_POLICIES`. -/
def phonePolicy : AleFieldPolicy := .blindIndexed (phoneDigits backend.digit)

/-- A protected column in `Client.from_row`; `readable` says whether the key of the ciphertexts is there. -/
def readField (readable : Bool) (column : String × String) : String :=
  if readable then readColumn backend.cipher column.1 column.2 else column.1

/-- One field of `normalize_ale_fields` in `normalize_client_data`: the payload is laid over the record that
was read, if one was.  A column is a public text and a ciphertext. -/
def normalizeClientField (policy : AleFieldPolicy) (readable : Bool) (seed : ℕ)
    (existing : Option (String × String)) (supplied : Supplied) : AleResult :=
  normalizeAleField backend.cipher policy supplied.value?.isSome seed
    ⟨supplied.value?.or (existing.map (readField backend readable)), (existing.map Prod.snd).getD ""⟩

def normalizeClientData (payload : ClientPayload) (existing : Option (Row ClientColumns))
    (readable : Bool) (seed : ℕ) : ClientInput :=
  let old := existing.map Row.columns
  let familyName := normalizeClientField backend (.masked true) readable seed
    (old.map fun c => (c.familyName, c.familyNameEnc)) payload.familyName
  let phone := normalizeClientField backend (phonePolicy backend) readable seed
    (old.map fun c => (c.phone, c.phoneEnc)) payload.phone
  let remarks := normalizeClientField backend (.masked false) readable seed
    (old.map fun c => (c.remarks, c.remarksEnc)) payload.remarks
  { rowVersion := payload.rowVersion.getD ((existing.map fun r => (r.rowVersion : ℤ)).getD 0)
    familyName := familyName.value.str
    familyNameEnc := familyName.enc
    familyNameSearchSrc := familyName.searchSrc
    phone := phone.value.str
    phoneEnc := phone.enc
    phoneSearchSrc := phone.searchSrc
    remarks := remarks.value.str
    remarksEnc := remarks.enc
    tags := (payload.tags.or (old.map ClientColumns.tags)).getD ""
    isVip := (payload.isVip.or (old.map ClientColumns.isVip)).getD false
    status := some ((payload.status.or (old.map ClientColumns.status)).getD .active)
    updatedAt := payload.updatedAt.or (existing.map Row.updatedAt) }

/-- `get_client_by_id_for_update` of the client a payload names. -/
def readClient (id : ℕ) (db : Db) : Option (Row ClientColumns) :=
  if id = 0 then none else (db.clients.find? id).filter Row.live

/-- `upsert_client` of the service. -/
def upsertClient (agencyId : ℕ) (payload : ClientPayload) (readable : Bool) (now : ℕ) (db : Db) :
    Except WriteError Db :=
  let data := normalizeClientData backend payload (readClient payload.id db) readable now
  if payload.id = 0 then insertClient backend.platform agencyId data now db
  else updateClient backend.platform payload.id data now db

/-! ### The desk -/

structure ClientTexts where
  familyName : String
  phone : String
  remarks : String
  deriving DecidableEq

def ClientTexts.blank : ClientTexts := ⟨"", "", ""⟩

/-- The last plain text after a call: surrounding white space does not belong to it. -/
def Supplied.last (old : String) : Supplied → String
  | omitted | mask _ => old
  | plain text => strip text

@[simp] lemma Supplied.last_omitted (old : String) : Supplied.omitted.last old = old := rfl

@[simp] lemma Supplied.last_plain (old text : String) : (Supplied.plain text).last old = strip text := rfl

@[simp] lemma Supplied.last_mask (old text : String) : (Supplied.mask text).last old = old := rfl

def ClientPayload.last (payload : ClientPayload) (old : ClientTexts) : ClientTexts where
  familyName := payload.familyName.last old.familyName
  phone := payload.phone.last old.phone
  remarks := payload.remarks.last old.remarks

structure ClientDesk where
  db : Db
  texts : Dict ℕ ClientTexts

def ClientDesk.textsOf (s : ClientDesk) (id : ℕ) : ClientTexts := (s.texts.get? id).getD .blank

/-- A call of `upsert_client`. -/
structure ClientCall where
  payload : ClientPayload
  readable : Bool
  now : ℕ

def ClientDesk.target (s : ClientDesk) (call : ClientCall) : ℕ :=
  if call.payload.id = 0 then s.db.clients.nextId else call.payload.id

def ClientDesk.before (s : ClientDesk) (call : ClientCall) : ClientTexts :=
  if call.payload.id = 0 then .blank else s.textsOf call.payload.id

/-- One call.  A call that raises is rolled back. -/
def ClientDesk.step (agencyId : ℕ) (s : ClientDesk) (call : ClientCall) : Option ClientDesk :=
  match upsertClient backend agencyId call.payload call.readable call.now s.db with
  | .ok db => some ⟨db, s.texts.set (s.target call) (call.payload.last (s.before call))⟩
  | .error _ => some s

def Supplied.Genuine : Supplied → Prop
  | mask text => isStructuredAleMask (strip text) = true
  | _ => True

instance : DecidablePred Supplied.Genuine := fun supplied => by
  cases supplied <;> unfold Supplied.Genuine <;> infer_instance

def ClientCall.Genuine (call : ClientCall) : Prop :=
  call.payload.familyName.Genuine ∧ call.payload.phone.Genuine ∧ call.payload.remarks.Genuine

instance : DecidablePred ClientCall.Genuine := fun _ => by
  unfold ClientCall.Genuine
  infer_instance

/-- The public column of a phone: the blind index of its digits. -/
def phoneColumn (text : String) : String :=
  if phoneDigits backend.digit text = "" then ""
  else maskBidxPrefix ++ backend.cipher.blindIndexForWrite (phoneDigits backend.digit text)

def decrypted (column : String × String) : Option String :=
  if column.2 = "" then some column.1 else backend.cipher.decrypt column.2

/-- The fields of every client are the texts supplied last, and the phone column is their blind index. -/
structure ClientDesk.Kept (s : ClientDesk) : Prop where
  familyName : ∀ r ∈ s.db.clients.rows,
    decrypted backend (r.columns.familyName, r.columns.familyNameEnc) = some (s.textsOf r.id).familyName
  phone : ∀ r ∈ s.db.clients.rows,
    decrypted backend (r.columns.phone, r.columns.phoneEnc) = some (s.textsOf r.id).phone
  remarks : ∀ r ∈ s.db.clients.rows,
    decrypted backend (r.columns.remarks, r.columns.remarksEnc) = some (s.textsOf r.id).remarks
  index : ∀ r ∈ s.db.clients.rows, r.columns.phone = phoneColumn backend (s.textsOf r.id).phone

/-- Two clients with one phone column have phones with the same digits. -/
def ClientDesk.Apart (s : ClientDesk) : Prop :=
  ∀ r ∈ s.db.clients.rows, ∀ r' ∈ s.db.clients.rows, r.columns.phone = r'.columns.phone →
    phoneDigits backend.digit (s.textsOf r.id).phone = phoneDigits backend.digit (s.textsOf r'.id).phone

/-- The keyed hash tells the phones of the desk apart. -/
def ClientDesk.Hashed (s : ClientDesk) : Prop :=
  ∀ r ∈ s.db.clients.rows, ∀ r' ∈ s.db.clients.rows,
    backend.cipher.blindIndexForWrite (phoneDigits backend.digit (s.textsOf r.id).phone)
        = backend.cipher.blindIndexForWrite (phoneDigits backend.digit (s.textsOf r'.id).phone) →
      phoneDigits backend.digit (s.textsOf r.id).phone = phoneDigits backend.digit (s.textsOf r'.id).phone

/-- The field keeps its text: it is not lost when it is left out, and no plain text is taken for a mask.
`found` says whether the record was read, `old` is the text before the call. -/
def KeepsText (found readable : Bool) (old : String) : Supplied → Prop
  | .omitted =>
    if found then readable = true → old ≠ "" → strip (sanitizeText backend.cipher old) ≠ "" else old = ""
  | .plain text =>
    isStructuredAleMask (strip text) = false ∧ (isLegacyAleMask (strip text) = true → found = false ∨ old = "")
  | .mask _ => found = true ∨ old = ""

/-- The phone column is the index of the phone: the phone has digits, which survive the HTML cleaner, and
it is not left to a mask. -/
def KeepsIndex (readable : Bool) (old : String) : Supplied → Prop
  | .omitted =>
    old = "" ∨ readable = true ∧ looksMasked (strip (sanitizeText backend.cipher old)) = false ∧
      phoneDigits backend.digit old ≠ "" ∧
      phoneDigits backend.digit (sanitizeText backend.cipher (strip (sanitizeText backend.cipher old)))
        = phoneDigits backend.digit old
  | .plain text =>
    strip text = "" ∨ phoneDigits backend.digit (strip text) ≠ "" ∧
      phoneDigits backend.digit (sanitizeText backend.cipher (strip text)) = phoneDigits backend.digit (strip text)
  | .mask _ => old = ""

instance (found readable : Bool) (old : String) :
    DecidablePred (KeepsText backend found readable old) := fun supplied => by
  cases supplied <;> unfold KeepsText <;> infer_instance

instance (readable : Bool) (old : String) :
    DecidablePred (KeepsIndex backend readable old) := fun supplied => by
  cases supplied <;> unfold KeepsIndex <;> infer_instance

def Keeps (s : ClientDesk) (call : ClientCall) : Prop :=
  KeepsText backend (readClient call.payload.id s.db).isSome call.readable (s.before call).familyName
      call.payload.familyName ∧
    KeepsText backend (readClient call.payload.id s.db).isSome call.readable (s.before call).phone
      call.payload.phone ∧
    KeepsText backend (readClient call.payload.id s.db).isSome call.readable (s.before call).remarks
      call.payload.remarks ∧
    KeepsIndex backend call.readable (s.before call).phone call.payload.phone

instance (s : ClientDesk) : DecidablePred (Keeps backend s) := fun _ => by
  unfold Keeps
  infer_instance

/-! ### One field -/

/-- What the encryption promises: a token of the current key reads as the text. -/
def ClientBackend.Sound : Prop :=
  ∀ seed s, s ≠ "" → backend.cipher.decrypt (backend.cipher.encrypt seed s) = some s

/-- A stored field: nothing for the empty text, else a ciphertext under a public column. -/
def Sealed (shown : String) (column : String × String) (text : String) : Prop :=
  if text = "" then column = ("", "")
  else column.1 = shown ∧ column.2 ≠ "" ∧ backend.cipher.decrypt column.2 = some text

variable {backend}

section Field

variable {policy : AleFieldPolicy} {shown old text : String} {column : String × String}
  {existing : Option (String × String)} {readable : Bool} {seed : ℕ} {supplied : Supplied}

lemma sealed_empty : Sealed backend shown ("", "") "" := rfl

lemma sealed_text (htext : text ≠ "") (hshown : column.1 = shown) (henc : column.2 ≠ "")
    (hdecrypt : backend.cipher.decrypt column.2 = some text) : Sealed backend shown column text := by
  rw [Sealed, if_neg htext]
  exact ⟨hshown, henc, hdecrypt⟩

lemma Sealed.eq_of_empty (h : Sealed backend shown column "") : column = ("", "") := h

section

variable (h : Sealed backend shown column text)
include h

lemma Sealed.of_ne (htext : text ≠ "") :
    column.1 = shown ∧ column.2 ≠ "" ∧ backend.cipher.decrypt column.2 = some text := by
  rwa [Sealed, if_neg htext] at h

lemma Sealed.enc_eq_empty_iff : column.2 = "" ↔ text = "" := by
  by_cases htext : text = ""
  · subst htext
    rw [h.eq_of_empty]
  · exact iff_of_false (h.of_ne htext).2.1 htext

lemma Sealed.decrypted : decrypted backend column = some text := by
  by_cases htext : text = ""
  · subst htext
    rw [h.eq_of_empty]
    rfl
  · obtain ⟨-, henc, hdecrypt⟩ := h.of_ne htext
    rw [Crm.decrypted, if_neg henc, hdecrypt]

end

variable (readable) in
lemma Sealed.readField (h : Sealed backend shown column text) :
    readField backend readable column = if text = "" then ""
      else if readable then sanitizeText backend.cipher text else shown := by
  by_cases htext : text = ""
  · subst htext
    rw [h.eq_of_empty, Crm.readField]
    cases readable <;> rfl
  · obtain ⟨hshown, henc, hdecrypt⟩ := h.of_ne htext
    rw [if_neg htext, Crm.readField, readColumn, if_neg henc, hdecrypt, hshown]

lemma normalizeClientField_omitted (hcolumn : existing = some column) :
    normalizeClientField backend policy readable seed existing .omitted
      = normalizeAleField backend.cipher policy false seed ⟨some (readField backend readable column), column.2⟩ := by
  rw [hcolumn]
  rfl

lemma normalizeClientField_given {raw : String} (hvalue : supplied.value? = some raw) :
    normalizeClientField backend policy readable seed existing supplied
      = normalizeAleField backend.cipher policy true seed ⟨some raw, (existing.map Prod.snd).getD ""⟩ := by
  rw [normalizeClientField, hvalue]
  rfl

lemma enc_eq_empty_iff (hsealed : ∀ column ∈ existing, Sealed backend shown column old)
    (hfound : existing = none → old = "") : (existing.map Prod.snd).getD "" = "" ↔ old = "" := by
  cases existing with
  | none => exact iff_of_true rfl (hfound rfl)
  | some column => exact (hsealed column rfl).enc_eq_empty_iff

lemma normalizeClientField_clear (hsealed : ∀ column ∈ existing, Sealed backend shown column old)
    (hkeeps : KeepsText backend existing.isSome readable old supplied) (hgenuine : supplied.Genuine)
    (hlast : supplied.last old = "") :
    normalizeClientField backend policy readable seed existing supplied
      = clearField policy ⟨supplied.value?.or (existing.map (readField backend readable)),
          (existing.map Prod.snd).getD ""⟩ := by
  cases supplied with
  | omitted =>
    have hold : old = "" := hlast
    refine normalizeAleField_clear _ ((enc_eq_empty_iff hsealed fun _ => hold).mpr hold) ?_ _ _
    intro raw hraw
    obtain ⟨column, hcolumn, rfl⟩ := Option.map_eq_some_iff.mp hraw
    left
    rw [(hsealed column hcolumn).readField, if_pos hold]
    rfl
  | plain text =>
    have hblank : strip text = "" := hlast
    rw [normalizeClientField, normalizeAleField]
    exact if_pos hblank
  | mask =>
    have hold : old = "" := hlast
    refine normalizeAleField_clear _ ((enc_eq_empty_iff hsealed fun _ => hold).mpr hold) ?_ _ _
    rintro _ hraw
    obtain ⟨⟩ := hraw
    exact .inr hgenuine

variable (policy seed) in
lemma normalizeClientField_enc (hsound : backend.Sound) (hencrypt : policy.encrypt = true)
    (hsealed : ∀ column ∈ existing, Sealed backend shown column old)
    (hkeeps : KeepsText backend existing.isSome readable old supplied) (hgenuine : supplied.Genuine)
    (hshown : supplied = .omitted → readable = false → isStructuredAleMask (strip shown) = true)
    (hlast : supplied.last old ≠ "") :
    (normalizeClientField backend policy readable seed existing supplied).enc ≠ "" ∧
      backend.cipher.decrypt (normalizeClientField backend policy readable seed existing supplied).enc
        = some (supplied.last old) := by
  cases supplied with
  | omitted =>
    have hold : old ≠ "" := hlast
    cases existing with
    | none => exact absurd hkeeps hold
    | some column =>
      obtain ⟨-, henc, hdecrypt⟩ := (hsealed column rfl).of_ne hold
      have hread := (hsealed column rfl).readField readable
      rw [if_neg hold] at hread
      have hblank : strip (readField backend readable column) ≠ "" := by
        rw [hread]
        cases readable with
        | true => exact hkeeps rfl hold
        | false =>
          intro hempty
          have hstructured := hshown rfl rfl
          rw [if_neg Bool.false_ne_true] at hempty
          rw [hempty] at hstructured
          exact absurd hstructured (by decide)
      have hkept : (normalizeClientField backend policy readable seed (some column) .omitted).enc = column.2 := by
        rw [normalizeClientField_omitted rfl]
        exact normalizeAleField_enc _ hencrypt rfl hblank henc (.inl rfl) _
      rw [hkept]
      exact ⟨henc, hdecrypt⟩
  | plain text =>
    have hblank : strip text ≠ "" := hlast
    obtain ⟨hstructured, hlegacy⟩ := hkeeps
    have henc : (normalizeClientField backend policy readable seed existing (.plain text)).enc
        = backend.cipher.encrypt seed (strip text) := by
      rw [normalizeClientField_given rfl]
      refine (normalizeAleField_plain _ hencrypt rfl hblank hstructured (fun hmasked => ?_) seed).2
      cases existing with
      | none => rfl
      | some column =>
        have hold := (hlegacy hmasked).resolve_left (by simp)
        exact (hsealed column rfl).enc_eq_empty_iff.mpr hold
    rw [henc]
    exact ⟨Cipher.encrypt_ne_empty _ _ hblank, hsound seed _ hblank⟩
  | mask text =>
    have hold : old ≠ "" := hlast
    cases existing with
    | none => exact absurd (hkeeps.resolve_left (by simp)) hold
    | some column =>
      obtain ⟨-, henc, hdecrypt⟩ := (hsealed column rfl).of_ne hold
      have hblank : strip text ≠ "" := by
        intro hempty
        have hstructured : isStructuredAleMask (strip text) = true := hgenuine
        rw [hempty] at hstructured
        exact absurd hstructured (by decide)
      have hkept : (normalizeClientField backend policy readable seed (some column) (.mask text)).enc = column.2 := by
        rw [normalizeClientField_given rfl]
        refine normalizeAleField_enc _ hencrypt rfl hblank henc (.inr ?_) _
        exact Bool.or_eq_true_iff.mpr (.inl hgenuine)
      rw [hkept]
      exact ⟨henc, hdecrypt⟩

lemma sealed_masked (hsound : backend.Sound) {searchable : Bool}
    (hsealed : ∀ column ∈ existing, Sealed backend maskEnc column old)
    (hkeeps : KeepsText backend existing.isSome readable old supplied) (hgenuine : supplied.Genuine) :
    Sealed backend maskEnc
      ((normalizeClientField backend (.masked searchable) readable seed existing supplied).value.str,
        (normalizeClientField backend (.masked searchable) readable seed existing supplied).enc)
      (supplied.last old) := by
  by_cases hlast : supplied.last old = ""
  · rw [normalizeClientField_clear hsealed hkeeps hgenuine hlast, hlast]
    exact sealed_empty
  · obtain ⟨henc, hdecrypt⟩ := normalizeClientField_enc (.masked searchable) seed hsound rfl
      hsealed hkeeps hgenuine (fun _ _ => by decide +kernel) hlast
    refine sealed_text hlast ?_ henc hdecrypt
    have hvalue := normalizeAleField_masked backend.cipher henc
    exact congrArg PublicValue.str hvalue

lemma publicValue_phone (hdigits : phoneDigits backend.digit text ≠ "") {clean : String}
    (hclean : phoneDigits backend.digit clean = phoneDigits backend.digit text) :
    (publicValue backend.cipher (phonePolicy backend) clean).str = phoneColumn backend text := by
  have hsource : (phonePolicy backend).indexNormalizer.getD id clean = phoneDigits backend.digit text := hclean
  rw [phoneColumn, if_neg hdigits, publicValue]
  dsimp only [phonePolicy, AleFieldPolicy.blindIndexed] at hsource ⊢
  rw [hsource, if_neg hdigits]
  rfl

lemma sealed_phone (hsound : backend.Sound)
    (hsealed : ∀ column ∈ existing, Sealed backend (phoneColumn backend old) column old)
    (hkeeps : KeepsText backend existing.isSome readable old supplied)
    (hindex : KeepsIndex backend readable old supplied) (hgenuine : supplied.Genuine) :
    Sealed backend (phoneColumn backend (supplied.last old))
      ((normalizeClientField backend (phonePolicy backend) readable seed existing supplied).value.str,
        (normalizeClientField backend (phonePolicy backend) readable seed existing supplied).enc)
      (supplied.last old) := by
  by_cases hlast : supplied.last old = ""
  · rw [normalizeClientField_clear hsealed hkeeps hgenuine hlast, hlast]
    exact sealed_empty
  · have hshown : supplied = .omitted → readable = false →
        isStructuredAleMask (strip (phoneColumn backend old)) = true := by
      rintro rfl rfl
      rcases hindex with hold | hindex
      · exact absurd hold hlast
      · exact absurd hindex.1 Bool.false_ne_true
    obtain ⟨henc, hdecrypt⟩ := normalizeClientField_enc (phonePolicy backend) seed hsound rfl
      hsealed hkeeps hgenuine hshown hlast
    refine sealed_text hlast ?_ henc hdecrypt
    dsimp only
    cases supplied with
    | mask => exact absurd hindex hlast
    | plain text =>
      have hblank : strip text ≠ "" := hlast
      obtain ⟨hstructured, hlegacy⟩ := hkeeps
      obtain ⟨hdigits, hclean⟩ := hindex.resolve_left hblank
      have hlegacy' : isLegacyAleMask (strip text) = true → (existing.map Prod.snd).getD "" = "" := by
        intro hmasked
        cases existing with
        | none => rfl
        | some column => exact (hsealed column rfl).enc_eq_empty_iff.mpr ((hlegacy hmasked).resolve_left (by simp))
      have hvalue : (normalizeClientField backend (phonePolicy backend) readable seed existing (.plain text)).value
          = publicValue backend.cipher (phonePolicy backend) (sanitizeText backend.cipher (strip text)) := by
        rw [normalizeClientField_given rfl]
        exact (normalizeAleField_plain backend.cipher rfl rfl hblank hstructured hlegacy' seed).1
      rw [hvalue, Supplied.last_plain]
      exact publicValue_phone hdigits hclean
    | omitted =>
      have hold : old ≠ "" := hlast
      obtain ⟨rfl, hmasked, hdigits, hclean⟩ := hindex.resolve_left hold
      cases existing with
      | none => exact absurd hkeeps hold
      | some column =>
        have hread : readField backend true column = sanitizeText backend.cipher old := by
          rw [(hsealed column rfl).readField, if_neg hold, if_pos rfl]
        have hvalue : (normalizeClientField backend (phonePolicy backend) true seed (some column) .omitted).value
            = publicValue backend.cipher (phonePolicy backend)
              (sanitizeText backend.cipher (strip (sanitizeText backend.cipher old))) := by
          rw [normalizeClientField_omitted rfl, hread]
          exact normalizeAleField_value backend.cipher rfl rfl (hkeeps rfl hold)
            ((hsealed column rfl).of_ne hold).2.1 hmasked seed
        rw [hvalue, Supplied.last_omitted]
        exact publicValue_phone hdigits hclean

end Field

/-! ### One call -/

structure RowSealed (backend : ClientBackend) (c : ClientColumns) (x : ClientTexts) : Prop where
  familyName : Sealed backend maskEnc (c.familyName, c.familyNameEnc) x.familyName
  phone : Sealed backend (phoneColumn backend x.phone) (c.phone, c.phoneEnc) x.phone
  remarks : Sealed backend maskEnc (c.remarks, c.remarksEnc) x.remarks

def ClientDesk.Sealed (backend : ClientBackend) (s : ClientDesk) : Prop :=
  ∀ r ∈ s.db.clients.rows, RowSealed backend r.columns (s.textsOf r.id)

section Call

variable {agencyId : ℕ} {s t : ClientDesk} {call : ClientCall} {db db' : Db} {data : ClientInput} {now : ℕ}

lemma updateClient_ok {id : ℕ} (h : updateClient backend.platform id data now db = .ok db') :
    (∃ r ∈ db.clients.rows, r.id = id ∧ (r.rowVersion : ℤ) = data.rowVersion) ∧
      db' = { db with
        clients := db.clients.update (fun r => r.id == id && (r.rowVersion : ℤ) == data.rowVersion)
          fun r => (r.write (data.write backend.platform) (data.updatedAt.getD now)).bump } := by
  rw [updateClient] at h
  split at h
  · cases h
  · dsimp only at h
    split at h
    · next clients hlocked =>
      obtain ⟨rfl, r, hr, hid, hversion⟩ := lockedUpdate_some hlocked
      split at h
      · cases h
      · exact ⟨⟨r, hr, by simpa using hid, hversion⟩, (Except.ok.inj h).symm⟩
    · split at h <;> cases h

lemma mem_updateClient {id : ℕ} (h : updateClient backend.platform id data now db = .ok db')
    {r' : Row ClientColumns} (hr' : r' ∈ db'.clients.rows) :
    r' ∈ db.clients.rows ∧ r'.id ≠ id ∨
      r'.id = id ∧ ∃ r ∈ db.clients.rows, r'.columns = data.write backend.platform r.columns := by
  obtain ⟨⟨r, hr, rfl, hversion⟩, rfl⟩ := updateClient_ok h
  by_cases hid : r'.id = r.id
  · obtain ⟨r₀, hr₀, rfl⟩ := mem_update.mp hr'
    rw [assign_id] at hid
    obtain rfl := eq_of_id hr₀ hr hid
    refine .inr ⟨assign_id _ _ _, r₀, hr, ?_⟩
    rw [Table.assign, if_pos (by simp [hversion])]
    rfl
  · exact .inl ⟨(mem_update_of_ne (fun r₀ _ hsel => by simp_all) r' hid).mp hr', hid⟩

lemma mem_insertClient (h : insertClient backend.platform agencyId data now db = .ok db')
    {r' : Row ClientColumns} (hr' : r' ∈ db'.clients.rows) :
    r' ∈ db.clients.rows ∨ r'.id = db.clients.nextId ∧ r'.columns = data.columns backend.platform agencyId := by
  rw [insertClient] at h
  split at h
  · cases h
  · cases h
    rcases mem_insert.mp hr' with hr' | rfl
    · exact .inl hr'
    · exact .inr ⟨rfl, rfl⟩

lemma ClientDesk.Sealed.readClient (hs : s.Sealed backend) {r : Row ClientColumns}
    (hread : readClient call.payload.id s.db = some r) :
    RowSealed backend r.columns (s.before call) := by
  rw [Crm.readClient] at hread
  split at hread
  · cases hread
  · next hid =>
    obtain ⟨hr, hid'⟩ := mem_of_find? (Option.filter_eq_some_iff.mp hread).1
    rw [before, if_neg hid, ← hid']
    exact hs r hr

lemma normalizeClientData_sealed (hsound : backend.Sound) (hs : s.Sealed backend) (hkeeps : Keeps backend s call)
    (hgenuine : call.Genuine) :
    let data := normalizeClientData backend call.payload (readClient call.payload.id s.db) call.readable call.now
    Sealed backend maskEnc (data.familyName, data.familyNameEnc) (call.payload.last (s.before call)).familyName ∧
      Sealed backend (phoneColumn backend (call.payload.last (s.before call)).phone) (data.phone, data.phoneEnc)
        (call.payload.last (s.before call)).phone ∧
      Sealed backend maskEnc (data.remarks, data.remarksEnc) (call.payload.last (s.before call)).remarks := by
  obtain ⟨hname, hphone, hremarks, hindex⟩ := hkeeps
  obtain ⟨hgname, hgphone, hgremarks⟩ := hgenuine
  have hread : ∀ r, readClient call.payload.id s.db = some r → RowSealed backend r.columns (s.before call) :=
    fun r hr => hs.readClient hr
  refine ⟨sealed_masked hsound ?_ ?_ hgname, sealed_phone hsound ?_ ?_ hindex hgphone,
    sealed_masked hsound ?_ ?_ hgremarks⟩
  · simpa using fun r hr => (hread r hr).familyName
  · simpa using hname
  · simpa using fun r hr => (hread r hr).phone
  · simpa using hphone
  · simpa using fun r hr => (hread r hr).remarks
  · simpa using hremarks

lemma ClientDesk.textsOf_set (id id' : ℕ) (x : ClientTexts) :
    (⟨db, s.texts.set id x⟩ : ClientDesk).textsOf id' = if id' = id then x else s.textsOf id' := by
  rw [textsOf, Dict.get?_set]
  split <;> rfl

lemma ClientDesk.Sealed.step (hsound : backend.Sound) (hs : s.Sealed backend) (hkeeps : Keeps backend s call)
    (hgenuine : call.Genuine) (hstep : s.step backend agencyId call = some t) : t.Sealed backend := by
  rw [ClientDesk.step] at hstep
  split at hstep
  · next db' hcall =>
    cases hstep
    have hdata := normalizeClientData_sealed hsound hs hkeeps hgenuine
    rw [upsertClient] at hcall
    intro r' hr'
    rw [textsOf_set, target]
    split at hcall
    · next hid =>
      rw [if_pos hid]
      rcases mem_insertClient hcall hr' with hr | ⟨hr, hcolumns⟩
      · rw [if_neg (s.db.clients.fresh r' hr).ne]
        exact hs r' hr
      · rw [if_pos hr, hcolumns]
        exact ⟨hdata.1, hdata.2.1, hdata.2.2⟩
    · next hid =>
      rw [if_neg hid]
      rcases mem_updateClient hcall hr' with ⟨hr, hne⟩ | ⟨hr, r, _, hcolumns⟩
      · rw [if_neg hne]
        exact hs r' hr
      · rw [if_pos hr, hcolumns]
        exact ⟨hdata.1, hdata.2.1, hdata.2.2⟩
  · cases hstep
    exact hs

lemma ClientDesk.Sealed.kept (hs : s.Sealed backend) : s.Kept backend where
  familyName := fun r hr => (hs r hr).familyName.decrypted
  phone := fun r hr => (hs r hr).phone.decrypted
  remarks := fun r hr => (hs r hr).remarks.decrypted
  index := by
    intro r hr
    have hphone := (hs r hr).phone
    by_cases htext : (s.textsOf r.id).phone = ""
    · rw [htext] at hphone ⊢
      exact congrArg Prod.fst hphone.eq_of_empty
    · exact (hphone.of_ne htext).1

lemma ClientDesk.Kept.apart (hs : s.Kept backend) (hhash : s.Hashed backend) : s.Apart backend := by
  intro r hr r' hr' hsame
  rw [hs.index r hr, hs.index r' hr', phoneColumn, phoneColumn] at hsame
  have hne : ∀ index, maskBidxPrefix ++ index ≠ "" := by
    intro index hempty
    have hlist := congrArg String.toList hempty
    simp [maskBidxPrefix] at hlist
  split at hsame
  · next hempty =>
    split at hsame
    · next hempty' => rw [hempty, hempty']
    · exact absurd hsame.symm (hne _)
  · split at hsame
    · exact absurd hsame (hne _)
    · exact hhash r hr r' hr' (by simpa using hsame)

end Call

/-- In every run of calls that meet the condition, the fields of every client are the texts supplied last,
the phone column is their blind index, and two clients share it only with the same digits. -/
theorem fields_kept {agencyId : ℕ} {s t : ClientDesk} {calls : List ClientCall} (hsound : backend.Sound)
    (hs : s.Sealed backend) (hgenuine : ∀ call ∈ calls, call.Genuine)
    (hkeeps : Guarded (ClientDesk.step backend agencyId) (Keeps backend) s calls)
    (hrun : run (ClientDesk.step backend agencyId) s calls = some t) :
    t.Kept backend ∧ (t.Hashed backend → t.Apart backend) := by
  have hsealed : t.Sealed backend :=
    run_invariant (fun s call t hs hcall hstep => hs.step hsound hcall.1 hcall.2 hstep) hs
      (hkeeps.and_forall hgenuine) hrun
  exact ⟨hsealed.kept, hsealed.kept.apart⟩

/-! ### A desk -/

def plainClients : ClientBackend where
  platform :=
    { unicode := { lower := String.toLower, nfkd := id, combining := fun _ => false }
      hashTrigrams := fun s => [s] }
  cipher :=
    { currentId := "v1"
      encryptRaw := fun _ s => s
      decrypt := fun s => some (String.ofList (s.toList.drop 3))
      bleachClean := fun s => String.ofList (s.toList.filter fun c => c != '<' && c != '>')
      blindIndexForWrite := id }
  digit := Char.isDigit

lemma plainClients_sound : plainClients.Sound := by
  intro seed s hs
  rw [Cipher.encrypt, if_neg hs]
  simp [plainClients]

def noClients : ClientDesk := ⟨Db.empty, []⟩

lemma noClients_sealed : noClients.Sealed plainClients := fun _ hr => absurd hr List.not_mem_nil

def maskedCalls : List ClientCall :=
  [⟨{ familyName := .plain "Ali", phone := .plain " 0550 12" }, true, 1⟩,
    ⟨{ id := 1, tags := some "urgent" }, true, 2⟩,
    ⟨{ id := 1, familyName := .mask maskEnc, phone := .plain "0550 13" }, false, 3⟩,
    ⟨{ familyName := .plain "Omar" }, true, 4⟩]

theorem fields_kept_masked : ∃ t, run (ClientDesk.step plainClients 1) noClients maskedCalls = some t ∧
    t.textsOf 1 = ⟨"Ali", "0550 13", ""⟩ ∧ t.Kept plainClients := by
  obtain ⟨t, ht, htexts⟩ := Option.map_eq_some_iff.mp (by decide +kernel :
    (run (ClientDesk.step plainClients 1) noClients maskedCalls).map (fun t => t.textsOf 1)
      = some ⟨"Ali", "0550 13", ""⟩)
  exact ⟨t, ht, htexts, (fields_kept plainClients_sound noClients_sealed (by decide +kernel) (by decide +kernel)
    ht).1⟩

def phoneMaskCalls : List ClientCall :=
  [⟨{ phone := .plain "0550" }, true, 1⟩, ⟨{ id := 1, phone := .mask (maskBidxPrefix ++ "0550") }, true, 2⟩]

/-- The phone column is then the text `None`. -/
theorem phone_index_lost :
    ¬ ∀ (backend : ClientBackend) (agencyId : ℕ) (s t : ClientDesk) (calls : List ClientCall), backend.Sound →
      s.Sealed backend → (∀ call ∈ calls, call.Genuine) → run (ClientDesk.step backend agencyId) s calls = some t →
          t.Kept backend ∧ (t.Hashed backend → t.Apart backend) := by
  intro h
  obtain ⟨t, ht, hcolumns⟩ := Option.map_eq_some_iff.mp (by decide +kernel :
    (run (ClientDesk.step plainClients 1) noClients phoneMaskCalls).map
      (fun t => (t.db.clients.rows.map (fun r => (r.id, r.columns.phone)), t.textsOf 1))
        = some ([(1, "None")], ⟨"", "0550", ""⟩))
  obtain ⟨hrows, htexts⟩ := Prod.mk.inj hcolumns
  have hkept := (h plainClients 1 noClients t phoneMaskCalls plainClients_sound noClients_sealed
    (by decide +kernel) ht).1
  obtain ⟨r, hr, hcolumn⟩ : ∃ r ∈ t.db.clients.rows, (r.id, r.columns.phone) = (1, "None") :=
    List.mem_map.mp (hrows ▸ List.mem_singleton_self _)
  obtain ⟨hid, hphone⟩ := Prod.mk.inj hcolumn
  have hindex := hkept.index r hr
  rw [hphone, hid, htexts] at hindex
  exact absurd hindex (by decide +kernel)

end ImmoApp.Crm
