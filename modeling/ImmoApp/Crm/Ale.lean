import ImmoApp.Foundation.Text

/-!
# Application-layer encryption

The services keep a sensitive text encrypted in a column of its own and put a mask, a blind index or a
zero into the public column.  `normalizeAleField` is the treatment of one field of a record about to be
written.  The cipher, the blind index and the HTML cleaner are third-party or keyed code and parameters
here.
-/

namespace ImmoApp.Crm

structure Cipher where
  currentId : String
  /-- `encrypt_raw` of the current key; the number stands for the random part of a token. -/
  encryptRaw : ℕ → String → String
  /-- `decrypt`, `none` where it raises or no key is configured. -/
  decrypt : String → Option String
  bleachClean : String → String
  blindIndexForWrite : String → String

/-- `encrypt`: a token carries the id of its key. -/
def Cipher.encrypt (cipher : Cipher) (seed : ℕ) (plaintext : String) : String :=
  if plaintext = "" then "" else cipher.currentId ++ ":" ++ cipher.encryptRaw seed plaintext

lemma Cipher.encrypt_ne_empty (cipher : Cipher) (seed : ℕ) {s : String} (h : s ≠ "") :
    cipher.encrypt seed s ≠ "" := by
  rw [encrypt, if_neg h]
  intro heq
  have hlist := congrArg String.toList heq
  simp at hlist

def maskEnc : String := "\u0001\u0002[ALE:ENC]\u0003\u0004"

def maskBidxPrefix : String := "\u0001\u0002[ALE:BIDX]\u0003\u0004"

def legacyMaskEnc : String := "ALE_ENCRYPTED"

def legacyMaskBidxPrefix : String := "ALE_BIDX_"

def startsWith (start s : String) : Bool := start.toList.isPrefixOf s.toList

def isStructuredAleMask (s : String) : Bool :=
  s != "" && (s == maskEnc || startsWith maskBidxPrefix s)

def isLegacyAleMask (s : String) : Bool :=
  s != "" && (s == legacyMaskEnc || startsWith legacyMaskBidxPrefix s)

inductive AlePublicMode where
  | mask
  | blindIndex
  /-- The public column holds a zero. -/
  | zero
  deriving DecidableEq

structure AleFieldPolicy where
  encrypt : Bool
  searchable : Bool
  publicMode : AlePublicMode
  indexNormalizer : Option (String → String)

/-- `_mask` of `ale_policy`. -/
def AleFieldPolicy.masked (searchable : Bool) : AleFieldPolicy := ⟨true, searchable, .mask, none⟩

inductive PublicValue where
  | text (s : String)
  | zero
  | null

structure AleField where
  value : Option String
  enc : String

/-- What `normalize_ale_fields` leaves of a field. -/
structure AleResult where
  value : PublicValue
  enc : String
  /-- The source of the search index; `none` keeps the index. -/
  searchSrc : Option String

variable (cipher : Cipher)

def sanitizeText (s : String) : String :=
  if s.toList.all fun c => c ≠ '<' && c ≠ '>' then s else cipher.bleachClean s

def publicValue (policy : AleFieldPolicy) (cleanValue : String) : PublicValue :=
  match policy.publicMode with
  | .zero => .zero
  | .blindIndex =>
    let source := (policy.indexNormalizer.getD id) cleanValue
    if source = "" then .null else .text (maskBidxPrefix ++ cipher.blindIndexForWrite source)
  | .mask => .text maskEnc

def clearField (policy : AleFieldPolicy) (field : AleField) : AleResult where
  value := if policy.publicMode = .zero then .null else .text ""
  enc := if policy.encrypt then "" else field.enc
  searchSrc := if policy.searchable then some "" else none

def legacyValue (policy : AleFieldPolicy) (value : String) : PublicValue :=
  if policy.publicMode = .blindIndex && startsWith legacyMaskBidxPrefix value then
    .text (maskBidxPrefix ++ String.ofList (value.toList.drop legacyMaskBidxPrefix.length))
  else if policy.publicMode = .mask && value == legacyMaskEnc then .text maskEnc
  else publicValue cipher policy ""

/-- The treatment of one field by `normalize_ale_fields`; `provided` says whether the caller gave it. -/
def normalizeAleField (policy : AleFieldPolicy) (provided : Bool) (seed : ℕ) (field : AleField) :
    AleResult :=
  match field.value with
  | none => clearField policy field
  | some raw =>
    let value := strip raw
    if value = "" then clearField policy field
    else if isStructuredAleMask value then
      if policy.encrypt && field.enc != "" then
        ⟨publicValue cipher policy "", field.enc, none⟩
      else clearField policy field
    else if isLegacyAleMask value && policy.encrypt && field.enc != "" then
      ⟨legacyValue cipher policy value, field.enc, none⟩
    else
      let clean := sanitizeText cipher value
      if !provided && policy.encrypt && field.enc != "" then
        ⟨publicValue cipher policy clean, field.enc, none⟩
      else
        ⟨publicValue cipher policy clean,
          if policy.encrypt then cipher.encrypt seed value else field.enc,
          if policy.searchable then some clean else none⟩

/-- A decrypted column as the models read it: the ciphertext where there is one and it can be read. -/
def readColumn (value enc : String) : String :=
  if enc = "" then value
  else match cipher.decrypt enc with
    | some s => sanitizeText cipher s
    | none => value

def PublicValue.toText : PublicValue → String
  | .text s => s
  | .zero => "0.0"
  | .null => ""

/-! ### Masked fields -/

@[simp] lemma AleFieldPolicy.masked_encrypt (searchable : Bool) :
    (AleFieldPolicy.masked searchable).encrypt = true := rfl

lemma publicValue_masked (searchable : Bool) (s : String) :
    publicValue cipher (.masked searchable) s = .text maskEnc := rfl

lemma legacyValue_masked (searchable : Bool) (s : String) :
    legacyValue cipher (.masked searchable) s = .text maskEnc := by
  unfold legacyValue
  split
  · next h => simp [AleFieldPolicy.masked] at h
  · split <;> rfl

lemma normalizeAleField_blank {searchable : Bool} {field : AleField}
    (h : ∀ raw, field.value = some raw → strip raw = "") (provided : Bool) (seed : ℕ) :
    (normalizeAleField cipher (.masked searchable) provided seed field).value = .text "" ∧
      (normalizeAleField cipher (.masked searchable) provided seed field).enc = "" := by
  have hclear : normalizeAleField cipher (.masked searchable) provided seed field =
      clearField (.masked searchable) field := by
    unfold normalizeAleField
    split
    · rfl
    · next raw hraw => rw [if_pos (h raw hraw)]
  rw [hclear]
  exact ⟨rfl, rfl⟩

lemma normalizeAleField_text {searchable : Bool} {field : AleField} {raw : String}
    (hraw : field.value = some raw) (hblank : strip raw ≠ "")
    (hmask : isStructuredAleMask (strip raw) = true → field.enc ≠ "") (provided : Bool) (seed : ℕ) :
    (normalizeAleField cipher (.masked searchable) provided seed field).value = .text maskEnc ∧
      (normalizeAleField cipher (.masked searchable) provided seed field).enc ≠ "" := by
  simp only [normalizeAleField, hraw, if_neg hblank]
  split
  · next hstructured =>
    rw [if_pos (by simpa using hmask hstructured)]
    constructor
    · rw [publicValue_masked]
    · exact hmask hstructured
  · split
    · next hlegacy =>
      rw [Bool.and_eq_true, bne_iff_ne] at hlegacy
      constructor
      · rw [legacyValue_masked]
      · exact hlegacy.2
    · split
      · next hkept =>
        rw [Bool.and_eq_true, bne_iff_ne] at hkept
        constructor
        · rw [publicValue_masked]
        · exact hkept.2
      · constructor
        · rw [publicValue_masked]
        · simpa using cipher.encrypt_ne_empty seed hblank

/-! ### Ciphertexts -/

/-- The text has the form of a mask, of this release or an older one. -/
def looksMasked (s : String) : Bool := isStructuredAleMask s || isLegacyAleMask s

section Ciphertexts

variable {policy : AleFieldPolicy} {field : AleField} {raw : String}

section

variable (hencrypt : policy.encrypt = true)
include hencrypt

section

variable (hraw : field.value = some raw)
include hraw

lemma normalizeAleField_enc (hblank : strip raw ≠ "") (henc : field.enc ≠ "") {provided : Bool}
    (hkept : provided = false ∨ looksMasked (strip raw) = true) (seed : ℕ) :
    (normalizeAleField cipher policy provided seed field).enc = field.enc := by
  have hpresent : (field.enc != "") = true := by simpa using henc
  simp only [normalizeAleField, hraw, if_neg hblank, hencrypt, hpresent, Bool.and_self, Bool.and_true, if_true]
  split
  · rfl
  · next hstructured =>
    split
    · rfl
    · next hlegacy =>
      rcases hkept with rfl | hmasked
      · rfl
      · rw [looksMasked, Bool.or_eq_true] at hmasked
        exact absurd hmasked (not_or.mpr ⟨hstructured, hlegacy⟩)

/-- A field that was left out and does not read as a mask gets the public column of what was read. -/
lemma normalizeAleField_value
    (hblank : strip raw ≠ "") (henc : field.enc ≠ "") (hmasked : looksMasked (strip raw) = false) (seed : ℕ) :
    (normalizeAleField cipher policy false seed field).value
      = publicValue cipher policy (sanitizeText cipher (strip raw)) := by
  have hpresent : (field.enc != "") = true := by simpa using henc
  obtain ⟨hstructured, hlegacy⟩ := (Bool.or_eq_false_iff).mp hmasked
  simp [normalizeAleField, hraw, hblank, hencrypt, hpresent, hstructured, hlegacy]

lemma normalizeAleField_plain (hblank : strip raw ≠ "") (hstructured : isStructuredAleMask (strip raw) = false)
    (hlegacy : isLegacyAleMask (strip raw) = true → field.enc = "") (seed : ℕ) :
    (normalizeAleField cipher policy true seed field).value
        = publicValue cipher policy (sanitizeText cipher (strip raw)) ∧
      (normalizeAleField cipher policy true seed field).enc = cipher.encrypt seed (strip raw) := by
  have hnot : (isLegacyAleMask (strip raw) && policy.encrypt && field.enc != "") = false := by
    rw [Bool.eq_false_iff]
    intro h
    rw [Bool.and_eq_true, Bool.and_eq_true, bne_iff_ne] at h
    exact h.2 (hlegacy h.1.1)
  simp only [normalizeAleField, hraw, if_neg hblank, hstructured, hnot]
  simp [hencrypt]

end

end

lemma normalizeAleField_clear (henc : field.enc = "")
    (hraw : ∀ raw, field.value = some raw → strip raw = "" ∨ isStructuredAleMask (strip raw) = true)
    (provided : Bool) (seed : ℕ) :
    normalizeAleField cipher policy provided seed field = clearField policy field := by
  unfold normalizeAleField
  split
  · rfl
  · next raw hvalue =>
    dsimp only
    split
    · rfl
    · next hblank =>
      rw [if_pos ((hraw raw hvalue).resolve_left hblank), henc]
      simp

lemma normalizeAleField_masked {searchable provided : Bool} {seed : ℕ}
    (henc : (normalizeAleField cipher (.masked searchable) provided seed field).enc ≠ "") :
    (normalizeAleField cipher (.masked searchable) provided seed field).value = .text maskEnc := by
  by_cases hblank : ∀ raw, field.value = some raw → strip raw = ""
  · exact absurd (normalizeAleField_blank cipher hblank provided seed).2 henc
  · simp only [not_forall] at hblank
    obtain ⟨_, hraw, hblank⟩ := hblank
    refine (normalizeAleField_text cipher hraw hblank (fun hstructured hnone => henc ?_) provided seed).1
    rw [normalizeAleField_clear cipher hnone
      (fun raw' hraw' => .inr (Option.some.inj (hraw.symm.trans hraw') ▸ hstructured)) provided seed]
    rfl

end Ciphertexts

end ImmoApp.Crm
