import ImmoApp.Crm.ClientFields
import ImmoApp.Foundation.Keyed

/-!
# Search keys and phones

The public column of a phone is a keyed hash of its digits, the blind index; the key depends on a master secret, the
agency and the version of the search key.  A phone is looked up by this hash: in the search for people, in the duplicate
checker of imports, and in the unique index over the live rows of an agency.

`reindex_ale_search` leaves the phone columns alone, and lookups hash with the current version only.
`phone_lookups_iff` says which records are still found, whatever was written, reindexed or finalized in between.
-/

namespace ImmoApp.Crm

open List Option

/-! ### Versions and secrets -/

structure SearchBackend where
  hmac : String → String → String
  /-- `hmac.new(key, text, sha256).hexdigest()[:32]`. -/
  shortHmac : String → String → String
  unicode : Unicode
  lower_empty : unicode.lower "" = ""
  digit : Char → Bool
  isDigit : Char → Bool
  /-- The control character at the start of a mask is no digit. -/
  control : digit '\u0001' = false ∧ isDigit '\u0001' = false
  cipher : Cipher
  /-- `immoapp_hash_trigrams`, given the versions of the session. -/
  hashTrigrams : String × String → String → List String

structure SearchEnv where
  master : String
  version : Option String
  previousVersion : Option String

variable (backend : SearchBackend) (env : SearchEnv)

/-- `_VERSION_RE`. -/
def isKeyVersion (s : String) : Bool :=
  match s.toList with
  | 'v' :: c :: rest => (c :: rest).all backend.digit
  | _ => false

def normalizeKeyVersion (raw : Option String) (default : String) : String :=
  let value := backend.unicode.lower (strip (raw.getD ""))
  if value = "" then default else if isKeyVersion backend value then value else default

def getSearchKeyVersion : String := normalizeKeyVersion backend env.version "v1"

def getPreviousSearchKeyVersion : Option String :=
  let prev := normalizeKeyVersion backend env.previousVersion ""
  if prev = "" then none
  else if prev = getSearchKeyVersion backend env then none
  else some prev

/-- What `_derive_tenant_secret` hashes. -/
def secretMessage (agencyId : Option ℕ) (version : String) : String :=
  let tenantScope := agencyId.elim "global" fun id => "agency:" ++ toString id
  if version = "v1" then tenantScope else tenantScope ++ ":search:" ++ version

def deriveTenantSecret (agencyId : Option ℕ) (version : String) : String :=
  backend.hmac env.master (secretMessage agencyId version)

def getSearchSecret (agencyId : Option ℕ) (version : Option String) : String :=
  deriveTenantSecret backend env agencyId (normalizeKeyVersion backend version (getSearchKeyVersion backend env))

def getSearchSecretSet (agencyId : Option ℕ) : List String :=
  (getSearchKeyVersion backend env :: (getPreviousSearchKeyVersion backend env).toList).foldl (fun secrets version =>
      let secret := getSearchSecret backend env agencyId (some version)
      if secret ∈ secrets then secrets else secrets ++ [secret]) []

/-- `blind_index`, for the agency of the request. -/
def blindIndex (agencyId : Option ℕ) (text : String) : String :=
  backend.shortHmac (getSearchSecret backend env agencyId none) (normText backend.unicode text)

def blindIndexForAgency (text : String) (agencyId : ℕ) : String :=
  backend.shortHmac (getSearchSecret backend env (some agencyId) none) (normText backend.unicode text)

/-- `s[n:]`. -/
def dropChars (n : ℕ) (s : String) : String := String.ofList (s.toList.drop n)

def normalizePhoneForDedup (phone : String) : String :=
  let digits := String.ofList (phone.toList.filter backend.isDigit)
  let national :=
    if startsWith "00213" digits then "0" ++ dropChars 5 digits
    else if startsWith "213" digits && decide (9 < digits.length) then "0" ++ dropChars 3 digits
    else digits
  if national.length = 9 ∧ (national.toList.head?.any fun c => c == '5' || c == '6' || c == '7') = true then
    "0" ++ national
  else national

def phoneLookupVariants (phone : String) : List String :=
  let raw := phoneDigits backend.digit phone
  let normalized := normalizePhoneForDedup backend phone
  let spellings :=
    if normalized.length = 10 ∧ startsWith "0" normalized = true then
      let tail := dropChars 1 normalized
      [tail, "213" ++ tail, "00213" ++ tail]
    else if startsWith "00213" raw = true ∧ 12 < raw.length then
      let tail := dropChars 5 raw
      [tail, "0" ++ tail, "213" ++ tail]
    else if startsWith "213" raw = true ∧ 11 < raw.length then
      let tail := dropChars 3 raw
      [tail, "0" ++ tail, "00213" ++ tail]
    else []
  sortedSet (fun a b => a ≤ b) (([raw, normalized] ++ spellings).filter fun v => decide (9 ≤ v.length))

def maskedPhoneProbes (phone : String) (agencyId : ℕ) : List String :=
  sortedSet (fun a b => a ≤ b) ((phoneLookupVariants backend phone).map fun variant =>
    maskBidxPrefix ++ blindIndexForAgency backend env variant agencyId)

inductive PersonTable where
  | clients
  | listings
  deriving DecidableEq

structure PersonRow where
  agencyId : ℕ
  live : Bool
  phone : String
  phoneEnc : String
  phoneSearchIdx : Option (List String)
  familyNameEnc : String
  familyNameSearchIdx : Option (List String)
  /-- History: the phone that was supplied last, without markup. -/
  plainPhone : String
  /-- History: the version of the search key under which it was written. -/
  version : String

def PersonRow.digits (r : PersonRow) : String := phoneDigits backend.digit r.plainPhone

abbrev People := Keyed (PersonTable × ℕ) PersonRow

/-- The parameter of `phone = %s` in `build_people_search_conditions`. -/
def searchPhoneBidx (agencyId : ℕ) (search : String) : String :=
  let normPhone := phoneDigits backend.digit search
  if normPhone = "" then "" else maskBidxPrefix ++ blindIndex backend env (some agencyId) normPhone

/-- `WHERE phone = ANY(probes) AND deleted_at IS NULL AND agency_id = agency ORDER BY id`. -/
def fetchByPhone (people : People) (table : PersonTable) (agencyId : ℕ) (probes : List String) :
    List ((PersonTable × ℕ) × PersonRow) :=
  (people.entries.filter fun e => e.1.1 == table && (probes.contains e.2.phone && e.2.live &&
    e.2.agencyId == agencyId)).insertionSort fun e e' => e.1.2 ≤ e'.1.2

def probeMap (probes : String → List String) (phones : List String) : Dict String String :=
  (phones.flatMap fun phone => (probes phone).map fun probe => (probe, phone)).foldl (fun d e => d.set e.1 e.2) []

/-- `_lookup_phones`: phones with the records that have them. -/
def lookupPhones (people : People) (table : PersonTable) (agencyId : ℕ) (phones : List String) : List (String × ℕ) :=
  let normalized := (phones.map (normalizePhoneForDedup backend)).filter fun p => decide (9 ≤ p.length)
  let masked := probeMap (fun phone => maskedPhoneProbes backend env phone agencyId) normalized
  let plaintext := probeMap (phoneLookupVariants backend) normalized
  let rows := fetchByPhone people table agencyId (masked.map Prod.fst) ++
    fetchByPhone people table agencyId (plaintext.map Prod.fst)
  ((rows.map fun e => (((masked.get? e.2.phone).or (plaintext.get? e.2.phone)).getD
    (normalizePhoneForDedup backend e.2.phone), e.1.2)).filter fun found => found.1 != "").eraseDups

/-- `check_phones`: numbered rows with the records that have their phone. -/
def checkPhones (people : People) (table : PersonTable) (agencyId : ℕ) (rows : List (ℕ × String)) : List (ℕ × ℕ) :=
  let wanted := (rows.map fun row => (row.1, normalizePhoneForDedup backend row.2)).filter fun row =>
    decide (9 ≤ row.2.length)
  (lookupPhones backend env people table agencyId (wanted.map Prod.snd).eraseDups).flatMap fun found =>
    (wanted.filter fun row => row.2 == found.1).map fun row => (row.1, found.2)

def phoneTaken (people : People) (key : PersonTable × ℕ) (r : PersonRow) : Bool :=
  r.live && phoneIndexed r.phone && people.entries.any fun e => e.1.1 == key.1 && e.1.2 != key.2 &&
    (e.2.live && e.2.agencyId == r.agencyId && e.2.phone == r.phone)

/-! ### Writes and the rotation -/

/-- The environment, the versions that `meta` names for the trigrams, and the records. -/
structure SearchDesk where
  env : SearchEnv
  metaVersion : Option String
  metaPrevVersion : Option String
  people : People

/-- The phone of a record about to be written, in `normalize_ale_fields`. -/
def normalizePhone (agencyId seed : ℕ) (phone phoneEnc : String) : AleResult :=
  normalizeAleField
    { backend.cipher with blindIndexForWrite := fun text => blindIndexForAgency backend env text agencyId }
    (.blindIndexed (phoneDigits backend.digit)) true seed ⟨some phone, phoneEnc⟩

namespace SearchDesk

variable (s : SearchDesk)

def sessionVersions : String × String :=
  (normalizeKeyVersion backend s.metaVersion (getSearchKeyVersion backend s.env),
    normalizeKeyVersion backend s.metaPrevVersion "")

def written (key : PersonTable × ℕ) (agencyId seed : ℕ) (phone : String) : PersonRow :=
  let old := s.people.get? key
  let agency := (old.map PersonRow.agencyId).getD agencyId
  let field := normalizePhone backend s.env agency seed phone ((old.map PersonRow.phoneEnc).getD "")
  { agencyId := agency
    live := (old.map PersonRow.live).getD true
    phone := field.value.str
    phoneEnc := field.enc
    phoneSearchIdx := (field.searchSrc.map (backend.hashTrigrams (s.sessionVersions backend))).or
      (old.bind PersonRow.phoneSearchIdx)
    familyNameEnc := (old.map PersonRow.familyNameEnc).getD ""
    familyNameSearchIdx := old.bind PersonRow.familyNameSearchIdx
    plainPhone := sanitizeText backend.cipher (strip phone)
    version := getSearchKeyVersion backend s.env }

def writePhone (key : PersonTable × ℕ) (agencyId seed : ℕ) (phone : String) : Option SearchDesk :=
  if looksMasked (strip phone) then none
  else
    let row := s.written backend key agencyId seed phone
    if phoneTaken s.people key row then none else some { s with people := s.people.set key row }

def setLive (key : PersonTable × ℕ) (live : Bool) : Option SearchDesk :=
  (s.people.get? key).bind fun r =>
    if phoneTaken s.people key { r with live := live } then none
    else some { s with people := s.people.set key { r with live := live } }

/-- The trigrams that `_reindex_row` writes for a column. -/
def reindexColumn (enc : String) (idx : Option (List String)) : Option (List String) :=
  if enc = "" then idx
  else match backend.cipher.decrypt enc with
    | some plaintext =>
      some (backend.hashTrigrams (s.sessionVersions backend) (sanitizeText backend.cipher plaintext))
    | none => idx

def reindexRow (r : PersonRow) : PersonRow :=
  { r with
    familyNameSearchIdx := s.reindexColumn backend r.familyNameEnc r.familyNameSearchIdx
    phoneSearchIdx := s.reindexColumn backend r.phoneEnc r.phoneSearchIdx }

def iterReindexRows (table : PersonTable) (force : Bool) (limit : Option ℕ) : List (PersonTable × ℕ) :=
  let ids := (s.people.entries.filter fun e => e.1.1 == table &&
    (e.2.familyNameEnc != "" && (force || e.2.familyNameSearchIdx.isNone) ||
      e.2.phoneEnc != "" && (force || e.2.phoneSearchIdx.isNone))).map Prod.fst
  match limit with
  | some (n + 1) => ids.take (n + 1)
  | _ => ids

def reindexAleSearch (dryRun force : Bool) (limit : Option ℕ) : SearchDesk :=
  if dryRun then s
  else
    let ids := s.iterReindexRows .clients force limit ++ s.iterReindexRows .listings force limit
    { s with people := s.people.update (fun key _ => ids.contains key) fun _ r => s.reindexRow backend r }

/-- `start_ale_search_rotation`, where it does not raise. -/
def startAleSearchRotation (toVersion : String) : Option SearchDesk :=
  let target := backend.unicode.lower (strip toVersion)
  let stored := backend.unicode.lower (strip (s.metaVersion.getD ""))
  if isKeyVersion backend target && (stored == "" || isKeyVersion backend stored) then
    let current := if stored = "" then "v1" else stored
    if current = target then some s
    else some { s with metaVersion := some target, metaPrevVersion := some current }
  else none

/-- `finalize_ale_search_rotation`, where it does not raise. -/
def finalizeAleSearchRotation : Option SearchDesk :=
  let stored := backend.unicode.lower (strip (s.metaVersion.getD ""))
  if stored == "" || isKeyVersion backend stored then some { s with metaPrevVersion := some "" } else none

end SearchDesk

inductive SearchStep where
  | write (key : PersonTable × ℕ) (agencyId seed : ℕ) (phone : String)
  /-- A record is deleted or restored. -/
  | setLive (key : PersonTable × ℕ) (live : Bool)
  /-- The environment names other versions. -/
  | configure (version previousVersion : Option String)
  | start (toVersion : String)
  | reindex (dryRun force : Bool) (limit : Option ℕ)
  /-- `finalize_ale_search_rotation`. -/
  | finalize

def SearchDesk.step (s : SearchDesk) : SearchStep → Option SearchDesk
  | .write key agencyId seed phone => s.writePhone backend key agencyId seed phone
  | .setLive key live => s.setLive key live
  | .configure version previousVersion =>
    some { s with env := { s.env with version := version, previousVersion := previousVersion } }
  | .start toVersion => s.startAleSearchRotation backend toVersion
  | .reindex dryRun force limit => some (s.reindexAleSearch backend dryRun force limit)
  | .finalize => s.finalizeAleSearchRotation backend

structure FoundBy (s : SearchDesk) (key : PersonTable × ℕ) (r : PersonRow) (phone : String) : Prop where
  search : r.phone = searchPhoneBidx backend s.env r.agencyId phone
  checker : ∀ n, (n, key.2) ∈ checkPhones backend s.env s.people key.1 r.agencyId [(n, phone)]
  /-- By the unique index: no other record can be written with the digits of the phone. -/
  index : ∀ id seed other, s.people.get? (key.1, id) = none → phoneDigits backend.digit
    (sanitizeText backend.cipher (strip other)) = phoneDigits backend.digit phone →
      s.writePhone backend (key.1, id) r.agencyId seed other = none

/-- Every live record is found by every phone with the same digits. -/
def PhoneLookups (s : SearchDesk) : Prop :=
  ∀ key r, s.people.get? key = some r → r.live = true → r.digits backend ≠ "" →
    ∀ phone, phoneDigits backend.digit phone = r.digits backend → FoundBy backend s key r phone

/-- The duplicate checker tries the digits of the phone: its normal form has nine digits at least, is a
normal form itself, and one of the spellings tried is these digits. -/
def Probed (phone : String) : Prop :=
  9 ≤ (normalizePhoneForDedup backend phone).length ∧
    normalizePhoneForDedup backend (normalizePhoneForDedup backend phone) = normalizePhoneForDedup backend phone ∧
    ∃ variant ∈ phoneLookupVariants backend (normalizePhoneForDedup backend phone),
      normText backend.unicode variant = normText backend.unicode (phoneDigits backend.digit phone)

/-- The public column of every record with digits is their blind index under its version. -/
def SearchDesk.Indexed (s : SearchDesk) : Prop :=
  ∀ key r, s.people.get? key = some r → r.digits backend ≠ "" → r.phone = maskBidxPrefix ++ backend.shortHmac
      (deriveTenantSecret backend s.env (some r.agencyId) r.version)
      (normText backend.unicode (r.digits backend))

@[simp] lemma normalizeKeyVersion_none (default : String) : normalizeKeyVersion backend none default = default := by
  have hempty : strip "" = "" := rfl
  simp [normalizeKeyVersion, hempty, backend.lower_empty]

lemma blindIndex_eq (agencyId : ℕ) (text : String) : blindIndex backend env (some agencyId) text = backend.shortHmac
      (deriveTenantSecret backend env (some agencyId) (getSearchKeyVersion backend env))
      (normText backend.unicode text) := by
  rw [blindIndex, getSearchSecret, normalizeKeyVersion_none]

lemma secretMessage_injective (agencyId : Option ℕ) : Function.Injective (secretMessage agencyId) := by
  intro v w h
  unfold secretMessage at h
  dsimp only at h
  have hsearch : ":search:".length = 8 := rfl
  split at h <;> split at h
  · next hv hw => rw [hv, hw]
  · have hlength := congrArg String.length h
    rw [String.length_append, String.length_append] at hlength
    omega
  · have hlength := congrArg String.length h
    rw [String.length_append, String.length_append] at hlength
    omega
  · exact String.append_right_inj _ |>.mp h

variable {backend} in
lemma bidx_inj (hhmac : Function.Injective2 backend.hmac) (hshort : Function.Injective2 backend.shortHmac)
    {agencyId : Option ℕ} {v w x y : String}
    (h : maskBidxPrefix ++ backend.shortHmac (deriveTenantSecret backend env agencyId v) x =
      maskBidxPrefix ++ backend.shortHmac (deriveTenantSecret backend env agencyId w) y) :
    v = w ∧ x = y := by
  obtain ⟨hsecret, htext⟩ := hshort (String.append_right_inj _ |>.mp h)
  exact ⟨secretMessage_injective agencyId (hhmac hsecret).2, htext⟩

lemma control_mem_masked (s : String) : '\u0001' ∈ (maskBidxPrefix ++ s).toList := by
  rw [String.toList_append]
  exact mem_append_left _ (by decide)

lemma phoneIndexed_masked (s : String) : phoneIndexed (maskBidxPrefix ++ s) = true := by
  rw [phoneIndexed, List.any_eq_true]
  exact ⟨'\u0001', control_mem_masked s, by decide⟩

/-! ### Spellings are no masks -/

lemma control_notMem_filter {p : Char → Bool} (hp : p '\u0001' = false) (l : List Char) :
    '\u0001' ∉ (String.ofList (l.filter p)).toList := by
  rw [String.toList_ofList, mem_filter, hp]
  exact fun h => Bool.false_ne_true h.2

lemma control_notMem_dropChars {s : String} (hs : '\u0001' ∉ s.toList) (n : ℕ) :
    '\u0001' ∉ (dropChars n s).toList := by
  rw [dropChars, String.toList_ofList]
  exact fun h => hs (mem_of_mem_drop h)

lemma control_notMem_append {s t : String} (hs : '\u0001' ∉ s.toList) (ht : '\u0001' ∉ t.toList) :
    '\u0001' ∉ (s ++ t).toList := by
  rw [String.toList_append, mem_append]
  exact not_or.mpr ⟨hs, ht⟩

lemma control_notMem_normalizePhoneForDedup (phone : String) :
    '\u0001' ∉ (normalizePhoneForDedup backend phone).toList := by
  have hzero : '\u0001' ∉ "0".toList := by decide
  unfold normalizePhoneForDedup
  extract_lets digits national
  have hdigits : '\u0001' ∉ digits.toList := control_notMem_filter backend.control.2 _
  have hnational : '\u0001' ∉ national.toList := by
    unfold national
    split
    · exact control_notMem_append hzero (control_notMem_dropChars hdigits 5)
    · split
      · exact control_notMem_append hzero (control_notMem_dropChars hdigits 3)
      · exact hdigits
  split
  · exact control_notMem_append hzero hnational
  · exact hnational

lemma control_notMem_phoneLookupVariants {phone variant : String}
    (h : variant ∈ phoneLookupVariants backend phone) : '\u0001' ∉ variant.toList := by
  have hzero : '\u0001' ∉ "0".toList := by decide
  have hcountry : '\u0001' ∉ "213".toList := by decide
  have hlong : '\u0001' ∉ "00213".toList := by decide
  unfold phoneLookupVariants at h
  extract_lets raw normalized tail tail₁ tail₂ spellings at h
  have hraw : '\u0001' ∉ raw.toList := control_notMem_filter backend.control.1 _
  have hnormalized : '\u0001' ∉ normalized.toList := control_notMem_normalizePhoneForDedup backend phone
  have htail : '\u0001' ∉ tail.toList := control_notMem_dropChars hnormalized 1
  have htail₁ : '\u0001' ∉ tail₁.toList := control_notMem_dropChars hraw 5
  have htail₂ : '\u0001' ∉ tail₂.toList := control_notMem_dropChars hraw 3
  have hspellings : ∀ v ∈ spellings, '\u0001' ∉ v.toList := by
    intro v hmem
    unfold spellings at hmem
    split at hmem
    · simp only [mem_cons, not_mem_nil, or_false] at hmem
      rcases hmem with hmem | hmem | hmem
      · exact hmem ▸ htail
      · exact hmem ▸ control_notMem_append hcountry htail
      · exact hmem ▸ control_notMem_append hlong htail
    · split at hmem
      · simp only [mem_cons, not_mem_nil, or_false] at hmem
        rcases hmem with hmem | hmem | hmem
        · exact hmem ▸ htail₁
        · exact hmem ▸ control_notMem_append hzero htail₁
        · exact hmem ▸ control_notMem_append hcountry htail₁
      · split at hmem
        · simp only [mem_cons, not_mem_nil, or_false] at hmem
          rcases hmem with hmem | hmem | hmem
          · exact hmem ▸ htail₂
          · exact hmem ▸ control_notMem_append hzero htail₂
          · exact hmem ▸ control_notMem_append hlong htail₂
        · exact absurd hmem not_mem_nil
  rw [mem_sortedSet, mem_filter, mem_append, mem_cons, mem_singleton] at h
  rcases h.1 with (hmem | hmem) | hmem
  · rw [hmem]
    exact hraw
  · rw [hmem]
    exact hnormalized
  · exact hspellings variant hmem

/-! ### The duplicate checker -/

lemma nodup_eraseDups {α : Type*} [BEq α] [LawfulBEq α] (l : List α) : l.eraseDups.Nodup := by
  induction hlength : l.length using Nat.strong_induction_on generalizing l with
  | _ n ih =>
    cases l with
    | nil => exact nodup_nil
    | cons a l =>
      rw [eraseDups_cons, nodup_cons]
      refine ⟨fun hmem => ?_, ih _ ?_ _ rfl⟩
      · have hne := (mem_filter.mp (mem_eraseDups.mp hmem)).2
        rw [beq_self_eq_true] at hne
        cases hne
      · rw [← hlength]
        exact Nat.lt_succ_of_le (length_filter_le _ l)

def lastWith (probes : String → List String) (phones : List String) (probe : String) : Option String :=
  (phones.filter fun phone => decide (probe ∈ probes phone)).getLast?

lemma get?_probeMap (probes : String → List String) (phones : List String) (probe : String) :
    (probeMap probes phones).get? probe = lastWith probes phones probe := by
  -- the probes of one phone
  have hphone : ∀ (phone : String) (l : List String) (d : Dict String String),
      ((l.map fun probe => (probe, phone)).foldl (fun d e => d.set e.1 e.2) d).get? probe
        = if probe ∈ l then some phone else d.get? probe := by
    intro phone l
    induction l with
    | nil => exact fun d => rfl
    | cons a l ih =>
      intro d
      rw [map_cons, foldl_cons, ih, Dict.get?_set]
      by_cases hmem : probe ∈ l
      · rw [if_pos hmem, if_pos (mem_cons_of_mem a hmem)]
      · rw [if_neg hmem]
        simp [hmem]
  have hfold : ∀ (phones : List String) (d : Dict String String),
      ((phones.flatMap fun phone => (probes phone).map fun probe => (probe, phone)).foldl
        (fun d e => d.set e.1 e.2) d).get? probe = (lastWith probes phones probe).or (d.get? probe) := by
    intro phones
    induction phones with
    | nil => exact fun d => rfl
    | cons phone phones ih =>
      intro d
      rw [flatMap_cons, foldl_append, ih, hphone, lastWith, lastWith, filter_cons]
      by_cases hmem : probe ∈ probes phone
      · rw [if_pos hmem, if_pos (decide_eq_true hmem), getLast?_cons]
        cases (phones.filter fun phone => decide (probe ∈ probes phone)).getLast? <;> rfl
      · rw [if_neg hmem, if_neg (by simpa using hmem)]
  rw [probeMap, hfold, Dict.get?_nil, or_none]

variable {phones : List String} {agencyId : ℕ}

lemma mem_probeMap {probes : String → List String} {probe : String} :
    probe ∈ (probeMap probes phones).map Prod.fst ↔ ∃ phone ∈ phones, probe ∈ probes phone := by
  have hkey : probe ∈ (probeMap probes phones).map Prod.fst ↔ (probeMap probes phones).get? probe ≠ none := by
    rw [Ne, Dict.get?_eq_none_iff]
    simp
  rw [hkey, get?_probeMap, lastWith, Ne, getLast?_eq_none_iff, filter_eq_nil_iff]
  simp

variable {people : People} {table : PersonTable}

lemma mem_fetchByPhone {probes : List String}
    {key : PersonTable × ℕ} {r : PersonRow} :
    (key, r) ∈ fetchByPhone people table agencyId probes ↔ people.get? key = some r ∧ key.1 = table ∧
      r.phone ∈ probes ∧ r.live = true ∧ r.agencyId = agencyId := by
  simp [fetchByPhone, Keyed.mem_entries_iff, and_assoc]

def normalForms (phones : List String) : List String :=
  (phones.map (normalizePhoneForDedup backend)).filter fun p => decide (9 ≤ p.length)

/-- A phone is tried against the public column of a record. -/
def Tries (agencyId : ℕ) (phone column : String) : Prop :=
  column ∈ maskedPhoneProbes backend env phone agencyId ∨ column ∈ phoneLookupVariants backend phone

instance (agencyId : ℕ) (phone column : String) : Decidable (Tries backend env agencyId phone column) :=
  inferInstanceAs (Decidable (_ ∨ _))

def lastTrying (agencyId : ℕ) (phones : List String) (column : String) : Option String :=
  (phones.filter fun phone => decide (Tries backend env agencyId phone column)).getLast?

lemma lastTrying_ne_none {column : String} : lastTrying backend env agencyId phones column ≠ none ↔
      ∃ phone ∈ phones, Tries backend env agencyId phone column := by
  rw [lastTrying, Ne, getLast?_eq_none_iff, filter_eq_nil_iff]
  simp only [decide_eq_true_eq, not_forall, not_not, exists_prop]

lemma control_mem_of_mem_maskedPhoneProbes {phone column : String}
    (h : column ∈ maskedPhoneProbes backend env phone agencyId) : '\u0001' ∈ column.toList := by
  rw [maskedPhoneProbes, mem_sortedSet, List.mem_map] at h
  obtain ⟨_, -, rfl⟩ := h
  exact control_mem_masked _

lemma or_get?_probeMap (agencyId : ℕ) (phones : List String) (column : String) :
    ((probeMap (fun phone => maskedPhoneProbes backend env phone agencyId) phones).get? column).or
      ((probeMap (phoneLookupVariants backend) phones).get? column) =
        lastTrying backend env agencyId phones column := by
  rw [get?_probeMap, get?_probeMap, lastWith, lastWith, lastTrying]
  by_cases hmasked : '\u0001' ∈ column.toList
  · have hplain : ∀ phone, column ∉ phoneLookupVariants backend phone :=
      fun phone hmem => control_notMem_phoneLookupVariants backend hmem hmasked
    simp [Tries, hplain]
  · have hmask : ∀ phone, column ∉ maskedPhoneProbes backend env phone agencyId :=
      fun phone hmem => hmasked (control_mem_of_mem_maskedPhoneProbes backend env hmem)
    simp [Tries, hmask]

/-- The lookup finds a live record of the agency under the last normal form that is tried against its column. -/
lemma mem_lookupPhones {label : String} {id : ℕ} :
    (label, id) ∈ lookupPhones backend env people table agencyId phones ↔
      ∃ r, people.get? (table, id) = some r ∧ r.live = true ∧ r.agencyId = agencyId ∧
        lastTrying backend env agencyId (normalForms backend phones) r.phone = some label := by
  unfold lookupPhones
  extract_lets normalized masked plaintext rows
  have hrow : ∀ key r, (key, r) ∈ rows ↔ people.get? key = some r ∧ key.1 = table ∧ r.live = true ∧
      r.agencyId = agencyId ∧ lastTrying backend env agencyId (normalForms backend phones) r.phone ≠ none := by
    intro key r
    unfold rows masked plaintext
    rw [List.mem_append, mem_fetchByPhone, mem_fetchByPhone, mem_probeMap, mem_probeMap, lastTrying_ne_none]
    constructor
    · rintro (⟨hget, htable, ⟨phone, hphone, hprobe⟩, hrest⟩ | ⟨hget, htable, ⟨phone, hphone, hprobe⟩, hrest⟩)
      · exact ⟨hget, htable, hrest.1, hrest.2, phone, hphone, .inl hprobe⟩
      · exact ⟨hget, htable, hrest.1, hrest.2, phone, hphone, .inr hprobe⟩
    · rintro ⟨hget, htable, hlive, hagency, phone, hphone, hprobe | hprobe⟩
      · exact .inl ⟨hget, htable, ⟨phone, hphone, hprobe⟩, hlive, hagency⟩
      · exact .inr ⟨hget, htable, ⟨phone, hphone, hprobe⟩, hlive, hagency⟩
  have hlong : ∀ column label, lastTrying backend env agencyId (normalForms backend phones) column = some label →
      label ≠ "" := by
    rintro _ label hlast rfl
    have hmem := (List.mem_filter.mp (List.mem_filter.mp (List.mem_of_getLast? hlast)).1).2
    exact absurd hmem (by decide)
  rw [List.mem_eraseDups, List.mem_filter, List.mem_map]
  constructor
  · rintro ⟨⟨⟨key, r⟩, he, hfound⟩, -⟩
    obtain ⟨hname, rfl⟩ := Prod.mk.inj hfound
    obtain ⟨hget, rfl, hlive, hagency, htried⟩ := (hrow key r).mp he
    refine ⟨r, hget, hlive, hagency, ?_⟩
    obtain ⟨_, hlast⟩ := Option.ne_none_iff_exists'.mp htried
    dsimp only at hname
    unfold masked plaintext at hname
    rw [or_get?_probeMap] at hname
    change (lastTrying backend env agencyId (normalForms backend phones) r.phone).getD _ = label at hname
    rw [hlast, Option.getD_some] at hname
    rw [hlast, hname]
  · rintro ⟨r, hget, hlive, hagency, hlast⟩
    refine ⟨⟨((table, id), r), (hrow _ r).mpr ⟨hget, rfl, hlive, hagency, by rw [hlast]; simp⟩, Prod.ext ?_ rfl⟩,
      by simpa using hlong r.phone label hlast⟩
    dsimp only
    unfold masked plaintext
    rw [or_get?_probeMap]
    change (lastTrying backend env agencyId (normalForms backend phones) r.phone).getD _ = label
    rw [hlast, Option.getD_some]

lemma nodup_lookupPhones : (lookupPhones backend env people table agencyId phones).Nodup := nodup_eraseDups _

/-- The phones that the checker looks up for some rows. -/
def wantedPhones (rows : List (ℕ × String)) : List String :=
  ((rows.map fun row => normalizePhoneForDedup backend row.2).filter fun p => decide (9 ≤ p.length)).eraseDups

lemma mem_checkPhones {rows : List (ℕ × String)} {n id : ℕ} :
    (n, id) ∈ checkPhones backend env people table agencyId rows ↔
      ∃ phone, (n, phone) ∈ rows ∧ 9 ≤ (normalizePhoneForDedup backend phone).length ∧
        (normalizePhoneForDedup backend phone, id) ∈
          lookupPhones backend env people table agencyId (wantedPhones backend rows) := by
  have hwanted : ((rows.map fun row => (row.1, normalizePhoneForDedup backend row.2)).filter fun row =>
      decide (9 ≤ row.2.length)).map Prod.snd =
        (rows.map fun row => normalizePhoneForDedup backend row.2).filter fun p => decide (9 ≤ p.length) := by
    simp only [List.filter_map, List.map_map, Function.comp_def]
  unfold checkPhones
  dsimp only
  rw [hwanted, ← wantedPhones]
  rw [mem_flatMap]
  constructor
  · rintro ⟨⟨label, _⟩, hfound, hmem⟩
    obtain ⟨⟨m, normalized⟩, hrow, heq⟩ := mem_map.mp hmem
    obtain ⟨hrow, hlabel⟩ := mem_filter.mp hrow
    obtain ⟨hrow, hlong⟩ := mem_filter.mp hrow
    obtain ⟨⟨k, phone⟩, hmem, hnormal⟩ := mem_map.mp hrow
    obtain ⟨hk, hphone⟩ := Prod.mk.inj hnormal
    obtain ⟨hm, hid⟩ := Prod.mk.inj heq
    have hlabel : normalized = label := by simpa using hlabel
    refine ⟨phone, ?_, ?_, ?_⟩
    · rw [← hm, ← hk]
      exact hmem
    · rw [hphone]
      simpa using hlong
    · rw [hphone, hlabel, ← hid]
      exact hfound
  · rintro ⟨phone, hrow, hlong, hfound⟩
    refine ⟨_, hfound, mem_map.mpr ⟨(n, normalizePhoneForDedup backend phone), ?_, rfl⟩⟩
    rw [mem_filter, mem_filter]
    refine ⟨⟨mem_map.mpr ⟨(n, phone), hrow, rfl⟩, ?_⟩, ?_⟩
    · simpa using hlong
    · simp only [beq_self_eq_true]

/-- The checker reports a masked record for a phone when a blind index of the spellings of the phone is the
public column of the record. -/
lemma mem_checkPhones_iff {key : PersonTable × ℕ} {r : PersonRow}
    (hget : people.get? key = some r) (hlive : r.live = true) (hmasked : '\u0001' ∈ r.phone.toList)
    (n : ℕ) (phone : String) :
    (n, key.2) ∈ checkPhones backend env people key.1 r.agencyId [(n, phone)] ↔
      9 ≤ (normalizePhoneForDedup backend phone).length ∧
        normalizePhoneForDedup backend (normalizePhoneForDedup backend phone) = normalizePhoneForDedup backend phone ∧
        r.phone ∈ maskedPhoneProbes backend env (normalizePhoneForDedup backend phone) r.agencyId := by
  obtain ⟨table, id⟩ := key
  dsimp only
  have hplain : ∀ p, r.phone ∉ phoneLookupVariants backend p :=
    fun p hp => control_notMem_phoneLookupVariants backend hp hmasked
  generalize hnormalized : normalizePhoneForDedup backend phone = normalized
  by_cases hlong : 9 ≤ normalized.length
  swap
  · refine iff_of_false (fun hmem => ?_) fun h => hlong h.1
    obtain ⟨phone', hrow, hlong', -⟩ := (mem_checkPhones backend env).mp hmem
    obtain rfl : phone' = phone := (Prod.mk.inj (mem_singleton.mp hrow)).2
    rw [hnormalized] at hlong'
    exact hlong hlong'
  have hwanted : wantedPhones backend [(n, phone)] = [normalized] := by
    rw [wantedPhones, map_singleton, hnormalized, filter_cons_of_pos (by simpa using hlong),
      filter_nil, eraseDups_cons, filter_nil, eraseDups_nil]
  have hfound : (n, id) ∈ checkPhones backend env people table r.agencyId [(n, phone)] ↔
      lastTrying backend env r.agencyId (normalForms backend [normalized]) r.phone = some normalized := by
    rw [mem_checkPhones, hwanted]
    constructor
    · rintro ⟨phone', hrow, -, hmem⟩
      obtain rfl : phone' = phone := (Prod.mk.inj (mem_singleton.mp hrow)).2
      rw [hnormalized] at hmem
      obtain ⟨_, hget', -, -, hlast⟩ := (mem_lookupPhones backend env).mp hmem
      rw [hget] at hget'
      obtain ⟨⟩ := hget'
      exact hlast
    · intro hlast
      refine ⟨phone, mem_singleton.mpr rfl, ?_, ?_⟩
      · rw [hnormalized]
        exact hlong
      · rw [hnormalized]
        exact (mem_lookupPhones backend env).mpr ⟨r, hget, hlive, rfl, hlast⟩
  rw [hfound, and_iff_right hlong, lastTrying, normalForms, map_singleton]
  constructor
  · intro hlast
    have hmem := mem_filter.mp (mem_of_getLast? hlast)
    have hsame : normalized = normalizePhoneForDedup backend normalized :=
      mem_singleton.mp (mem_filter.mp hmem.1).1
    exact ⟨hsame.symm, (of_decide_eq_true hmem.2).resolve_right (hplain normalized)⟩
  · rintro ⟨hsame, hprobe⟩
    have htries : Tries backend env r.agencyId normalized r.phone := .inl hprobe
    rw [hsame, filter_cons_of_pos (by simpa using hlong), filter_nil,
      filter_cons_of_pos (by simpa using htries), filter_nil, getLast?_singleton]

/-! ### Records are indexed -/

section Indexed

variable {backend} {s t : SearchDesk}

lemma SearchDesk.plainPhone_written (key : PersonTable × ℕ) (agencyId seed : ℕ) (phone : String) :
    (s.written backend key agencyId seed phone).plainPhone = sanitizeText backend.cipher (strip phone) := by
  simp only [SearchDesk.written]

lemma sanitizeText_blindIndexForWrite (cipher : Cipher) (f : String → String) (text : String) :
    sanitizeText { cipher with blindIndexForWrite := f } text = sanitizeText cipher text := by
  rw [sanitizeText, sanitizeText]

variable {key : PersonTable × ℕ} {phone : String}

lemma SearchDesk.phone_written {agencyId seed : ℕ} (hplain : looksMasked (strip phone) = false)
    (hdigits : (s.written backend key agencyId seed phone).digits backend ≠ "") :
    (s.written backend key agencyId seed phone).phone = maskBidxPrefix ++ backend.shortHmac
      (deriveTenantSecret backend s.env (some (s.written backend key agencyId seed phone).agencyId)
        (getSearchKeyVersion backend s.env))
      (normText backend.unicode ((s.written backend key agencyId seed phone).digits backend)) := by
  obtain ⟨hstructured, hlegacy⟩ := Bool.or_eq_false_iff.mp hplain
  have hblank : strip phone ≠ "" := by
    intro hempty
    refine hdigits ?_
    have hclean : sanitizeText backend.cipher "" = "" := by simp [sanitizeText]
    have hstrip : strip "" = "" := by decide
    rw [PersonRow.digits, SearchDesk.plainPhone_written, hempty, hclean, phoneDigits, hstrip]
    simp
  rw [PersonRow.digits] at hdigits ⊢
  dsimp only [SearchDesk.written] at hdigits ⊢
  rw [normalizePhone, (normalizeAleField_plain _ rfl rfl hblank hstructured
    (fun h => absurd h (by simp [hlegacy])) seed).1, sanitizeText_blindIndexForWrite]
  dsimp only [publicValue, AleFieldPolicy.blindIndexed, getD_some]
  rw [if_neg hdigits, PublicValue.str, blindIndexForAgency, getSearchSecret, normalizeKeyVersion_none]

lemma SearchDesk.Indexed.step (hs : s.Indexed backend) {a : SearchStep}
    (hstep : s.step backend a = some t) : t.Indexed backend := by
  cases a with
  | write =>
    simp only [SearchDesk.step, SearchDesk.writePhone] at hstep
    split at hstep
    · cases hstep
    · next hplain =>
      split at hstep
      · cases hstep
      · obtain ⟨⟩ := hstep
        intro key' r hget hdigits
        rw [Keyed.get?_set] at hget
        split at hget
        · obtain ⟨⟩ := hget
          exact SearchDesk.phone_written (by simpa using hplain) hdigits
        · exact hs key' r hget hdigits
  | setLive key =>
    simp only [SearchDesk.step, SearchDesk.setLive] at hstep
    obtain ⟨r₀, hr₀, hstep⟩ := bind_eq_some_iff.mp hstep
    split at hstep
    · cases hstep
    · obtain ⟨⟩ := hstep
      intro key' r hget hdigits
      rw [Keyed.get?_set] at hget
      split at hget
      · obtain ⟨⟩ := hget
        exact hs key r₀ hr₀ hdigits
      · exact hs key' r hget hdigits
  | configure =>
    obtain ⟨⟩ := hstep
    exact hs
  | start =>
    rw [SearchDesk.step, SearchDesk.startAleSearchRotation] at hstep
    extract_lets target at hstep
    split at hstep
    · split at hstep
      · obtain ⟨⟩ := hstep
        exact hs
      · obtain ⟨⟩ := hstep
        exact hs
    · cases hstep
  | reindex _ force limit =>
    obtain ⟨⟩ := hstep
    unfold SearchDesk.reindexAleSearch
    split
    · exact hs
    · intro key r hget hdigits
      rw [Keyed.get?_update] at hget
      obtain ⟨r₀, hr₀, rfl⟩ := map_eq_some_iff.mp hget
      by_cases hids : (s.iterReindexRows .clients force limit
          ++ s.iterReindexRows .listings force limit).contains key = true
      · rw [if_pos hids] at hdigits ⊢
        exact hs key r₀ hr₀ hdigits
      · rw [if_neg hids] at hdigits ⊢
        exact hs key r₀ hr₀ hdigits
  | finalize =>
    simp only [SearchDesk.step, SearchDesk.finalizeAleSearchRotation] at hstep
    split at hstep
    · obtain ⟨⟩ := hstep
      exact hs
    · cases hstep

/-! ### Who is found -/

variable {r : PersonRow}

/-- The equality of the search finds a record by its digits when it was written under the current version. -/
lemma search_iff (hhmac : Function.Injective2 backend.hmac) (hshort : Function.Injective2 backend.shortHmac)
    (hs : s.Indexed backend) (hget : s.people.get? key = some r)
    (hdigits : r.digits backend ≠ "") (hphone : phoneDigits backend.digit phone = r.digits backend) :
    r.phone = searchPhoneBidx backend s.env r.agencyId phone ↔ r.version = getSearchKeyVersion backend s.env := by
  have hindex := hs key r hget hdigits
  have hsearch : searchPhoneBidx backend s.env r.agencyId phone = maskBidxPrefix ++ backend.shortHmac
      (deriveTenantSecret backend s.env (some r.agencyId) (getSearchKeyVersion backend s.env))
      (normText backend.unicode (r.digits backend)) := by
    rw [searchPhoneBidx, hphone, if_neg hdigits, blindIndex_eq]
  rw [hsearch, hindex]
  constructor
  · exact fun h => (bidx_inj s.env hhmac hshort h).1
  · exact fun h => by rw [h]

/-- The probes of a phone contain the public column of a record of the current version when the digits of
the record are hashed like one of the spellings of the phone. -/
lemma probe_iff (hhmac : Function.Injective2 backend.hmac) (hshort : Function.Injective2 backend.shortHmac)
    (hs : s.Indexed backend) (hget : s.people.get? key = some r)
    (hdigits : r.digits backend ≠ "") (phone : String) :
    r.phone ∈ maskedPhoneProbes backend s.env phone r.agencyId ↔
      r.version = getSearchKeyVersion backend s.env ∧ ∃ variant ∈ phoneLookupVariants backend phone,
        normText backend.unicode variant = normText backend.unicode (r.digits backend) := by
  have hindex := hs key r hget hdigits
  have hhash : ∀ variant, blindIndexForAgency backend s.env variant r.agencyId = backend.shortHmac
      (deriveTenantSecret backend s.env (some r.agencyId) (getSearchKeyVersion backend s.env))
      (normText backend.unicode variant) := blindIndex_eq backend s.env r.agencyId
  rw [maskedPhoneProbes, mem_sortedSet, List.mem_map]
  constructor
  · rintro ⟨variant, hvariant, heq⟩
    rw [hhash, hindex] at heq
    obtain ⟨hversion, htext⟩ := bidx_inj s.env hhmac hshort heq
    exact ⟨hversion.symm, variant, hvariant, htext⟩
  · rintro ⟨hversion, variant, hvariant, htext⟩
    refine ⟨variant, hvariant, ?_⟩
    rw [hhash, htext, hindex, hversion]

lemma writePhone_eq_none (hs : s.Indexed backend)
    (hget : s.people.get? key = some r) (hlive : r.live = true) (hdigits : r.digits backend ≠ "")
    (hversion : r.version = getSearchKeyVersion backend s.env) {id seed : ℕ} {other : String}
    (hnew : s.people.get? (key.1, id) = none)
    (hother : phoneDigits backend.digit (sanitizeText backend.cipher (strip other)) = r.digits backend) :
    s.writePhone backend (key.1, id) r.agencyId seed other = none := by
  rw [SearchDesk.writePhone]
  by_cases hplain : looksMasked (strip other) = true
  · rw [if_pos hplain]
  rw [if_neg hplain]
  dsimp only
  have hrow : (s.written backend (key.1, id) r.agencyId seed other).phone = r.phone := by
    have hagency : (s.written backend (key.1, id) r.agencyId seed other).agencyId = r.agencyId := by
      simp [SearchDesk.written, hnew]
    have hsame : (s.written backend (key.1, id) r.agencyId seed other).digits backend = r.digits backend := by
      rw [PersonRow.digits, SearchDesk.plainPhone_written, hother]
    rw [SearchDesk.phone_written (by simpa using hplain) (by rwa [hsame]), hagency, hsame,
      hs key r hget hdigits, hversion]
  refine if_pos ?_
  rw [phoneTaken, Bool.and_eq_true, Bool.and_eq_true, List.any_eq_true]
  refine ⟨⟨by simp [SearchDesk.written, hnew], ?_⟩, (key, r), Keyed.mem_entries_iff.mpr hget, ?_⟩
  · rw [hrow, hs key r hget hdigits]
    exact phoneIndexed_masked _
  · have hne : key.2 ≠ id := by
      rintro rfl
      rw [hget] at hnew
      cases hnew
    rw [hrow]
    simp [hne, hlive, SearchDesk.written, hnew]

/-- A live record with digits is found by a phone with these digits when it was written under the current
version of the search key and the duplicate checker tries the digits. -/
theorem foundBy_iff (hhmac : Function.Injective2 backend.hmac)
    (hshort : Function.Injective2 backend.shortHmac) (hs : s.Indexed backend)
    (hget : s.people.get? key = some r) (hlive : r.live = true)
    (hdigits : r.digits backend ≠ "") (hphone : phoneDigits backend.digit phone = r.digits backend) :
    FoundBy backend s key r phone ↔ r.version = getSearchKeyVersion backend s.env ∧ Probed backend phone := by
  have hmasked : '\u0001' ∈ r.phone.toList := by
    rw [hs key r hget hdigits]
    exact control_mem_masked _
  have hsearch := search_iff hhmac hshort hs hget hdigits hphone
  have hprobe := probe_iff hhmac hshort hs hget hdigits (normalizePhoneForDedup backend phone)
  constructor
  · intro hfound
    obtain ⟨hlong, hnormal, hmem⟩ :=
      (mem_checkPhones_iff backend s.env hget hlive hmasked 0 phone).mp (hfound.checker 0)
    obtain ⟨hversion, hvariant⟩ := hprobe.mp hmem
    rw [← hphone] at hvariant
    exact ⟨hversion, hlong, hnormal, hvariant⟩
  · rintro ⟨hversion, hlong, hnormal, hvariant⟩
    rw [hphone] at hvariant
    refine ⟨hsearch.mpr hversion, fun n => ?_, fun id seed other hnew hother => ?_⟩
    · exact (mem_checkPhones_iff backend s.env hget hlive hmasked n phone).mpr
        ⟨hlong, hnormal, hprobe.mpr ⟨hversion, hvariant⟩⟩
    · exact writePhone_eq_none hs hget hlive hdigits hversion hnew (hother.trans hphone)

/-- After any run, the lookups work when every live record with digits was written under the current version
of the search key, and the duplicate checker tries its digits. -/
theorem phone_lookups_iff (hhmac : Function.Injective2 backend.hmac)
    (hshort : Function.Injective2 backend.shortHmac) (hs : s.Indexed backend) {steps : List SearchStep}
    (hrun : run (SearchDesk.step backend) s steps = some t) :
    PhoneLookups backend t ↔ ∀ key r, t.people.get? key = some r → r.live = true →
      r.digits backend ≠ "" → ∀ phone, phoneDigits backend.digit phone = r.digits backend →
        r.version = getSearchKeyVersion backend t.env ∧ Probed backend phone := by
  have ht : t.Indexed backend := run_invariant_of_step (fun _ _ _ h hstep => h.step hstep) hs hrun
  constructor
  · intro h key r hget hlive hdigits phone hphone
    exact (foundBy_iff hhmac hshort ht hget hlive hdigits hphone).mp (h key r hget hlive hdigits phone hphone)
  · intro h key r hget hlive hdigits phone hphone
    exact (foundBy_iff hhmac hshort ht hget hlive hdigits hphone).mpr (h key r hget hlive hdigits phone hphone)

end Indexed

/-! ### A rotation -/

def markedBackend : SearchBackend where
  hmac := markedHash
  shortHmac := markedHash
  unicode := ⟨id, id, fun _ => false⟩
  lower_empty := rfl
  digit := Char.isDigit
  isDigit := Char.isDigit
  control := ⟨rfl, rfl⟩
  cipher := ⟨"k1", fun _ s => s, fun s => some (dropChars 3 s), id, id⟩
  hashTrigrams := fun _ s => [s]

def emptyDesk : SearchDesk := ⟨⟨"secret", none, none⟩, none, none, Keyed.empty⟩

lemma indexed_emptyDesk : emptyDesk.Indexed markedBackend := by
  intro key r hget
  cases hget

/-- A client is written, and the search key is rotated and the trigrams rebuilt. -/
def rotation : List SearchStep :=
  [.write (.clients, 1) 1 0 "0555 12 34 56", .configure (some "v2") (some "v1"), .start "v2",
    .reindex false true none]

/-- `phone_lookups_iff` for a client that is written again after the rotation. -/
theorem phone_lookups_iff_rewritten : ∃ t ∈ run (SearchDesk.step markedBackend) emptyDesk
    (rotation ++ [.write (.clients, 1) 1 0 "0555 12 34 56", .finalize]),
      PhoneLookups markedBackend t ↔ ∀ key r, t.people.get? key = some r → r.live = true →
        r.digits markedBackend ≠ "" → ∀ phone, phoneDigits markedBackend.digit phone = r.digits markedBackend →
            r.version = getSearchKeyVersion markedBackend t.env ∧ Probed markedBackend phone := by
  obtain ⟨t, ht⟩ := isSome_iff_exists.mp (show (run (SearchDesk.step markedBackend) emptyDesk
    (rotation ++ [.write (.clients, 1) 1 0 "0555 12 34 56", .finalize])).isSome = true by decide +kernel)
  exact ⟨t, ht, phone_lookups_iff markedHash_injective2 markedHash_injective2 indexed_emptyDesk ht⟩

/-- After the rotation, while the previous version is still known, the client is not found by its phone, and
a second client with this phone is accepted. -/
theorem rotated_phone_not_found : ∃ t ∈ run (SearchDesk.step markedBackend) emptyDesk rotation,
    getPreviousSearchKeyVersion markedBackend t.env = some "v1" ∧ ¬ PhoneLookups markedBackend t ∧
      (t.writePhone markedBackend (.clients, 2) 1 0 "0555 12 34 56").isSome = true := by
  obtain ⟨t, ht⟩ := isSome_iff_exists.mp
    (show (run (SearchDesk.step markedBackend) emptyDesk rotation).isSome = true by decide +kernel)
  have hprevious : ∀ t ∈ run (SearchDesk.step markedBackend) emptyDesk rotation,
      getPreviousSearchKeyVersion markedBackend t.env = some "v1" := by decide +kernel
  have hsecond : ∀ t ∈ run (SearchDesk.step markedBackend) emptyDesk rotation,
      (t.writePhone markedBackend (.clients, 2) 1 0 "0555 12 34 56").isSome = true := by decide +kernel
  have hmissed : ∀ t ∈ run (SearchDesk.step markedBackend) emptyDesk rotation,
      ∃ r ∈ t.people.get? (.clients, 1), r.live = true ∧ r.digits markedBackend = "0555123456" ∧
        r.phone ≠ searchPhoneBidx markedBackend t.env r.agencyId "0555123456" := by decide +kernel
  refine ⟨t, ht, hprevious t ht, fun hlookups => ?_, hsecond t ht⟩
  obtain ⟨r, hget, hlive, hdigits, hphone⟩ := hmissed t ht
  have hne : r.digits markedBackend ≠ "" := by
    rw [hdigits]
    decide
  exact hphone (hlookups _ r hget hlive hne "0555123456" (by rw [hdigits]; decide)).search

end ImmoApp.Crm
