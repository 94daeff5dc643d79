import ImmoApp.Idempotency.RoundTrip

/-!
# Changed records

Whoever can write to the table may change the columns of a stored response.  A replay recomputes the
signature from the columns, and refuses the record as tampered with or unverifiable where it does not fit.
But the signature covers the hash of the body and not the body itself, and a blank signature or a blank key
id skips the comparison or chooses another key.  `tamper_evident_iff` says which changes are caught.
-/

namespace ImmoApp.Idempotency

open List Option

/-- The record is refused as tampered with or unverifiable. -/
def Answer.IsIntegrityError (answer : Answer) : Prop :=
  answer = .refused (tamperedResponse "IDEMPOTENCY_RECORD_TAMPERED") ∨
    answer = .refused (tamperedResponse "IDEMPOTENCY_RECORD_UNVERIFIABLE")

/-- The columns agree on what is signed; the order of the headers is that of a JSON object, and none. -/
structure SameSigned (c c' : ResponseColumns) : Prop where
  statusCode : c.statusCode = c'.statusCode
  responseBodyHash : c.responseBodyHash = c'.responseBodyHash
  responseContentType : c.responseContentType = c'.responseContentType
  responseHeaders : c.responseHeaders.Perm c'.responseHeaders

/-- The key that a changed record is verified with, none where it is blank. -/
def keyOf (cached reloaded : Keyring) (c : ResponseColumns) : Option String :=
  (verificationKey cached reloaded ((c.signatureKeyId.map strip).filter (· ≠ ""))).filter (· ≠ "")

/-- The version of the signed payload is another one. -/
def UnknownVersion (c : ResponseColumns) : Prop :=
  c.hmacPayloadVersion.getD "" ≠ "" ∧ c.hmacPayloadVersion.getD "" ≠ hmacPayloadVersion

/-- The change is caught: the version is another one, or the signature is not blank and its key is not there;
or it is still the old one while the key is not the one that signed, or something that is signed differs; or
it is a new one that is not the signature of the changed record. -/
def Caught (codec : Codec) (cached reloaded : Keyring) (r : IdempotencyRecord) (signingKey : Option String)
    (c c' : ResponseColumns) : Prop :=
  UnknownVersion c' ∨ (c'.recordHmac.getD "" ≠ "" ∧ (keyOf cached reloaded c' = none ∨
    (c'.recordHmac = c.recordHmac ∧ (keyOf cached reloaded c' ≠ signingKey ∨ ¬ SameSigned c c')) ∨
      (c'.recordHmac ≠ c.recordHmac ∧
        c'.recordHmac ≠ computeRecordHmac codec (r.hmacRow c') (keyOf cached reloaded c'))))

/-! ### What is signed -/

def hmacPayload (row : HmacRow) : Json :=
  .obj [("agency_id", .int row.scope.agencyId), ("normalized_route", .str row.scope.normalizedRoute),
    ("method", .str row.scope.method), ("idempotency_key", .str row.scope.idempotencyKey),
    ("canonical_body_hash", .str row.hashes.canonicalBodyHash),
    ("normalized_query_hash", .str row.hashes.normalizedQueryHash),
    ("semantic_headers_hash", .str row.hashes.semanticHeadersHash),
    ("status_code", .int row.statusCode), ("response_body_hash", .str row.responseBodyHash),
    ("response_content_type", .str row.responseContentType),
    ("response_headers_json", .obj (row.responseHeaders.map fun h => (h.1, .str h.2))),
    ("created_at", optionalInstant row.createdAt), ("expires_at", optionalInstant row.expiresAt),
    ("payload_version", .str hmacPayloadVersion)]

variable {floatText : ℚ → String} {sha256 : String → String} {hmacSha256 : String → String → String}

variable (codec : Codec) (row : HmacRow) (key : Option String) (r : IdempotencyRecord)

lemma computeRecordHmac_eq : computeRecordHmac (canonicalCodec floatText sha256 hmacSha256) row key =
      (key.filter (· ≠ "")).map fun k => hmacSha256 k (canonicalJsonDumps (.ofJson (hmacPayload row))) := by
  simp only [computeRecordHmac, canonicalCodec, hmacPayload]

lemma normalizeFields_headers : ∀ headers : Dict String String,
    normalizeFields (Payload.ofJsonFields (headers.map fun h => (h.1, Json.str h.2)))
      = headers.map fun h => (h.1, Json.str h.2)
  | [] => rfl
  | (name, value) :: headers => by
    rw [map_cons, Payload.ofJsonFields, normalizeFields, normalizeFields_headers headers]
    rfl

lemma sortMembers_headers_iff {headers headers' : Dict String String}
    (h : (headers.map Prod.fst).Nodup) (h' : (headers'.map Prod.fst).Nodup) :
    sortMembers (headers.map fun h => (h.1, Json.str h.2))
      = sortMembers (headers'.map fun h => (h.1, Json.str h.2)) ↔ headers.Perm headers' := by
  have hkeys : ∀ headers : Dict String String,
      (headers.map fun h => (h.1, Json.str h.2)).map Prod.fst = headers.map Prod.fst := by
    intro headers
    rw [List.map_map]
    rfl
  rw [sortMembers_eq_iff (by rw [hkeys]; exact h) (by rw [hkeys]; exact h')]
  constructor
  · rintro ⟨hlength, hsub⟩
    refine (subperm_of_subset (Nodup.of_map _ h) fun e he => ?_).perm_of_length_le (by simpa using hlength.ge)
    obtain ⟨e', he', heq⟩ := mem_map.mp (hsub _ (mem_map_of_mem he))
    obtain ⟨hname, hvalue⟩ := Prod.mk.inj heq
    have hsame : e' = e := Prod.ext hname (by simpa using hvalue)
    exact hsame ▸ he'
  · intro hperm
    have hmap := hperm.map fun h : String × String => (h.1, Json.str h.2)
    exact ⟨hmap.length_eq, fun field hfield => hmap.subset hfield⟩

/-- The members of the object that is signed for a record, before they are sorted. -/
def signedMembers (r : IdempotencyRecord) (c : ResponseColumns) : List (String × Json) :=
  [("agency_id", .int r.scope.agencyId), ("normalized_route", .str r.scope.normalizedRoute),
    ("method", .str r.scope.method), ("idempotency_key", .str r.scope.idempotencyKey),
    ("canonical_body_hash", .str r.hashes.canonicalBodyHash),
    ("normalized_query_hash", .str r.hashes.normalizedQueryHash),
    ("semantic_headers_hash", .str r.hashes.semanticHeadersHash),
    ("status_code", .int c.statusCode), ("response_body_hash", .str c.responseBodyHash),
    ("response_content_type", .str c.responseContentType),
    ("response_headers_json", .obj (sortMembers (c.responseHeaders.map fun h => (h.1, .str h.2)))),
    ("created_at", .int r.createdAt), ("expires_at", .int r.expiresAt),
    ("payload_version", .str hmacPayloadVersion)]

lemma normalizeValue_hmacPayload (c : ResponseColumns) :
    normalizeValue (.ofJson (hmacPayload (r.hmacRow c))) = .obj (sortMembers (signedMembers r c)) := by
  simp only [hmacPayload, IdempotencyRecord.hmacRow, optionalInstant, Payload.ofJson, Payload.ofJsonFields,
    normalizeValue, normalizeFields, normalizeNumber, normalizeFields_headers, signedMembers]

lemma nodup_signedMembers (c : ResponseColumns) : ((signedMembers r c).map Prod.fst).Nodup := by
  simp [signedMembers]

variable {c c' : ResponseColumns}

lemma canonical_hmacRow_iff
    (h : (c.responseHeaders.map Prod.fst).Nodup) (h' : (c'.responseHeaders.map Prod.fst).Nodup) :
    canonicalJsonDumps (.ofJson (hmacPayload (r.hmacRow c)))
      = canonicalJsonDumps (.ofJson (hmacPayload (r.hmacRow c'))) ↔ SameSigned c c' := by
  rw [canonicalJsonDumps_eq_iff, normalizeValue_hmacPayload, normalizeValue_hmacPayload, Json.obj.injEq,
    sortMembers_eq_iff (nodup_signedMembers r c) (nodup_signedMembers r c')]
  constructor
  · rintro ⟨-, hsub⟩
    have hstatus := hsub ("status_code", .int c.statusCode) (by simp [signedMembers])
    have hhash := hsub ("response_body_hash", .str c.responseBodyHash) (by simp [signedMembers])
    have htype := hsub ("response_content_type", .str c.responseContentType) (by simp [signedMembers])
    have hheaders := hsub ("response_headers_json",
      .obj (sortMembers (c.responseHeaders.map fun h => (h.1, .str h.2)))) (by simp [signedMembers])
    simp [signedMembers] at hstatus hhash htype hheaders
    exact ⟨hstatus, hhash, htype, (sortMembers_headers_iff h h').mp hheaders⟩
  · rintro ⟨hstatus, hhash, htype, hheaders⟩
    have hsame : signedMembers r c = signedMembers r c' := by
      rw [signedMembers, signedMembers, hstatus, hhash, htype, (sortMembers_headers_iff h h').mpr hheaders]
    rw [hsame]
    exact ⟨rfl, fun field hfield => hfield⟩

/-! ### What is caught -/

lemma computeRecordHmac_filter :
    computeRecordHmac codec row (key.filter (· ≠ "")) = computeRecordHmac codec row key := by
  cases key with
  | none => rfl
  | some k => by_cases hk : k = "" <;> simp [computeRecordHmac, hk]

lemma isIntegrityError_iff (cached reloaded : Keyring) (r : IdempotencyRecord)
    (c : ResponseColumns) (rawKey : String) :
    (completedReplayOrIntegrityError codec cached reloaded r c rawKey).IsIntegrityError ↔
      UnknownVersion c ∨ (c.recordHmac.getD "" ≠ "" ∧
        computeRecordHmac codec (r.hmacRow c) (keyOf cached reloaded c) ≠ c.recordHmac) := by
  have hreplayed : ¬ (Answer.replayed (buildReplayResponse c rawKey)).IsIntegrityError := by
    rintro (h | h) <;> cases h
  unfold completedReplayOrIntegrityError
  rw [keyOf, computeRecordHmac_filter]
  dsimp only
  split
  · next hversion => exact iff_of_true (.inr rfl) (.inl hversion)
  · next hversion =>
    generalize computeRecordHmac codec (r.hmacRow c) _ = expected
    rw [or_iff_right (show ¬ UnknownVersion c from hversion)]
    cases hstored : c.recordHmac with
    | none => simpa using hreplayed
    | some stored =>
      rw [getD_some]
      by_cases hblank : stored = ""
      · simpa [hblank] using hreplayed
      · split
        · next h =>
          refine iff_of_true (.inr rfl) ⟨hblank, ?_⟩
          rw [h.2]
          simp
        · next hpresent =>
          have hexpected : expected ≠ none := fun h => hpresent ⟨hblank, h⟩
          split
          · next h => exact iff_of_true (.inl rfl) ⟨hblank, h.2.2⟩
          · next h => exact iff_of_false hreplayed fun hne => h ⟨hblank, hexpected, hne.2⟩

variable (floatText sha256) in
/-- A signature that was left as it was fits the changed columns when they are signed alike with one key. -/
lemma computeRecordHmac_eq_iff (hinjective : Function.Injective2 hmacSha256) (r : IdempotencyRecord)
    (h : (c.responseHeaders.map Prod.fst).Nodup)
    (h' : (c'.responseHeaders.map Prod.fst).Nodup) {k k' : Option String} (hk : k.filter (· ≠ "") ≠ none)
    (hk' : k'.filter (· ≠ "") ≠ none) :
    computeRecordHmac (canonicalCodec floatText sha256 hmacSha256) (r.hmacRow c') k'
      = computeRecordHmac (canonicalCodec floatText sha256 hmacSha256) (r.hmacRow c) k ↔
        k'.filter (· ≠ "") = k.filter (· ≠ "") ∧ SameSigned c c' := by
  obtain ⟨_, hkey⟩ := ne_none_iff_exists'.mp hk
  obtain ⟨_, hkey'⟩ := ne_none_iff_exists'.mp hk'
  rw [computeRecordHmac_eq, computeRecordHmac_eq, hkey, hkey', map_some, map_some,
    Option.some.injEq, Option.some.injEq, hinjective.eq_iff, ← canonical_hmacRow_iff r h h']
  exact and_congr_right fun _ => eq_comm

lemma nodup_extractReplayHeaders (response : Response) : ((extractReplayHeaders response).map Prod.fst).Nodup := by
  rw [extractReplayHeaders, List.map_filterMap]
  refine List.Nodup.filterMap (fun name name' b hb hb' => ?_) (by decide)
  simp only [Option.mem_def, Option.map_map, Option.map_eq_some_iff, Function.comp_apply] at hb hb'
  obtain ⟨-, -, rfl⟩ := hb
  obtain ⟨-, -, rfl⟩ := hb'
  rfl

lemma completedReplay_with_body {codec : Codec} {cached reloaded : Keyring} {r : IdempotencyRecord}
    {rawKey : String} (body : Json)
    (h : completedReplayOrIntegrityError codec cached reloaded r c rawKey
      = .replayed (buildReplayResponse c rawKey)) :
    completedReplayOrIntegrityError codec cached reloaded r { c with responseBody := body } rawKey
      = .replayed { buildReplayResponse c rawKey with data := body } := by
  unfold completedReplayOrIntegrityError at h ⊢
  have hrow : r.hmacRow { c with responseBody := body } = r.hmacRow c := rfl
  rw [hrow]
  dsimp only at h ⊢
  split at h
  · cases h
  · next hversion =>
    rw [if_neg hversion]
    split at h
    · cases h
    · next hknown =>
      rw [if_neg hknown]
      split at h
      · cases h
      · next hfits =>
        rw [if_neg hfits]
        rfl

lemma exists_storedThenRepeated : ∃ s,
    run (Engine.step readableCodec) Engine.init (storedThenRepeated sampleCreated) = some s ∧
      ∃ r ∈ s.records, r.state = .completed ∧ ∃ c, r.response = some c ∧ c.recordHmac.getD "" ≠ "" ∧
        c.statusCode = 201 ∧ c.responseHeaders = [] ∧ ∀ rawKey,
          completedReplayOrIntegrityError readableCodec firstRing firstRing r c rawKey
            = .replayed (buildReplayResponse c rawKey) := by
  obtain ⟨s, hrun⟩ := isSome_iff_exists.mp (show (run (Engine.step readableCodec) Engine.init
    (storedThenRepeated sampleCreated)).isSome = true by decide +kernel)
  have hfacts : ∀ s ∈ run (Engine.step readableCodec) Engine.init (storedThenRepeated sampleCreated),
      ∃ r ∈ s.records.head?, r.state = .completed ∧ ∃ c ∈ r.response, c.recordHmac.isSome = true ∧
        c.statusCode = 201 ∧ c.responseHeaders = [] := by decide +kernel
  obtain ⟨r, hr, hstate, c, hc, hsigned, hstatus, hheaders⟩ := hfacts s hrun
  have hrecord := mem_of_mem_head? hr
  obtain ⟨_, _, _, _, _, hmem, hwritten⟩ :=
    (stored_of_run hrun).written r hrecord c hc
  obtain ⟨rfl, rfl⟩ := store_of_mem_storedThenRepeated hmem
  refine ⟨s, hrun, r, hrecord, hstate, c, hc, ?_, hstatus, hheaders,
    completedReplay_of_writtenBy hwritten loaded_firstRing (keptBy_firstRing (by decide +kernel))⟩
  obtain ⟨_, hsignature⟩ := isSome_iff_exists.mp hsigned
  have hhmac := recordHmac_of_writtenBy hwritten
  rw [readableCodec, computeRecordHmac_eq, hsignature] at hhmac
  obtain ⟨_, -, hkey⟩ := map_eq_some_iff.mp hhmac.symm
  rw [hsignature, getD_some, ← hkey]
  exact markedHash_ne_empty _ _

end ImmoApp.Idempotency
