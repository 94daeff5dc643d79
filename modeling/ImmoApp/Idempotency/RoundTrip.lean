import ImmoApp.Idempotency.Signing

/-!
# Stored responses are replayed

A response below 500, other than 401 and 403, is signed and stored, and the next request with the scope and
the hashes of the record receives it, as long as the record is there and later rotations of the key ring keep
the signing key.  `sign_verify_round_trip` says so of every record in every reachable state, and what the
replay shows.  A response from 500 on is stored as well, but the next request runs again.
-/

namespace ImmoApp.Idempotency

open List Option

structure Replays (codec : Codec) (context : IdempotencyContext) (response replay : Response) : Prop where
  status : replay.statusCode = response.statusCode
  payload : replay.data = (responsePayloadForStorage codec (sanitizeReplayPayload
    ((context.policy.map RoutePolicy.policyId).getD "")
    ((context.policy.map RoutePolicy.replayMode).getD .none) response.data)).1
  /-- The headers of the allow-list, the key, and that it is a replay. -/
  headers : ∀ name, replay.headers.get? name =
    if name = "Idempotency-Status" then some "replayed"
    else if name = idempotencyHeader ∨ name = legacyIdempotencyHeader then some context.scope.idempotencyKey
    else if name ∈ responseHeadersAllowlist then response.headers.get? name else none

section Replay

variable {codec : Codec} {acts : List Action} {s : Engine} {r : IdempotencyRecord} {columns : ResponseColumns}
  {context : IdempotencyContext} {response : Response} {keyring : Keyring}

lemma get?_extractReplayHeaders (response : Response) (name : String) :
    Dict.get? (extractReplayHeaders response) name =
      if name ∈ responseHeadersAllowlist then response.headers.get? name else none :=
  Dict.get?_filterMap_keys response.headers.get? name responseHeadersAllowlist

lemma filter_extractReplayHeaders (response : Response) :
    (extractReplayHeaders response).filter (fun h => h.1 ∈ responseHeadersAllowlist)
      = extractReplayHeaders response := by
  rw [filter_eq_self]
  intro h hmem
  obtain ⟨_, hname, hvalue⟩ := mem_filterMap.mp hmem
  obtain ⟨_, -, rfl⟩ := map_eq_some_iff.mp hvalue
  simpa using hname

section

variable (h : WrittenBy codec r columns context response keyring)
include h

lemma replays_buildReplayResponse :
    Replays codec context response (buildReplayResponse columns r.scope.idempotencyKey) := by
  obtain rfl := h.columns
  refine ⟨rfl, rfl, fun name => ?_⟩
  rw [← h.scope]
  simp only [buildReplayResponse, Dict.get?_set]
  split
  · rfl
  · have hheaders : (storeColumns codec keyring context response).responseHeaders
        = extractReplayHeaders response := rfl
    rw [hheaders, filter_extractReplayHeaders, get?_extractReplayHeaders]
    by_cases hlegacy : name = legacyIdempotencyHeader
    · rw [if_pos hlegacy, if_pos (.inr hlegacy)]
    · rw [if_neg hlegacy]
      by_cases hkey : name = idempotencyHeader
      · rw [if_pos hkey, if_pos (.inl hkey)]
      · rw [if_neg hkey, if_neg (not_or.mpr ⟨hkey, hlegacy⟩)]

lemma recordHmac_of_writtenBy :
    columns.recordHmac = computeRecordHmac codec (r.hmacRow columns) (resolveHmacKey keyring none).1 := by
  obtain rfl := h.columns
  rw [storeColumns, IdempotencyRecord.hmacRow, h.scope, h.hashes, h.createdAt, h.expiresAt]

lemma completedReplay_of_writtenBy
    (hloaded : keyring.Loaded) {cached reloaded : Keyring} (hkept : keyring.KeptBy cached reloaded)
    (rawKey : String) :
    completedReplayOrIntegrityError codec cached reloaded r columns rawKey
      = .replayed (buildReplayResponse columns rawKey) := by
  have hhmac := recordHmac_of_writtenBy h
  have hkeyId : columns.signatureKeyId
      = if columns.recordHmac.isSome then (resolveHmacKey keyring none).2 else none := by
    obtain rfl := h.columns
    rfl
  have hversion : columns.hmacPayloadVersion
      = if columns.recordHmac.isSome then some hmacPayloadVersion else none := by
    obtain rfl := h.columns
    rfl
  have hchecked : ¬(columns.hmacPayloadVersion.getD "" ≠ "" ∧
      columns.hmacPayloadVersion.getD "" ≠ hmacPayloadVersion) := by
    rw [hversion]
    split <;> simp
  rw [completedReplayOrIntegrityError, if_neg hchecked]
  dsimp only
  cases hsigned : columns.recordHmac with
  | none => simp
  | some =>
    rw [hsigned] at hhmac hkeyId
    obtain ⟨key, hkey, -⟩ := map_eq_some_iff.mp hhmac.symm
    obtain ⟨hresolved, hne⟩ := filter_eq_some_iff.mp hkey
    obtain ⟨keyId, hid, hget⟩ : ∃ keyId, (resolveHmacKey keyring none).2 = some keyId ∧
        keyring.keys.get? keyId = some key := resolveHmacKey_none (Prod.ext hresolved rfl)
    have hkeyring : resolveHmacKey keyring none = (some key, some keyId) := Prod.ext hresolved hid
    obtain ⟨hstrip, hidne, -⟩ := hloaded (keyId, key) (Dict.mem_of_get? hget)
    have hcolumn : (columns.signatureKeyId.map strip).filter (· ≠ "") = some keyId := by
      rw [hkeyId, hid]
      simp [hstrip, hidne]
    rw [hcolumn, verificationKey_of_keptBy hkept hkeyring (by simpa using hne), ← hresolved, ← hhmac]
    simp

end

end Replay

/-- Every response in the table was stored by a request that held the record, and when it is below 500 a
request with the scope and the hashes of the record that selects it receives it, whatever rotations kept the
signing key. -/
theorem sign_verify_round_trip {codec : Codec} {acts : List Action} {s : Engine}
    (hrun : run (Engine.step codec) Engine.init acts = some s)
    (hloaded : ∀ request response keyring now, Action.store request response keyring now ∈ acts → keyring.Loaded)
    {r : IdempotencyRecord} (hr : r ∈ s.records) {columns : ResponseColumns}
    (hcolumns : r.response = some columns) :
    ∃ request context response keyring now, Action.store request response keyring now ∈ acts ∧
      WrittenBy codec r columns context response keyring ∧
      (response.statusCode < 500 → ∀ cached reloaded, keyring.KeptBy cached reloaded →
        ∀ request' c, s.attempts.get? request' = some (.selecting c) → c.context.scope = r.scope →
          c.context.hashes = r.hashes → ∃ replay, s.step codec (.select request' cached reloaded)
            = some (s.answer request' c (.replayed replay)) ∧ Replays codec context response replay) := by
  have hstored := stored_of_run hrun
  obtain ⟨request, context, response, keyring, now, hmem, hwritten⟩ :=
    hstored.written r hr columns hcolumns
  refine ⟨request, context, response, keyring, now, hmem, hwritten, ?_⟩
  intro hstatus cached reloaded hkept request' c hatt hscope hhashes
  have hcode : columns.statusCode = response.statusCode := by
    rw [hwritten.columns]
    rfl
  have hdone := hstored.completed r hr columns hcolumns (hcode ▸ hstatus)
  refine ⟨buildReplayResponse columns r.scope.idempotencyKey, ?_, replays_buildReplayResponse hwritten⟩
  have hanswer := completedReplay_of_writtenBy hwritten (hloaded request response keyring now hmem) hkept
    r.scope.idempotencyKey
  have hjudge : judge codec cached reloaded s.records c
      = .answer (.replayed (buildReplayResponse columns r.scope.idempotencyKey)) := by
    simp [judge, hscope, hstored.sound.fetchRecord_of_mem hr, hhashes, hdone, completedAnswer, hcolumns, hanswer]
  simp only [Engine.step, hatt, hjudge]

def firstRing : Keyring := ⟨[("k1", "secret")], some "k1"⟩

/-- The ring after a rotation that keeps the first key. -/
def rotatedRing : Keyring := ⟨[("k2", "another"), ("k1", "secret")], some "k2"⟩

lemma loaded_firstRing : firstRing.Loaded := by
  intro e he
  obtain rfl := mem_singleton.mp he
  decide +kernel

lemma keptBy_firstRing {ring : Keyring} (hring : ring.keys.get? "k1" = some "secret") :
    firstRing.KeptBy firstRing ring := by
  intro keyId key h
  have hresolved : resolveHmacKey firstRing none = (some "secret", some "k1") := by decide +kernel
  rw [hresolved] at h
  cases h
  refine ⟨hring, fun key' hkey => ?_⟩
  have hget : firstRing.keys.get? "k1" = some "secret" := by decide +kernel
  exact some.inj (hkey.symm.trans hget)

def storedThenRepeated (response : Response) : List Action :=
  [sampleArrival 1 "b" 0, .insert 1, .store 1 response firstRing 1, sampleArrival 2 "b" 2, .insert 2]

lemma store_of_mem_storedThenRepeated {stored : Response} {request : ℕ} {response : Response}
    {keyring : Keyring} {now : ℕ}
    (h : Action.store request response keyring now ∈ storedThenRepeated stored) :
    stored = response ∧ firstRing = keyring := by
  simp only [storedThenRepeated, sampleArrival, mem_cons, not_mem_nil, reduceCtorEq,
    Action.store.injEq, false_or, or_false] at h
  exact ⟨h.2.1.symm, h.2.2.1.symm⟩

def repeatedCheck : Check where
  context :=
    { scope := ⟨1, "/visits", "POST", "k-1"⟩
      hashes := ⟨"b", "q", "h"⟩
      policy := some ⟨"route.visits", true, .fullSafe⟩
      legacyHeader := false
      leaseOwner := "req-u" }
  now := 2
  leaseUntil := 5
  expiresAt := 86402

/-- The repeated request receives the response after a rotation. -/
theorem sign_verify_round_trip_repeated : ∃ s,
    run (Engine.step readableCodec) Engine.init (storedThenRepeated sampleCreated) = some s ∧
      ∃ replay, s.step readableCodec (.select 2 firstRing rotatedRing)
        = some (s.answer 2 repeatedCheck (.replayed replay)) ∧ replay.statusCode = 201 := by
  obtain ⟨s, hrun⟩ := isSome_iff_exists.mp (show (run (Engine.step readableCodec) Engine.init
    (storedThenRepeated sampleCreated)).isSome = true by decide +kernel)
  have hfacts : ∀ s ∈ run (Engine.step readableCodec) Engine.init (storedThenRepeated sampleCreated),
      s.attempts.get? 2 = some (.selecting repeatedCheck) ∧ ∃ r ∈ s.records.head?,
        r.response.isSome = true ∧ repeatedCheck.context.scope = r.scope ∧
          repeatedCheck.context.hashes = r.hashes := by decide +kernel
  obtain ⟨hatt, r, hr, hresponse, hscope, hhashes⟩ := hfacts s hrun
  obtain ⟨_, hcolumns⟩ := isSome_iff_exists.mp hresponse
  obtain ⟨_, _, _, _, _, hmem, -, hreplay⟩ := sign_verify_round_trip hrun
    (fun _ _ _ _ h => (store_of_mem_storedThenRepeated h).2 ▸ loaded_firstRing)
    (mem_of_mem_head? hr) hcolumns
  obtain ⟨rfl, rfl⟩ := store_of_mem_storedThenRepeated hmem
  obtain ⟨replay, hstep, hshown⟩ := hreplay (by decide) firstRing rotatedRing (keptBy_firstRing (by decide +kernel)) 2
    repeatedCheck hatt hscope hhashes
  exact ⟨s, hrun, replay, hstep, hshown.status⟩

def unavailable : Response := { statusCode := 503, data := .obj [("detail", .str "down")], headers := [] }

/-- A stored response of 503 is not replayed: the next request takes the record over. -/
theorem server_error_not_replayed : ∃ s,
    run (Engine.step readableCodec) Engine.init (storedThenRepeated unavailable) = some s ∧
      (s.records.map fun r => r.response.map ResponseColumns.statusCode) = [some 503] ∧
      (s.step readableCodec (.select 2 firstRing firstRing)).map Engine.replays = some [] := by
  obtain ⟨s, hrun⟩ := isSome_iff_exists.mp (show (run (Engine.step readableCodec) Engine.init
    (storedThenRepeated unavailable)).isSome = true by decide +kernel)
  have hfacts : ∀ s ∈ run (Engine.step readableCodec) Engine.init (storedThenRepeated unavailable),
      (s.records.map fun r => r.response.map ResponseColumns.statusCode) = [some 503] ∧
        (s.step readableCodec (.select 2 firstRing firstRing)).map Engine.replays = some [] := by
    decide +kernel
  exact ⟨s, hrun, hfacts s hrun⟩

end ImmoApp.Idempotency
