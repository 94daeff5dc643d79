import ImmoApp.Idempotency.CanonicalJson
import ImmoApp.Idempotency.Provenance

/-!
# Signed records

A store signs the record with the active key of the key ring that it finds loaded.  The signature is an HMAC
of the canonical text of the scope, the hashes, the status, the hash of the body, the content type, the
headers and the two instants of the record.

`WrittenBy` says that a store of a request that held the record filled its columns; it holds of every response
in the table, in every reachable state (`writtenBy_of_run`).
-/

namespace ImmoApp.Idempotency

open List Option

namespace Payload

mutual

def ofJson : Json → Payload
  | .scalar .null => .scalar .null
  | .scalar (.bool b) => .scalar (.bool b)
  | .scalar (.int n) => .scalar (.int n)
  | .scalar (.float q) => .scalar (.float (decide (q < 0)) |q|)
  | .scalar (.str s) => .scalar (.str s)
  | .arr items => .arr (ofJsonItems items)
  | .obj fields => .obj (ofJsonFields fields)

def ofJsonItems : List Json → List Payload
  | [] => []
  | item :: items => ofJson item :: ofJsonItems items

def ofJsonFields : List (String × Json) → List (String × Payload)
  | [] => []
  | (key, value) :: fields => (key, ofJson value) :: ofJsonFields fields

end

end Payload

def canonicalCodec (floatText : ℚ → String) (sha256 : String → String)
    (hmacSha256 : String → String → String) : Codec where
  canonicalJsonDumps v := canonicalJsonDumps (.ofJson v)
  floatText := floatText
  sha256 := sha256
  hmacSha256 := hmacSha256

def readableCodec : Codec := canonicalCodec (fun _ => "") id markedHash

/-! ### Key rings -/

/-- `str.removeprefix` where the text starts with it. -/
def afterPrefix (start s : String) : Option String :=
  if start.toList.isPrefixOf s.toList then some (String.ofList (s.toList.drop start.length)) else none

/-- Every id is stripped, and no id or key is empty. -/
def LoadedKeys (keys : Dict String String) : Prop := ∀ e ∈ keys, strip e.1 = e.1 ∧ e.1 ≠ "" ∧ e.2 ≠ ""

def Keyring.Loaded (k : Keyring) : Prop := LoadedKeys k.keys

/-- A key that is added, unless its id or the key is empty. -/
def addKey (keys : Dict String String) (id secret : String) : Dict String String :=
  if id ≠ "" ∧ secret ≠ "" then keys.set id secret else keys

/-- One variable of the environment, in the last loop of `_parse_keyring_from_mapping`. -/
def addVariable (k : Keyring) (setting : String × String) : Keyring :=
  match afterPrefix "IMMOAPP_IDEMPOTENCY_HMAC_KEY_" setting.1 with
  | none => k
  | some suffix =>
    if setting.1 = "IMMOAPP_IDEMPOTENCY_HMAC_KEY_ID" ∨ setting.1 = "IMMOAPP_IDEMPOTENCY_HMAC_KEYS_JSON" ∨
          setting.1 = "IMMOAPP_IDEMPOTENCY_HMAC_KEY_ACTIVE" then k
    else if strip suffix ≠ "" ∧ strip setting.2 ≠ "" then
      ⟨addKey k.keys (strip suffix) (strip setting.2), k.activeKeyId.or (some (strip suffix))⟩
    else k

/-- A stripped text, `none` when it is empty. -/
def present (s : String) : Option String := if strip s = "" then none else some (strip s)

/-- The keys of `IMMOAPP_IDEMPOTENCY_HMAC_KEYS_JSON` and `IMMOAPP_IDEMPOTENCY_HMAC_KEY`, the part of
`_parse_keyring_from_mapping` before its last loop.  The first argument reads a JSON object with its values as
texts, and is empty where the text is none. -/
def namedKeyring (readObject : String → Dict String String) (mapping : Dict String String) : Keyring :=
  let get := fun name => present ((mapping.get? name).getD "")
  let activeKeyId := get "IMMOAPP_IDEMPOTENCY_HMAC_ACTIVE_KEY_ID"
  let parsed := ((get "IMMOAPP_IDEMPOTENCY_HMAC_KEYS_JSON").map readObject).getD []
  let keys := parsed.foldl (fun keys e => addKey keys (strip e.1) (strip e.2)) []
  match get "IMMOAPP_IDEMPOTENCY_HMAC_KEY" with
  | none => ⟨keys, activeKeyId⟩
  | some rawKey =>
    let fallbackId := ((get "IMMOAPP_IDEMPOTENCY_HMAC_KEY_ID").or activeKeyId).getD "default"
    ⟨keys.set fallbackId rawKey, activeKeyId.or (some fallbackId)⟩

def parseKeyringFromMapping (readObject : String → Dict String String) (mapping : Dict String String) :
    Keyring :=
  mapping.foldl addVariable (namedKeyring readObject mapping)

variable {keys : Dict String String} {id secret key : String} {k : Keyring}

lemma Keyring.loaded_mk {activeKeyId : Option String} :
    Keyring.Loaded ⟨keys, activeKeyId⟩ ↔ LoadedKeys keys := Iff.rfl

lemma loadedKeys_set (h : LoadedKeys keys)
    (hid : strip id = id) (hne : id ≠ "") (hsecret : secret ≠ "") : LoadedKeys (keys.set id secret) := by
  intro e he
  rcases Dict.mem_set.mp he with rfl | ⟨he, -⟩
  · exact ⟨hid, hne, hsecret⟩
  · exact h e he

lemma loadedKeys_addKey (h : LoadedKeys keys) (hid : strip id = id) : LoadedKeys (addKey keys id secret) := by
  unfold addKey
  split
  · next hne => exact loadedKeys_set h hid hne.1 hne.2
  · exact h

lemma loaded_addVariable (h : k.Loaded) (setting : String × String) : (addVariable k setting).Loaded := by
  unfold addVariable
  split
  · exact h
  · next suffix _ =>
    have hadd : LoadedKeys (addKey k.keys (strip suffix) (strip setting.2)) :=
      loadedKeys_addKey h (strip_strip suffix)
    split
    · exact h
    · split
      · exact Keyring.loaded_mk.mpr hadd
      · exact h

lemma present_eq_some {s t : String} (h : present s = some t) : strip t = t ∧ t ≠ "" := by
  unfold present at h
  split at h
  · cases h
  · next hne =>
    obtain ⟨⟩ := h
    exact ⟨strip_strip s, hne⟩

variable (readObject : String → Dict String String) (mapping : Dict String String)

lemma loaded_namedKeyring : (namedKeyring readObject mapping).Loaded := by
  have hkeys : ∀ (l : List (String × String)) (keys : Dict String String), LoadedKeys keys →
      LoadedKeys (l.foldl (fun keys e => addKey keys (strip e.1) (strip e.2)) keys) := by
    intro l
    induction l with
    | nil => exact fun keys h => h
    | cons e l ih =>
      intro keys h
      rw [foldl_cons]
      exact ih _ (loadedKeys_addKey h (strip_strip e.1))
  have hnone : LoadedKeys [] := fun e he => absurd he not_mem_nil
  unfold namedKeyring
  extract_lets get activeKeyId parsed keys fallbackId
  have hparsed : LoadedKeys keys := hkeys parsed [] hnone
  split
  · exact Keyring.loaded_mk.mpr hparsed
  · next rawKey hkey =>
    have hfallback : strip fallbackId = fallbackId ∧ fallbackId ≠ "" := by
      unfold fallbackId
      cases hid : (get "IMMOAPP_IDEMPOTENCY_HMAC_KEY_ID").or activeKeyId with
      | none => exact ⟨by decide, by decide⟩
      | some =>
        rcases or_eq_some_iff.mp hid with h | ⟨-, h⟩
        · exact present_eq_some h
        · exact present_eq_some h
    have hset : LoadedKeys (keys.set fallbackId rawKey) :=
      loadedKeys_set hparsed hfallback.1 hfallback.2 (present_eq_some hkey).2
    exact Keyring.loaded_mk.mpr hset

/-- A key ring that was parsed is in order. -/
theorem loaded_parseKeyringFromMapping : (parseKeyringFromMapping readObject mapping).Loaded := by
  have hvariables : ∀ (l : List (String × String)) (k : Keyring), k.Loaded → (l.foldl addVariable k).Loaded := by
    intro l
    induction l with
    | nil => exact fun k h => h
    | cons setting l ih => exact fun k h => ih _ (loaded_addVariable h setting)
  exact hvariables mapping _ (loaded_namedKeyring readObject mapping)

lemma resolveHmacKey_none {id : Option String}
    (h : resolveHmacKey k none = (some key, id)) : ∃ keyId, id = some keyId ∧ k.keys.get? keyId = some key := by
  unfold resolveHmacKey at h
  split at h
  · cases h
  · dsimp only at h
    split at h
    · next keyId key' hactive =>
      obtain ⟨_, -, hid'⟩ := bind_eq_some_iff.mp hactive
      obtain ⟨_, hkey, heq⟩ := map_eq_some_iff.mp hid'
      cases heq
      cases h
      exact ⟨keyId, rfl, hkey⟩
    · obtain ⟨hbind, rfl⟩ := Prod.mk.inj h
      obtain ⟨keyId, hfirst, hkey⟩ := bind_eq_some_iff.mp hbind
      exact ⟨keyId, hfirst, hkey⟩

/-- Every later rotation keeps the key of a ring that signs: the ring that a reload finds has it under its id,
and the ring that is cached has it or does not know the id. -/
def Keyring.KeptBy (signing cached reloaded : Keyring) : Prop :=
  ∀ keyId key, resolveHmacKey signing none = (some key, some keyId) →
    reloaded.keys.get? keyId = some key ∧ ∀ key', cached.keys.get? keyId = some key' → key' = key

lemma verificationKey_of_keptBy {signing cached reloaded : Keyring} (h : signing.KeptBy cached reloaded)
    {keyId : String} (hsign : resolveHmacKey signing none = (some key, some keyId)) (hkey : key ≠ "") :
    verificationKey cached reloaded (some keyId) = some key := by
  obtain ⟨hreloaded, hcached⟩ := h keyId key hsign
  have hfound : ∀ ring : Keyring, ring.keys.get? keyId = some key →
      (resolveHmacKey ring (some keyId)).1 = some key := by
    intro ring hget
    have hne : ring.keys ≠ [] := by
      intro hnil
      rw [hnil] at hget
      cases hget
    simp [resolveHmacKey, hne, hget, hkey]
  cases hget : cached.keys.get? keyId with
  | some key' =>
    rw [hcached key' hget] at hget
    simp [verificationKey, hfound cached hget]
  | none =>
    have hnone : (resolveHmacKey cached (some keyId)).1 = none := by
      by_cases hnil : cached.keys = [] <;> simp [resolveHmacKey, hnil, hget]
    simp [verificationKey, hnone, hfound reloaded hreloaded]

/-! ### Where responses come from -/

variable {codec : Codec}

/-- The columns of a record were filled by a store of a request that held it. -/
structure WrittenBy (codec : Codec) (r : IdempotencyRecord) (columns : ResponseColumns)
    (context : IdempotencyContext) (response : Response) (keyring : Keyring) : Prop where
  columns : columns = storeColumns codec keyring context response
  served : response.isAuthFailure = false
  scope : context.scope = r.scope
  hashes : context.hashes = r.hashes
  createdAt : context.createdAt = some r.createdAt
  expiresAt : context.expiresAt = some r.expiresAt

/-- What the actions of a run did to the responses. -/
structure Stored (codec : Codec) (acts : List Action) (s : Engine) : Prop where
  sound : Sound s
  held : ∀ request context, s.attempts.get? request = some (.running context) → ∀ r ∈ s.records,
    r.id = context.recordId → context.createdAt = some r.createdAt ∧ context.expiresAt = some r.expiresAt
  written : ∀ r ∈ s.records, ∀ columns, r.response = some columns → ∃ request context response keyring now,
    Action.store request response keyring now ∈ acts ∧ WrittenBy codec r columns context response keyring
  completed : ∀ r ∈ s.records, ∀ columns, r.response = some columns → columns.statusCode < 500 → r.state = .completed

lemma stored_init (acts : List Action) : Stored codec acts Engine.init where
  sound := sound_init
  held := by simp [Engine.init]
  written := by simp [Engine.init]
  completed := by simp [Engine.init]

/-- `y` is `x` with its identity, scope, hashes and instants. -/
structure SameRow (x y : IdempotencyRecord) : Prop where
  record : SameRecord x y
  createdAt : y.createdAt = x.createdAt
  expiresAt : y.expiresAt = x.expiresAt

lemma sameRow_refl (r : IdempotencyRecord) : SameRow r r := ⟨sameRecord_refl r, rfl, rfl⟩

lemma WrittenBy.of_sameRow {x r : IdempotencyRecord} {columns : ResponseColumns}
    {context : IdempotencyContext} {response : Response} {keyring : Keyring}
    (h : WrittenBy codec x columns context response keyring) (hsame : SameRow x r) :
    WrittenBy codec r columns context response keyring where
  columns := h.columns
  served := h.served
  scope := h.scope.trans hsame.record.scope.symm
  hashes := h.hashes.trans hsame.record.hashes.symm
  createdAt := by rw [h.createdAt, hsame.createdAt]
  expiresAt := by rw [h.expiresAt, hsame.expiresAt]

section Step

variable {acts : List Action} {s t : Engine}

lemma Stored.held_of_sameRow (h : Stored codec acts s) {request : ℕ} {context : IdempotencyContext}
    (hrun : s.attempts.get? request = some (.running context)) {x r : IdempotencyRecord}
    (hx : x ∈ s.records) (hsame : SameRow x r) (hid : r.id = context.recordId) :
    context.createdAt = some r.createdAt ∧ context.expiresAt = some r.expiresAt := by
  rw [hsame.createdAt, hsame.expiresAt]
  exact h.held request context hrun x hx (hsame.record.id.symm.trans hid)

private lemma Stored.of_records (h : Stored codec acts s) (sound : Sound t)
    (held : ∀ request context, t.attempts.get? request = some (.running context) → ∀ r ∈ t.records,
      r.id = context.recordId → context.createdAt = some r.createdAt ∧ context.expiresAt = some r.expiresAt)
    (records : ∀ r ∈ t.records, r.response = none ∨ ∃ x ∈ s.records, SameRow x r ∧
      r.response = x.response ∧ ((∃ columns, x.response = some columns ∧ columns.statusCode < 500) →
        r.state = x.state)) : Stored codec acts t where
  sound := sound
  held := held
  written := by
    intro r hr columns hcolumns
    rcases records r hr with hnone | ⟨x, hx, hsame, hresponse, -⟩
    · rw [hnone] at hcolumns
      cases hcolumns
    · obtain ⟨request, context, response, keyring, now, hmem, hwritten⟩ :=
        h.written x hx columns (hresponse.symm.trans hcolumns)
      exact ⟨request, context, response, keyring, now, hmem, hwritten.of_sameRow hsame⟩
  completed := by
    intro r hr columns hcolumns hstatus
    rcases records r hr with hnone | ⟨x, hx, -, hresponse, hstate⟩
    · rw [hnone] at hcolumns
      cases hcolumns
    · have hx' := hresponse.symm.trans hcolumns
      rw [hstate ⟨columns, hx', hstatus⟩]
      exact h.completed x hx columns hx' hstatus

lemma Stored.step {a : Action} (h : Stored codec acts s) (ha : a ∈ acts)
    (hstep : s.step codec a = some t) : Stored codec acts t := by
  have hsound := h.sound.step hstep
  have hkept : ∀ r ∈ s.records, r.response = none ∨ ∃ x ∈ s.records, SameRow x r ∧
      r.response = x.response ∧ ((∃ columns, x.response = some columns ∧ columns.statusCode < 500) →
        r.state = x.state) :=
    fun r hr => .inr ⟨r, hr, sameRow_refl r, rfl, fun _ => rfl⟩
  have hidle : ∀ {request att}, (∀ context, att ≠ .running context) → ∀ request' context,
      (s.attempts.set request att).get? request' = some (.running context) →
        s.attempts.get? request' = some (.running context) := by
    intro request att hne request' context hatt
    rcases running_of_set hatt with ⟨-, hrun⟩ | ⟨-, hold⟩
    · exact absurd hrun (hne context)
    · exact hold
  cases step_move hstep with
  | moved _ _ idle eq =>
    subst eq
    exact h.of_records hsound (fun request' context hatt r hr hid =>
      h.held request' context (hidle idle request' context hatt) r hr hid) hkept
  | replayed _ _ _ _ r _ _ _ _ _ eq =>
    subst eq
    exact h.of_records hsound (fun request' context hatt r hr hid =>
      h.held request' context (hidle (fun _ => by simp) request' context hatt) r hr hid) hkept
  | inserted _ _ _ _ eq =>
    unfold Engine.tryInsert at eq
    split at eq
    · cases eq
    · cases eq
      refine h.of_records hsound (fun request' context hatt r hr hid => ?_) fun r hr => ?_
      · rcases running_of_set hatt with ⟨-, hrun⟩ | ⟨-, hold⟩
        · cases hrun
          rcases mem_append.mp hr with hr | hr
          · exact absurd hid (h.sound.drawn r hr).ne
          · rw [mem_singleton.mp hr]
            exact ⟨rfl, rfl⟩
        · rcases mem_append.mp hr with hr | hr
          · exact h.held request' context hold r hr hid
          · rw [mem_singleton.mp hr] at hid
            exact absurd hid (h.sound.carried request' context hold).ne'
      · rcases mem_append.mp hr with hr | hr
        · exact hkept r hr
        · rw [mem_singleton.mp hr]
          exact .inl rfl
  | tookOver request c r fetch _ state _ eq =>
    subst eq
    obtain ⟨hmem, _⟩ := fetchRecord_some fetch
    have htaken : ∀ x, SameRow x (if x.id = r.id then takenOver c request x else x) := by
      intro x
      split
      · exact ⟨⟨rfl, rfl, rfl⟩, rfl, rfl⟩
      · exact sameRow_refl x
    refine h.of_records hsound (fun request' context hatt r' hr' hid => ?_) fun r' hr' => ?_
    · obtain ⟨x, hx, rfl⟩ := mem_map.mp hr'
      rcases running_of_set hatt with ⟨-, hrun⟩ | ⟨-, hold⟩
      · cases hrun
        have hxr : x = r := h.sound.eq_of_id hx hmem ((htaken x).record.id.symm.trans hid)
        rw [(htaken x).createdAt, (htaken x).expiresAt, hxr]
        exact ⟨rfl, rfl⟩
      · exact h.held_of_sameRow hold hx (htaken x) hid
    · obtain ⟨x, hx, rfl⟩ := mem_map.mp hr'
      refine .inr ⟨x, hx, htaken x, by split <;> rfl, ?_⟩
      rintro ⟨columns, hcolumns, hstatus⟩
      split
      · next hid =>
        -- the record that is taken over is not completed
        have hdone := h.completed x hx columns hcolumns hstatus
        rw [h.sound.eq_of_id hx hmem hid] at hdone
        exact absurd hdone state
      · rfl
  | stored request context response keyring now action running eq =>
    subst eq
    refine ⟨hsound, ?_, ?_, ?_⟩
    · intro request' context' hatt r hr hid
      have hold := hidle (fun _ => by simp) request' context' hatt
      rcases mem_storeIdempotency hr with hr | ⟨-, x, hx, -, rfl⟩
      · exact h.held request' context' hold r hr hid
      · exact h.held_of_sameRow hold hx ⟨⟨rfl, rfl, rfl⟩, rfl, rfl⟩ hid
    · intro r hr columns hcolumns
      rcases mem_storeIdempotency hr with hr | ⟨hauth, x, hx, hhits, rfl⟩
      · exact h.written r hr columns hcolumns
      · obtain ⟨hid, _⟩ := hits_iff.mp hhits
        obtain ⟨hscope', hhashes⟩ := h.sound.held request context running x hx hid
        obtain ⟨hcreated, hexpires⟩ := h.held request context running x hx hid
        exact ⟨request, context, response, keyring, now, action ▸ ha, (some.inj hcolumns).symm,
          hauth, hscope'.symm, hhashes.symm, hcreated, hexpires⟩
    · intro r hr columns hcolumns hstatus
      rcases mem_storeIdempotency hr with hr | ⟨-, x, _, -, rfl⟩
      · exact h.completed r hr columns hcolumns hstatus
      · obtain ⟨⟩ := hcolumns
        exact if_neg (by omega)
  | purged _ _ _ eq =>
    subst eq
    exact h.of_records hsound (fun request' context hatt r hr hid =>
      h.held request' context hatt r (mem_filter.mp hr).1 hid)
      fun r hr => hkept r (mem_filter.mp hr).1

/-- In every reachable state the responses in the table were stored by requests that held their records. -/
theorem stored_of_run (hrun : run (Engine.step codec) Engine.init acts = some s) :
    Stored codec acts s := by
  have hguard : Guarded (Engine.step codec) (fun _ a => True ∧ a ∈ acts) Engine.init acts :=
    (guarded_true Engine.init acts).and_forall fun a ha => ha
  exact run_invariant (fun _ a _ h ha hstep => h.step ha.2 hstep) (stored_init acts) hguard hrun

end Step

end ImmoApp.Idempotency
