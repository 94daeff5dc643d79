import ImmoApp.Offline.WellFormed

/-!
# Requests with the same idempotency key

The creation of a record is sent under a key that is fixed when its operation id is drawn, by the first
attempt and by every replay.  The body sent under that key is the one the operation has when replay
takes it, with the references resolved when the request is made; so the requests under one key are the
same as long as nothing is merged into the creation once a request has left or replay holds a copy
(`same_key_same_request`).  The server refuses a key that returns with another body.
-/

namespace ImmoApp.Offline

open OfflineOperation List Option Dict

lemma EntityType.colon_not_mem_name (e : EntityType) : ∀ c ∈ e.name.toList, c ≠ ':' := by
  cases e <;> simp [EntityType.name]

variable {accountKey opId : String} {d d' : Disk} {op : OfflineOperation} {req : ApiRequest}
  {r : OfflineCreateRequest} {s t : Client} {a : Action} {ops : List OfflineOperation}

lemma opId_eq_of_idempotencyKey_eq {e e' : EntityType} {i i' : String}
    (h : idempotencyKey accountKey e i = idempotencyKey accountKey e' i') : i = i' := by
  have hchars : e.name.toList ++ ':' :: i.toList = e'.name.toList ++ ':' :: i'.toList := by
    have htoList := congrArg String.toList h
    simpa [idempotencyKey, String.toList_append] using htoList
  -- the name ends at the first colon, so both names have the same length
  have htail : ∀ (e : EntityType) (rest : List Char),
      (e.name.toList ++ ':' :: rest).dropWhile (· ≠ ':') = ':' :: rest := by
    intro e rest
    rw [dropWhile_append_of_pos (by simpa using e.colon_not_mem_name)]
    simp
  have hrest := congrArg (List.dropWhile (· ≠ ':')) hchars
  rw [htail, htail] at hrest
  exact String.ext (List.cons.inj hrest).2

lemma key_of_resolveRequestPayload (h : resolveRequestPayload d op = some req) : req.key = op.key := by
  unfold resolveRequestPayload at h
  obtain ⟨_, _, h⟩ := bind_eq_some_iff.mp h
  obtain ⟨_, _, h⟩ := bind_eq_some_iff.mp h
  obtain ⟨_, _, h⟩ := bind_eq_some_iff.mp h
  cases h
  rfl

lemma key_of_firstAttempt (h : firstAttempt d accountKey r opId = some req) :
    req.key = some (idempotencyKey accountKey r.entityType opId) := by
  unfold firstAttempt at h
  obtain ⟨_, _, h⟩ := bind_eq_some_iff.mp h
  obtain ⟨_, _, h⟩ := bind_eq_some_iff.mp h
  cases h
  simp [ApiRequest.key, get?_cons]

variable {c x y : OfflineOperation} {refs : Dict String Json} {emitted : List ApiRequest}

lemma key_of_createPayload (h : c.payload = createPayload accountKey r opId) :
    c.key = some (idempotencyKey accountKey r.entityType opId) := by
  unfold OfflineOperation.key OfflineOperation.headers
  rw [h]
  simp [createPayload, get?_cons, mappingDict, Json.fields?, Json.text]

/-! ### Resolving again -/

lemma resolvePathTemplate_refsJson (d : Disk) (refs : Dict String OfflineEntityRef) :
    ∀ template, resolvePathTemplate d template (refsJson refs) = resolvePath d template refs := by
  unfold resolvePathTemplate resolvePath refsJson
  induction refs with
  | nil => exact fun _ => rfl
  | cons e _ ih =>
    intro template
    rw [map_cons, foldlM_cons, foldlM_cons, OfflineEntityRef.fromDict_toDict]
    simp only [bind_eq_bind, bind_some]
    cases d.resolveReconciledId e.2 with
    | none => rfl
    | some => exact ih _

lemma resolveBodyRefs_refsJson (d : Disk) (refs : Dict String OfflineEntityRef) :
    ∀ body, resolveBodyRefs d body (refsJson refs) = resolveBody d body refs := by
  unfold resolveBodyRefs resolveBody refsJson
  induction refs with
  | nil => exact fun _ => rfl
  | cons e _ ih =>
    intro body
    rw [map_cons, foldlM_cons, foldlM_cons, OfflineEntityRef.fromDict_toDict]
    simp only [bind_eq_bind, bind_some]
    cases d.resolveReconciledId e.2 with
    | none => rfl
    | some => exact ih _

lemma resolveRequestPayload_congr (h : x.payload = y.payload) (d : Disk) :
    resolveRequestPayload d x = resolveRequestPayload d y := by
  unfold resolveRequestPayload resolveRequestPath OfflineOperation.body OfflineOperation.refsAt
    OfflineOperation.headers
  rw [h]

lemma resolveRequestPayload_createPayload (h : c.payload = createPayload accountKey r opId)
    (d : Disk) : resolveRequestPayload d c = firstAttempt d accountKey r opId := by
  have hmethod : (c.payload.get? "method").filter Json.truthy = some (.str "POST") := by
    rw [h]
    simp [createPayload, get?_cons, Json.truthy, Option.filter]
  have hpath : resolveRequestPath d c = firstAttemptPath d r := by
    unfold resolveRequestPath firstAttemptPath
    rw [h]
    by_cases htemplate : r.pathTemplate = ""
    · by_cases hempty : r.path = "" <;>
        simp [createPayload, get?_cons, Json.truthy, Option.filter, htemplate, hempty, Json.text]
    · have hrefs : c.refsAt "path_refs" = some (refsJson r.pathRefs) :=
        refsAt_of_obj (by rw [h]; simp [createPayload, get?_cons])
      simp [createPayload, get?_cons, Json.truthy, Option.filter, htemplate, Json.text, hrefs,
        resolvePathTemplate_refsJson]
  have hrefs : c.refsAt "body_refs" = some (refsJson r.bodyRefs) :=
    refsAt_of_obj (by rw [h]; simp [createPayload, get?_cons])
  have hbody : resolveBodyRefs d c.body (refsJson r.bodyRefs) = resolveBody d r.requestBody r.bodyRefs := by
    rw [resolveBodyRefs_refsJson]
    unfold OfflineOperation.body
    rw [h]
    simp [createPayload, get?_cons, mappingDict, Json.fields?]
  have hparams : requestParamsDict (c.payload.get? "params") = [] := by
    rw [h]
    simp [createPayload, get?_cons, requestParamsDict, mappingDict]
  have hheaders : c.headers = [(idempotencyHeader, idempotencyKey accountKey r.entityType opId)] := by
    unfold OfflineOperation.headers
    rw [h]
    simp [createPayload, get?_cons, mappingDict, Json.fields?, Json.text]
  have hupper : "POST".toUpper = "POST" := by decide +kernel
  unfold resolveRequestPayload firstAttempt
  rw [hmethod, hpath, hrefs, hparams, hheaders]
  simp only [Option.elim, Json.text, hupper, bind_eq_bind, bind_some, hbody]

/-! ### The map of temporary ids grows -/

def Extends (d d' : Disk) : Prop :=
  ∀ ref id, d.resolveReconciledId ref = some id → d'.resolveReconciledId ref = some id

lemma extends_of_tempIds (h : d'.tempIds = d.tempIds) : Extends d d' := by
  intro ref id hid
  unfold Disk.resolveReconciledId at hid ⊢
  rwa [h]

lemma extends_of_reconciledIds {ref : OfflineEntityRef} {serverId : ℤ}
    (hfree : d.tempIds.get? (ref.entityType, ref.localId) = none)
    (h : d'.tempIds = reconciledIds d ref serverId)
    (hpos : ∀ e ∈ d.tempIds, 0 < e.2) : Extends d d' := by
  intro ref' id hid
  unfold Disk.resolveReconciledId at hid ⊢
  split
  · next hlocal => rwa [if_pos hlocal] at hid
  · next hlocal =>
    rw [if_neg hlocal] at hid
    have hfilter : d.tempIds.filter (fun e => decide (0 < e.2)) = d.tempIds :=
      filter_eq_self.mpr fun e he => decide_eq_true (hpos e he)
    rw [h, reconciledIds, hfilter, get?_set]
    split
    · next heq =>
      rw [heq, hfree] at hid
      cases hid
    · exact hid

lemma resolvePathTemplate_extends (h : Extends d d') :
    ∀ {template path : String}, resolvePathTemplate d template refs = some path →
      resolvePathTemplate d' template refs = some path := by
  unfold resolvePathTemplate
  induction refs with
  | nil => exact fun hpath => hpath
  | cons _ _ ih =>
    intro template path hpath
    rw [foldlM_cons] at hpath ⊢
    obtain ⟨_, hstep, hrest⟩ := bind_eq_some_iff.mp hpath
    obtain ⟨ref, href, hbind⟩ := bind_eq_some_iff.mp hstep
    obtain ⟨id, hid, hset⟩ := bind_eq_some_iff.mp hbind
    cases hset
    simp only [bind_eq_bind, href, bind_some, h ref id hid]
    exact ih hrest

lemma resolveBodyRefs_extends (h : Extends d d') :
    ∀ {body resolved : Dict String Json}, resolveBodyRefs d body refs = some resolved →
      resolveBodyRefs d' body refs = some resolved := by
  unfold resolveBodyRefs
  induction refs with
  | nil => exact fun hbody => hbody
  | cons _ _ ih =>
    intro body resolved hbody
    rw [foldlM_cons] at hbody ⊢
    obtain ⟨_, hstep, hrest⟩ := bind_eq_some_iff.mp hbody
    obtain ⟨ref, href, hbind⟩ := bind_eq_some_iff.mp hstep
    obtain ⟨id, hid, hset⟩ := bind_eq_some_iff.mp hbind
    cases hset
    simp only [bind_eq_bind, href, bind_some, h ref id hid]
    exact ih hrest

lemma resolveRequestPayload_extends (h : Extends d d') (hreq : resolveRequestPayload d op = some req) :
    resolveRequestPayload d' op = some req := by
  unfold resolveRequestPayload at hreq ⊢
  obtain ⟨path, hpath, hreq⟩ := bind_eq_some_iff.mp hreq
  obtain ⟨_, hrefs, hreq⟩ := bind_eq_some_iff.mp hreq
  obtain ⟨_, hbody, hreq⟩ := bind_eq_some_iff.mp hreq
  have hpath' : resolveRequestPath d' op = some path := by
    unfold resolveRequestPath at hpath ⊢
    split at hpath
    · obtain ⟨pathRefs, hpathRefs, hpath⟩ := bind_eq_some_iff.mp hpath
      exact bind_eq_some_iff.mpr ⟨pathRefs, hpathRefs, resolvePathTemplate_extends h hpath⟩
    · exact hpath
  simp only [bind_eq_bind, hpath', hrefs, resolveBodyRefs_extends h hbody, bind_some]
  exact hreq

/-! ### Where operations, ids and requests come from -/

/-- A creation that the step from `s` queued. -/
structure NewCreation (accountKey : String) (s : Client) (c : OfflineOperation) : Prop where
  fresh : c.opId ∉ s.usedIds
  opType : c.opType = .create
  payload : ∃ r, c.payload = createPayload accountKey r c.opId ∧ c.entityType = r.entityType
  localId : c.localId < s.disk.lastTempId c.entityType

lemma step_held (h : WellFormed s) (hstep : s.step accountKey a = some t) (hy : y ∈ t.held) :
    (∃ x ∈ s.held, Rebodied x y) ∨ (y.opType ≠ .create ∧ y.key = none) ∨
      NewCreation accountKey s y := by
  have hkept : ∀ {y}, y ∈ s.held → ∃ x ∈ s.held, Rebodied x y :=
    fun hy => ⟨_, hy, Rebodied.refl _⟩
  have hqueued : ∀ {y}, (∃ x ∈ s.disk.queue, Touched x y) → ∃ x ∈ s.held, Rebodied x y :=
    fun ⟨x, hx, hxy⟩ => ⟨x, mem_held_of_queue hx, hxy.rebodied⟩
  rcases mem_held.mp hy with hy | hy
  · cases step_move h.agrees hstep with
    | quiet disk =>
      exact .inl (hqueued (disk.origin y hy))
    | changed _ _ origin =>
      rcases origin y hy with hold | ⟨hne, ⟨_, _, hkey⟩ | ⟨x, hx, hxy⟩⟩
      · exact .inl (hqueued hold)
      · exact .inr (.inl ⟨hne, hkey⟩)
      · exact .inl ⟨x, mem_held_of_queue hx, hxy⟩
    | attempted _ _ _ disk =>
      exact .inl (hkept (mem_held_of_queue (disk ▸ hy)))
    | created r _ _ fresh _ origin opIdEq opType entityType payload _ localIdLt =>
      subst opIdEq
      rcases origin y hy with hy | rfl
      · exact .inl (hkept (mem_held_of_queue hy))
      · exact .inr (.inr ⟨fresh, opType, ⟨r, payload, entityType⟩, entityType ▸ localIdLt⟩)
    | merged c fields now _ mem _ _ _ origin =>
      rcases origin y hy with rfl | ⟨hy, _⟩
      · exact .inl ⟨c, mem_held_of_queue mem, rebodied_mergeFields fields now c⟩
      · exact .inl (hkept (mem_held_of_queue hy))
    | taken disk =>
      exact .inl (hqueued (disk.origin y hy))
    | resolved _ _ disk =>
      exact .inl (hkept (mem_held_of_queue (disk ▸ hy)))
    | sent _ _ disk =>
      exact .inl (hkept (mem_held_of_queue (disk ▸ hy)))
    | arrived _ _ _ _ disk =>
      exact .inl (hqueued (disk.origin y hy).2)
  · have hcopy : y ∈ s.phase.copies ∨ ∃ x ∈ s.disk.queue, Touched x y := by
      cases step_move h.agrees hstep with
      | quiet _ copies => exact .inl (copies.subset hy)
      | changed _ _ _ phase => exact .inl (phase ▸ hy)
      | attempted _ _ _ _ phase => exact .inl (phase ▸ hy)
      | created _ _ _ _ _ _ _ _ _ _ _ _ _ _ phase => exact .inl (phase ▸ hy)
      | merged _ _ _ _ _ _ _ _ _ phase =>
        exact .inl (phase ▸ hy)
      | taken _ _ copies => exact .inr (copies y hy)
      | resolved _ _ _ copies =>
        exact .inl (copies ▸ hy)
      | sent _ _ _ copies => exact .inl (copies ▸ hy)
      | arrived _ _ _ _ _ copies =>
        rw [copies]
        exact .inl (mem_cons_of_mem _ hy)
    rcases hcopy with hy | hold
    · exact .inl (hkept (mem_held_of_copies hy))
    · exact .inl (hqueued hold)

lemma step_tempIds (h : WellFormed s) (hstep : s.step accountKey a = some t) :
    t.disk.tempIds = s.disk.tempIds ∨ ∃ op ∈ s.phase.copies, ∃ serverId, 0 < serverId ∧
      op.opType = .create ∧ t.disk.tempIds = reconciledIds s.disk op.entity serverId ∧
        ∀ y ∈ t.held, y.opId ≠ op.opId := by
  cases step_move h.agrees hstep with
  | quiet disk => exact .inl disk.ids.tempIds
  | changed _ ids => exact .inl ids.tempIds
  | attempted _ _ _ disk => exact .inl (by rw [disk])
  | created _ _ _ _ _ _ _ _ _ _ _ _ _ tempIds => exact .inl tempIds
  | merged _ _ _ _ _ _ _ ids =>
    exact .inl ids.tempIds
  | taken disk => exact .inl disk.ids.tempIds
  | resolved _ _ disk =>
    exact .inl (by rw [disk])
  | sent _ _ disk => exact .inl (by rw [disk])
  | arrived op serverId pos opType disk copies =>
    have hmem : op ∈ s.phase.copies := by
      rw [copies]
      exact mem_cons_self
    refine .inr ⟨op, hmem, serverId, pos, opType, disk.tempIds, fun y hy => ?_⟩
    rcases mem_held.mp hy with hy | hy
    · exact (disk.origin y hy).1
    · have hnodup := h.nodup
      rw [copies, map_cons, nodup_cons] at hnodup
      exact fun heq => hnodup.1 (heq ▸ mem_map_of_mem hy)

lemma step_lastTempId (h : WellFormed s) (hstep : s.step accountKey a = some t) (e : EntityType) :
    t.disk.lastTempId e ≤ s.disk.lastTempId e := by
  have hsame : t.disk.allocator = s.disk.allocator → t.disk.lastTempId e ≤ s.disk.lastTempId e := by
    intro heq
    unfold Disk.lastTempId
    rw [heq]
  cases step_move h.agrees hstep with
  | quiet disk => exact hsame disk.ids.allocator
  | changed _ ids => exact hsame ids.allocator
  | attempted _ _ _ disk => exact hsame (by rw [disk])
  | created _ _ _ _ _ _ _ _ _ _ _ localIdLt allocator =>
    unfold Disk.lastTempId at localIdLt ⊢
    rw [allocator, get?_set]
    split
    · next he =>
      subst he
      exact localIdLt.le
    · exact le_refl _
  | merged _ _ _ _ _ _ _ ids =>
    exact hsame ids.allocator
  | taken disk => exact hsame disk.ids.allocator
  | resolved _ _ disk =>
    exact hsame (by rw [disk])
  | sent _ _ disk => exact hsame (by rw [disk])
  | arrived _ _ _ _ disk =>
    exact hsame disk.allocator

/-- What every reachable state satisfies about keys, temporary ids and the request at hand. -/
structure Keyed (accountKey : String) (s : Client) : Prop where
  wellFormed : WellFormed s
  created : ∀ x ∈ s.held, x.opType = .create → x.key = some (idempotencyKey accountKey x.entityType x.opId)
  other : ∀ x ∈ s.held, x.opType ≠ .create → x.key = none
  /-- A record whose creation is known has no server id yet. -/
  unmapped : ∀ x ∈ s.held, x.opType = .create → s.disk.tempIds.get? (x.entityType, x.localId) = none
  /-- A temporary id with a server id was handed out, and the server id is positive. -/
  mapped : ∀ e ∈ s.disk.tempIds, s.disk.lastTempId e.1.1 ≤ e.1.2 ∧ 0 < e.2
  /-- The request at hand is that of the copy at hand. -/
  requested : ∀ op req, s.phase.attempt = some (op, req) → resolveRequestPayload s.disk op = some req

lemma held_init : Client.init.held = [] := rfl

lemma keyed_init (accountKey : String) : Keyed accountKey Client.init where
  wellFormed := wellFormed_init
  created := by simp [held_init]
  other := by simp [held_init]
  unmapped := by simp [held_init]
  mapped := by simp [Client.init, Disk.empty]
  requested := by simp [Client.init, Phase.attempt]

section

variable (h : Keyed accountKey s)
include h

section

variable (hstep : s.step accountKey a = some t)
include hstep

lemma Keyed.extends : Extends s.disk t.disk := by
  rcases step_tempIds h.wellFormed hstep with heq | ⟨op, hop, _, _, hcreate, heq, _⟩
  · exact extends_of_tempIds heq
  · exact extends_of_reconciledIds (h.unmapped op (mem_held_of_copies hop) hcreate) heq
      fun e he => (h.mapped e he).2

private lemma Keyed.unmapped_step :
    ∀ y ∈ t.held, y.opType = .create → t.disk.tempIds.get? (y.entityType, y.localId) = none := by
  intro y hy hcreate
  have hbefore : s.disk.tempIds.get? (y.entityType, y.localId) = none := by
    rcases step_held h.wellFormed hstep hy with ⟨x, hx, hxy⟩ | ⟨hne, _⟩ | hnew
    · have hentity := hxy.entity
      simp only [OfflineOperation.entity, OfflineEntityRef.mk.injEq] at hentity
      rw [hentity.1, hentity.2]
      exact h.unmapped x hx (hxy.opType.symm.trans hcreate)
    · exact absurd hcreate hne
    · -- the new temporary id lies below all that have a server id
      rw [get?_eq_none_iff]
      intro e he heq
      have hle := (h.mapped e he).1
      rw [heq] at hle
      exact absurd hnew.localId (not_lt.mpr hle)
  rcases step_tempIds h.wellFormed hstep with heq | ⟨op, hop, _, _, hop', heq, hgone⟩
  · rw [heq]
    exact hbefore
  · have hapart : (y.entityType, y.localId) ≠ (op.entity.entityType, op.entity.localId) := by
      intro hentity
      have hentity' : y.entity = op.entity := by
        simp only [Prod.mk.injEq] at hentity
        exact congrArg₂ OfflineEntityRef.mk hentity.1 hentity.2
      rcases step_held h.wellFormed hstep hy with ⟨x, hx, hxy⟩ | ⟨hne, _⟩ | hnew
      · have hid := h.wellFormed.unique x hx op (mem_held_of_copies hop)
          (hxy.opType.symm.trans hcreate) hop' (hxy.entity.symm.trans hentity')
        exact hgone y hy (hxy.opId.trans hid)
      · exact hne hcreate
      · have hallocated := (h.wellFormed.allocated op (mem_held_of_copies hop) hop').1
        simp only [OfflineOperation.entity, OfflineEntityRef.mk.injEq] at hentity'
        rw [← hentity'.1, ← hentity'.2] at hallocated
        have hlt := hnew.localId
        omega
    have hnone : Dict.get? (s.disk.tempIds.filter fun e => decide (0 < e.2)) (y.entityType, y.localId) = none := by
      rw [get?_eq_none_iff] at hbefore ⊢
      exact fun e he => hbefore e (mem_of_mem_filter he)
    rw [heq, reconciledIds, get?_set, if_neg hapart]
    exact hnone

private lemma Keyed.mapped_step : ∀ e ∈ t.disk.tempIds, t.disk.lastTempId e.1.1 ≤ e.1.2 ∧ 0 < e.2 := by
  intro e he
  have hlast := step_lastTempId h.wellFormed hstep e.1.1
  rcases step_tempIds h.wellFormed hstep with heq | ⟨op, hop, _, hpos, hop', heq, _⟩
  · rw [heq] at he
    obtain ⟨hle, hpos⟩ := h.mapped e he
    exact ⟨hlast.trans hle, hpos⟩
  · rw [heq, reconciledIds] at he
    rcases mem_set.mp he with rfl | ⟨he, _⟩
    · exact ⟨hlast.trans (h.wellFormed.allocated op (mem_held_of_copies hop) hop').1, hpos⟩
    · obtain ⟨hle, hpos⟩ := h.mapped e (mem_of_mem_filter he)
      exact ⟨hlast.trans hle, hpos⟩

lemma Keyed.step : Keyed accountKey t where
  wellFormed := h.wellFormed.step hstep
  created := by
    intro y hy hcreate
    rcases step_held h.wellFormed hstep hy with ⟨x, hx, hxy⟩ | ⟨hne, _⟩ | hnew
    · have hentity := hxy.entity
      simp only [OfflineOperation.entity, OfflineEntityRef.mk.injEq] at hentity
      rw [hxy.key, hxy.opId, hentity.1]
      exact h.created x hx (hxy.opType.symm.trans hcreate)
    · exact absurd hcreate hne
    · obtain ⟨r, hpayload, htype⟩ := hnew.payload
      rw [htype]
      exact key_of_createPayload hpayload
  other := by
    intro y hy hother
    rcases step_held h.wellFormed hstep hy with ⟨x, hx, hxy⟩ | ⟨_, hkey⟩ | hnew
    · rw [hxy.key]
      exact h.other x hx fun heq => hother (hxy.opType.trans heq)
    · exact hkey
    · exact absurd hnew.opType hother
  unmapped := h.unmapped_step hstep
  mapped := h.mapped_step hstep
  requested := by
    intro op req hatt
    rcases step_attempt h.wellFormed.agrees hstep hatt with hsame | ⟨hdisk, hresolved⟩
    · exact resolveRequestPayload_extends (h.extends hstep) (h.requested op req hsame)
    · rw [hdisk]
      exact hresolved

end

end

/-! ### Operations and the requests that left under their keys -/

/-- An operation with the key of a request that left asks for that very request, and requests that
left under one key are the same. -/
structure Bound (d : Disk) (ops : List OfflineOperation) (emitted : List ApiRequest) : Prop where
  resolves : ∀ x ∈ ops, ∀ r ∈ emitted, r.key.isSome → x.key = r.key → resolveRequestPayload d x = some r
  same : ∀ r ∈ emitted, ∀ r' ∈ emitted, r.key.isSome → r'.key = r.key → r' = r

lemma Bound.mono {ops' : List OfflineOperation} (h : Bound d ops emitted) (hext : Extends d d')
    (hops : ∀ y ∈ ops', y.key.isSome →
      (∃ x ∈ ops, x.key = y.key ∧ x.payload = y.payload) ∨ ∀ r ∈ emitted, r.key ≠ y.key) :
    Bound d' ops' emitted where
  resolves := by
    intro y hy r hr hsome hkey
    rcases hops y hy (hkey ▸ hsome) with ⟨x, hx, hxkey, hpayload⟩ | hunused
    · have hresolves := h.resolves x hx r hr hsome (hxkey.trans hkey)
      rw [resolveRequestPayload_congr hpayload] at hresolves
      exact resolveRequestPayload_extends hext hresolves
    · exact absurd hkey.symm (hunused r hr)
  same := h.same

lemma Bound.emit (h : Bound d ops emitted) (hreq : req.key.isSome → (∀ r ∈ emitted, r.key = req.key → r = req) ∧
      ∀ x ∈ ops, x.key = req.key → resolveRequestPayload d x = some req) :
    Bound d ops (emitted ++ [req]) where
  resolves := by
    intro x hx r hr hsome hkey
    rcases mem_append.mp hr with hr | hr
    · exact h.resolves x hx r hr hsome hkey
    · obtain rfl := mem_singleton.mp hr
      exact (hreq hsome).2 x hx hkey
  same := by
    intro r hr r' hr' hsome hkey
    rcases mem_append.mp hr with hold | hnew
    · rcases mem_append.mp hr' with hold' | hnew'
      · exact h.same r hold r' hold' hsome hkey
      · obtain rfl := mem_singleton.mp hnew'
        exact ((hreq (hkey ▸ hsome)).1 r hold hkey.symm).symm
    · obtain rfl := mem_singleton.mp hnew
      rcases mem_append.mp hr' with hold' | hnew'
      · exact (hreq hsome).1 r' hold' hkey
      · exact mem_singleton.mp hnew'

lemma Bound.plain (h : Bound d ops s.emitted) (hplain : PlainEmitted s t) : Bound d ops t.emitted := by
  rcases hplain with heq | ⟨r, hkey, heq⟩
  · rw [heq]
    exact h
  · rw [heq]
    exact h.emit (by simp [hkey])

/-- Nothing is merged into a creation of which replay holds a copy, or whose key was used. -/
def MergesUnsent (s : Client) (a : Action) : Prop :=
  ∀ m ∈ a.merge? s, (∀ x ∈ s.phase.copies, x.opId ≠ m.1.opId) ∧ ∀ r ∈ s.emitted, r.key ≠ m.1.key

instance (s : Client) (a : Action) : Decidable (MergesUnsent s a) :=
  inferInstanceAs (Decidable (∀ m ∈ a.merge? s, _))

lemma MergesUnsent.mergesUncopied (h : MergesUnsent s a) :
    MergesUncopied s a :=
  fun m hm => (h m hm).1

/-- What holds as long as creations are left alone once they may have been sent. -/
structure KeysBound (accountKey : String) (s : Client) : Prop where
  /-- Keys, ids and the request at hand are in order. -/
  keyed : Keyed accountKey s
  current : CopiesCurrent s
  drawn : ∀ r ∈ s.emitted, ∀ k, r.key = some k → ∃ e, ∃ opId ∈ s.usedIds, k = idempotencyKey accountKey e opId
  /-- The operations ask for what was sent under their keys. -/
  bound : Bound s.disk s.held s.emitted

lemma keysBound_init (accountKey : String) : KeysBound accountKey Client.init where
  keyed := keyed_init accountKey
  current := copiesCurrent_init
  drawn := by simp [Client.init]
  bound := ⟨by simp [held_init], by simp [Client.init]⟩

section

variable (h : KeysBound accountKey s)
include h

private lemma KeysBound.unused (fresh : opId ∉ s.usedIds) (e : EntityType) :
    ∀ r ∈ s.emitted, r.key ≠ some (idempotencyKey accountKey e opId) := by
  intro r hr hkey
  obtain ⟨_, _, hused, heq⟩ := h.drawn r hr _ hkey
  rw [opId_eq_of_idempotencyKey_eq heq] at fresh
  exact fresh hused

private lemma KeysBound.unheld (fresh : opId ∉ s.usedIds) (e : EntityType) :
    ∀ x ∈ s.held, x.key ≠ some (idempotencyKey accountKey e opId) := by
  intro x hx hkey
  by_cases hcreate : x.opType = .create
  · rw [h.keyed.created x hx hcreate, Option.some.injEq] at hkey
    rw [← opId_eq_of_idempotencyKey_eq hkey] at fresh
    exact fresh (h.keyed.wellFormed.used x hx)
  · rw [h.keyed.other x hx hcreate] at hkey
    cases hkey

private lemma KeysBound.payload_eq (hop : op ∈ s.phase.copies) (hx : x ∈ s.held)
    (hsome : op.key.isSome) (hkey : x.key = op.key) : x.payload = op.payload := by
  have hcreates : ∀ y ∈ s.held, y.key.isSome → y.opType = .create := by
    intro y hy hy'
    by_contra hne
    rw [h.keyed.other y hy hne] at hy'
    cases hy'
  have hop' := hcreates op (mem_held_of_copies hop) hsome
  have hx' := hcreates x hx (hkey ▸ hsome)
  have hid : x.opId = op.opId := by
    rw [h.keyed.created x hx hx', h.keyed.created op (mem_held_of_copies hop) hop', Option.some.injEq] at hkey
    exact opId_eq_of_idempotencyKey_eq hkey
  rcases mem_held.mp hx with hx | hx
  · exact h.current op hop x hx hid.symm hop'
  · rw [inj_on_of_nodup_map h.keyed.wellFormed.nodup hx hop hid]

private lemma KeysBound.drawn_step (hstep : s.step accountKey a = some t) :
    ∀ r ∈ t.emitted, ∀ k, r.key = some k → ∃ e, ∃ opId ∈ t.usedIds, k = idempotencyKey accountKey e opId := by
  have hold : s.usedIds ⊆ t.usedIds → ∀ r ∈ s.emitted, ∀ k, r.key = some k →
      ∃ e, ∃ opId ∈ t.usedIds, k = idempotencyKey accountKey e opId := by
    intro hsub r hr k hk
    obtain ⟨e, opId, hused, heq⟩ := h.drawn r hr k hk
    exact ⟨e, opId, hsub hused, heq⟩
  have hplain : PlainEmitted s t → s.usedIds ⊆ t.usedIds → ∀ r ∈ t.emitted, ∀ k, r.key = some k →
      ∃ e, ∃ opId ∈ t.usedIds, k = idempotencyKey accountKey e opId := by
    rintro (heq | ⟨_, hkey, heq⟩) hsub r hr k hk
    · exact hold hsub r (heq ▸ hr) k hk
    · rw [heq] at hr
      rcases mem_append.mp hr with hr | hr
      · exact hold hsub r hr k hk
      · obtain rfl := mem_singleton.mp hr
        rw [hkey] at hk
        cases hk
  have hfirst : ∀ cr opId, t.usedIds = s.usedIds ++ [opId] →
      (t.emitted = s.emitted ∨ ∃ req, firstAttempt s.disk accountKey cr opId = some req ∧
        t.emitted = s.emitted ++ [req]) → ∀ r ∈ t.emitted, ∀ k, r.key = some k →
      ∃ e, ∃ opId ∈ t.usedIds, k = idempotencyKey accountKey e opId := by
    rintro cr opId hused (heq | ⟨_, hreq, heq⟩) r hr k hk
    · exact hold (by simp [hused]) r (heq ▸ hr) k hk
    · rw [heq] at hr
      rcases mem_append.mp hr with hr | hr
      · exact hold (by simp [hused]) r hr k hk
      · obtain rfl := mem_singleton.mp hr
        rw [key_of_firstAttempt hreq] at hk
        cases hk
        exact ⟨cr.entityType, opId, by simp [hused], rfl⟩
  cases step_move h.keyed.wellFormed.agrees hstep with
  | quiet _ _ _ emitted _ usedIds => exact hplain emitted usedIds
  | changed _ _ _ _ emitted _ usedIds => exact hplain emitted usedIds
  | attempted r opId _ _ _ emitted _ usedIds => exact hfirst r opId usedIds emitted
  | created r opId _ _ _ _ _ _ _ _ _ _ _ _ _ emitted _ usedIds => exact hfirst r opId usedIds emitted
  | merged _ _ _ _ _ _ _ _ _ _ emitted _ usedIds =>
    exact hplain emitted usedIds
  | taken _ _ _ _ _ emitted _ usedIds =>
    exact hplain (.inl emitted) (by simp [usedIds])
  | resolved _ _ _ _ _ _ _ emitted _ usedIds =>
    exact hplain (.inl emitted) (by simp [usedIds])
  | sent op _ _ _ attempt _ emitted _ usedIds =>
    intro r hr k hk
    rw [emitted] at hr
    rcases mem_append.mp hr with hr | hr
    · exact hold (by simp [usedIds]) r hr k hk
    · obtain rfl := mem_singleton.mp hr
      have hop := mem_held_of_copies (h.keyed.wellFormed.attempt op r attempt)
      rw [key_of_resolveRequestPayload (h.keyed.requested op r attempt)] at hk
      by_cases hcreate : op.opType = .create
      · rw [h.keyed.created op hop hcreate] at hk
        cases hk
        exact ⟨op.entityType, op.opId, usedIds ▸ h.keyed.wellFormed.used op hop, rfl⟩
      · rw [h.keyed.other op hop hcreate] at hk
        cases hk
  | arrived _ _ _ _ _ _ _ emitted _ usedIds =>
    exact hplain (.inl emitted) (by simp [usedIds])

private lemma KeysBound.bound_of_firstAttempt (fresh : opId ∉ s.usedIds) (hbound : Bound t.disk t.held s.emitted)
    (emitted : t.emitted = s.emitted ∨ ∃ req, firstAttempt s.disk accountKey r opId = some req ∧
      t.emitted = s.emitted ++ [req])
    (asks : ∀ req, firstAttempt s.disk accountKey r opId = some req → ∀ x ∈ t.held,
      x.key = some (idempotencyKey accountKey r.entityType opId) → resolveRequestPayload t.disk x = some req) :
    Bound t.disk t.held t.emitted := by
  rcases emitted with heq | ⟨req, hreq, heq⟩
  · rw [heq]
    exact hbound
  · have hkey := key_of_firstAttempt hreq
    rw [heq]
    refine hbound.emit fun _ => ⟨?_, ?_⟩
    · intro r' hr' hkey'
      exact absurd (hkey'.trans hkey) (h.unused fresh r.entityType r' hr')
    · intro x hx hkey'
      exact asks req hreq x hx (hkey'.trans hkey)

private lemma KeysBound.bound_step (hmerges : MergesUnsent s a)
    (hstep : s.step accountKey a = some t) : Bound t.disk t.held t.emitted := by
  have hext := h.keyed.extends hstep
  have hwf := h.keyed.wellFormed
  have hqueued : ∀ {y}, (∃ x ∈ s.disk.queue, Touched x y) → ∃ x ∈ s.held, x.key = y.key ∧ x.payload = y.payload :=
    fun ⟨x, hx, hxy⟩ => ⟨x, mem_held_of_queue hx, hxy.key.symm, hxy.payload.symm⟩
  have hkept : ∀ {y}, y ∈ s.held → ∃ x ∈ s.held, x.key = y.key ∧ x.payload = y.payload :=
    fun hy => ⟨_, hy, rfl, rfl⟩
  cases step_move hwf.agrees hstep with
  | quiet disk copies _ emitted =>
    refine (h.bound.mono hext fun y hy _ => .inl ?_).plain emitted
    rcases mem_held.mp hy with hy | hy
    · exact hqueued (disk.origin y hy)
    · exact hkept (mem_held_of_copies (copies.subset hy))
  | changed _ _ origin phase emitted =>
    refine (h.bound.mono hext fun y hy hsome => .inl ?_).plain emitted
    rcases mem_held.mp hy with hq | hc
    · rcases origin y hq with hold | ⟨hne, _⟩
      · exact hqueued hold
      · rw [(h.keyed.step hstep).other y hy hne] at hsome
        cases hsome
    · exact hkept (mem_held_of_copies (phase ▸ hc))
  | attempted r _ fresh disk phase emitted =>
    have hheld : t.held = s.held := by
      unfold Client.held
      rw [disk, phase]
    have hbound : Bound t.disk t.held s.emitted := by
      rw [disk, hheld]
      exact h.bound
    refine h.bound_of_firstAttempt fresh hbound emitted fun req _ x hx hkey => ?_
    exact absurd hkey (h.unheld fresh r.entityType x (hheld ▸ hx))
  | created r opId c fresh _ origin _ _ _ payload _ _ _ _ phase emitted =>
    have hheld : ∀ y ∈ t.held, y ∈ s.held ∨ y = c := by
      intro y hy
      rcases mem_held.mp hy with hy | hy
      · exact (origin y hy).imp_left mem_held_of_queue
      · exact .inl (mem_held_of_copies (phase ▸ hy))
    have hckey : c.key = some (idempotencyKey accountKey r.entityType opId) :=
      key_of_createPayload payload
    have hbound : Bound t.disk t.held s.emitted := by
      refine h.bound.mono hext fun y hy _ => ?_
      rcases hheld y hy with hy | rfl
      · exact .inl (hkept hy)
      · rw [hckey]
        exact .inr (h.unused fresh r.entityType)
    refine h.bound_of_firstAttempt fresh hbound emitted fun req hreq x hx hkey => ?_
    rcases hheld x hx with hx | rfl
    · exact absurd hkey (h.unheld fresh r.entityType x hx)
    · exact resolveRequestPayload_extends hext
        ((resolveRequestPayload_createPayload payload s.disk).trans hreq)
  | merged c fields now merge _ _ _ _ origin phase emitted =>
    refine (h.bound.mono hext fun y hy _ => ?_).plain emitted
    rcases mem_held.mp hy with hy | hy
    · rcases origin y hy with rfl | ⟨hy, _⟩
      · rw [(rebodied_mergeFields fields now c).key]
        exact .inr (hmerges (c, fields) merge).2
      · exact .inl (hkept (mem_held_of_queue hy))
    · exact .inl (hkept (mem_held_of_copies (phase ▸ hy)))
  | taken disk _ copies _ _ emitted =>
    rw [emitted]
    refine h.bound.mono hext fun y hy _ => .inl ?_
    rcases mem_held.mp hy with hy | hy
    · exact hqueued (disk.origin y hy)
    · exact hqueued (copies y hy)
  | resolved _ _ disk copies _ _ _ emitted =>
    rw [emitted]
    refine h.bound.mono hext fun y hy _ => .inl (hkept ?_)
    rw [Client.held, disk, copies] at hy
    exact hy
  | sent op req disk copies attempt _ emitted =>
    have hheld : t.held = s.held := by
      unfold Client.held
      rw [disk, copies]
    have hop := hwf.attempt op req attempt
    have hresolved := h.keyed.requested op req attempt
    have hopkey := key_of_resolveRequestPayload hresolved
    rw [disk, hheld, emitted]
    refine h.bound.emit fun hsome => ⟨?_, ?_⟩
    · intro r hr hkey
      have hr' := h.bound.resolves op (mem_held_of_copies hop) r hr (hkey ▸ hsome) (hopkey.symm.trans hkey.symm)
      exact some.inj (hr'.symm.trans hresolved)
    · intro x hx hkey
      have hpayload := h.payload_eq hop hx (hopkey ▸ hsome) (hkey.trans hopkey)
      rw [resolveRequestPayload_congr hpayload]
      exact hresolved
  | arrived _ _ _ _ disk copies _ emitted =>
    rw [emitted]
    refine h.bound.mono hext fun y hy _ => .inl ?_
    rcases mem_held.mp hy with hy | hy
    · exact hqueued (disk.origin y hy).2
    · exact hkept (mem_held_of_copies (by rw [copies]; exact mem_cons_of_mem _ hy))

lemma KeysBound.step (hmerges : MergesUnsent s a) (hstep : s.step accountKey a = some t) :
    KeysBound accountKey t where
  keyed := h.keyed.step hstep
  current := h.current.step h.keyed.wellFormed hmerges.mergesUncopied hstep
  drawn := h.drawn_step hstep
  bound := h.bound_step hmerges hstep

end

def SameKeySameRequest (s : Client) : Prop :=
  ∀ r ∈ s.emitted, ∀ r' ∈ s.emitted, ∀ k, r.key = some k → r'.key = some k →
    r.method = r'.method ∧ r.path = r'.path ∧ r.body = r'.body

/-- In a run in which nothing is merged into a creation once a request under its key has left or
replay holds a copy of it, requests under the same key are the same. -/
theorem same_key_same_request {accountKey : String} {acts : List Action} {s : Client}
    (hmerges : Guarded (Client.step accountKey) MergesUnsent Client.init acts)
    (hrun : run (Client.step accountKey) Client.init acts = some s) : SameKeySameRequest s := by
  have hbound : KeysBound accountKey s :=
    run_invariant (fun _ _ _ h hm hs => h.step hm hs) (keysBound_init accountKey) hmerges hrun
  intro r hr r' hr' k hk hk'
  have heq := hbound.bound.same r hr r' hr' (by simp [hk]) (hk'.trans hk.symm)
  rw [heq]
  exact ⟨rfl, rfl, rfl⟩

def resentCreate : List Action :=
  [sampleCreate, .beginReplay 50, .takeReady] ++ sampleAttempt

def editedCreate : List Action :=
  [sampleCreate, samplePhoneEdit, .beginReplay 50, .takeReady] ++ sampleAttempt

/-- Without an edit, the two requests of a creation that is sent again are the same. -/
theorem same_key_same_request_resentCreate : ∃ s, run (Client.step "acc") Client.init resentCreate = some s ∧
      s.emitted.map ApiRequest.key = [some "offline:acc:client:op-1", some "offline:acc:client:op-1"] ∧
      SameKeySameRequest s := by
  have hkeys : (run (Client.step "acc") Client.init resentCreate).map (fun s => s.emitted.map ApiRequest.key)
      = some [some "offline:acc:client:op-1", some "offline:acc:client:op-1"] := by decide +kernel
  obtain ⟨s, hrun, hs⟩ := map_eq_some_iff.mp hkeys
  exact ⟨s, hrun, hs, same_key_same_request (by decide +kernel) hrun⟩

/-- With an edit in between, the same key is sent with two bodies. -/
theorem edited_create_reuses_key : ¬ ∀ acts s,
    run (Client.step "acc") Client.init acts = some s → SameKeySameRequest s := by
  intro h
  have hfacts : (run (Client.step "acc") Client.init editedCreate).map
      (fun s => s.emitted.map fun r => (r.key, r.body))
      = some [(some "offline:acc:client:op-1", [("name", .str "A"), ("phone", .str "1")]),
          (some "offline:acc:client:op-1", [("name", .str "A"), ("phone", .str "2")])] := by
    decide +kernel
  obtain ⟨s, hrun, hs⟩ := map_eq_some_iff.mp hfacts
  have hmem : ∀ p ∈ s.emitted.map (fun r => (r.key, r.body)), ∃ r ∈ s.emitted, r.key = p.1 ∧ r.body = p.2 := by
    intro p hp
    obtain ⟨r, hr, rfl⟩ := mem_map.mp hp
    exact ⟨r, hr, rfl, rfl⟩
  rw [hs] at hmem
  obtain ⟨r, hr, hkey, hbody⟩ := hmem _ mem_cons_self
  obtain ⟨r', hr', hkey', hbody'⟩ := hmem _ (mem_cons_of_mem _ mem_cons_self)
  have hsame := (h editedCreate s hrun r hr r' hr' _ hkey hkey').2.2
  rw [hbody, hbody'] at hsame
  exact absurd hsame (by decide)

end ImmoApp.Offline
