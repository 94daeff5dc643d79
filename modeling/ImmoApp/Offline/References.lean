import ImmoApp.Foundation.JsonReading
import ImmoApp.Foundation.Replace
import ImmoApp.Offline.Edits

/-!
# The references of a request

An operation names the records that its request depends on: under `path_refs` and under `body_refs`.  The replay puts
server ids in their place before it sends the request (`Cleared`).

`replay_sends_server_ids` says so for every journal, every map of ids and every interleaving with the calls of the user.
A placeholder, a field or a parent that neither dictionary names is sent as it is (`unnamed_parent_sent`).
-/

namespace ImmoApp.Offline

open OfflineOperation List Option

def idOf (d : Disk) (v : Json) : Option ℤ := (OfflineEntityRef.fromDict v).bind d.resolveReconciledId

def idAt (d : Disk) (refs : Dict String Json) (key : String) : Option ℤ := (refs.get? key).bind (idOf d)

/-- All references denote records with server ids. -/
def Resolved (d : Disk) (refs : Dict String Json) : Prop := ∀ e ∈ refs, ∃ n, 0 < n ∧ idOf d e.2 = some n

/-- A part of a path with a server id in the place of its name. -/
def fill (ids : String → Option ℤ) : TemplatePiece → TemplatePiece
  | .text s => .text s
  | .name key =>
    match ids key with
    | some n => .text (toString n)
    | none => .name key

lemma fill_name (ids : String → Option ℤ) (key : String) :
    fill ids (.name key) = match ids key with | some n => .text (toString n) | none => .name key := rfl

def OfflineOperation.pathTemplate (op : OfflineOperation) : Option String :=
  ((op.payload.get? "path_template").filter Json.truthy).map Json.text

/-- The request of an operation has server ids in the place of the references. -/
structure Cleared (d : Disk) (op : OfflineOperation) (req : ApiRequest) : Prop where
  /-- The references of the path are resolved, and a template of texts and names without braces of their own has
  server ids in the place of the names that are among them. -/
  path : ∀ template, op.pathTemplate = some template → ∃ refs, op.refsAt "path_refs" = some refs ∧
    Resolved d refs ∧ ∀ t : List TemplatePiece, templateText t = template → (∀ p ∈ t, p.Proper) →
      (∀ e ∈ refs, PlainText e.1) → req.path = templateText (t.map (fill (idAt d refs)))
  /-- The references of the body are resolved, and their server ids are in the body. -/
  body : ∃ refs, op.refsAt "body_refs" = some refs ∧ Resolved d refs ∧
    ∀ e ∈ refs, ∃ v n, (e.1, v) ∈ refs ∧ 0 < n ∧ idOf d v = some n ∧ req.body.get? e.1 = some (.int n)

/-! ### Resolving a request -/

section Resolving

variable {d : Disk}

lemma resolveReconciledId_pos {ref : OfflineEntityRef} {n : ℤ} (h : d.resolveReconciledId ref = some n) : 0 < n := by
  rw [Disk.resolveReconciledId] at h
  split at h
  · next hpos =>
    cases h
    exact hpos
  · exact of_decide_eq_true (filter_eq_some_iff.mp h).2

lemma idOf_pos {v : Json} {n : ℤ} (h : idOf d v = some n) : 0 < n := by
  obtain ⟨_, -, hid⟩ := bind_eq_some_iff.mp h
  exact resolveReconciledId_pos hid

lemma idAt_cons (e : String × Json) (refs : Dict String Json) (key : String) :
    idAt d (e :: refs) key = if key = e.1 then idOf d e.2 else idAt d refs key := by
  rw [idAt, idAt, Dict.get?_cons]
  split <;> rfl

lemma plainText_toString (n : ℤ) : PlainText (toString n) := by
  intro c hc
  have hchar := Json.isIntChar_of_mem_toString hc
  constructor <;> rintro rfl <;> exact absurd hchar (by decide)

lemma resolvePathTemplate_cons {template path : String} {e : String × Json} {refs : Dict String Json}
    (h : resolvePathTemplate d template (e :: refs) = some path) :
    ∃ n, idOf d e.2 = some n ∧
      resolvePathTemplate d (template.replace ("\x7b" ++ e.1 ++ "\x7d") (toString n)) refs = some path := by
  rw [resolvePathTemplate, foldlM_cons] at h
  obtain ⟨_, hstep, hrest⟩ := bind_eq_some_iff.mp h
  obtain ⟨ref, href, hbind⟩ := bind_eq_some_iff.mp hstep
  obtain ⟨n, hn, hset⟩ := bind_eq_some_iff.mp hbind
  cases hset
  exact ⟨n, bind_eq_some_iff.mpr ⟨ref, href, hn⟩, hrest⟩

lemma resolved_of_resolvePathTemplate {refs : Dict String Json} :
    ∀ {template path : String}, resolvePathTemplate d template refs = some path → Resolved d refs := by
  induction refs with
  | nil => exact fun _ e he => absurd he not_mem_nil
  | cons _ _ ih =>
    intro template path h e' he'
    obtain ⟨n, hn, hrest⟩ := resolvePathTemplate_cons h
    rcases mem_cons.mp he' with rfl | he'
    · exact ⟨n, idOf_pos hn, hn⟩
    · exact ih hrest e' he'

lemma fill_put {e : String × Json} {refs : Dict String Json} {n : ℤ} (hn : idOf d e.2 = some n) (p : TemplatePiece) :
    fill (idAt d refs) (p.put e.1 (toString n)) = fill (idAt d (e :: refs)) p := by
  cases p with
  | text => rfl
  | name =>
    rw [TemplatePiece.put, fill_name, idAt_cons, hn]
    split
    · rfl
    · exact fill_name _ _

lemma resolvePathTemplate_templateText {refs : Dict String Json} (hkeys : ∀ e ∈ refs, PlainText e.1) :
    ∀ {t : List TemplatePiece} {path : String}, (∀ p ∈ t, p.Proper) →
      resolvePathTemplate d (templateText t) refs = some path → path = templateText (t.map (fill (idAt d refs))) := by
  induction refs with
  | nil =>
    intro t path ht h
    cases h
    have hsame : t.map (fill (idAt d [])) = t := by
      refine map_id'' (fun p => ?_) t
      cases p <;> rfl
    rw [hsame]
  | cons e _ ih =>
    intro t path ht h
    obtain ⟨n, hn, hrest⟩ := resolvePathTemplate_cons h
    rw [replace_templateText (hkeys e mem_cons_self) _ ht] at hrest
    have hproper : ∀ p ∈ t.map (TemplatePiece.put e.1 (toString n)), p.Proper := by
      intro p hp
      obtain ⟨q, hq, rfl⟩ := mem_map.mp hp
      exact (ht q hq).put (plainText_toString n)
    rw [ih (fun e' he' => hkeys e' (mem_cons_of_mem e he')) hproper hrest, List.map_map]
    exact congrArg templateText (map_congr_left fun p _ => fill_put hn p)

lemma get?_of_resolveBodyRefs {refs : Dict String Json} :
    ∀ {body resolved : Dict String Json}, resolveBodyRefs d body refs = some resolved → Resolved d refs ∧
      ∀ e ∈ refs, ∃ v n, (e.1, v) ∈ refs ∧ 0 < n ∧ idOf d v = some n ∧ resolved.get? e.1 = some (.int n) := by
  induction refs with
  | nil => exact fun _ => ⟨fun e he => absurd he not_mem_nil, fun e he => absurd he not_mem_nil⟩
  | cons e refs ih =>
    intro body resolved h
    rw [resolveBodyRefs, foldlM_cons] at h
    obtain ⟨_, hstep, hrest⟩ := bind_eq_some_iff.mp h
    obtain ⟨ref, href, hbind⟩ := bind_eq_some_iff.mp hstep
    obtain ⟨n, hn, hset⟩ := bind_eq_some_iff.mp hbind
    cases hset
    obtain ⟨hresolved, hbody⟩ := ih hrest
    have hid : idOf d e.2 = some n := bind_eq_some_iff.mpr ⟨ref, href, hn⟩
    refine ⟨fun e' he' => ?_, fun e' he' => ?_⟩
    · rcases mem_cons.mp he' with rfl | he'
      · exact ⟨n, idOf_pos hid, hid⟩
      · exact hresolved e' he'
    · -- a later reference under the same key has the last word
      cases hlater : Dict.get? refs e'.1 with
      | some v =>
        obtain ⟨v', n', hmem, hrest'⟩ := hbody (e'.1, v) (Dict.mem_of_get? hlater)
        exact ⟨v', n', mem_cons_of_mem e hmem, hrest'⟩
      | none =>
        have hsame : e' = e := by
          rcases mem_cons.mp he' with rfl | he'
          · rfl
          · exact absurd rfl (Dict.get?_eq_none_iff.mp hlater e' he')
        rw [hsame] at hlater ⊢
        refine ⟨e.2, n, mem_cons_self, idOf_pos hid, hid, ?_⟩
        rw [get?_resolveBodyRefs hrest hlater, Dict.get?_set, if_pos rfl]

/-- A request that resolves has server ids in the place of the references. -/
theorem cleared_of_resolveRequestPayload {op : OfflineOperation} {req : ApiRequest}
    (h : resolveRequestPayload d op = some req) : Cleared d op req := by
  rw [resolveRequestPayload] at h
  obtain ⟨_, hpath, h⟩ := bind_eq_some_iff.mp h
  obtain ⟨refs, hrefs, h⟩ := bind_eq_some_iff.mp h
  obtain ⟨_, hbody, h⟩ := bind_eq_some_iff.mp h
  cases h
  refine ⟨fun template htemplate => ?_, refs, hrefs, get?_of_resolveBodyRefs hbody⟩
  obtain ⟨v, hv, rfl⟩ := map_eq_some_iff.mp htemplate
  rw [resolveRequestPath, hv] at hpath
  obtain ⟨pathRefs, hpathRefs, hpath⟩ := bind_eq_some_iff.mp hpath
  refine ⟨pathRefs, hpathRefs, resolved_of_resolvePathTemplate hpath, fun t ht hproper hkeys => ?_⟩
  exact resolvePathTemplate_templateText hkeys hproper (ht ▸ hpath)

end Resolving

/-! ### Runs from any files -/

section Runs

variable {accountKey : String} {s t : Client} {a : Action} {op : OfflineOperation} {req : ApiRequest}

/-- The copy in hand after a step, with its request: it was there before, or was just resolved. -/
lemma attempt_of_step (hstep : s.step accountKey a = some t) (hatt : t.phase.attempt = some (op, req)) :
    s.phase.attempt = some (op, req) ∨ resolveRequestPayload s.disk op = some req := by
  obtain ⟨p, hp, rfl⟩ := map_eq_some_iff.mp hstep
  by_cases hcall : a.isCall = true
  · rw [(effect_of_isCall hp hcall _).2] at hatt
    exact .inl hatt
  cases a with
  | resolve =>
    simp only [Client.effect] at hp
    split at hp
    · next copy ready hphase =>
      cases hp
      rw [Prog.result_bind, Prog.result_read, Prog.exec_read] at hatt
      cases hreq : resolveRequestPayload s.disk copy with
      | none =>
        rw [hreq] at hatt
        cases hatt
      | some =>
        rw [hreq] at hatt
        cases hatt
        exact .inr hreq
    · cases hp
  | markSyncing _ | send =>
    simp only [Client.effect] at hp
    split at hp
    · next hphase =>
      cases hp
      rw [hphase]
      exact .inl hatt
    · cases hp
  | receive =>
    simp only [Client.effect] at hp
    split at hp
    · next hphase =>
      cases hp
      rw [hphase]
      exact .inl hatt
    · cases hp
    · next hphase _ =>
      cases hp
      rw [hphase]
      exact .inl hatt
    · cases hp
  | beginReplay _ | takeReady | finish _ | endReplay =>
    -- no copy is in hand afterwards
    simp only [Client.effect] at hp
    split at hp
    · cases hp
      cases hatt
    · cases hp
  | _ => exact absurd rfl hcall

def Client.startedWith (d : Disk) : Client := { Client.init with disk := d }

lemma attempt_of_run {d : Disk} {actions : List Action} :
    ∀ {s : Client}, run (Client.step accountKey) (Client.startedWith d) actions = some s →
      s.phase.attempt = some (op, req) → ∃ before earlier, before <+: actions ∧
        run (Client.step accountKey) (Client.startedWith d) before = some earlier ∧
        resolveRequestPayload earlier.disk op = some req := by
  induction actions using List.reverseRecOn with
  | nil =>
    intro s hrun hatt
    cases hrun
    cases hatt
  | append_singleton actions a ih =>
    intro s hrun hatt
    obtain ⟨earlier, hbefore, hlast⟩ := run_append_eq_some.mp hrun
    obtain ⟨t, hstep, hnil⟩ := run_cons_eq_some.mp hlast
    cases hnil
    rcases attempt_of_step hstep hatt with hsame | hresolved
    · obtain ⟨before, earlier', hfront, hrun', hresolved⟩ := ih hbefore hsame
      exact ⟨before, earlier', hfront.trans (prefix_append _ _), hrun', hresolved⟩
    · exact ⟨actions, earlier, prefix_append _ _, hbefore, hresolved⟩

lemma attempt_of_send (hsend : s.step accountKey .send = some t) :
    ∃ op req, s.phase.attempt = some (op, req) ∧ t.emitted = s.emitted ++ [req] := by
  obtain ⟨p, hp, rfl⟩ := map_eq_some_iff.mp hsend
  simp only [Client.effect] at hp
  split at hp
  · next op req ready hphase =>
    cases hp
    rw [hphase]
    exact ⟨op, req, rfl, rfl⟩
  · cases hp

/-- Whatever the files hold, and whatever happens in between, a request that the replay sends has server ids in the
place of the references that its operation names for path and body: they were resolved by the files of an earlier
moment.  So an operation with such a reference that does not resolve is not sent. -/
theorem replay_sends_server_ids {d : Disk} {actions : List Action}
    (hrun : run (Client.step accountKey) (Client.startedWith d) actions = some s)
    (hsend : s.step accountKey .send = some t) :
    ∃ op req before earlier, s.phase.attempt = some (op, req) ∧ t.emitted = s.emitted ++ [req] ∧
      before <+: actions ∧ run (Client.step accountKey) (Client.startedWith d) before = some earlier ∧
      Cleared earlier.disk op req := by
  obtain ⟨op, req, hatt, hemitted⟩ := attempt_of_send hsend
  obtain ⟨before, earlier, hfront, hrun', hresolved⟩ := attempt_of_run hrun hatt
  exact ⟨op, req, before, earlier, hatt, hemitted, hfront, hrun', cleared_of_resolveRequestPayload hresolved⟩

end Runs

def forClient (payload : Dict String Json) : OfflineOperation :=
  { opId := "op-1", accountKey := "a", entityType := .visit, opType := .create, localId := -1, payload,
    parentRefs := [⟨.client, -1⟩], createdAt := 1, updatedAt := 1 }

def filesWith (op : OfflineOperation) (ids : Dict (EntityType × ℤ) ℤ) : Disk :=
  ⟨.value (.list [some op]), .absent, [], ids, []⟩

/-- A replay up to where it sends its first request. -/
def replayStart : List Action := [.beginReplay 50, .takeReady, .resolve, .markSyncing 2]

def visitOfClient : OfflineOperation :=
  forClient [("method", .str "POST"), ("path", .str "/crm/visits"), ("body", .obj [("client_id", .int (-1))]),
    ("body_refs", .obj [("client_id", OfflineEntityRef.toDict ⟨.client, -1⟩)])]

theorem visit_sent_with_server_id :
    ∃ s t, run (Client.step "a") (Client.startedWith (filesWith visitOfClient [((.client, -1), 7)])) replayStart =
        some s ∧ s.step "a" .send = some t ∧
      ∃ op req before earlier, s.phase.attempt = some (op, req) ∧ t.emitted = s.emitted ++ [req] ∧
        before <+: replayStart ∧
        run (Client.step "a") (Client.startedWith (filesWith visitOfClient [((.client, -1), 7)])) before =
          some earlier ∧ Cleared earlier.disk op req := by
  have hsome : ((run (Client.step "a") (Client.startedWith (filesWith visitOfClient [((.client, -1), 7)]))
      replayStart).bind fun s => s.step "a" .send).isSome = true := by decide
  obtain ⟨t, ht⟩ := isSome_iff_exists.mp hsome
  obtain ⟨s, hrun, hsend⟩ := bind_eq_some_iff.mp ht
  exact ⟨s, t, hrun, hsend, replay_sends_server_ids hrun hsend⟩

def demandeOfClient : OfflineOperation :=
  forClient [("method", .str "POST"), ("path_template", .str "/clients/\x7bclient_id\x7d/demandes"),
    ("body", .obj [("client_id", .int (-1))])]

/-- A pending operation whose parent has no server id is sent when its payload does not name the parent, with the
placeholder in the path and the temporary id in the body. -/
theorem unnamed_parent_sent : (filesWith demandeOfClient []).resolveReconciledId ⟨.client, -1⟩ = none ∧
      (⟨.client, -1⟩ : OfflineEntityRef) ∈ demandeOfClient.parentRefs ∧
      (run (Client.step "a") (Client.startedWith (filesWith demandeOfClient [])) (replayStart ++ [.send])).map
          Client.emitted =
        some [plainRequest "POST" "/clients/\x7bclient_id\x7d/demandes" [("client_id", .int (-1))] []] := by
  decide +kernel

end ImmoApp.Offline
