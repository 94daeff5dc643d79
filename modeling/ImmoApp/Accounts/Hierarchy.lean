import ImmoApp.Accounts.Mutations
import ImmoApp.Foundation.Runs

/-!
# The hierarchy of an agency

An active agent has an active manager of the same agency, an agent who may import was granted it by a manager
of the agency, an agency has one owner at most, and its seats are not overbooked.  `User.clean` checks this
of the user that is saved.  What a change of a manager means for the agents that point to him nobody looks at.

`UserDb.Orderly.put` is one write: the rules hold after it if they held before, the user that is written passes
the checks, and whoever depends on him still may.  `hierarchy_kept` is the run.
-/

namespace ImmoApp.Accounts

open Option Keyed User UserDb

/-! ### The rules of an agency -/

/-- An agent who may import because somebody granted it. -/
def User.granteeOf (granter : Option ℕ) (u : User) : Bool :=
  u.importGrantedBy == granter && u.role == .agent && u.canImport

structure UserDb.Hierarchy (db : UserDb) : Prop where
  managed : ∀ id u, db.users.get? id = some u → u.role = .agent → u.isActive = true →
    ∃ m v, u.manager = some m ∧ db.users.get? m = some v ∧ v.isActive = true ∧ v.role = .manager ∧ v.agency = u.agency
  granted : ∀ id u, db.users.get? id = some u → u.role = .agent → u.canImport = true →
    ∃ g v, u.importGrantedBy = some g ∧ db.users.get? g = some v ∧ v.role = .manager ∧ v.agency = u.agency
  oneOwner : ∀ id u id' u', db.users.get? id = some u → db.users.get? id' = some u' → u.isOwner = true →
    u'.isOwner = true → u.agency = u'.agency → id = id'
  users : ∀ a agency, db.agencies.get? a = some agency →
    db.users.count (fun _ v => User.seated (some a) v) ≤ agency.maxUsers
  managers : ∀ a agency, db.agencies.get? a = some agency →
    db.users.count (fun _ v => User.seatedManager (some a) v) ≤ agency.maxManagers
  agents : ∀ m v a agency, db.users.get? m = some v → v.agency = some a → db.agencies.get? a = some agency →
    db.users.count (fun _ w => User.activeAgentOf (some m) w) ≤ agency.maxAgentsPerManager

/-- The rules hold, and superusers and owners are as `save` and `clean` leave them. -/
structure UserDb.Orderly (db : UserDb) : Prop extends db.Hierarchy where
  superusers : ∀ id u, db.users.get? id = some u → u.isSuperuser = true → u.role = .superAdmin
  owners : ∀ id u, db.users.get? id = some u → u.isOwner = true → u.role = .manager

/-- A user that may be written: by the rules, or a superuser as `save` leaves one. -/
def User.Allowed (db : UserDb) (id : ℕ) (u : User) : Prop :=
  u.isSuperuser = false ∧ u.Clean db id ∨ u.isSuperuser = true ∧ u.role = .superAdmin ∧ u.isOwner = false

/-- Those who point to a user may still do so when the user is written. -/
structure UserDb.KeepsDependents (db : UserDb) (id : ℕ) (u : User) : Prop where
  /-- The user's active agents keep an active manager of their agency. -/
  agents : ∀ id' w, id' ≠ id → db.users.get? id' = some w → w.activeAgentOf (some id) = true →
    u.isActive = true ∧ u.role = .manager ∧ u.agency = w.agency
  /-- Those whom the user granted the import keep a granter of their agency. -/
  grantees : ∀ id' w, id' ≠ id → db.users.get? id' = some w → w.granteeOf (some id) = true →
    u.role = .manager ∧ u.agency = w.agency
  own : u.granteeOf (some id) = false

section Put

variable {db : UserDb} {id id' : ℕ} {u w : User}

lemma User.activeAgentOf_eq_true_iff {m : Option ℕ} :
    u.activeAgentOf m = true ↔ u.manager = m ∧ u.role = .agent ∧ u.isActive = true := by
  simp [User.activeAgentOf, and_assoc]

lemma User.granteeOf_eq_true_iff {g : Option ℕ} :
    u.granteeOf g = true ↔ u.importGrantedBy = g ∧ u.role = .agent ∧ u.canImport = true := by
  simp [User.granteeOf, and_assoc]

lemma User.Allowed.clean (h : u.Allowed db id) (hrole : u.role ≠ .superAdmin) :
    u.isSuperuser = false ∧ u.Clean db id := by
  rcases h with h | ⟨-, hadmin, -⟩
  · exact h
  · exact absurd hadmin hrole

lemma User.Allowed.clean_of_agent (h : u.Allowed db id) (hrole : u.role = .agent) : u.Clean db id :=
  (h.clean (by simp [hrole])).2

lemma User.Allowed.clean_of_owner (h : u.Allowed db id) (howner : u.isOwner = true) : u.Clean db id := by
  rcases h with ⟨-, h⟩ | ⟨-, -, hnone⟩
  · exact h
  · exact absurd (howner.symm.trans hnone) (by simp)

lemma UserDb.Hierarchy.managed_put (h : db.Hierarchy) (hu : u.Allowed db id) (hkeeps : db.KeepsDependents id u)
    (hw : (db.put id u).users.get? id' = some w) (hagent : w.role = .agent) (hactive : w.isActive = true) :
    ∃ m v, w.manager = some m ∧ (db.put id u).users.get? m = some v ∧ v.isActive = true ∧
      v.role = .manager ∧ v.agency = w.agency := by
  rw [get?_put] at hw
  split at hw
  · obtain ⟨⟩ := hw
    obtain ⟨m, v, hm, hne, hv, hmanager, hsame, hon⟩ := (hu.clean_of_agent hagent).managed hagent
    exact ⟨m, v, hm, by rw [get?_put, if_neg hne, hv], hon, hmanager, hsame⟩
  · next hne =>
    obtain ⟨m, v, hm, hv, hon, hmanager, hsame⟩ := h.managed id' w hw hagent hactive
    by_cases heq : m = id
    · subst heq
      obtain ⟨hon', hmanager', hsame'⟩ :=
        hkeeps.agents id' w hne hw (activeAgentOf_eq_true_iff.mpr ⟨hm, hagent, hactive⟩)
      exact ⟨m, u, hm, by rw [get?_put, if_pos rfl], hon', hmanager', hsame'⟩
    · exact ⟨m, v, hm, by rw [get?_put, if_neg heq, hv], hon, hmanager, hsame⟩

lemma UserDb.Hierarchy.granted_put (h : db.Hierarchy) (hu : u.Allowed db id) (hkeeps : db.KeepsDependents id u)
    (hw : (db.put id u).users.get? id' = some w) (hagent : w.role = .agent) (himport : w.canImport = true) :
    ∃ g v, w.importGrantedBy = some g ∧ (db.put id u).users.get? g = some v ∧ v.role = .manager ∧
      v.agency = w.agency := by
  rw [get?_put] at hw
  split at hw
  · obtain ⟨⟩ := hw
    obtain ⟨g, v, hg, hv, hmanager, hsame⟩ := (hu.clean_of_agent hagent).granted himport hagent
    have hne : g ≠ id := by
      rintro rfl
      exact absurd (granteeOf_eq_true_iff.mpr ⟨hg, hagent, himport⟩) (by simp [hkeeps.own])
    exact ⟨g, v, hg, by rw [get?_put, if_neg hne, hv], hmanager, hsame⟩
  · next hne =>
    obtain ⟨g, v, hg, hv, hmanager, hsame⟩ := h.granted id' w hw hagent himport
    by_cases heq : g = id
    · subst heq
      obtain ⟨hmanager', hsame'⟩ :=
        hkeeps.grantees id' w hne hw (granteeOf_eq_true_iff.mpr ⟨hg, hagent, himport⟩)
      exact ⟨g, u, hg, by rw [get?_put, if_pos rfl], hmanager', hsame'⟩
    · exact ⟨g, v, hg, by rw [get?_put, if_neg heq, hv], hmanager, hsame⟩

lemma UserDb.Orderly.not_owner_of_put (h : db.Orderly) (hu : u.Allowed db id) (howner : u.isOwner = true)
    (hne : id' ≠ id) (hw : db.users.get? id' = some w) (hsame : w.agency = u.agency) : w.isOwner = false := by
  by_contra htrue
  have howner' : w.isOwner = true := by simpa using htrue
  exact htrue ((hu.clean_of_owner howner).soleOwner howner id' w hne hw hsame (h.owners id' w hw howner'))

lemma UserDb.Orderly.oneOwner_put (h : db.Orderly) (hu : u.Allowed db id) {id₁ id₂ : ℕ} {w₁ w₂ : User}
    (h₁ : (db.put id u).users.get? id₁ = some w₁) (h₂ : (db.put id u).users.get? id₂ = some w₂)
    (ho₁ : w₁.isOwner = true) (ho₂ : w₂.isOwner = true) (hsame : w₁.agency = w₂.agency) : id₁ = id₂ := by
  rw [get?_put] at h₁ h₂
  split at h₁ <;> split at h₂
  · next heq₁ heq₂ => rw [heq₁, heq₂]
  · next hne =>
    obtain ⟨⟩ := h₁
    have hnot := h.not_owner_of_put hu ho₁ hne h₂ hsame.symm
    exact absurd (ho₂.symm.trans hnot) (by simp)
  · next hne _ =>
    obtain ⟨⟩ := h₂
    have hnot := h.not_owner_of_put hu ho₂ hne h₁ hsame
    exact absurd (ho₁.symm.trans hnot) (by simp)
  · exact h.oneOwner id₁ w₁ id₂ w₂ h₁ h₂ ho₁ ho₂ hsame

lemma UserDb.Hierarchy.manager_of_put (h : db.Hierarchy) (hu : u.Allowed db id) (hkeeps : db.KeepsDependents id u)
    {m k : ℕ} {v : User} (hv : (db.put id u).users.get? m = some v) (hw : (db.put id u).users.get? k = some w)
    (hmine : w.activeAgentOf (some m) = true) : ∃ v₀, db.users.get? m = some v₀ ∧ v₀.agency = v.agency := by
  obtain ⟨hm, hagent, hactive⟩ := activeAgentOf_eq_true_iff.mp hmine
  rw [get?_put] at hv hw
  by_cases heq : m = id
  · subst heq
    rw [if_pos rfl] at hv
    obtain ⟨⟩ := hv
    by_cases hk : k = m
    · -- nobody is his own agent
      rw [if_pos hk] at hw
      obtain ⟨⟩ := hw
      obtain ⟨_, _, hm', hne, _⟩ := (hu.clean_of_agent hagent).managed hagent
      exact absurd (some.inj (hm'.symm.trans hm)) hne
    · rw [if_neg hk] at hw
      obtain ⟨_, v₀, hm', hv₀, -, -, hsame⟩ := h.managed k w hw hagent hactive
      obtain rfl := some.inj (hm'.symm.trans hm)
      obtain ⟨-, -, hsame'⟩ := hkeeps.agents k w hk hw hmine
      exact ⟨v₀, hv₀, hsame.trans hsame'.symm⟩
  · rw [if_neg heq] at hv
    exact ⟨v, hv, rfl⟩

lemma UserDb.Hierarchy.agents_put (h : db.Hierarchy) (hu : u.Allowed db id) (hkeeps : db.KeepsDependents id u)
    {m a : ℕ} {v : User} {agency : Agency} (hv : (db.put id u).users.get? m = some v) (ha : v.agency = some a)
    (hagency : db.agencies.get? a = some agency) :
    (db.put id u).users.count (fun _ w => User.activeAgentOf (some m) w) ≤ agency.maxAgentsPerManager := by
  by_cases hzero : (db.put id u).users.count (fun _ w => User.activeAgentOf (some m) w) = 0
  · omega
  rw [count_eq_zero_iff] at hzero
  push Not at hzero
  obtain ⟨k, w, hw, hmine⟩ := hzero
  obtain ⟨v₀, hv₀, hsame⟩ := h.manager_of_put hu hkeeps hv hw (by simpa using hmine)
  refine count_put_le (h.agents m v₀ a agency hv₀ (hsame.trans ha) hagency) fun hagent => ?_
  obtain ⟨hm, hrole, hactive⟩ := activeAgentOf_eq_true_iff.mp hagent
  have hclean := hu.clean_of_agent hrole
  obtain ⟨_, _, hm', -, hv', -, hsame', -⟩ := hclean.managed hrole
  obtain rfl := some.inj (hm'.symm.trans hm)
  obtain rfl := some.inj (hv'.symm.trans hv₀)
  have hroom := hclean.agents hactive hrole agency (by rw [← hsame', hsame, ha]; exact hagency)
  rw [hm] at hroom
  exact hroom

lemma UserDb.Orderly.put (h : db.Orderly) (hu : u.Allowed db id) (hkeeps : db.KeepsDependents id u) :
    (db.put id u).Orderly where
  managed _ _ hw := h.managed_put hu hkeeps hw
  granted _ _ hw := h.granted_put hu hkeeps hw
  oneOwner _ _ _ _ h₁ h₂ := h.oneOwner_put hu h₁ h₂
  users a agency hagency := by
    refine count_put_le (h.users a agency hagency) fun hseated => ?_
    obtain ⟨⟨ha, hactive⟩, hrole⟩ : (u.agency = some a ∧ u.isActive = true) ∧ u.role ≠ .superAdmin := by
      simpa [User.seated] using hseated
    have hroom := (hu.clean hrole).2.users hactive agency (by rw [ha]; exact hagency)
    rw [ha] at hroom
    exact hroom
  managers a agency hagency := by
    refine count_put_le (h.managers a agency hagency) fun hseated => ?_
    obtain ⟨⟨⟨ha, hactive⟩, hrole⟩, hmanager⟩ :
        ((u.agency = some a ∧ u.isActive = true) ∧ u.role ≠ .superAdmin) ∧ u.role = .manager := by
      simpa [User.seatedManager, User.seated] using hseated
    have hroom := (hu.clean hrole).2.managers hactive hmanager agency (by rw [ha]; exact hagency)
    rw [ha] at hroom
    exact hroom
  agents _ _ _ _ hv ha hagency := h.agents_put hu hkeeps hv ha hagency
  superusers id' w hw hsuper := by
    rw [get?_put] at hw
    split at hw
    · obtain ⟨⟩ := hw
      rcases hu with ⟨hnot, -⟩ | ⟨-, hrole, -⟩
      · exact absurd (hsuper.symm.trans hnot) (by simp)
      · exact hrole
    · exact h.superusers id' w hw hsuper
  owners id' w hw howner := by
    rw [get?_put] at hw
    split at hw
    · obtain ⟨⟩ := hw
      exact (hu.clean_of_owner howner).owner howner
    · exact h.owners id' w hw howner

lemma UserDb.Hierarchy.keepsDependents_of_new (h : db.Hierarchy) (hu : u.Clean db db.nextId) :
    db.KeepsDependents db.nextId u where
  agents id' w _ hw hmine := by
    obtain ⟨hm, hagent, hactive⟩ := activeAgentOf_eq_true_iff.mp hmine
    obtain ⟨m, v, hm', hv, -⟩ := h.managed id' w hw hagent hactive
    obtain rfl := some.inj (hm'.symm.trans hm)
    exact absurd (db.fresh _ v hv) (lt_irrefl _)
  grantees id' w _ hw hmine := by
    obtain ⟨hg, hagent, himport⟩ := granteeOf_eq_true_iff.mp hmine
    obtain ⟨g, v, hg', hv, -⟩ := h.granted id' w hw hagent himport
    obtain rfl := some.inj (hg'.symm.trans hg)
    exact absurd (db.fresh _ v hv) (lt_irrefl _)
  own := by
    refine Bool.eq_false_iff.mpr fun htrue => ?_
    obtain ⟨hg, hagent, himport⟩ := granteeOf_eq_true_iff.mp htrue
    obtain ⟨g, v, hg', hv, -⟩ := hu.granted himport hagent
    obtain rfl := some.inj (hg'.symm.trans hg)
    exact absurd (db.fresh _ v hv) (lt_irrefl _)

lemma UserDb.Orderly.put_new (h : db.Orderly) (hsuper : u.isSuperuser = false) (hu : u.Clean db db.nextId) :
    (db.put db.nextId u).Orderly :=
  h.put (.inl ⟨hsuper, hu⟩) (h.keepsDependents_of_new hu)

end Put

/-! ### Who depends on a user -/

def UserDb.LeadsNobody (db : UserDb) (id : ℕ) : Prop :=
  db.users.count (fun _ w => w.activeAgentOf (some id)) = 0

/-- No agent may import because the user granted it. -/
def UserDb.GrantedNobody (db : UserDb) (id : ℕ) : Prop :=
  db.users.count (fun _ w => w.granteeOf (some id)) = 0

instance (db : UserDb) (id : ℕ) : Decidable (db.LeadsNobody id) := Nat.decEq _ _

instance (db : UserDb) (id : ℕ) : Decidable (db.GrantedNobody id) := Nat.decEq _ _

/-- A manager who is deactivated has no active agents.  One who gets another role or another agency has no
agents who import by his grant either, and the one who gets another role does not grant it to himself. -/
def UserDb.Spares (db : UserDb) (actorId : ℕ) : AccountRequest → Prop
  | .updateUser userId data => ∀ u ∈ db.users.get? userId, u.role = .manager →
    (data.isActive = some false → db.LeadsNobody userId) ∧
    (data.role.getD .manager ≠ .manager → db.LeadsNobody userId ∧ db.GrantedNobody userId ∧
      (actorId = userId → data.canImport.getD u.canImport = false)) ∧
    (data.agencyId.getD u.agency ≠ u.agency → db.LeadsNobody userId ∧ db.GrantedNobody userId)
  | .deactivateUser userId => db.LeadsNobody userId
  | _ => True

instance (db : UserDb) (actorId : ℕ) : ∀ request, Decidable (db.Spares actorId request)
  | .updateUser .. => by unfold UserDb.Spares; infer_instance
  | .deactivateUser _ => by unfold UserDb.Spares; infer_instance
  | .createUser _ | .inviteUser _ | .createUserInvite .. => .isTrue trivial

/-- Every request that does not raise leaves nobody behind. -/
def AccountDesk.Considerate (env : InviteEnv) (d : AccountDesk) : AccountCall → Prop
  | .request actorId request =>
    (d.answer env (.request actorId request)).any (fun result => result.isOk) = true → d.db.Spares actorId request
  | .acceptInvite .. => True

instance (env : InviteEnv) (d : AccountDesk) : ∀ call, Decidable (d.Considerate env call)
  | .request .. => by unfold AccountDesk.Considerate; infer_instance
  | .acceptInvite .. => .isTrue trivial

section Kept

variable {env : InviteEnv} {db db' : UserDb} {d d' : AccountDesk} {actorId userId id : ℕ} {actor u u' : User}

lemma UserDb.Orderly.keepsDependents (h : db.Orderly) (hu : db.users.get? id = some u)
    (hagents : u.role = .manager → u.isActive = true → ¬ db.LeadsNobody id →
      u'.isActive = true ∧ u'.role = .manager ∧ u'.agency = u.agency)
    (hgrantees : u.role = .manager → ¬ db.GrantedNobody id → u'.role = .manager ∧ u'.agency = u.agency)
    (hown : u'.granteeOf (some id) = false) : db.KeepsDependents id u' where
  agents id' w _ hw hmine := by
    obtain ⟨hm, hagent, hactive⟩ := activeAgentOf_eq_true_iff.mp hmine
    obtain ⟨m, v, hm', hv, hon, hmanager, hsame⟩ := h.managed id' w hw hagent hactive
    obtain rfl := some.inj (hm'.symm.trans hm)
    obtain rfl := some.inj (hu.symm.trans hv)
    have hsome : ¬ db.LeadsNobody m := fun hnone => by
      have hnot := count_eq_zero_iff.mp hnone id' w hw
      exact absurd (hmine.symm.trans hnot) (by simp)
    rw [← hsame]
    exact hagents hmanager hon hsome
  grantees id' w _ hw hmine := by
    obtain ⟨hg, hagent, himport⟩ := granteeOf_eq_true_iff.mp hmine
    obtain ⟨g, v, hg', hv, hmanager, hsame⟩ := h.granted id' w hw hagent himport
    obtain rfl := some.inj (hg'.symm.trans hg)
    obtain rfl := some.inj (hu.symm.trans hv)
    have hsome : ¬ db.GrantedNobody g := fun hnone => by
      have hnot := count_eq_zero_iff.mp hnone id' w hw
      exact absurd (hmine.symm.trans hnot) (by simp)
    rw [← hsame]
    exact hgrantees hmanager hsome
  own := hown

lemma UserDb.Orderly.put_superuser (h : db.Orderly) (hu : db.users.get? id = some u) (hsuper : u.isSuperuser = true)
    (hu' : u'.isSuperuser = true ∧ u'.role = .superAdmin ∧ u'.isOwner = false) : (db.put id u').Orderly := by
  have hrole := h.superusers id u hu hsuper
  refine h.put (.inr hu') (h.keepsDependents hu ?_ ?_ ?_)
  · exact fun hmanager => absurd (hrole.symm.trans hmanager) (by simp)
  · exact fun hmanager => absurd (hrole.symm.trans hmanager) (by simp)
  · simp [User.granteeOf, hu'.2.1]

@[simp] lemma User.granteeOf_settled (g : Option ℕ) : u.settled.granteeOf g = u.granteeOf g := by
  by_cases hagent : u.role = .agent
  · rw [settled_of_agent hagent]
  · have hfalse : (u.role == .agent) = false := by simpa using hagent
    simp [User.granteeOf, hfalse]

lemma UserDb.Spares.apply {data : UserUpdateInput} (actor : User)
    (hspares : db.Spares actorId (.updateUser userId data))
    (hu : db.users.get? userId = some u) (hmanager : u.role = .manager) :
    (¬ db.LeadsNobody userId ∨ ¬ db.GrantedNobody userId →
      (data.apply actorId actor u).role = .manager ∧ (data.apply actorId actor u).agency = u.agency) ∧
    (u.isActive = true → ¬ db.LeadsNobody userId → (data.apply actorId actor u).isActive = true) ∧
    (actorId = userId → (data.apply actorId actor u).role ≠ .manager →
      (data.apply actorId actor u).canImport = false) := by
  obtain ⟨hoff, hrole, hagency⟩ := hspares u hu hmanager
  have happly : (data.apply actorId actor u).role = data.role.getD .manager := by
    rw [← hmanager]
    rfl
  refine ⟨fun hsome => ⟨?_, ?_⟩, fun hactive hsome => ?_, fun hself hother => ?_⟩
  · by_contra hother
    obtain ⟨hleads, hgranted, -⟩ := hrole (happly ▸ hother)
    exact hsome.elim (absurd hleads) (absurd hgranted)
  · by_contra hother
    obtain ⟨hleads, hgranted⟩ := hagency hother
    exact hsome.elim (absurd hleads) (absurd hgranted)
  · change data.isActive.getD u.isActive = true
    match hgiven : data.isActive with
    | none => exact hactive
    | some true => rfl
    | some false => exact absurd (hoff hgiven) hsome
  · exact (hrole (happly ▸ hother)).2.2 hself

lemma UserDb.Orderly.updateUser (h : db.Orderly) (hactor : db.users.get? actorId = some actor)
    {data : UserUpdateInput} (hok : updateUser env.toAccountEnv actorId actor db userId data = .ok db')
    (hspares : db.Spares actorId (.updateUser userId data)) : db'.Orderly := by
  obtain ⟨v, hprepare, hsave⟩ := bind_eq_ok_iff.mp hok
  obtain ⟨hmay, u, hu, -, rfl⟩ := prepareUpdate_ok hprepare
  by_cases hsuper : u.isSuperuser = true
  · obtain rfl := fullClean_save_superuser (u := data.apply actorId actor u) hsuper hsave
    exact h.put_superuser hu hsuper (normalized_of_superuser hsuper)
  have hnot : u.isSuperuser = false := by simpa using hsuper
  obtain ⟨hclean, rfl⟩ := fullClean_save_ok (u := data.apply actorId actor u) hnot hsave
  refine h.put (.inl ⟨(settled_isSuperuser _).trans hnot, hclean⟩) (h.keepsDependents hu ?_ ?_ ?_)
  · intro hmanager hactive hsome
    obtain ⟨hplace, hon, -⟩ := hspares.apply actor hu hmanager
    simpa using ⟨hon hactive hsome, hplace (.inl hsome)⟩
  · intro hmanager hsome
    obtain ⟨hplace, -, -⟩ := hspares.apply actor hu hmanager
    simpa using hplace (.inr hsome)
  · -- who grants the import is a manager, and the agent of an update is no manager
    rw [granteeOf_settled]
    refine Bool.eq_false_iff.mpr fun htrue => ?_
    obtain ⟨hg, hagent, himport⟩ := granteeOf_eq_true_iff.mp htrue
    have hself : actorId = userId := by
      have hgranter : (data.apply actorId actor u).importGrantedBy = some actorId := by
        refine if_pos ?_
        simpa using ⟨hagent, himport⟩
      exact some.inj (hgranter.symm.trans hg)
    subst hself
    obtain rfl := some.inj (hactor.symm.trans hu)
    have hmanager : actor.role = .manager := by simpa [requireManager, hnot] using hmay
    obtain ⟨-, -, hnone⟩ := hspares.apply actor hu hmanager
    exact absurd (himport.symm.trans (hnone rfl (by simp [hagent]))) (by simp)

lemma UserDb.Orderly.deactivateUser (h : db.Orderly)
    (hok : deactivateUser env.toAccountEnv actorId actor db userId = .ok db')
    (hspares : db.Spares actorId (.deactivateUser userId)) : db'.Orderly := by
  obtain ⟨v, hprepare, hsave⟩ := bind_eq_ok_iff.mp hok
  obtain ⟨-, -, u, hu, -, rfl⟩ := prepareDeactivate_ok hprepare
  obtain ⟨hclean, _, hold, rfl⟩ := saveDeactivated_ok hsave
  obtain rfl := some.inj (hu.symm.trans hold)
  by_cases hsuper : u.isSuperuser = true
  · refine h.put_superuser hu hsuper ⟨hsuper, h.superusers userId u hu hsuper, ?_⟩
    refine Bool.eq_false_iff.mpr fun howner => ?_
    exact absurd ((h.superusers userId u hu hsuper).symm.trans (h.owners userId u hu howner)) (by simp)
  have hnot : u.isSuperuser = false := by simpa using hsuper
  refine h.put (.inl ⟨hnot, hclean hnot⟩) (h.keepsDependents hu ?_ ?_ ?_)
  · exact fun _ _ hsome => absurd hspares hsome
  · exact fun hmanager _ => ⟨hmanager, rfl⟩
  · refine Bool.eq_false_iff.mpr fun htrue => ?_
    obtain ⟨hg, hagent, himport⟩ := granteeOf_eq_true_iff.mp htrue
    obtain ⟨g, w, hg', hw, hmanager, -⟩ := h.granted userId u hu hagent himport
    obtain rfl := some.inj (hg'.symm.trans hg)
    obtain rfl := some.inj (hu.symm.trans hw)
    exact absurd (hagent.symm.trans hmanager) (by simp)

lemma AccountDesk.orderly_perform {request : AccountRequest} (h : d.db.Orderly)
    (hactor : d.db.users.get? actorId = some actor) (hok : d.perform env actorId actor request = .ok d')
    (hspares : d.db.Spares actorId request) : d'.db.Orderly := by
  cases request with
  | createUser =>
    obtain ⟨db', hdb, rfl⟩ := map_eq_ok_iff.mp hok
    obtain ⟨-, hclean, rfl⟩ := createUser_ok hdb
    exact h.put_new (by rw [settled_isSuperuser]; rfl) hclean
  | updateUser =>
    obtain ⟨db', hdb, rfl⟩ := map_eq_ok_iff.mp hok
    exact h.updateUser hactor hdb hspares
  | deactivateUser =>
    obtain ⟨_, hdb, rfl⟩ := map_eq_ok_iff.mp hok
    exact h.deactivateUser hdb hspares
  | inviteUser =>
    obtain ⟨_, hdb, rfl⟩ := map_eq_ok_iff.mp hok
    obtain ⟨-, hclean, rfl⟩ := inviteUser_ok hdb
    exact h.put_new (by rw [settled_isSuperuser]; rfl) hclean
  | createUserInvite =>
    obtain ⟨_, -, hinvite⟩ := bind_eq_ok_iff.mp hok
    obtain ⟨⟩ := hinvite
    exact h

lemma AccountDesk.orderly_accept {inviteCode email password : String} {now : ℕ} (h : d.db.Orderly)
    (hok : d.accept env inviteCode email password now = .ok d') : d'.db.Orderly := by
  obtain ⟨⟨_, _, _⟩, haccept, hd⟩ := bind_eq_ok_iff.mp hok
  obtain ⟨⟩ := hd
  obtain ⟨_, -, -, hclean, rfl⟩ := acceptInvite_ok haccept
  exact h.put_new (by rw [settled_isSuperuser]; rfl) hclean

lemma AccountDesk.orderly_step {call : AccountCall} (h : d.db.Orderly) (hconsiderate : d.Considerate env call)
    (hstep : d.step env call = some d') : d'.db.Orderly := by
  obtain ⟨result, hresult, rfl⟩ := map_eq_some_iff.mp hstep
  cases result with
  | error => exact h
  | ok =>
    cases call with
    | request =>
      have hspares := hconsiderate (by rw [hresult]; rfl)
      obtain ⟨_, hactor, hok⟩ := map_eq_some_iff.mp hresult
      exact AccountDesk.orderly_perform h hactor hok hspares
    | acceptInvite =>
      exact AccountDesk.orderly_accept h (some.inj hresult)

end Kept

/-- The rules hold after every sequence of calls if whoever deactivates a manager or changes the role or the
agency of one does so when nobody depends on him any more. -/
theorem hierarchy_kept (env : InviteEnv) {d d' : AccountDesk} {calls : List AccountCall} (hstart : d.db.Orderly)
    (hconsiderate : Guarded (AccountDesk.step env) (AccountDesk.Considerate env) d calls)
    (hrun : run (AccountDesk.step env) d calls = some d') : d'.db.Hierarchy := by
  have horderly : d'.db.Orderly :=
    run_invariant (P := fun d : AccountDesk => d.db.Orderly)
      (fun _ _ _ h hcall hstep => AccountDesk.orderly_step h hcall hstep) hstart hconsiderate hrun
  exact horderly.toHierarchy

/-! ### An agency of three -/

def plainEnv : InviteEnv where
  validUsername _ := true
  validEmail _ := true
  sameEmail := fun a b => a == b
  lower := id
  upper := id
  sha256 := id
  inviteExpiry := fun hours => hours.getD 72
  validPassword := fun _ => true

def root : User where
  username := "root"
  email := "root@example.org"
  isSuperuser := true
  role := .superAdmin
  agency := none
  manager := none
  canHardDelete := true

def platformDb : UserDb where
  agencies := [(1, ⟨"Agence du Port", "PORT", 5, 2, 2⟩), (2, ⟨"Agence du Lac", "LAC", 5, 2, 2⟩)]
  users := ⟨[(1, root)], by decide⟩
  nextId := 2
  fresh := by
    intro id u h
    have hone : (id, u) ∈ [(1, root)] := Keyed.mem_entries_iff.mpr h
    obtain ⟨rfl, -⟩ := Prod.mk.inj (List.mem_singleton.mp hone)
    decide

def platformDesk : AccountDesk := ⟨platformDb, [], 0⟩

def olive : UserCreateInput where
  username := "olive"
  password := "secret"
  role := .manager
  isOwner := true
  agencyId := some 1

def marc : User where
  username := "marc"
  email := ""
  role := .manager
  agency := some 1
  manager := none

def anne : User where
  username := "anne"
  email := ""
  role := .agent
  agency := some 1
  manager := some 3

def hiringCalls : List AccountCall :=
  [.request 1 (.createUser olive),
    .request 2 (.createUser { username := "marc", password := "secret", role := .manager }),
    .request 2 (.createUser { username := "anne", password := "secret", managerId := some 3 })]

lemma platformDb_orderly : platformDb.Orderly := by
  have honly : ∀ id u, platformDb.users.get? id = some u → u = root := by
    intro id u h
    have hone : (id, u) ∈ [(1, root)] := mem_entries_iff.mpr h
    exact (Prod.mk.inj (List.mem_singleton.mp hone)).2
  refine
    { managed := fun id u h hagent => ?_, granted := fun id u h hagent => ?_
      oneOwner := fun id u _ _ h _ howner => ?_, users := fun a agency _ => ?_, managers := fun a agency _ => ?_
      agents := fun m v a agency h ha => ?_, superusers := fun id u h _ => ?_, owners := fun id u h howner => ?_ }
  · exact absurd hagent (by simp [honly id u h, root])
  · exact absurd hagent (by simp [honly id u h, root])
  · exact absurd howner (by simp [honly id u h, root])
  · refine le_of_eq_of_le (count_eq_zero_iff.mpr fun id u h => ?_) (Nat.zero_le _)
    simp [User.seated, honly id u h, root]
  · refine le_of_eq_of_le (count_eq_zero_iff.mpr fun id u h => ?_) (Nat.zero_le _)
    simp [User.seatedManager, User.seated, honly id u h, root]
  · exact absurd ha (by simp [honly m v h, root])
  · simp [honly id u h, root]
  · exact absurd howner (by simp [honly id u h, root])

/-- The agent is put under the owner before the manager is deactivated. -/
theorem hierarchy_kept_handover : ∃ d', run (AccountDesk.step plainEnv) platformDesk (hiringCalls ++
    [.request 2 (.updateUser 4 { managerId := some (some 2) }), .request 2 (.deactivateUser 3)]) = some d' ∧
    d'.db.users.get? 3 = some { marc with isActive := false } ∧ d'.db.Hierarchy := by
  obtain ⟨d', hrun, hmarc⟩ := map_eq_some_iff.mp (by decide +kernel :
    (run (AccountDesk.step plainEnv) platformDesk (hiringCalls ++
      [.request 2 (.updateUser 4 { managerId := some (some 2) }), .request 2 (.deactivateUser 3)])).map
        (fun d => d.db.users.get? 3) = some (some { marc with isActive := false }))
  exact ⟨d', hrun, hmarc, hierarchy_kept plainEnv platformDb_orderly (by decide +kernel) hrun⟩

/-- The manager is deactivated, and the agent stays active without one. -/
theorem agent_without_manager : ∃ d', platformDb.Orderly ∧
    run (AccountDesk.step plainEnv) platformDesk (hiringCalls ++ [.request 2 (.deactivateUser 3)]) = some d' ∧
    ¬ d'.db.Hierarchy := by
  obtain ⟨d', hrun, husers⟩ := map_eq_some_iff.mp (by decide +kernel :
    (run (AccountDesk.step plainEnv) platformDesk (hiringCalls ++ [.request 2 (.deactivateUser 3)])).map
      (fun d => (d.db.users.get? 3, d.db.users.get? 4)) = some (some { marc with isActive := false }, some anne))
  refine ⟨d', platformDb_orderly, hrun, fun h => ?_⟩
  obtain ⟨hmarc, hanne⟩ := Prod.mk.inj husers
  obtain ⟨m, v, hm, hv, hactive, -⟩ := h.managed 4 anne hanne rfl rfl
  obtain ⟨⟩ := hm
  obtain rfl := some.inj (hmarc.symm.trans hv)
  exact absurd hactive (by simp)

end ImmoApp.Accounts
