import ImmoApp.Crm.Contracts

/-!
# Signed contracts and archived parties

A listing should be off the market exactly when it has a contract in force, and a client archived exactly when one of
its contracts is.  Signing looks at the contract's own status alone; cancelling frees both parties whatever other
contracts they have, and goes by an earlier read; purging a contract in force frees nobody.

`signed_contracts_agree`: in every run without such a signing, cancellation or purge, contracts and parties agree in
every state.
-/

namespace ImmoApp.Crm

open Contracts Table

def inForce (r : Row ContractColumns) : Bool := r.live && r.columns.status == .signed

variable {r : Row ContractColumns} {t : Table ContractColumns} {k c l : ℕ} {db : Db} {p : Row ContractColumns → Bool}
  {f : Row ContractColumns → Row ContractColumns} {s : Desk}

lemma inForce_iff : inForce r = true ↔ r.live = true ∧ r.columns.status = .signed := by
  simp [inForce]

lemma inForce_of_ne (h : r.columns.status ≠ .signed) : inForce r = false :=
  Bool.eq_false_iff.mpr fun hforce => h (inForce_iff.mp hforce).2

/-- Contract `k` of client `c` on listing `l` is in force. -/
def Binds (t : Table ContractColumns) (k c l : ℕ) : Prop :=
  ∃ r ∈ t.rows, inForce r = true ∧ r.id = k ∧ r.columns.clientId = c ∧ r.columns.listingId = l

structure Agree (db : Db) : Prop where
  once : ∀ k k' c c' l, Binds db.contracts k c l → Binds db.contracts k' c' l → k = k'
  /-- A live listing is sold or rented exactly when it has one. -/
  listings : db.listings.Marks (fun l => l.status.taken) fun l => ∃ k c, Binds db.contracts k c l
  /-- A live client is archived exactly when one of its contracts is in force. -/
  clients : db.clients.Marks (fun c => c.status.archived) fun c => ∃ k l, Binds db.contracts k c l

/-- A state to start from: contracts and parties agree, no deleted contract is signed and no call is
under way. -/
structure Opening (s : Desk) : Prop where
  agree : Agree s.db
  deleted : ∀ r ∈ s.db.contracts.rows, r.live = false → r.columns.status ≠ .signed
  idle : s.pending = []

/-- No contract is in force on the listing of the contract about to be signed. -/
def ListingFree (t : Table ContractColumns) (contractId : ℕ) : Prop :=
  ∀ r ∈ t.rows, starts contractId (fun s => s == .pendingSignature) r = true →
    ∀ r' ∈ t.rows, inForce r' = true → r'.columns.listingId ≠ r.columns.listingId

/-- If the contract about to be cancelled is in force, the call read it so and its client has no other
contract in force. -/
def SoleContract (t : Table ContractColumns) (contract : Row ContractColumns) : Prop :=
  ∀ r ∈ t.rows, r.id = contract.id → inForce r = true → contract.columns.status = .signed ∧
    ∀ r' ∈ t.rows, inForce r' = true → r'.columns.clientId = r.columns.clientId → r'.id = r.id

/-- The condition on a step: see `ListingFree` and `SoleContract`; and no contract in force is
purged. -/
def Careful (s : Desk) : ContractAction → Prop
  | .finish call _ =>
    match s.pending.get? call with
    | some (.activate contract) => ListingFree s.db.contracts contract.id
    | some (.cancel contract) => SoleContract s.db.contracts contract
    | none => True
  | .purge contractId => ∀ r ∈ s.db.contracts.rows, r.id = contractId → inForce r = false
  | _ => True

instance (t : Table ContractColumns) (contractId : ℕ) : Decidable (ListingFree t contractId) :=
  inferInstanceAs (Decidable (∀ r ∈ t.rows, _))

instance (t : Table ContractColumns) (contract : Row ContractColumns) :
    Decidable (SoleContract t contract) :=
  inferInstanceAs (Decidable (∀ r ∈ t.rows, _))

instance (s : Desk) (a : ContractAction) : Decidable (Careful s a) :=
  match a with
  | .finish call now =>
    match h : s.pending.get? call with
    | some (.activate contract) =>
      decidable_of_iff (ListingFree s.db.contracts contract.id) (by simp [Careful, h])
    | some (.cancel contract) =>
      decidable_of_iff (SoleContract s.db.contracts contract) (by simp [Careful, h])
    | none => .isTrue (by simp [Careful, h])
  | .purge contractId =>
    inferInstanceAs (Decidable (∀ r ∈ s.db.contracts.rows, r.id = contractId → inForce r = false))
  | .create .. | .print .. | .readToActivate .. | .readToCancel .. | .delete .. | .restore .. =>
    .isTrue trivial

/-! ### What a step does to the contracts in force -/

lemma Binds.parties {c' l' : ℕ} (h : Binds t k c l) (h' : Binds t k c' l') : c = c' ∧ l = l' := by
  obtain ⟨r, hr, -, hk, hc, hl⟩ := h
  obtain ⟨_, hr', -, hk', hc', hl'⟩ := h'
  have heq := eq_of_id hr hr' (hk.trans hk'.symm)
  subst heq
  exact ⟨hc.symm.trans hc', hl.symm.trans hl'⟩

/-- What a careful step does: nothing to the contracts in force, or it signs one on a free listing, or
it ends the only one of a client. -/
inductive Move (db db' : Db) : Prop
  /-- No contract comes into force or ends. -/
  | same (binds : ∀ k c l, Binds db'.contracts k c l ↔ Binds db.contracts k c l)
      (clients : db'.clients = db.clients) (listings : db'.listings = db.listings)
  | signed (k c l : ℕ) (clientStatus : ClientStatus) (listingStatus : ListingStatus)
      (archived : clientStatus.archived = true) (taken : listingStatus.taken = true)
      (free : ∀ k' c', ¬ Binds db.contracts k' c' l)
      (binds : ∀ k' c' l', Binds db'.contracts k' c' l' ↔ Binds db.contracts k' c' l' ∨ (k' = k ∧ c' = c ∧ l' = l))
      (clients : db'.clients = (updateClientStatus c clientStatus db).clients)
      (listings : db'.listings = (updateListingStatus l listingStatus db).listings)
  | ended (k c l : ℕ) (bound : Binds db.contracts k c l)
      (only : ∀ k' l', Binds db.contracts k' c l' → k' = k)
      (binds : ∀ k' c' l', Binds db'.contracts k' c' l' ↔ Binds db.contracts k' c' l' ∧ k' ≠ k)
      (clients : db'.clients = (updateClientStatus c .active db).clients)
      (listings : db'.listings = (updateListingStatus l .available db).listings)

lemma Move.refl (db : Db) : Move db db := .same (fun _ _ _ => Iff.rfl) rfl rfl

lemma Move.agree {db' : Db} (hm : Move db db') (h : Agree db) : Agree db' := by
  cases hm with
  | same binds clients listings =>
    refine ⟨fun k k' c c' l hk hk' => ?_, ?_, ?_⟩
    · exact h.once k k' c c' l ((binds k c l).mp hk) ((binds k' c' l).mp hk')
    · rw [listings]
      exact h.listings.congr fun l => by simp [binds]
    · rw [clients]
      exact h.clients.congr fun c => by simp [binds]
  | signed k c l _ _ archived taken free binds clients listings =>
    refine ⟨fun k₁ k₂ c₁ c₂ l₀ h₁ h₂ => ?_, ?_, ?_⟩
    · rcases (binds k₁ c₁ l₀).mp h₁ with h₁ | ⟨rfl, -, rfl⟩ <;>
        rcases (binds k₂ c₂ l₀).mp h₂ with h₂ | ⟨rfl, -, hl⟩
      · exact h.once k₁ k₂ c₁ c₂ l₀ h₁ h₂
      · exact absurd (hl ▸ h₁) (free k₁ c₁)
      · exact absurd h₂ (free k₂ c₂)
      · rfl
    · rw [listings]
      refine h.listings.set l (fun _ => taken) ?_ fun l' hne => ?_
      · exact ⟨fun _ => rfl, fun _ => ⟨k, c, (binds k c l).mpr (.inr ⟨rfl, rfl, rfl⟩)⟩⟩
      · simp only [binds, hne, and_false, or_false]
    · rw [clients]
      refine h.clients.set c (fun _ => archived) ?_ fun c' hne => ?_
      · exact ⟨fun _ => rfl, fun _ => ⟨k, l, (binds k c l).mpr (.inr ⟨rfl, rfl, rfl⟩)⟩⟩
      · simp only [binds, hne, false_and, and_false, or_false]
  | ended k c l bound only binds clients listings =>
    refine ⟨fun k₁ k₂ c₁ c₂ l₀ h₁ h₂ => ?_, ?_, ?_⟩
    · exact h.once k₁ k₂ c₁ c₂ l₀ ((binds k₁ c₁ l₀).mp h₁).1 ((binds k₂ c₂ l₀).mp h₂).1
    · rw [listings]
      refine h.listings.set (b := false) l (fun _ => rfl) ?_ fun l' hne => ?_
      · refine ⟨fun ⟨k', c', hb⟩ => ?_, fun hb => absurd hb (by decide)⟩
        obtain ⟨hold, hk'⟩ := (binds k' c' l).mp hb
        exact absurd (h.once k' k c' c l hold bound) hk'
      · refine ⟨fun ⟨k', c', hb⟩ => ⟨k', c', ((binds k' c' l').mp hb).1⟩, fun ⟨k', c', hb⟩ => ?_⟩
        refine ⟨k', c', (binds k' c' l').mpr ⟨hb, ?_⟩⟩
        rintro rfl
        exact hne (hb.parties bound).2
    · rw [clients]
      refine h.clients.set (b := false) c (fun _ => rfl) ?_ fun c' hne => ?_
      · refine ⟨fun ⟨k', l', hb⟩ => ?_, fun hb => absurd hb (by decide)⟩
        obtain ⟨hold, hk'⟩ := (binds k' c l').mp hb
        exact absurd (only k' l' hold) hk'
      · refine ⟨fun ⟨k', l', hb⟩ => ⟨k', l', ((binds k' c' l').mp hb).1⟩, fun ⟨k', l', hb⟩ => ?_⟩
        refine ⟨k', l', (binds k' c' l').mpr ⟨hb, ?_⟩⟩
        rintro rfl
        exact hne (hb.parties bound).1

lemma binds_update : Binds (t.update p f) k c l ↔ ∃ r ∈ t.rows, inForce (Table.assign p f r) = true ∧ r.id = k ∧
      (Table.assign p f r).columns.clientId = c ∧ (Table.assign p f r).columns.listingId = l := by
  simp [Binds, mem_update]

lemma binds_update_same (h : ∀ r ∈ t.rows, p r = true → inForce (f r) = inForce r ∧
      (f r).columns.clientId = r.columns.clientId ∧ (f r).columns.listingId = r.columns.listingId)
    (k c l : ℕ) : Binds (t.update p f) k c l ↔ Binds t k c l := by
  rw [binds_update, Binds]
  refine exists_congr fun r => and_congr_right fun hr => ?_
  by_cases hp : p r = true
  · obtain ⟨hforce, hclient, hlisting⟩ := h r hr hp
    rw [← hforce, ← hclient, ← hlisting, Table.assign, if_pos hp]
    rfl
  · rw [Table.assign, if_neg hp]

/-! ### The transitions -/

lemma transition_cases (k : ℕ) (allowed : ContractStatus → Bool)
    (f : Row ContractColumns → Row ContractColumns) (message : String) (db : Db) :
    (∃ e, transition k allowed f message db = .error e) ∨ (∃ r ∈ db.contracts.rows, starts k allowed r = true) ∧
        transition k allowed f message db = .ok
          { db with contracts := db.contracts.update (starts k allowed) fun r => (f r).bump } := by
  unfold transition
  by_cases hzero : db.contracts.rowcount (starts k allowed) = 0
  · exact .inl ⟨_, if_pos hzero⟩
  · refine .inr ⟨?_, if_neg hzero⟩
    rw [Table.rowcount, ← ne_eq, ← Nat.pos_iff_ne_zero, List.countP_pos_iff] at hzero
    exact hzero

variable {allowed : ContractStatus → Bool}

lemma starts_iff : starts k allowed r = true ↔ r.id = k ∧ r.live = true ∧ allowed r.columns.status = true := by
  simp [starts, and_assoc]

lemma transition_move {message : String}
    (h : ∀ r ∈ db.contracts.rows, starts k allowed r = true → inForce (f r).bump = inForce r ∧
      (f r).columns.clientId = r.columns.clientId ∧ (f r).columns.listingId = r.columns.listingId) :
    Move db (committed db (transition k allowed f message db)) := by
  rcases transition_cases k allowed f message db with ⟨e, he⟩ | ⟨-, hok⟩
  · rw [he]
    exact Move.refl db
  · rw [hok]
    exact .same (binds_update_same h) rfl rfl

lemma printContract_move (k now : ℕ) (db : Db) : Move db (committed db (printContract k now db)) := by
  refine transition_move fun r _ hstarts => ?_
  obtain ⟨-, -, hstatus⟩ := starts_iff.mp hstarts
  have hdraft : r.columns.status = .draft := by simpa using hstatus
  refine ⟨?_, rfl, rfl⟩
  rw [inForce_of_ne (r := r) (by simp [hdraft])]
  exact inForce_of_ne (by simp [setStatus, Row.write, Row.bump])

lemma deleteContract_move (k now : ℕ) (db : Db) : Move db (committed db (deleteContract k now db)) := by
  refine transition_move fun r _ hstarts => ?_
  obtain ⟨-, -, hstatus⟩ := starts_iff.mp hstarts
  have hends : r.columns.status = .draft ∨ r.columns.status = .cancelled := by simpa using hstatus
  have hne : r.columns.status ≠ .signed := by rcases hends with hs | hs <;> simp [hs]
  refine ⟨?_, rfl, rfl⟩
  rw [inForce_of_ne hne]
  exact inForce_of_ne hne

lemma restoreContract_move (k now : ℕ)
    (hdeleted : ∀ r ∈ db.contracts.rows, r.live = false → r.columns.status ≠ .signed) :
    Move db (restoreContract k now db) := by
  refine .same (binds_update_same fun r hr _ => ⟨?_, rfl, rfl⟩) rfl rfl
  by_cases hlive : r.live = true
  · unfold inForce
    rw [hlive]
    rfl
  · have hne := hdeleted r hr (by simpa using hlive)
    rw [inForce_of_ne hne]
    exact inForce_of_ne hne

lemma purgeContract_move
    (h : ∀ r ∈ db.contracts.rows, r.id = k → inForce r = false) : Move db (purgeContract k db) := by
  refine .same (fun k' c l => ?_) rfl rfl
  simp only [Binds, purgeContract, mem_delete, beq_eq_false_iff_ne]
  refine exists_congr fun r => ⟨fun ⟨⟨hr, _⟩, hrest⟩ => ⟨hr, hrest⟩, fun ⟨hr, hforce, hrest⟩ => ?_⟩
  refine ⟨⟨hr, fun heq => ?_⟩, hforce, hrest⟩
  rw [h r hr heq] at hforce
  exact absurd hforce (by decide)

lemma createContract_move (data : ContractInput) (now : ℕ) (db : Db) :
    Move db (committed db (createContract data now db)) := by
  unfold createContract
  split
  · next hdraft =>
    unfold Contracts.createContract
    split
    · split
      · refine .same (fun k c l => ?_) rfl rfl
        simp only [committed_ok, Binds, mem_insert]
        refine exists_congr fun r => ⟨fun ⟨hr, hforce, hrest⟩ => ?_, fun ⟨hr, h⟩ => ⟨.inl hr, h⟩⟩
        rcases hr with hr | rfl
        · exact ⟨hr, hforce, hrest⟩
        · simp [inForce, hdraft] at hforce
      · exact Move.refl db
    · exact Move.refl db
  · exact Move.refl db

lemma activateContract_move (contractType : ContractType) (now : ℕ) (hparties : ∀ r ∈ db.contracts.rows, r.id = k →
      r.columns.clientId = c ∧ r.columns.listingId = l)
    (hfree : ListingFree db.contracts k) :
    Move db (committed db (activateContract k contractType c l now db)) := by
  unfold activateContract
  rcases transition_cases k (fun s => s == .pendingSignature) (setStatus .signed now)
    "Only pending-signature contracts can be signed" db with ⟨e, he⟩ | ⟨⟨r, hr, hstarts⟩, hok⟩
  · rw [he]
    exact Move.refl db
  rw [hok]
  obtain ⟨hid, hlive, -⟩ := starts_iff.mp hstarts
  obtain ⟨hclient, hlisting⟩ := hparties r hr hid
  refine .signed k c l _ _ (by split <;> rfl) (by split <;> rfl) (fun k' c' hb => ?_) (fun k' c' l' => ?_) rfl rfl
  · obtain ⟨r', hr', hforce, -, -, hl'⟩ := hb
    exact hfree r hr hstarts r' hr' hforce (hl'.trans hlisting.symm)
  · refine binds_update.trans ⟨?_, ?_⟩
    · rintro ⟨r₀, hr₀, hforce, hk', hc', hl'⟩
      by_cases hp : starts k (fun s => s == .pendingSignature) r₀ = true
      · have heq : r₀ = r := eq_of_id hr₀ hr ((starts_iff.mp hp).1.trans hid.symm)
        subst heq
        rw [Table.assign, if_pos hp] at hc' hl'
        exact .inr ⟨hk'.symm.trans hid, hc'.symm.trans hclient, hl'.symm.trans hlisting⟩
      · rw [Table.assign, if_neg hp] at hforce hc' hl'
        exact .inl ⟨r₀, hr₀, hforce, hk', hc', hl'⟩
    · rintro (⟨r₀, hr₀, hforce, hk', hc', hl'⟩ | ⟨rfl, rfl, rfl⟩)
      · have hp : starts k (fun s => s == .pendingSignature) r₀ ≠ true := fun hp => by
          have hpending : r₀.columns.status = .pendingSignature := by
            simpa using (starts_iff.mp hp).2.2
          simp [inForce, hpending] at hforce
        refine ⟨r₀, hr₀, ?_⟩
        rw [Table.assign, if_neg hp]
        exact ⟨hforce, hk', hc', hl'⟩
      · refine ⟨r, hr, ?_⟩
        rw [Table.assign, if_pos hstarts]
        refine ⟨?_, hid, hclient, hlisting⟩
        simpa [inForce, setStatus, Row.write, Row.bump, Row.live] using hlive

lemma cancelContract_move {contract : Row ContractColumns} (now : ℕ)
    (hparties : ∀ r ∈ db.contracts.rows, r.id = contract.id → r.columns.clientId = contract.columns.clientId ∧
        r.columns.listingId = contract.columns.listingId)
    (hforward : ∀ r ∈ db.contracts.rows, r.id = contract.id → contract.columns.status = .signed →
      r.columns.status ≠ .draft ∧ r.columns.status ≠ .pendingSignature)
    (hsole : SoleContract db.contracts contract) :
    Move db (committed db (cancelContract contract.id contract.columns.clientId
      contract.columns.listingId (contract.columns.status == .signed) true now db)) := by
  unfold cancelContract
  rcases transition_cases contract.id (fun s => s == .draft || s == .pendingSignature || s == .signed)
    (setStatus .cancelled now) "Only active contracts can be cancelled" db with
    ⟨e, he⟩ | ⟨⟨r, hr, hstarts⟩, hok⟩
  · rw [he]
    exact Move.refl db
  rw [hok]
  obtain ⟨hid, hlive, hstatus⟩ := starts_iff.mp hstarts
  have hstart : ∀ r₀ ∈ db.contracts.rows, starts contract.id
      (fun s => s == .draft || s == .pendingSignature || s == .signed) r₀ = true → r₀ = r :=
    fun r₀ hr₀ hp => eq_of_id hr₀ hr ((starts_iff.mp hp).1.trans hid.symm)
  by_cases hforce : inForce r = true
  · obtain ⟨hread, honly⟩ := hsole r hr hid hforce
    obtain ⟨hclient, hlisting⟩ := hparties r hr hid
    have hbound : Binds db.contracts contract.id contract.columns.clientId
        contract.columns.listingId := ⟨r, hr, hforce, hid, hclient, hlisting⟩
    simp only [hread, BEq.rfl, Bool.and_self, if_true]
    refine .ended _ _ _ hbound ?_ (fun k' c' l' => ?_) rfl rfl
    · rintro _ _ ⟨r', hr', hforce', hk', hc', -⟩
      exact hk'.symm.trans ((honly r' hr' hforce' (hc'.trans hclient.symm)).trans hid)
    · refine binds_update.trans ⟨?_, ?_⟩
      · rintro ⟨r₀, hr₀, hforce₀, hk', hc', hl'⟩
        by_cases hp : starts contract.id (fun s => s == .draft || s == .pendingSignature || s == .signed) r₀ = true
        · rw [Table.assign, if_pos hp] at hforce₀
          have hsigned := (inForce_iff.mp hforce₀).2
          exact absurd hsigned (by simp [setStatus, Row.write, Row.bump])
        · rw [Table.assign, if_neg hp] at hforce₀ hc' hl'
          refine ⟨⟨r₀, hr₀, hforce₀, hk', hc', hl'⟩, fun heq => hp ?_⟩
          rw [eq_of_id hr₀ hr (hk'.trans (heq.trans hid.symm))]
          exact hstarts
      · rintro ⟨⟨r₀, hr₀, hforce₀, hk', hc', hl'⟩, hne⟩
        refine ⟨r₀, hr₀, ?_⟩
        rw [Table.assign, if_neg fun hp => hne (hk'.symm.trans (starts_iff.mp hp).1)]
        exact ⟨hforce₀, hk', hc', hl'⟩
  · -- The contract is a draft or printed, so the call cannot have read it as signed.
    have hne : r.columns.status ≠ .signed := fun hs => hforce (inForce_iff.mpr ⟨hlive, hs⟩)
    have hread : (contract.columns.status == .signed) = false := by
      rw [beq_eq_false_iff_ne]
      intro hread
      obtain ⟨hdraft, hpending⟩ := hforward r hr hid hread
      simp [hne, hdraft, hpending] at hstatus
    rw [hread]
    refine .same (binds_update_same fun r₀ hr₀ hp => ⟨?_, rfl, rfl⟩) rfl rfl
    rw [hstart r₀ hr₀ hp, inForce_of_ne hne]
    exact inForce_of_ne (by simp [setStatus, Row.write, Row.bump])

/-! ### What a step keeps of every contract -/

/-- A later state of the contracts: parties stay, a contract never becomes unsigned again, and deleted
contracts stay unsigned. -/
structure Later (t t' : Table ContractColumns) : Prop where
  nextId_le : t.nextId ≤ t'.nextId
  /-- A contract with an old key was there, with the same parties. -/
  old : ∀ r' ∈ t'.rows, r'.id < t.nextId → ∃ r ∈ t.rows, r.id = r'.id ∧
    r.columns.clientId = r'.columns.clientId ∧ r.columns.listingId = r'.columns.listingId ∧
      (r'.columns.status = .draft ∨ r'.columns.status = .pendingSignature →
        r.columns.status = .draft ∨ r.columns.status = .pendingSignature)
  deleted : (∀ r ∈ t.rows, r.live = false → r.columns.status ≠ .signed) →
    ∀ r' ∈ t'.rows, r'.live = false → r'.columns.status ≠ .signed

lemma Later.refl (t : Table ContractColumns) : Later t t :=
  ⟨le_rfl, fun r hr _ => ⟨r, hr, rfl, rfl, rfl, id⟩, id⟩

lemma later_update (hparties : ∀ r, (f r).columns.clientId = r.columns.clientId ∧
      (f r).columns.listingId = r.columns.listingId)
    (hstatus : ∀ r ∈ t.rows, p r = true → (f r).columns.status = .draft ∨ (f r).columns.status = .pendingSignature →
        r.columns.status = .draft ∨ r.columns.status = .pendingSignature)
    (hdeleted : ∀ r ∈ t.rows, p r = true → (f r).live = false → (f r).columns.status ≠ .signed) :
    Later t (t.update p f) := by
  refine ⟨le_rfl, fun r' hr' _ => ?_, fun h r' hr' hlive => ?_⟩
  · obtain ⟨r, hr, rfl⟩ := mem_update.mp hr'
    refine ⟨r, hr, (assign_id p f r).symm, ?_⟩
    by_cases hp : p r = true
    · rw [Table.assign, if_pos hp]
      exact ⟨(hparties r).1.symm, (hparties r).2.symm, hstatus r hr hp⟩
    · rw [Table.assign, if_neg hp]
      exact ⟨rfl, rfl, id⟩
  · obtain ⟨r, hr, rfl⟩ := mem_update.mp hr'
    by_cases hp : p r = true
    · rw [Table.assign, if_pos hp] at hlive ⊢
      exact hdeleted r hr hp hlive
    · rw [Table.assign, if_neg hp] at hlive ⊢
      exact h r hr hlive

lemma later_setStatus (k : ℕ) (allowed : ContractStatus → Bool) (status : ContractStatus)
    (now : ℕ) (message : String) (db : Db)
    (hstatus : ∀ s, allowed s = true → status = .draft ∨ status = .pendingSignature →
      s = .draft ∨ s = .pendingSignature) :
    Later db.contracts (committed db (transition k allowed (setStatus status now) message db)).contracts := by
  rcases transition_cases k allowed (setStatus status now) message db with ⟨e, he⟩ | ⟨-, hok⟩
  · rw [he]
    exact Later.refl _
  · rw [hok]
    refine later_update (fun _ => ⟨rfl, rfl⟩) (fun r _ hp => ?_) fun r _ hp hlive => ?_
    · exact hstatus r.columns.status (starts_iff.mp hp).2.2
    · exact absurd ((starts_iff.mp hp).2.1.symm.trans hlive) (by decide)

lemma later_deleteContract (k now : ℕ) (db : Db) :
    Later db.contracts (committed db (deleteContract k now db)).contracts := by
  unfold deleteContract
  rcases transition_cases k (fun s => s == .draft || s == .cancelled) (Row.delete now)
    "Only draft or cancelled contracts can be deleted" db with ⟨e, he⟩ | ⟨-, hok⟩
  · rw [he]
    exact Later.refl _
  · rw [hok]
    refine later_update (fun _ => ⟨rfl, rfl⟩) (fun _ _ _ h => h) fun r _ hp _ hsigned => ?_
    have hallowed := (starts_iff.mp hp).2.2
    have hs : r.columns.status = .signed := hsigned
    simp [hs] at hallowed

lemma later_restoreContract (k now : ℕ) (db : Db) : Later db.contracts (restoreContract k now db).contracts := by
  refine later_update (fun _ => ⟨rfl, rfl⟩) (fun _ _ _ h => h) fun _ _ _ hlive => ?_
  exact absurd hlive (by simp [Row.restore, Row.bump, Row.live])

lemma later_purgeContract (k : ℕ) (db : Db) : Later db.contracts (purgeContract k db).contracts :=
  ⟨le_rfl, fun r hr _ => ⟨r, (mem_delete.mp hr).1, rfl, rfl, rfl, id⟩,
    fun h r hr => h r (mem_delete.mp hr).1⟩

lemma later_createContract (data : ContractInput) (now : ℕ) (db : Db) :
    Later db.contracts (committed db (createContract data now db)).contracts := by
  unfold createContract
  split
  · unfold Contracts.createContract
    split
    · split
      · refine ⟨Nat.le_succ _, fun r hr hlt => ?_, fun h r hr hlive => ?_⟩ <;>
          rcases mem_insert.mp hr with hr | rfl
        · exact ⟨r, hr, rfl, rfl, rfl, id⟩
        · exact absurd hlt (lt_irrefl _)
        · exact h r hr hlive
        · exact absurd hlive (by simp [Row.live])
      · exact Later.refl _
    · exact Later.refl _
  · exact Later.refl _

lemma later_write (p : PendingCall) (now : ℕ) (db : Db) :
    Later db.contracts (committed db (p.write now db)).contracts := by
  cases p with
  | activate contract =>
    have hlater := later_setStatus contract.id (fun s => s == .pendingSignature) .signed now
      "Only pending-signature contracts can be signed" db (by simp)
    simp only [PendingCall.write, activateContract]
    rcases transition_cases contract.id (fun s => s == .pendingSignature) (setStatus .signed now)
      "Only pending-signature contracts can be signed" db with ⟨e, he⟩ | ⟨-, hok⟩
    · rw [he]
      exact Later.refl _
    · rw [hok] at hlater ⊢
      exact hlater
  | cancel contract =>
    have hlater := later_setStatus contract.id
      (fun s => s == .draft || s == .pendingSignature || s == .signed) .cancelled now
      "Only active contracts can be cancelled" db (by simp)
    simp only [PendingCall.write, cancelContract]
    rcases transition_cases contract.id
      (fun s => s == .draft || s == .pendingSignature || s == .signed) (setStatus .cancelled now)
      "Only active contracts can be cancelled" db with ⟨e, he⟩ | ⟨-, hok⟩
    · rw [he]
      exact Later.refl _
    · rw [hok] at hlater ⊢
      simp only [Except.map, committed_ok]
      split <;> exact hlater

/-! ### Runs -/

/-- What careful steps keep: contracts agree with the parties, deleted contracts are unsigned, and what
a pending call has read of its contract is still true of the parties and not undone. -/
structure Kept (s : Desk) : Prop where
  agree : Agree s.db
  deleted : ∀ r ∈ s.db.contracts.rows, r.live = false → r.columns.status ≠ .signed
  old : ∀ call p, s.pending.get? call = some p → p.contract.id < s.db.contracts.nextId
  parties : ∀ call p, s.pending.get? call = some p → ∀ r ∈ s.db.contracts.rows,
    r.id = p.contract.id → r.columns.clientId = p.contract.columns.clientId ∧
      r.columns.listingId = p.contract.columns.listingId
  /-- A contract read as signed is not a draft or printed again. -/
  forward : ∀ call p, s.pending.get? call = some p → ∀ r ∈ s.db.contracts.rows,
    r.id = p.contract.id → p.contract.columns.status = .signed →
      r.columns.status ≠ .draft ∧ r.columns.status ≠ .pendingSignature

lemma Opening.kept (h : Opening s) : Kept s := by
  have hnone : ∀ call p, s.pending.get? call ≠ some p := by simp [h.idle]
  exact ⟨h.agree, h.deleted, fun call p hp => absurd hp (hnone call p),
    fun call p hp => absurd hp (hnone call p), fun call p hp => absurd hp (hnone call p)⟩

lemma Kept.move {t : Desk} (h : Kept s) (hm : Move s.db t.db) (hl : Later s.db.contracts t.db.contracts)
    (hpending : ∀ call p, t.pending.get? call = some p → s.pending.get? call = some p) :
    Kept t := by
  refine ⟨hm.agree h.agree, hl.deleted h.deleted, fun call p hp => ?_, fun call p hp r' hr' hid => ?_,
    fun call p hp r' hr' hid hsigned => ?_⟩
  · exact (h.old call p (hpending call p hp)).trans_le hl.nextId_le
  · obtain ⟨r, hr, heq, hclient, hlisting, -⟩ :=
      hl.old r' hr' (hid ▸ h.old call p (hpending call p hp))
    have hread := h.parties call p (hpending call p hp) r hr (heq.trans hid)
    exact ⟨hclient.symm.trans hread.1, hlisting.symm.trans hread.2⟩
  · obtain ⟨r, hr, heq, -, -, hback⟩ :=
      hl.old r' hr' (hid ▸ h.old call p (hpending call p hp))
    obtain ⟨hdraft, hprinted⟩ :=
      h.forward call p (hpending call p hp) r hr (heq.trans hid) hsigned
    have hne : ¬ (r'.columns.status = .draft ∨ r'.columns.status = .pendingSignature) :=
      fun hor => (hback hor).elim hdraft hprinted
    exact ⟨fun hd => hne (.inl hd), fun hp => hne (.inr hp)⟩

lemma Kept.read (h : Kept s) (call contractId : ℕ)
    {p : Row ContractColumns → PendingCall} (hp : ∀ r, (p r).contract = r) :
    Kept (s.read call contractId p) := by
  unfold Desk.read
  split
  · next contract hget =>
    obtain ⟨hfind, -⟩ := Option.filter_eq_some_iff.mp hget
    have hmem := (mem_of_find? hfind).1
    have hcases : ∀ call' p', (s.pending.set call (p contract)).get? call' = some p' →
        p'.contract = contract ∨ s.pending.get? call' = some p' := by
      intro call' p' hp'
      rw [Dict.get?_set] at hp'
      split at hp'
      · exact .inl (Option.some.inj hp' ▸ hp contract)
      · exact .inr hp'
    refine ⟨h.agree, h.deleted, fun call' p' hp' => ?_, fun call' p' hp' r hr hid => ?_,
      fun call' p' hp' r hr hid hsigned => ?_⟩ <;> rcases hcases call' p' hp' with heq | hold
    · rw [heq]
      exact s.db.contracts.fresh contract hmem
    · exact h.old call' p' hold
    · rw [heq, eq_of_id hr hmem (heq ▸ hid)]
      exact ⟨rfl, rfl⟩
    · exact h.parties call' p' hold r hr hid
    · rw [eq_of_id hr hmem (heq ▸ hid)]
      rw [heq] at hsigned
      rw [hsigned]
      exact ⟨by decide, by decide⟩
    · exact h.forward call' p' hold r hr hid hsigned
  · exact h

lemma Kept.step {t : Desk} {a : ContractAction} (h : Kept s) (hc : Careful s a)
    (hstep : s.step a = some t) : Kept t := by
  cases a with
  | create data now =>
    cases hstep
    exact h.move (createContract_move data now s.db) (later_createContract data now s.db)
      fun _ _ hp => hp
  | print k now =>
    cases hstep
    exact h.move (printContract_move k now s.db) (later_setStatus k _ _ now _ s.db (by simp))
      fun _ _ hp => hp
  | readToActivate call k =>
    cases hstep
    exact h.read call k fun _ => rfl
  | readToCancel call k =>
    cases hstep
    exact h.read call k fun _ => rfl
  | finish call now =>
    simp only [Desk.step, Option.map_eq_some_iff] at hstep
    obtain ⟨p, hp, rfl⟩ := hstep
    refine h.move ?_ (later_write p now s.db) fun call' p' hp' => ?_
    · simp only [Careful, hp] at hc
      cases p with
      | activate contract =>
        exact activateContract_move contract.columns.contractType now
          (fun r hr hid => h.parties call _ hp r hr hid) hc
      | cancel =>
        exact cancelContract_move now (fun r hr hid => h.parties call _ hp r hr hid)
          (fun r hr hid hsigned => h.forward call _ hp r hr hid hsigned) hc
    · rw [Dict.get?_erase] at hp'
      split at hp'
      · exact absurd hp' (by simp)
      · exact hp'
  | delete k now =>
    cases hstep
    exact h.move (deleteContract_move k now s.db) (later_deleteContract k now s.db) fun _ _ hp => hp
  | restore k now =>
    cases hstep
    exact h.move (restoreContract_move k now h.deleted) (later_restoreContract k now s.db)
      fun _ _ hp => hp
  | purge k =>
    cases hstep
    exact h.move (purgeContract_move hc) (later_purgeContract k s.db) fun _ _ hp => hp

/-- In every run of careful steps, contracts in force agree with the parties in every state: each
listing has at most one, a live listing is sold or rented exactly when it has one, and a live client is
archived exactly when it has one. -/
theorem signed_contracts_agree {s u : Desk} {as : List ContractAction} (hs : Opening s)
    (hg : Guarded Desk.step Careful s as) (hrun : run Desk.step s as = some u) : Agree u.db :=
  (run_invariant (fun _ _ _ hk hc hstep => hk.step hc hstep) hs.kept hg hrun).agree

/-! ### A listing and two clients -/

lemma opening_of_no_contracts (hcontracts : s.db.contracts.rows = [])
    (hlistings : ∀ r ∈ s.db.listings.rows, r.live = true → r.columns.status.taken = false)
    (hclients : ∀ r ∈ s.db.clients.rows, r.live = true → r.columns.status.archived = false)
    (hidle : s.pending = []) : Opening s := by
  have hnone : ∀ k c l, ¬ Binds s.db.contracts k c l := by simp [Binds, hcontracts]
  refine ⟨⟨fun k _ c _ l hk => absurd hk (hnone k c l), fun r hr hlive => ?_, fun r hr hlive => ?_⟩,
    by simp [hcontracts], hidle⟩
  · simp [hlistings r hr hlive, hnone]
  · simp [hclients r hr hlive, hnone]

def sampleClient : ClientColumns where
  agencyId := 1
  familyName := ""
  familyNameEnc := ""
  familyNameSearchIdx := []
  phone := ""
  phoneEnc := ""
  phoneSearchIdx := []
  remarks := ""
  remarksEnc := ""
  tags := ""
  isVip := false
  status := .active

def sampleListing : ListingColumns where
  agencyId := 1
  familyName := ""
  familyNameEnc := ""
  familyNameSearchIdx := []
  phone := ""
  phoneEnc := ""
  phoneSearchIdx := []
  remarks := ""
  remarksEnc := ""
  isVip := false
  status := .available

def sampleDesk : Desk where
  db := { Db.empty with
    clients := (Table.empty.insert sampleClient 0).insert sampleClient 0
    listings := Table.empty.insert sampleListing 0 }
  pending := []

def sampleSale (clientId : ℕ) : ContractInput where
  clientId := clientId
  listingId := 1
  contractType := .buy
  status := .draft
  details :=
    { startDate := none, endDate := none, amount := none, deposit := none, terms := "", notes := ""
      amountEnc := "", depositEnc := "", termsEnc := "", notesEnc := "" }

lemma opening_sampleDesk : Opening sampleDesk :=
  opening_of_no_contracts rfl (by decide) (by decide) rfl

instance (t : Table ContractColumns) (k c l : ℕ) : Decidable (Binds t k c l) :=
  inferInstanceAs (Decidable (∃ r ∈ t.rows, _))

/-- A sale that is signed and called off, and then a second sale of the same listing. -/
theorem signed_contracts_agree_resale : ∃ u, run Desk.step sampleDesk
      [.create (sampleSale 1) 1, .print 1 2, .readToActivate 1 1, .finish 1 3, .readToCancel 2 1,
        .finish 2 4, .create (sampleSale 2) 5, .print 2 6, .readToActivate 3 2, .finish 3 7] =
      some u ∧ Agree u.db := by
  obtain ⟨u, hu⟩ := Option.isSome_iff_exists.mp (show (run Desk.step sampleDesk
    [.create (sampleSale 1) 1, .print 1 2, .readToActivate 1 1, .finish 1 3, .readToCancel 2 1,
      .finish 2 4, .create (sampleSale 2) 5, .print 2 6, .readToActivate 3 2, .finish 3 7]).isSome =
    true by decide +kernel)
  exact ⟨u, hu, signed_contracts_agree opening_sampleDesk (by decide +kernel) hu⟩

/-- Two sales of one listing are both signed: each is printed, and signing looks at nothing else. -/
theorem listing_signed_away_twice :
    ¬ ∀ (s u : Desk) (as : List ContractAction), Opening s → run Desk.step s as = some u →
      Agree u.db := by
  intro h
  have hboth : ((run Desk.step sampleDesk [.create (sampleSale 1) 1, .create (sampleSale 2) 2, .print 1 3, .print 2 4,
        .readToActivate 1 1, .finish 1 5, .readToActivate 2 2, .finish 2 6]).map fun u =>
      decide (Binds u.db.contracts 1 1 1 ∧ Binds u.db.contracts 2 2 1)) = some true := by
    decide +kernel
  obtain ⟨u, hu, hbinds⟩ := Option.map_eq_some_iff.mp hboth
  obtain ⟨hfirst, hsecond⟩ := of_decide_eq_true hbinds
  have htwice := (h sampleDesk u _ opening_sampleDesk hu).once 1 2 1 2 1 hfirst hsecond
  exact absurd htwice (by decide)

end ImmoApp.Crm
