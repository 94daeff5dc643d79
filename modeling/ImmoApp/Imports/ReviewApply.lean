import ImmoApp.Crm.Listings
import ImmoApp.Crm.LocationLinks
import ImmoApp.Imports.ReviewPrecedence

/-!
# Writing a review submission

`apply_review_resolutions_impl` creates the collected rows in one transaction and then performs the updates, each in a
transaction of its own, and stops at the first that raises.  What was committed before the error stays, and a second
submission of the rows creates them again.

`fails_cleanly_iff` says for which submissions nothing stays: those whose very first write is refused, and those in
which nothing is refused.
-/

namespace ImmoApp.Imports

open Crm

/-! ### What a submission is run with -/

structure ReviewConflict extends RowConflict where
  conflictType : String
  field : String
  suggestedAction : String

inductive ReviewError where
  | conflict (detail : String) (rowConflicts : List ReviewConflict)
  | write (e : WriteError)
  | other (message : String)

inductive ReviewStep where
  | creates
  | update (position : ℕ)

/-- The fields of a checked row, parsed: those that an update gives, and those of a new demande or offer with
the client or listing it belongs to. -/
structure RowReading where
  client : Dict String Json → ClientPayload
  listing : Dict String Json → ListingPayload
  demande : Dict String Json → DemandePayload
  offer : Dict String Json → OfferPayload
  newDemande : Dict String Json → ℕ × DemandeInput
  newOffer : Dict String Json → ℕ × OfferInput

structure AppliedReviewRow where
  rowNum : ℕ
  created : Bool
  entityType : ReviewEntity
  validatedRow : Dict String Json
  correctionPayload : Dict String Json
  reviewEntry : ReviewRow

/-- The arguments of `apply_review_resolutions_impl` and what surrounds it. -/
structure ApplyEnv where
  texts : KeyTexts
  services : Services
  reading : RowReading
  pipeline : RowPipeline
  userId : ℕ
  agencyId : ℕ
  readable : Bool
  now : ReviewStep → ℕ
  /-- An exception that is no fault of its statements, such as a connection that breaks. -/
  outage : ReviewStep → Option String
  detectCreateConflicts : ReviewEntity → List PendingCreateRow → Db → List ReviewConflict
  retryCreateConflicts : ReviewEntity → List PendingCreateRow → Db → List ReviewConflict
  maxReviewRows : ℤ
  recordLearningSignals : List AppliedReviewRow → Except ReviewError Unit
  recordDeadLetterRows : List DeadLetterRow → Except ReviewError Unit
  /-- `refresh_agency_profile_fn`, of a hint at the shape of the import. -/
  refreshAgencyProfile : String → Except ReviewError Unit

/-- `get_uow().transaction`. -/
def ApplyEnv.transaction (env : ApplyEnv) (step : ReviewStep) (f : Db → Except WriteError Db) (db : Db) :
    Except ReviewError Db :=
  match env.outage step with
  | some message => .error (.other message)
  | none => (f db).mapError .write

/-! ### Creating -/

def insertClientRow (env : ApplyEnv) (now : ℕ) (db : Db) (p : PendingCreateRow × ℕ) :
    Except WriteError Db :=
  insertClient env.services.platform env.agencyId
    (normalizeClientData env.services.clients (env.reading.client p.1.validatedRow) none env.readable
      (now + p.2)) now db

def insertListingRow (env : ApplyEnv) (now : ℕ) (db : Db) (p : PendingCreateRow × ℕ) :
    Except WriteError Db :=
  insertListing env.services.platform env.agencyId
    (normalizeListingData env.services.clients (env.reading.listing p.1.validatedRow) none env.readable
      (now + p.2)) now db

def resolveDemandeRow (env : ApplyEnv) (p : PendingCreateRow) : Except WriteError (ℕ × DemandeInput) := do
  let (clientId, data) := env.reading.newDemande p.validatedRow
  let labels ← resolveLookupFields env.services.platform.unicode env.services.lookups data.labels
  enforceStrictDemandeFields clientId (data.withLabels labels)
  return (clientId, data.withLabels labels)

def resolveOfferRow (env : ApplyEnv) (p : PendingCreateRow) : Except WriteError (ℕ × OfferInput) := do
  let (listingId, data) := env.reading.newOffer p.validatedRow
  let labels ← resolveLookupFields env.services.platform.unicode env.services.lookups data.labels
  enforceRequiredOfferFields (data.withLabels labels)
  return (listingId, data.withLabels labels)

/-- `insert_batch_refs`: the rows of a batch are checked before the first is inserted. -/
def insertBatchRefs (env : ApplyEnv) (now : ℕ) (db : Db) (batch : ReviewEntity × List PendingCreateRow) :
    Except WriteError Db :=
  match batch.1 with
  | .client => batch.2.zipIdx.foldlM (insertClientRow env now) db
  | .listing => batch.2.zipIdx.foldlM (insertListingRow env now) db
  | .demande => do
    let rows ← batch.2.mapM (resolveDemandeRow env)
    let _ ← rows.mapM fun row => row.2.check
    rows.foldlM (fun db row => Demandes.createDemande env.services.platform row.1 row.2 now db) db
  | .offer => do
    let rows ← batch.2.mapM (resolveOfferRow env)
    let _ ← rows.mapM fun row => row.2.check
    rows.foldlM (fun db row => Offers.createOffer env.services.platform row.1 row.2 now db) db

def createBatches (st : ReviewResolutionState) : Dict ReviewEntity (List PendingCreateRow) :=
  st.createPending.filter fun e => e.2 ≠ []

/-- `insert_review_correction_batches_impl`: all batches in one transaction. -/
def insertReviewCorrectionBatches (env : ApplyEnv) (batches : Dict ReviewEntity (List PendingCreateRow))
    (db : Db) : Except ReviewError Db :=
  env.transaction .creates (fun db => batches.foldlM (insertBatchRefs env (env.now .creates)) db) db

def conflictTypeForEntity (e : ReviewEntity) : String :=
  if e = .listing then "duplicate_listing_identity" else "duplicate_phone"

def conflictDetail (conflicts : List ReviewConflict) : String :=
  if conflicts ≠ [] ∧ ∀ c ∈ conflicts, c.conflictType = "duplicate_listing_identity" then
    "A few lines still need your attention. We found properties in your agency " ++
      "that already use the same phone number."
  else
    "A few lines still need your attention. We found records in your agency " ++
      "that already use the same phone number."

def createConflicts (env : ApplyEnv) (st : ReviewResolutionState) (db : Db) : List ReviewConflict :=
  st.createPending.flatMap fun e => env.detectCreateConflicts e.1 e.2 db

def fallbackConflict (p : PendingCreateRow) (e : ReviewEntity) : ReviewConflict :=
  ⟨⟨p.rowNum, e, none⟩, conflictTypeForEntity e, "phone", "review"⟩

def createResultMismatch (p : PendingCreateRow) (e : ReviewEntity) : ReviewConflict :=
  ⟨⟨p.rowNum, e, none⟩, "create_result_mismatch", "source_ordinal", "review"⟩

/-- What is raised where the batches are refused. -/
def createError (env : ApplyEnv) (st : ReviewResolutionState) (db : Db) : ReviewError → ReviewError
  | .write (.conflict _ _) =>
    let found := st.createPending.flatMap fun e => env.retryCreateConflicts e.1 e.2 db
    let conflicts := if found ≠ [] then found
      else st.createPending.flatMap fun e => e.2.map fun p => fallbackConflict p e.1
    .conflict (conflictDetail conflicts) conflicts
  | .write (.valueError _) =>
    .conflict "A few created rows need your attention before we continue."
      (st.createPending.flatMap fun e => e.2.map fun p => createResultMismatch p e.1)
  | e => e

/-- `apply_pending_creates`: the database it leaves and how many rows of each entity type were created. -/
def applyPendingCreates (env : ApplyEnv) (st : ReviewResolutionState) (db : Db) :
    Db × Except ReviewError (Dict ReviewEntity ℕ) :=
  if createConflicts env st db ≠ [] then
    (db, .error (.conflict (conflictDetail (createConflicts env st db)) (createConflicts env st db)))
  else if createBatches st = [] then (db, .ok [])
  else match insertReviewCorrectionBatches env (createBatches st) db with
    | .ok db' => (db', .ok ((createBatches st).map fun e => (e.1, e.2.length)))
    | .error e => (db, .error (createError env st db e))

def dispatchUpdate (env : ApplyEnv) (now : ℕ) (u : PendingUpdateRow) (db : Db) : Except WriteError Db :=
  let id := u.existingId.toNat
  let version := some u.rowVersion
  match u.entityType with
  | .client => upsertClient env.services.clients env.agencyId
      { env.reading.client u.validatedRow with id := id, rowVersion := version } env.readable now db
  | .listing => upsertListing env.services.clients env.agencyId
      { env.reading.listing u.validatedRow with id := id, rowVersion := version } env.readable now db
  | .demande => updateDemande env.services.toBackend id
      { env.reading.demande u.validatedRow with rowVersion := version } now db
  | .offer => updateOffer env.services.toBackend id
      { env.reading.offer u.validatedRow with rowVersion := version } now db

def updateError (u : PendingUpdateRow) : ReviewError → ReviewError
  | .write (.conflict _ version) =>
    let existing := if u.existingId = 0 then none else some u.existingId
    .conflict "A few lines still need your attention before we continue."
      [⟨⟨u.rowNum, u.entityType, existing⟩, if version.isSome then "row_version_conflict" else "other",
        if version.isSome then "row_version" else "", "review"⟩]
  | e => e

def applyUpdate (env : ApplyEnv) (u : PendingUpdateRow × ℕ) (db : Db) : Except ReviewError Db :=
  (env.transaction (.update u.2) (dispatchUpdate env (env.now (.update u.2)) u.1) db).mapError (updateError u.1)

def updateTransactions (env : ApplyEnv) (st : ReviewResolutionState) : List (Db → Except ReviewError Db) :=
  st.pendingUpdates.zipIdx.map (applyUpdate env)

def TooManyUpdates (env : ApplyEnv) (st : ReviewResolutionState) : Prop :=
  max 1 env.maxReviewRows < (st.pendingUpdates.length : ℤ)

instance (env : ApplyEnv) (st : ReviewResolutionState) : Decidable (TooManyUpdates env st) :=
  inferInstanceAs (Decidable (_ < _))

/-- `_apply_pending_updates`: the database it leaves and how many records were updated. -/
def applyPendingUpdates (env : ApplyEnv) (st : ReviewResolutionState) (db : Db) : Db × Except ReviewError ℕ :=
  if TooManyUpdates env st then
    (db, .error (.write (.valueError (s!"Review update batch contains {st.pendingUpdates.length} rows, " ++
      s!"exceeding the bounded OCC update limit of {max 1 env.maxReviewRows}."))))
  else match commitEach (updateTransactions env st) db with
    | (db', none) => (db', .ok st.pendingUpdates.length)
    | (db', some e) => (db', .error e)

def appliedRows (st : ReviewResolutionState) : List AppliedReviewRow :=
  (createBatches st).flatMap (fun e => e.2.map fun p =>
    ⟨p.rowNum, true, p.entityType, p.validatedRow, p.correctionPayload, p.reviewEntry⟩) ++
    st.pendingUpdates.map fun u =>
      ⟨u.rowNum, false, u.entityType, u.validatedRow, u.correctionPayload, u.reviewEntry⟩

def bundleShapeHint (applied : List AppliedReviewRow) : String :=
  if applied.any fun row => row.reviewEntry.topologySide ∈ ["client_side", "listing_side"] then
    "same_side_bundle"
  else ""

def recordSubmission (env : ApplyEnv) (st : ReviewResolutionState) : Except ReviewError Unit := do
  env.recordLearningSignals (appliedRows st)
  env.recordDeadLetterRows st.deadLetters
  env.refreshAgencyProfile (bundleShapeHint (appliedRows st))

structure ReviewResult where
  createdEntityCounts : Dict ReviewEntity ℕ
  updatedCount : ℕ
  stillReview : List StillReviewRow
  errors : List (ℕ × ReviewEntity × List String)
  reviewCount : ℕ
  skipCount : ℕ

def collected (env : ApplyEnv) (p : PreparedReviewSubmitPayload) : ReviewResolutionState :=
  collectReviewActions env.pipeline env.userId (normalizeResolutionInputs env.texts p) p.pendingRows

/-- `apply_review_resolutions_impl`: the database it leaves, and what it returns or raises. -/
def applyReviewResolutions (env : ApplyEnv) (p : PreparedReviewSubmitPayload) (db : Db) :
    Db × Except ReviewError ReviewResult :=
  let st := collected env p
  match applyPendingCreates env st db with
  | (db₁, .error e) => (db₁, .error e)
  | (db₁, .ok counts) =>
    match applyPendingUpdates env st db₁ with
    | (db₂, .error e) => (db₂, .error e)
    | (db₂, .ok updated) =>
      match recordSubmission env st with
      | .error e => (db₂, .error e)
      | .ok () => (db₂, .ok ⟨counts, updated, st.stillReview, st.errors, st.reviewCount, st.skipCount⟩)

def Raises (env : ApplyEnv) (p : PreparedReviewSubmitPayload) (db : Db) : Prop :=
  ∃ e, (applyReviewResolutions env p db).2 = .error e

/-- A submission that raises changes no table, and submitting its rows again, at any later time, leaves the
tables that it would leave if nobody had submitted them before. -/
structure FailsCleanly (env : ApplyEnv) (p : PreparedReviewSubmitPayload) (db : Db) : Prop where
  unchanged : Raises env p db → db.SameTables (applyReviewResolutions env p db).1
  /-- The second submission finds nothing of the first. -/
  again : Raises env p db → ∀ env', (applyReviewResolutions env' p db).1.SameTables
    (applyReviewResolutions env' p (applyReviewResolutions env p db).1).1

/-- The submission is refused at its first write or before: a row to create has a conflict, the batches are
refused, or, with nothing to create, there are too many updates, none at all, or the first is refused. -/
def RefusedFirst (env : ApplyEnv) (st : ReviewResolutionState) (db : Db) : Prop :=
  createConflicts env st db ≠ [] ∨
    (createBatches st ≠ [] ∧ ∃ e, insertReviewCorrectionBatches env (createBatches st) db = .error e) ∨
    (createBatches st = [] ∧ (TooManyUpdates env st ∨ st.pendingUpdates = [] ∨
      ∃ t ∈ (updateTransactions env st).head?, ∃ e, t db = .error e))

def afterCreates (env : ApplyEnv) (st : ReviewResolutionState) (db : Db) : Except ReviewError Db :=
  if createBatches st = [] then .ok db else insertReviewCorrectionBatches env (createBatches st) db

/-- Nothing of the submission is refused: the batches are accepted, each update is on what the ones before it
leave, and what is recorded behind them is. -/
def NothingRefused (env : ApplyEnv) (st : ReviewResolutionState) (db : Db) : Prop :=
  ¬ TooManyUpdates env st ∧ recordSubmission env st = .ok () ∧
    ∃ db₁, afterCreates env st db = .ok db₁ ∧ AcceptedEach (updateTransactions env st) db₁

/-! ### Writes are counted -/

section Counted

variable {env : ApplyEnv} {st : ReviewResolutionState} {db db' : Db} {now : ℕ}

lemma transaction_ok {step : ReviewStep} {f : Db → Except WriteError Db}
    (h : env.transaction step f db = .ok db') : f db = .ok db' := by
  unfold ApplyEnv.transaction at h
  split at h
  · cases h
  · cases hf : f db with
    | error =>
      rw [hf] at h
      cases h
    | ok =>
      rw [hf] at h
      rw [Except.ok.inj h]

lemma writes_lt_insertBatchRefs {batch : ReviewEntity × List PendingCreateRow} (hbatch : batch.2 ≠ [])
    (h : insertBatchRefs env now db batch = .ok db') : db.writes < db'.writes := by
  have hzip : batch.2.zipIdx ≠ [] := by simpa using hbatch
  unfold insertBatchRefs at h
  split at h
  · exact lt_of_foldlM_ok hzip (fun p _ db db' h => writes_lt_insertClient h) h
  · exact lt_of_foldlM_ok hzip (fun p _ db db' h => writes_lt_insertListing h) h
  · obtain ⟨_, hrows, h⟩ := bind_eq_ok_iff.mp h
    obtain ⟨_, -, h⟩ := bind_eq_ok_iff.mp h
    exact lt_of_foldlM_ok (ne_nil_of_mapM_ok hbatch hrows)
      (fun row _ db db' h => Demandes.writes_lt_createDemande h) h
  · obtain ⟨_, hrows, h⟩ := bind_eq_ok_iff.mp h
    obtain ⟨_, -, h⟩ := bind_eq_ok_iff.mp h
    exact lt_of_foldlM_ok (ne_nil_of_mapM_ok hbatch hrows) (fun row _ db db' h => Offers.writes_lt_createOffer h) h

lemma writes_lt_insertReviewCorrectionBatches (hbatches : createBatches st ≠ [])
    (h : insertReviewCorrectionBatches env (createBatches st) db = .ok db') : db.writes < db'.writes := by
  refine lt_of_foldlM_ok hbatches (fun batch hbatch db db' h => ?_) (transaction_ok h)
  exact writes_lt_insertBatchRefs (by simpa using (List.mem_filter.mp hbatch).2) h

lemma writes_lt_dispatchUpdate {u : PendingUpdateRow} (h : dispatchUpdate env now u db = .ok db') :
    db.writes < db'.writes := by
  unfold dispatchUpdate at h
  dsimp only at h
  split at h
  · exact writes_lt_upsertClient h
  · exact writes_lt_upsertListing h
  · exact writes_lt_updateDemande h
  · exact writes_lt_updateOffer h

lemma writes_lt_updateTransactions (env : ApplyEnv) (st : ReviewResolutionState) :
    ∀ t ∈ updateTransactions env st, ∀ db db', t db = .ok db' → db.writes < db'.writes := by
  intro t ht db db' h
  obtain ⟨u, -, rfl⟩ := List.mem_map.mp ht
  unfold applyUpdate at h
  cases htx : env.transaction (.update u.2) (dispatchUpdate env (env.now (.update u.2)) u.1) db with
  | error =>
    rw [htx] at h
    cases h
  | ok db₁ =>
    rw [htx] at h
    obtain rfl : db₁ = db' := Except.ok.inj h
    exact writes_lt_dispatchUpdate (transaction_ok htx)

end Counted

/-! ### What a submission leaves -/

section Submission

variable {env : ApplyEnv} {st : ReviewResolutionState} {p : PreparedReviewSubmitPayload} {db db₁ : Db}

lemma applyPendingCreates_conflict (h : createConflicts env st db ≠ []) :
    ∃ e, applyPendingCreates env st db = (db, .error e) :=
  ⟨_, by rw [applyPendingCreates, if_pos h]⟩

lemma applyPendingCreates_refused {e : ReviewError} (hbatches : createBatches st ≠ [])
    (h : insertReviewCorrectionBatches env (createBatches st) db = .error e) :
    ∃ e, applyPendingCreates env st db = (db, .error e) := by
  by_cases hconflicts : createConflicts env st db ≠ []
  · exact applyPendingCreates_conflict hconflicts
  · exact ⟨_, by rw [applyPendingCreates, if_neg hconflicts, if_neg hbatches, h]⟩

lemma applyPendingCreates_ok (hconflicts : createConflicts env st db = []) (h : afterCreates env st db = .ok db₁) :
    ∃ counts, applyPendingCreates env st db = (db₁, .ok counts) := by
  unfold afterCreates at h
  rw [applyPendingCreates, if_neg (not_not.mpr hconflicts)]
  split at h
  · next hbatches =>
    obtain ⟨⟩ := h
    exact ⟨[], by rw [if_pos hbatches]⟩
  · next hbatches => exact ⟨_, by rw [if_neg hbatches, h]⟩

lemma applyReviewResolutions_create_error {e : ReviewError}
    (h : applyPendingCreates env (collected env p) db = (db, .error e)) :
    applyReviewResolutions env p db = (db, .error e) := by
  unfold applyReviewResolutions
  dsimp only
  rw [h]

section Created

variable {counts : Dict ReviewEntity ℕ}

section

variable (h : applyPendingCreates env (collected env p) db = (db₁, .ok counts))
include h

lemma applyReviewResolutions_tooMany (hmany : TooManyUpdates env (collected env p)) :
    (applyReviewResolutions env p db).1 = db₁ ∧ Raises env p db := by
  unfold Raises applyReviewResolutions applyPendingUpdates
  dsimp only
  rw [h]
  dsimp only
  rw [if_pos hmany]
  exact ⟨rfl, _, rfl⟩

lemma applyReviewResolutions_fst (hmany : ¬ TooManyUpdates env (collected env p)) :
    (applyReviewResolutions env p db).1 = (commitEach (updateTransactions env (collected env p)) db₁).1 := by
  unfold applyReviewResolutions applyPendingUpdates
  dsimp only
  rw [h]
  dsimp only
  rw [if_neg hmany]
  cases commitEach (updateTransactions env (collected env p)) db₁ with
  | mk _ raised =>
    cases raised with
    | some => rfl
    | none =>
      dsimp only
      split <;> rfl

/-- And the submission raises unless they are all accepted and what is recorded behind them is. -/
lemma applyReviewResolutions_raises_iff (hmany : ¬ TooManyUpdates env (collected env p)) :
    Raises env p db ↔ ¬ (recordSubmission env (collected env p) = .ok () ∧
      AcceptedEach (updateTransactions env (collected env p)) db₁) := by
  rw [← commitEach_snd_eq_none_iff]
  unfold Raises applyReviewResolutions applyPendingUpdates
  dsimp only
  rw [h]
  dsimp only
  rw [if_neg hmany]
  cases commitEach (updateTransactions env (collected env p)) db₁ with
  | mk _ raised =>
    cases raised with
    | some => simp
    | none =>
      dsimp only
      cases recordSubmission env (collected env p) with
      | error => simp
      | ok => simp

end

end Created

lemma fst_of_refusedFirst (h : RefusedFirst env (collected env p) db) : (applyReviewResolutions env p db).1 = db := by
  rcases h with hconflicts | ⟨hbatches, e, he⟩ | ⟨hbatches, hupdates⟩
  · obtain ⟨e, he⟩ := applyPendingCreates_conflict hconflicts
    rw [applyReviewResolutions_create_error he]
  · obtain ⟨e, he⟩ := applyPendingCreates_refused hbatches he
    rw [applyReviewResolutions_create_error he]
  · by_cases hconflicts : createConflicts env (collected env p) db ≠ []
    · obtain ⟨e, he⟩ := applyPendingCreates_conflict hconflicts
      rw [applyReviewResolutions_create_error he]
    · obtain ⟨_, hcounts⟩ := applyPendingCreates_ok (not_not.mp hconflicts)
        (by rw [afterCreates, if_pos hbatches] : afterCreates env (collected env p) db = .ok db)
      by_cases hmany : TooManyUpdates env (collected env p)
      · exact (applyReviewResolutions_tooMany hcounts hmany).1
      · rw [applyReviewResolutions_fst hcounts hmany]
        rcases hupdates with htoo | hnone | hfirst
        · exact absurd htoo hmany
        · rw [updateTransactions, hnone]
          rfl
        · exact commitEach_of_head_error hfirst

lemma writes_lt_of_not_refusedFirst (hrefused : ¬ RefusedFirst env (collected env p) db) :
    db.writes < (applyReviewResolutions env p db).1.writes := by
  have hconflicts : createConflicts env (collected env p) db = [] := by
    by_contra hne
    exact hrefused (.inl hne)
  have hμ := writes_lt_updateTransactions env (collected env p)
  by_cases hbatches : createBatches (collected env p) = []
  · obtain ⟨_, hcounts⟩ := applyPendingCreates_ok hconflicts
      (by rw [afterCreates, if_pos hbatches] : afterCreates env (collected env p) db = .ok db)
    have hmany : ¬ TooManyUpdates env (collected env p) :=
      fun hmany => hrefused (.inr (.inr ⟨hbatches, .inl hmany⟩))
    rw [applyReviewResolutions_fst hcounts hmany]
    refine lt_commitEach hμ (fun hnil => ?_) fun t ht e he => ?_
    · have hnone : (collected env p).pendingUpdates = [] := by simpa [updateTransactions] using hnil
      exact hrefused (.inr (.inr ⟨hbatches, .inr (.inl hnone)⟩))
    · exact hrefused (.inr (.inr ⟨hbatches, .inr (.inr ⟨t, ht, e, he⟩)⟩))
  · cases hcreates : insertReviewCorrectionBatches env (createBatches (collected env p)) db with
    | error e => exact absurd (.inr (.inl ⟨hbatches, e, hcreates⟩)) hrefused
    | ok db₁ =>
      have hlt := writes_lt_insertReviewCorrectionBatches hbatches hcreates
      obtain ⟨_, hcounts⟩ := applyPendingCreates_ok hconflicts (by rw [afterCreates, if_neg hbatches, hcreates] :
          afterCreates env (collected env p) db = .ok db₁)
      by_cases hmany : TooManyUpdates env (collected env p)
      · rw [(applyReviewResolutions_tooMany hcounts hmany).1]
        exact hlt
      · rw [applyReviewResolutions_fst hcounts hmany]
        exact hlt.trans_le (le_commitEach hμ)

/-- Without a conflict or a refusal of the batches, a submission raises exactly when something is refused. -/
lemma raises_iff_of_creates {counts : Dict ReviewEntity ℕ} (hafter : afterCreates env (collected env p) db = .ok db₁)
    (hcounts : applyPendingCreates env (collected env p) db = (db₁, .ok counts)) :
    Raises env p db ↔ ¬ NothingRefused env (collected env p) db := by
  have hnothing : NothingRefused env (collected env p) db ↔
      ¬ TooManyUpdates env (collected env p) ∧ recordSubmission env (collected env p) = .ok () ∧
        AcceptedEach (updateTransactions env (collected env p)) db₁ := by
    unfold NothingRefused
    rw [hafter]
    simp
  rw [hnothing]
  by_cases hmany : TooManyUpdates env (collected env p)
  · exact iff_of_true (applyReviewResolutions_tooMany hcounts hmany).2 (fun h => h.1 hmany)
  · rw [applyReviewResolutions_raises_iff hcounts hmany]
    simp [hmany]

end Submission

/-- A submission fails cleanly exactly when its very first write is refused, if any is. -/
theorem fails_cleanly_iff (env : ApplyEnv) (p : PreparedReviewSubmitPayload) (db : Db) : FailsCleanly env p db ↔
      RefusedFirst env (collected env p) db ∨ NothingRefused env (collected env p) db := by
  constructor
  · intro h
    by_cases hrefused : RefusedFirst env (collected env p) db
    · exact .inl hrefused
    · refine .inr (by_contra fun hnothing => ?_)
      have hraises : Raises env p db := by
        have hconflicts : createConflicts env (collected env p) db = [] := by
          by_contra hne
          exact hrefused (.inl hne)
        cases hafter : afterCreates env (collected env p) db with
        | error e =>
          unfold afterCreates at hafter
          split at hafter
          · cases hafter
          · next hbatches => exact absurd (.inr (.inl ⟨hbatches, e, hafter⟩)) hrefused
        | ok =>
          obtain ⟨_, hcounts⟩ := applyPendingCreates_ok hconflicts hafter
          exact (raises_iff_of_creates hafter hcounts).mpr hnothing
      have hlt := writes_lt_of_not_refusedFirst hrefused
      have heq := (h.unchanged hraises).writes_eq
      omega
  · intro h
    have hsame : Raises env p db → (applyReviewResolutions env p db).1 = db := by
      intro hraises
      by_cases hrefused : RefusedFirst env (collected env p) db
      · exact fst_of_refusedFirst hrefused
      · have hconflicts : createConflicts env (collected env p) db = [] := by
          by_contra hne
          exact hrefused (.inl hne)
        have hnothing := h.resolve_left hrefused
        obtain ⟨-, -, _, hafter, -⟩ := hnothing
        obtain ⟨_, hcounts⟩ := applyPendingCreates_ok hconflicts hafter
        exact absurd (h.resolve_left hrefused) ((raises_iff_of_creates hafter hcounts).mp hraises)
    refine ⟨fun hraises => ?_, fun hraises env' => ?_⟩
    · rw [hsame hraises]
      exact Db.SameTables.refl db
    · rw [hsame hraises]
      exact Db.SameTables.refl _

/-! ### Two rows -/

def twoRowsEnv : ApplyEnv where
  texts := smallTexts
  services := { sampleBackend with digit := Char.isDigit }
  reading :=
    { client := fun _ => {}
      listing := fun _ => {}
      demande := fun _ => {}
      offer := fun _ => {}
      newDemande := fun _ => (1,
        { rowVersion := 0, type := "apartment", typeId := none, action := "buy", actionId := none
          wilaya := "alger", wilayaId := none, locations := "hydra", locationsEnc := ""
          bedsMin := some 2, surfaceMin := some 50, surfaceMax := some 100
          budgetMin := some 10, budgetMax := some 20, furnished := "", floorMin := 0, floorMax := 100
          elevator := false, accessibilityRequired := false, tags := "", remarks := "", remarksEnc := ""
          updatedAt := none })
      newOffer := fun _ => (0,
        { rowVersion := 0, type := "", typeId := 0, action := "", actionId := 0, status := ""
          wilaya := "", wilayaId := 0, location := "", locationEnc := "", beds := none, surface := none
          budget := none, priceNegotiable := false, priceFlexPct := 0, furnished := "", floor := none
          elevator := false, accessibilitySupported := false, link := "", latitude := none
          longitude := none, remarks := "", remarksEnc := "", updatedAt := none }) }
  pipeline := ⟨fun _ data => ⟨false, data, []⟩, fun data _ => (data, [])⟩
  userId := 7
  agencyId := 1
  readable := true
  now := fun _ => 1
  outage := fun _ => none
  detectCreateConflicts := fun _ _ _ => []
  retryCreateConflicts := fun _ _ _ => []
  maxReviewRows := 100
  recordLearningSignals := fun _ => .ok ()
  recordDeadLetterRows := fun _ => .ok ()
  refreshAgencyProfile := fun _ => .ok ()

def twoRows : PreparedReviewSubmitPayload where
  corrections := []
  decisions := [(.composite 1 .demande, ⟨some .createNew, none, none, none⟩),
    (.composite 2 .client, ⟨some .updateExisting, none, some 1, some 5⟩)]
  skipRows := []
  pendingRows := [⟨1, .demande, "", ⟨none, none, none⟩, [], [], [], [], false, none, 0, "", none, []⟩,
    ⟨2, .client, "", ⟨none, none, none⟩, [], [], [], [], false, none, 0, "", none, []⟩]

/-- The client has the version 1: the update is refused when the demande is there, and the second submission
creates it again. -/
theorem created_before_conflict : ¬ ∀ env p db, FailsCleanly env p db := by
  intro h
  have hvalues : (let first := applyReviewResolutions twoRowsEnv twoRows partiesDb
      let second := applyReviewResolutions twoRowsEnv twoRows first.1
      (first.2.isOk, first.1.demandes.rows.map Row.id, second.1.demandes.rows.map Row.id))
        = (false, [1], [1, 2]) := by
    decide +kernel
  obtain ⟨hraised, hids⟩ := Prod.mk.inj hvalues
  obtain ⟨hfirst, hsecond⟩ := Prod.mk.inj hids
  have hraises : Raises twoRowsEnv twoRows partiesDb := by
    unfold Raises
    cases hresult : (applyReviewResolutions twoRowsEnv twoRows partiesDb).2 with
    | error e => exact ⟨e, rfl⟩
    | ok =>
      rw [hresult] at hraised
      cases hraised
  have hagain := ((h twoRowsEnv twoRows partiesDb).again hraises twoRowsEnv).demandes
  rw [hagain, hfirst] at hsecond
  exact absurd hsecond (by decide)

end ImmoApp.Imports
