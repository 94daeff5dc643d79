import ImmoApp.Crm.SearchKeys
import ImmoApp.Foundation.Recency
import ImmoApp.Imports.ReviewRows

/-!
# Identity resolution

A client or a listing is looked up by its phone, a demande or an offer among the children of its anchor; the records
that are found are scored, and the best one is suggested where it is good enough and clearly better than the next.  The
anchor of a child is found by its own identifier, by the rows imported before, or by the phone.

Scores are counted in thousandths.  A cache may be passed along.
-/

namespace ImmoApp.Imports

open Crm List

/-! ### Texts and values -/

abbrev Fields := Dict String Json

/-- What is decided outside of the functions below: by the interpreter, by `difflib` and on floating point numbers. -/
structure MatchTexts where
  backend : SearchBackend
  env : SearchEnv
  isAlnum : Char → Bool
  /-- `str` of a number with a fraction, a list or a dictionary. -/
  display : Json → String
  ratio : String → String → ℚ
  /-- `_overlap_score` of the incoming and the existing bounds is above 0.4. -/
  overlaps : Option Json × Option Json → Option Json × Option Json → Bool
  /-- The incoming and the existing number differ by a tenth of the latter at most. -/
  withinBand : Json → Json → Bool
  maxDuplicateCandidates : ℕ

structure PersonColumns where
  rowVersion : ℤ
  familyName : String
  remarks : String
  status : String

structure ChildRecord where
  anchorId : ℤ
  agencyId : ℕ
  live : Bool
  columns : Fields

structure IdentityTables where
  people : People
  person : PersonTable × ℕ → PersonColumns
  demandes : Keyed ℕ ChildRecord
  offers : Keyed ℕ ChildRecord

section Texts

variable (T : MatchTexts)

def MatchTexts.str : Json → String
  | .null => "None"
  | .scalar (.bool b) => if b then "True" else "False"
  | .int n => toString n
  | .str s => s
  | v => T.display v

/-- `str(v or "")`. -/
def MatchTexts.textOf (v : Json) : String := if v.truthy then T.str v else ""

def fieldOr (row : Fields) (name : String) (default : Json) : Json := (row.get? name).getD default

def normalizeNameForMatch (v : Json) : String :=
  let text := T.backend.unicode.lower (strip (T.textOf v))
  if text = "" then ""
  else
    let compact := text.toList.map fun c => if T.isAlnum c then c else ' '
    String.intercalate " " ((splitOnAny isSpace (String.ofList compact)).filter fun word => word ≠ "")

/-- `_name_similarity`, and `_scalar_similarity` of values that are normalized. -/
def nameSimilarity (left right : String) : ℚ :=
  if left = "" ∨ right = "" then 0 else if left = right then 1 else max 0 (min 1 (T.ratio left right))

def rowPhone (row : Fields) : String :=
  normalizePhoneForDedup T.backend (T.textOf (fieldOr row "phone" (.str "")))

def scoredName (row : Fields) : String :=
  let familyName := fieldOr row "family_name" (.str "")
  normalizeNameForMatch T (if familyName.truthy then familyName else fieldOr row "name" (.str ""))

def plainEq : Json → Json → Bool
  | .int n, .scalar (.float q) => (n : ℚ) == q
  | .scalar (.float q), .int n => q == (n : ℚ)
  | a, b => a == b

end Texts

/-- The mutable and the immutable fields of `decision_policy_for_entity`. -/
def policyFields : ReviewEntity → List String × List String
  | .client =>
    (["family_name", "phone", "remarks", "tags", "is_vip", "status"],
      ["id", "agency_id", "created_at", "updated_at", "row_version", "deleted_at"])
  | .listing =>
    (["family_name", "phone", "remarks", "is_vip", "status"],
      ["id", "agency_id", "created_at", "updated_at", "row_version", "deleted_at"])
  | .demande =>
    (["type", "type_id", "action", "action_id", "wilaya", "wilaya_id", "locations", "beds_min", "surface_min",
      "surface_max", "budget_min", "budget_max", "furnished", "floor_min", "floor_max", "elevator",
      "accessibility_required", "tags", "remarks"],
      ["id", "agency_id", "client_id", "created_at", "updated_at", "row_version", "deleted_at"])
  | .offer =>
    (["type", "type_id", "action", "action_id", "wilaya", "wilaya_id", "location", "beds", "surface", "budget",
      "furnished", "floor", "elevator", "accessibility_supported", "price_negotiable", "price_flex_pct", "link",
      "latitude", "longitude", "remarks", "status"],
      ["id", "agency_id", "listing_id", "created_at", "updated_at", "row_version", "deleted_at"])

def plainValue : Json → Json
  | .scalar (.bool b) => .int (if b then 1 else 0)
  | .str "" => .null
  | .arr [] => .null
  | .obj [] => .null
  | v => v

structure FieldChange where
  field : String
  incoming : Json
  existing : Json

/-- What `build_field_diff` returns. -/
structure FieldDiff where
  changedMutable : List FieldChange
  changedImmutable : List FieldChange
  unchanged : List FieldChange

def buildFieldDiff (e : ReviewEntity) (incoming existing : Fields) : FieldDiff :=
  let changes := ((policyFields e).1 ++ (policyFields e).2).map fun field =>
    FieldChange.mk field (plainValue (fieldOr incoming field .null)) (plainValue (fieldOr existing field .null))
  let changed := changes.filter fun c => !plainEq c.incoming c.existing
  { changedMutable := changed.filter fun c => !(policyFields e).2.contains c.field
    changedImmutable := changed.filter fun c => (policyFields e).2.contains c.field
    unchanged := changes.filter fun c => plainEq c.incoming c.existing }

/-- `flatten_field_diffs`. -/
def FieldDiff.flatten (d : FieldDiff) : List FieldChange := d.changedMutable ++ d.changedImmutable

def candidatePayloadFromRow (e : ReviewEntity) (row : Fields) : Fields :=
  ((policyFields e).1 ++ (policyFields e).2).filterMap fun field => (row.get? field).map fun v => (field, v)

structure MatchedRow where
  payload : Fields
  id : ℤ
  rowVersion : ℤ
  matchConfidence : ℕ
  matchReasons : List String
  fieldDiff : FieldDiff
  fieldDiffs : List FieldChange
  snapshot : Fields

structure ResolutionResult where
  candidateMatches : List MatchedRow := []
  suggestedAction : ReviewAction := .createNew
  suggestedExistingId : ℤ := 0
  suggestedConfidence : ℕ := 0
  suggestedReasons : List String := []
  anchorId : ℤ := 0

def totalScore (criteria : List (Bool × ℕ × String)) : ℕ × List String :=
  let met := criteria.filter Prod.fst
  (min 1000 (met.map fun c => c.2.1).sum, met.map fun c => c.2.2)

/-! ### Clients and listings -/

structure DbDuplicateCandidate where
  existingId : ℕ
  rowVersion : ℤ
  familyName : String
  phone : String
  status : String
  remarks : String
  matchConfidence : ℕ := 0
  matchReasons : List String := []

section Roots

variable (T : MatchTexts) (db : IdentityTables)

/-- The candidate that the lookup makes of a record. -/
def candidateOf (table : PersonTable) (phone : String) (id : ℕ) : DbDuplicateCandidate :=
  let columns := db.person (table, id)
  { existingId := id, rowVersion := columns.rowVersion, familyName := columns.familyName, phone := phone,
    status := columns.status, remarks := columns.remarks }

/-- `_lookup_phones(phones).get(phone, [])`. -/
def lookedUp (table : PersonTable) (agencyId : ℕ) (phones : List String) (phone : String) :
    List DbDuplicateCandidate :=
  ((lookupPhones T.backend T.env db.people table agencyId phones).filter fun found => found.1 = phone).map
    fun found => candidateOf db table phone found.2

def scoreCandidate (sourcePhone sourceName : String) (c : DbDuplicateCandidate) : DbDuplicateCandidate :=
  let candidateName := normalizeNameForMatch T (.str c.familyName)
  let similarity := nameSimilarity T sourceName candidateName
  let sameName := decide (sourceName ≠ "" ∧ candidateName ≠ "" ∧ sourceName = candidateName)
  let verySimilar := decide (94 / 100 ≤ similarity)
  let score := totalScore
    [(decide (sourcePhone ≠ "" ∧ sourcePhone = normalizePhoneForDedup T.backend c.phone), 750, "same phone"),
      (sameName, 220, "same name"),
      (!sameName && verySimilar, 160, "very similar name"),
      (!sameName && !verySimilar && decide (84 / 100 ≤ similarity), 80, "similar name"),
      (["active", "available"].contains (T.backend.unicode.lower (strip c.status)), 20, "active record")]
  { c with matchConfidence := score.1, matchReasons := score.2 }

/-- The better candidate first, and the older one where they are as good. -/
def BetterCandidate (c c' : DbDuplicateCandidate) : Prop :=
  c'.matchConfidence < c.matchConfidence ∨ (c.matchConfidence = c'.matchConfidence ∧ c.existingId ≤ c'.existingId)

instance : DecidableRel BetterCandidate := fun _ _ => inferInstanceAs (Decidable (_ ∨ _))

/-- `_score_candidates_for_row`: the candidates that are shown, what is suggested and for which record. -/
def scoreCandidatesForRow (sourcePhone sourceName : String) (candidates : List DbDuplicateCandidate) :
    List DbDuplicateCandidate × ReviewAction × ℕ :=
  match (candidates.map (scoreCandidate T sourcePhone sourceName)).insertionSort BetterCandidate with
  | [] => ([], .reviewAmbiguous, 0)
  | top :: rest =>
    let runnerUp := (rest.head?.map DbDuplicateCandidate.matchConfidence).getD 0
    let display := (top :: rest).take T.maxDuplicateCandidates
    if 900 ≤ top.matchConfidence ∧ (rest = [] ∨ runnerUp + 120 ≤ top.matchConfidence) then
      (display, .updateExisting, top.existingId)
    else (display, .reviewAmbiguous, top.existingId)

/-- The columns of a candidate that are compared and reported. -/
def DbDuplicateCandidate.payload (c : DbDuplicateCandidate) : Fields :=
  [("id", .int c.existingId), ("row_version", .int c.rowVersion), ("family_name", .str c.familyName),
    ("phone", .str c.phone), ("remarks", .str c.remarks), ("status", .str c.status)]

def matchedCandidate (e : ReviewEntity) (row : Fields) (c : DbDuplicateCandidate) : MatchedRow :=
  let diff := buildFieldDiff e row c.payload
  { payload := c.payload, id := c.existingId, rowVersion := c.rowVersion, matchConfidence := c.matchConfidence,
    matchReasons := c.matchReasons, fieldDiff := diff, fieldDiffs := diff.flatten, snapshot := c.payload }

def finalizeResult (candidates : List MatchedRow) (action : ReviewAction) (existingId : ℤ) : ResolutionResult :=
  let suggested := candidates.find? fun c => c.id = existingId
  { candidateMatches := candidates, suggestedAction := action, suggestedExistingId := existingId,
    suggestedConfidence := (suggested.map MatchedRow.matchConfidence).getD 0,
    suggestedReasons := (suggested.map MatchedRow.matchReasons).getD [], anchorId := existingId }

def rootEntity : PersonTable → ReviewEntity
  | .clients => .client
  | .listings => .listing

/-- What `resolve_root_matches` makes of the candidates of a row. -/
def rootResult (table : PersonTable) (row : Fields) (candidates : List DbDuplicateCandidate) : ResolutionResult :=
  if candidates.isEmpty then {}
  else
    let scored := scoreCandidatesForRow T (rowPhone T row) (scoredName T row) candidates
    finalizeResult (scored.1.map (matchedCandidate (rootEntity table) row)) scored.2.1 scored.2.2

/-! ### What the order of the candidates does not change -/

variable {T db}

instance : Std.Total BetterCandidate := ⟨fun c c' => by
  unfold BetterCandidate
  omega⟩

instance : IsTrans DbDuplicateCandidate BetterCandidate := ⟨fun a b c => by
  unfold BetterCandidate
  omega⟩

variable {candidates candidates' : List DbDuplicateCandidate}

lemma scoreCandidatesForRow_perm
    (h : candidates.Perm candidates') (hnodup : (candidates.map DbDuplicateCandidate.existingId).Nodup)
    (sourcePhone sourceName : String) :
    scoreCandidatesForRow T sourcePhone sourceName candidates =
      scoreCandidatesForRow T sourcePhone sourceName candidates' := by
  have hids : ((candidates.map (scoreCandidate T sourcePhone sourceName)).map
      DbDuplicateCandidate.existingId).Nodup := by
    rw [map_map]
    exact hnodup
  have hsorted : (candidates.map (scoreCandidate T sourcePhone sourceName)).insertionSort BetterCandidate =
      (candidates'.map (scoreCandidate T sourcePhone sourceName)).insertionSort BetterCandidate := by
    refine @List.Perm.eq_of_pairwise _ BetterCandidate _ _ ?_ (pairwise_insertionSort _ _)
      (pairwise_insertionSort _ _) ?_
    · intro a b ha hb hab hba
      have hb' : b ∈ candidates.map (scoreCandidate T sourcePhone sourceName) :=
        (h.map _).mem_iff.mpr ((perm_insertionSort _ _).mem_iff.mp hb)
      refine inj_on_of_nodup_map hids ((perm_insertionSort _ _).mem_iff.mp ha) hb' ?_
      unfold BetterCandidate at hab hba
      omega
    · exact (perm_insertionSort _ _).trans ((h.map _).trans (perm_insertionSort _ _).symm)
  unfold scoreCandidatesForRow
  rw [hsorted]

lemma rootResult_perm (h : candidates.Perm candidates')
    (hnodup : (candidates.map DbDuplicateCandidate.existingId).Nodup) (table : PersonTable) (row : Fields) :
    rootResult T table row candidates = rootResult T table row candidates' := by
  have hempty : candidates.isEmpty = candidates'.isEmpty := by
    rw [Bool.eq_iff_iff, isEmpty_iff_length_eq_zero, isEmpty_iff_length_eq_zero, h.length_eq]
  unfold rootResult
  rw [hempty, scoreCandidatesForRow_perm h hnodup]

/-- A lookup files a record under the last of its phones that is tried against the column of the record. -/
lemma mem_lookedUp {table : PersonTable} {agencyId : ℕ} {phones : List String} {phone : String}
    {c : DbDuplicateCandidate} :
    c ∈ lookedUp T db table agencyId phones phone ↔ ∃ id r, db.people.get? (table, id) = some r ∧ r.live = true ∧
      r.agencyId = agencyId ∧ lastTrying T.backend T.env agencyId (normalForms T.backend phones) r.phone = some phone ∧
      candidateOf db table phone id = c := by
  unfold lookedUp
  rw [mem_map]
  constructor
  · rintro ⟨⟨label, id⟩, hfiled, rfl⟩
    obtain ⟨hmem, hlabel⟩ := mem_filter.mp hfiled
    have hlabel : label = phone := of_decide_eq_true hlabel
    rw [hlabel] at hmem
    obtain ⟨r, hget, hlive, hagency, hlast⟩ := (mem_lookupPhones T.backend T.env).mp hmem
    exact ⟨id, r, hget, hlive, hagency, hlast, rfl⟩
  · rintro ⟨id, r, hget, hlive, hagency, hlast, rfl⟩
    refine ⟨(phone, id), mem_filter.mpr ⟨?_, decide_eq_true rfl⟩, rfl⟩
    exact (mem_lookupPhones T.backend T.env).mpr ⟨r, hget, hlive, hagency, hlast⟩

lemma nodup_lookedUp (table : PersonTable) (agencyId : ℕ) (phones : List String) (phone : String) :
    ((lookedUp T db table agencyId phones phone).map DbDuplicateCandidate.existingId).Nodup := by
  unfold lookedUp
  rw [map_map]
  refine Nodup.map_on ?_ ((nodup_lookupPhones T.backend T.env).filter _)
  rintro ⟨label, id⟩ hmem ⟨label', id'⟩ hmem' (heq : id = id')
  have hlabel : label = phone := of_decide_eq_true (mem_filter.mp hmem).2
  have hlabel' : label' = phone := of_decide_eq_true (mem_filter.mp hmem').2
  rw [hlabel, hlabel', heq]

end Roots

/-! ### Demandes and offers -/

section Children

variable (T : MatchTexts) (db : IdentityTables)

def anchorField : ReviewEntity → String
  | .demande => "client_id"
  | _ => "listing_id"

def childTable : ReviewEntity → Option (Keyed ℕ ChildRecord)
  | .demande => some db.demandes
  | .offer => some db.offers
  | .client | .listing => none

def childFields (e : ReviewEntity) (r : ℕ × ChildRecord) : Fields :=
  ("id", .int r.1) :: (anchorField e, .int r.2.anchorId) :: r.2.columns

def AnchorOrder (r r' : ℕ × ChildRecord) : Prop :=
  r.2.anchorId < r'.2.anchorId ∨ (r.2.anchorId = r'.2.anchorId ∧ r.1 ≤ r'.1)

instance : DecidableRel AnchorOrder := fun _ _ => inferInstanceAs (Decidable (_ ∨ _))

/-- The query of `_query_child_candidates`: the live children of an anchor, by their identifier. -/
def queryChildren (e : ReviewEntity) (agencyId : ℕ) (anchorId : ℤ) : List Fields :=
  match childTable db e with
  | none => []
  | some children =>
    ((children.entries.filter fun r => r.2.anchorId == anchorId && (r.2.agencyId == agencyId && r.2.live)).insertionSort
      fun r r' => r.1 ≤ r'.1).map (childFields e)

/-- The query of `prefetch_child_match_cache`: the live children of some anchors, by anchor and identifier. -/
def queryAllChildren (e : ReviewEntity) (children : Keyed ℕ ChildRecord) (agencyId : ℕ) (anchorIds : List ℤ) :
    List (ℤ × Fields) :=
  ((children.entries.filter fun r => anchorIds.contains r.2.anchorId && (r.2.agencyId == agencyId && r.2.live))
    |>.insertionSort AnchorOrder).map fun r => (r.2.anchorId, childFields e r)

def sameText (row candidate : Fields) (field : String) : Bool :=
  T.str (fieldOr row field (.str "")) == T.str (fieldOr candidate field (.str ""))

def sameTextOrId (row candidate : Fields) (field idField : String) : Bool :=
  sameText T row candidate field ||
    ((fieldOr row idField .null).truthy && plainEq (fieldOr row idField .null) (fieldOr candidate idField .null))

def fieldSimilarity (row candidate : Fields) (field : String) : ℚ :=
  nameSimilarity T (normalizeNameForMatch T (fieldOr row field .null))
    (normalizeNameForMatch T (fieldOr candidate field .null))

def bandsOverlap (row candidate : Fields) (lower upper : String) : Bool :=
  T.overlaps (row.get? lower, row.get? upper) (candidate.get? lower, candidate.get? upper)

/-- The number of a row is there and close to that of the record. -/
def withinBand (row candidate : Fields) (field : String) : Bool :=
  fieldOr row field .null != .null && fieldOr candidate field .null != .null &&
    T.withinBand (fieldOr row field .null) (fieldOr candidate field .null)

def scoreDemande (row candidate : Fields) : ℕ × List String :=
  totalScore [(true, 200, "same client anchor"), (sameText T row candidate "action", 200, "same action"),
      (sameTextOrId T row candidate "type" "type_id", 180, "same property type"),
      (sameTextOrId T row candidate "wilaya" "wilaya_id", 120, "same wilaya"),
      (decide (8 / 10 ≤ fieldSimilarity T row candidate "locations"), 100, "similar locations"),
      (bandsOverlap T row candidate "budget_min" "budget_max", 120, "budget bands overlap"),
      (bandsOverlap T row candidate "surface_min" "surface_max", 110, "surface bands overlap"),
      (plainEq (fieldOr row "beds_min" .null) (fieldOr candidate "beds_min" .null), 70, "same minimum beds")]

def scoreOffer (row candidate : Fields) : ℕ × List String :=
  totalScore [(true, 200, "same listing anchor"), (sameText T row candidate "action", 200, "same action"),
      (sameTextOrId T row candidate "type" "type_id", 180, "same property type"),
      (sameTextOrId T row candidate "wilaya" "wilaya_id", 120, "same wilaya"),
      (decide (84 / 100 ≤ fieldSimilarity T row candidate "location"), 100, "similar location"),
      (withinBand T row candidate "budget", 120, "price within band"),
      (withinBand T row candidate "surface", 100, "surface within band"),
      (plainEq (fieldOr row "beds" .null) (fieldOr candidate "beds" .null), 80, "same beds")]

def matchedChild (e : ReviewEntity) (row candidate : Fields) : MatchedRow :=
  let score := if e = .demande then scoreDemande T row candidate else scoreOffer T row candidate
  let diff := buildFieldDiff e row candidate
  { payload := candidatePayloadFromRow e candidate, id := ((fieldOr candidate "id" .null).toInt?).getD 0,
    rowVersion := ((fieldOr candidate "row_version" .null).toInt?).getD 0, matchConfidence := score.1,
    matchReasons := score.2, fieldDiff := diff, fieldDiffs := diff.flatten,
    snapshot := candidatePayloadFromRow e candidate }

/-- What `resolve_child_matches` makes of the children of the anchor. -/
def childResult (e : ReviewEntity) (row : Fields) (anchorId : ℤ) (candidates : List Fields) : ResolutionResult :=
  match (candidates.map (matchedChild T e row)).insertionSort fun c c' =>
      c'.matchConfidence < c.matchConfidence ∨ (c.matchConfidence = c'.matchConfidence ∧ c.id ≤ c'.id) with
  | [] => { anchorId := anchorId }
  | top :: rest =>
    let runnerUp := (rest.head?.map MatchedRow.matchConfidence).getD 0
    let action : ReviewAction :=
      if 930 ≤ top.matchConfidence ∧ (rest = [] ∨ runnerUp + 120 ≤ top.matchConfidence) then .updateExisting
      else if 650 ≤ top.matchConfidence then .reviewAmbiguous
      else .createNew
    { candidateMatches := (top :: rest).take 5, suggestedAction := action,
      suggestedExistingId := if action = .createNew then 0 else top.id,
      suggestedConfidence := top.matchConfidence, suggestedReasons := top.matchReasons, anchorId := anchorId }

instance : Std.Total AnchorOrder := ⟨fun r r' => by
  unfold AnchorOrder
  omega⟩

instance : IsTrans (ℕ × ChildRecord) AnchorOrder := ⟨fun a b c => by
  unfold AnchorOrder
  omega⟩

variable {db}

lemma queryAllChildren_eq {e : ReviewEntity} {children : Keyed ℕ ChildRecord} (htable : childTable db e = some children)
    {agencyId : ℕ} {anchorIds : List ℤ} {anchorId : ℤ} (hmem : anchorId ∈ anchorIds) :
    ((queryAllChildren e children agencyId anchorIds).filter fun r => r.1 = anchorId).map Prod.snd =
      queryChildren db e agencyId anchorId := by
  have hrows : ∀ r r', r ∈ children.entries → r' ∈ children.entries → r.1 = r'.1 → r = r' := fun r r' hr hr' =>
    inj_on_of_nodup_map children.nodup hr hr'
  unfold queryAllChildren queryChildren
  rw [htable, filter_map, map_map]
  refine congrArg (List.map (childFields e)) (@List.Perm.eq_of_pairwise _ (fun r r' => r.1 ≤ r'.1) _ _ ?_ ?_
    (pairwise_insertionSort _ _) ?_)
  · intro r r' hr hr' hle hle'
    have hr := (perm_insertionSort _ _).mem_iff.mp (mem_filter.mp hr).1
    have hr' := (perm_insertionSort _ _).mem_iff.mp hr'
    exact hrows r r' (mem_filter.mp hr).1 (mem_filter.mp hr').1 (le_antisymm hle hle')
  · -- within one anchor the order is that of the identifiers
    have hsorted := (pairwise_insertionSort AnchorOrder (children.entries.filter fun r =>
      anchorIds.contains r.2.anchorId && (r.2.agencyId == agencyId && r.2.live)))
    refine pairwise_filter.mpr (hsorted.imp fun {r r'} hle hr hr' => ?_)
    have hanchor : r.2.anchorId = anchorId := of_decide_eq_true hr
    have hanchor' : r'.2.anchorId = anchorId := of_decide_eq_true hr'
    rcases hle with _ | hle
    · omega
    · exact hle.2
  · refine ((perm_insertionSort _ _).filter _).trans (List.Perm.trans (Perm.of_eq ?_)
      (perm_insertionSort _ _).symm)
    rw [filter_filter]
    refine filter_congr fun r hr => ?_
    by_cases hanchor : r.2.anchorId = anchorId
    · simp [hanchor, hmem]
    · simp [hanchor]

end Children

end ImmoApp.Imports
