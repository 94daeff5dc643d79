import ImmoApp.Crm.PhoneDuplicates
import ImmoApp.Imports.IdentityResolution
import Mathlib.Tactic.NormNum

/-!
# The identity resolution cache

The chunks of an import share a cache of the records that their rows may be about, filled before a chunk and by the
calls.  A lookup of several phones files a record under the last phone that is tried against its column, so that another
phone can take it away; and the anchor of a row is remembered under the family name of the row, where a row without one
is scored by another name.

`answers_alone`: if neither happens, every answer is the one without a cache.
-/

namespace ImmoApp.Imports

open Crm List Option

structure IdentityResolutionCache where
  /-- How many entries each of the maps may have; 0 stands for 4096. -/
  maxEntries : ℤ
  rootPhoneCandidates : Dict (PersonTable × ℕ × String) (List DbDuplicateCandidate)
  childCandidates : Dict (ReviewEntity × ℕ × ℤ) (List Fields)
  childAnchorIds : Dict (String × ℕ × List String) ℤ

namespace IdentityResolutionCache

def empty (maxEntries : ℤ) : IdentityResolutionCache := ⟨maxEntries, [], [], []⟩

variable (c : IdentityResolutionCache)

def capacity : ℕ := (max 1 (if c.maxEntries = 0 then 4096 else c.maxEntries)).toNat

def setRootPhoneCandidates (key : PersonTable × ℕ × String) (candidates : List DbDuplicateCandidate) :
    IdentityResolutionCache :=
  { c with rootPhoneCandidates := Recency.remember c.capacity key candidates c.rootPhoneCandidates }

def setChildCandidates (key : ReviewEntity × ℕ × ℤ) (rows : List Fields) : IdentityResolutionCache :=
  { c with childCandidates := Recency.remember c.capacity key rows c.childCandidates }

def setChildAnchorId (key : String × ℕ × List String) (id : ℤ) : IdentityResolutionCache :=
  { c with childAnchorIds := Recency.remember c.capacity key id c.childAnchorIds }

end IdentityResolutionCache

/-! ### The calls -/

section Calls

variable (T : MatchTexts) (db : IdentityTables)

def rootCandidates (table : PersonTable) (agencyId : ℕ) (phone : String) :
    Option IdentityResolutionCache → List DbDuplicateCandidate × Option IdentityResolutionCache
  | none => (lookedUp T db table agencyId [phone] phone, none)
  | some c =>
    match Recency.retrieve (table, agencyId, phone) c.rootPhoneCandidates with
    | (some candidates, kept) => (candidates, some { c with rootPhoneCandidates := kept })
    | (none, _) =>
      let candidates := lookedUp T db table agencyId [phone] phone
      (candidates, some (c.setRootPhoneCandidates (table, agencyId, phone) candidates))

def resolveRootMatches (table : PersonTable) (agencyId : ℕ) (row : Fields) (cache : Option IdentityResolutionCache) :
    ResolutionResult × Option IdentityResolutionCache :=
  let phone := rowPhone T row
  if phone = "" then ({}, cache)
  else
    let found := rootCandidates T db table agencyId phone cache
    (rootResult T table row found.1, found.2)

def queryChildCandidates (e : ReviewEntity) (agencyId : ℕ) (anchorId : ℤ) :
    Option IdentityResolutionCache → List Fields × Option IdentityResolutionCache
  | none => (queryChildren db e agencyId anchorId, none)
  | some c =>
    match Recency.retrieve (e, agencyId, anchorId) c.childCandidates with
    | (some rows, kept) => (rows, some { c with childCandidates := kept })
    | (none, _) =>
      let rows := queryChildren db e agencyId anchorId
      (rows, some (if (childTable db e).isSome then c.setChildCandidates (e, agencyId, anchorId) rows else c))

def resolveChildMatches (e : ReviewEntity) (agencyId : ℕ) (anchorId : ℤ) (row : Fields)
    (cache : Option IdentityResolutionCache) : ResolutionResult × Option IdentityResolutionCache :=
  if anchorId ≤ 0 then ({ suggestedAction := .reviewAmbiguous }, cache)
  else
    let found := queryChildCandidates db e agencyId anchorId cache
    (childResult T e row anchorId found.1, found.2)

def resolveExistingMatches (e : ReviewEntity) (agencyId : ℕ) (anchorId : ℤ) (row : Fields)
    (cache : Option IdentityResolutionCache) : ResolutionResult × Option IdentityResolutionCache :=
  match e with
  | .client => resolveRootMatches T db .clients agencyId row cache
  | .listing => resolveRootMatches T db .listings agencyId row cache
  | .demande | .offer => resolveChildMatches T db e agencyId anchorId row cache

def candidateAnchorKeys (row : Fields) : List String :=
  let phone := rowPhone T row
  let familyName := normalizeNameForMatch T (fieldOr row "family_name" (fieldOr row "name" (.str "")))
  (if phone = "" then [] else ["phone:" ++ phone, phone]) ++
    if familyName = "" then [] else ["name:" ++ familyName, familyName]

/-- What `resolve_child_anchor` is asked. -/
structure AnchorRequest where
  topologySide : String
  agencyId : ℕ
  row : Fields
  /-- The anchors of the rows that were imported before. -/
  localAnchorMap : Dict String ℤ

namespace AnchorRequest

variable (q : AnchorRequest)

def table : PersonTable := if q.topologySide = "client_side" then .clients else .listings

def explicitId : Option ℤ :=
  let v := fieldOr q.row (if q.topologySide = "client_side" then "client_id" else "listing_id") (.int 0)
  if v.truthy then v.toInt? else some 0

def localId : Option ℤ := (candidateAnchorKeys T q.row).findSome? q.localAnchorMap.get?

def key : String × ℕ × List String := (q.topologySide, q.agencyId, candidateAnchorKeys T q.row)

end AnchorRequest

/-- The anchor that the candidates give: the suggested one, 0 where there is none and -1 where it is not certain. -/
def anchorOfResult (r : ResolutionResult) : ℤ :=
  if r.suggestedAction = .updateExisting ∧ 0 < r.suggestedExistingId then r.suggestedExistingId
  else if r.candidateMatches.isEmpty then 0
  else -1

/-- `resolve_child_anchor`, none where the identifier of the row is no number. -/
def resolveChildAnchor (q : AnchorRequest) (cache : Option IdentityResolutionCache) :
    Option (ℤ × Option IdentityResolutionCache) :=
  q.explicitId.map fun explicitId =>
    if 0 < explicitId then (explicitId, cache)
    else
      match q.localId T, cache with
      | some id, _ => (id, cache)
      | none, none => (anchorOfResult (resolveRootMatches T db q.table q.agencyId q.row none).1, none)
      | none, some c =>
        match Recency.retrieve (q.key T) c.childAnchorIds with
        | (some id, kept) => (id, some { c with childAnchorIds := kept })
        | (none, _) =>
          let resolved := resolveRootMatches T db q.table q.agencyId q.row (some c)
          (anchorOfResult resolved.1, resolved.2.map fun c => c.setChildAnchorId (q.key T) (anchorOfResult resolved.1))

/-- `_table_for_entity`, none where it raises. -/
def tableForEntity : ReviewEntity → Option PersonTable
  | .client => some .clients
  | .listing => some .listings
  | .demande | .offer => none

def missingPhones (c : IdentityResolutionCache) (e : ReviewEntity) (agencyId : ℕ) (rows : List Fields) :
    List String :=
  ((rows.map (rowPhone T)).filter fun phone => phone ≠ "").eraseDups.filter fun phone =>
    !(tableForEntity e).any fun table => (c.rootPhoneCandidates.get? (table, agencyId, phone)).isSome

/-- `prefetch_root_match_cache`, none where it raises. -/
def prefetchRootMatchCache (c : IdentityResolutionCache) (e : ReviewEntity) (agencyId : ℕ) (rows : List Fields) :
    Option IdentityResolutionCache :=
  let missing := missingPhones T c e agencyId rows
  if missing = [] then some c
  else (tableForEntity e).map fun table => missing.foldl (fun c phone =>
    c.setRootPhoneCandidates (table, agencyId, phone) (lookedUp T db table agencyId missing phone)) c

def missingAnchorIds (c : IdentityResolutionCache) (e : ReviewEntity) (agencyId : ℕ) (anchorIds : List ℤ) : List ℤ :=
  sortedSet (fun a b => a ≤ b) (anchorIds.filter fun id =>
    decide (0 < id) && (c.childCandidates.get? (e, agencyId, id)).isNone)

def prefetchChildMatchCache (c : IdentityResolutionCache) (e : ReviewEntity) (agencyId : ℕ) (anchorIds : List ℤ) :
    IdentityResolutionCache :=
  let missing := missingAnchorIds c e agencyId anchorIds
  match childTable db e with
  | none => c
  | some children =>
    let rows := queryAllChildren e children agencyId missing
    missing.foldl (fun c id => c.setChildCandidates (e, agencyId, id) ((rows.filter fun r => r.1 = id).map Prod.snd)) c

inductive IdentityCall where
  | prefetchRoot (e : ReviewEntity) (agencyId : ℕ) (rows : List Fields)
  | prefetchChild (e : ReviewEntity) (agencyId : ℕ) (anchorIds : List ℤ)
  | resolveExisting (e : ReviewEntity) (agencyId : ℕ) (anchorId : ℤ) (row : Fields)
  | resolveAnchor (q : AnchorRequest)

inductive IdentityAnswer where
  | done
  | resolved (r : ResolutionResult)
  | anchor (id : ℤ)
  | raised

namespace IdentityCall

def perform (c : IdentityResolutionCache) : IdentityCall → IdentityAnswer × IdentityResolutionCache
  | .prefetchRoot e agencyId rows =>
    match prefetchRootMatchCache T db c e agencyId rows with
    | none => (.raised, c)
    | some c' => (.done, c')
  | .prefetchChild e agencyId anchorIds => (.done, prefetchChildMatchCache db c e agencyId anchorIds)
  | .resolveExisting e agencyId anchorId row =>
    let r := resolveExistingMatches T db e agencyId anchorId row (some c)
    (.resolved r.1, r.2.getD c)
  | .resolveAnchor q =>
    match resolveChildAnchor T db q (some c) with
    | none => (.raised, c)
    | some r => (.anchor r.1, r.2.getD c)

/-- What the call returns without a cache; only the calls that resolve something can do without. -/
def alone : IdentityCall → Option IdentityAnswer
  | .prefetchRoot .. | .prefetchChild .. => none
  | .resolveExisting e agencyId anchorId row =>
    some (.resolved (resolveExistingMatches T db e agencyId anchorId row none).1)
  | .resolveAnchor q =>
    some (match resolveChildAnchor T db q none with
      | none => .raised
      | some r => .anchor r.1)

def step (c : IdentityResolutionCache) (call : IdentityCall) : Option IdentityResolutionCache :=
  some (call.perform T db c).2

end IdentityCall

def answers : IdentityResolutionCache → List IdentityCall → List IdentityAnswer
  | _, [] => []
  | c, call :: calls => (call.perform T db c).1 :: answers (call.perform T db c).2 calls

/-- No phone of a lookup takes a record from another: a record is filed under a phone exactly if it is found by a
lookup of that phone alone. -/
def PhonesApart (table : PersonTable) (agencyId : ℕ) (phones : List String) : Prop :=
  ∀ phone ∈ phones, ∀ id r, db.people.get? (table, id) = some r → r.live = true → r.agencyId = agencyId →
    (lastTrying T.backend T.env agencyId (normalForms T.backend phones) r.phone = some phone ↔
      lastTrying T.backend T.env agencyId (normalForms T.backend [phone]) r.phone = some phone)

/-- The phones that a call looks up together do not take records from each other. -/
def IdentityCall.PhonesApart (c : IdentityResolutionCache) : IdentityCall → Prop
  | .prefetchRoot e agencyId rows =>
    ∀ table, tableForEntity e = some table →
      Imports.PhonesApart T db table agencyId (missingPhones T c e agencyId rows)
  | _ => True

/-- The anchor of the row is neither named by it nor known from the rows before. -/
def AnchorRequest.Asks (q : AnchorRequest) : Prop := (∃ id ≤ 0, q.explicitId = some id) ∧ q.localId T = none

/-- If the anchors of the rows are remembered under one key, and the rows have a phone, they are scored under one
name. -/
def AnchorRequest.SameName (q q' : AnchorRequest) : Prop :=
  q.key T = q'.key T → rowPhone T q.row ≠ "" → scoredName T q.row = scoredName T q'.row

def IdentityCall.Agree (call call' : IdentityCall) : Prop :=
  ∀ q q', call = .resolveAnchor q → call' = .resolveAnchor q' → q.Asks T → q'.Asks T → q.SameName T q'

def AnchorRequest.aloneAnchor (q : AnchorRequest) : ℤ :=
  anchorOfResult (resolveRootMatches T db q.table q.agencyId q.row none).1

/-- Every entry of the cache is what its key gives without one, where an anchor is that of one of the requests. -/
structure IdentityResolutionCache.Faithful (asked : AnchorRequest → Prop) (c : IdentityResolutionCache) : Prop where
  roots : Recency.Holds (fun key candidates => candidates.Perm (lookedUp T db key.1 key.2.1 [key.2.2] key.2.2))
    c.rootPhoneCandidates
  children : Recency.Holds (fun key rows => rows = queryChildren db key.1 key.2.1 key.2.2) c.childCandidates
  anchors : Recency.Holds (fun key id => ∃ q, asked q ∧ q.key T = key ∧ id = q.aloneAnchor T db) c.childAnchorIds

end Calls

variable {T : MatchTexts} {db : IdentityTables} {asked asked' : AnchorRequest → Prop} {c : IdentityResolutionCache}

namespace IdentityResolutionCache

variable (T db asked) in
lemma Faithful.empty (maxEntries : ℤ) : (IdentityResolutionCache.empty maxEntries).Faithful T db asked :=
  ⟨Recency.holds_nil, Recency.holds_nil, Recency.holds_nil⟩

section

variable (h : c.Faithful T db asked)
include h

lemma Faithful.mono (hsub : ∀ q, asked q → asked' q) : c.Faithful T db asked' :=
  ⟨h.roots, h.children, h.anchors.mono fun _ _ ⟨q, hq, hkey, hid⟩ => ⟨q, hsub q hq, hkey, hid⟩⟩

lemma Faithful.setRootPhoneCandidates {table : PersonTable} {agencyId : ℕ} {phone : String}
    {candidates : List DbDuplicateCandidate}
    (hcandidates : candidates.Perm (lookedUp T db table agencyId [phone] phone)) :
    (c.setRootPhoneCandidates (table, agencyId, phone) candidates).Faithful T db asked :=
  ⟨h.roots.remember c.capacity hcandidates, h.children, h.anchors⟩

lemma Faithful.setChildCandidates (e : ReviewEntity) (agencyId : ℕ) (anchorId : ℤ) :
    (c.setChildCandidates (e, agencyId, anchorId) (queryChildren db e agencyId anchorId)).Faithful T db asked :=
  ⟨h.roots, h.children.remember c.capacity rfl, h.anchors⟩

lemma Faithful.setChildAnchorId {q : AnchorRequest} (hq : asked q) :
    (c.setChildAnchorId (q.key T) (q.aloneAnchor T db)).Faithful T db asked :=
  ⟨h.roots, h.children, h.anchors.remember c.capacity ⟨q, hq, rfl, rfl⟩⟩

end

end IdentityResolutionCache

open IdentityResolutionCache

/-! ### Single calls -/

/-- A cache that is faithful after the call, whose answer is the one without it. -/
def Keeps (T : MatchTexts) (db : IdentityTables) (asked : AnchorRequest → Prop) {α : Type*}
    (answer : α × Option IdentityResolutionCache) (alone : α) : Prop :=
  answer.1 = alone ∧ ∃ c, answer.2 = some c ∧ c.Faithful T db asked

section

variable (h : c.Faithful T db asked)
include h

lemma keeps_mk {α : Type*} {answer : α} : Keeps T db asked (answer, some c) answer :=
  ⟨rfl, c, rfl, h⟩

lemma rootCandidates_keeps (table : PersonTable) (agencyId : ℕ) (phone : String) :
    (rootCandidates T db table agencyId phone (some c)).1.Perm (lookedUp T db table agencyId [phone] phone) ∧
      ∃ c', (rootCandidates T db table agencyId phone (some c)).2 = some c' ∧ c'.Faithful T db asked := by
  have hrecall := h.roots.retrieve (table, agencyId, phone)
  have hrecalled := fun candidates => h.roots.recalled (k := (table, agencyId, phone)) (v := candidates)
  unfold rootCandidates
  dsimp only
  split
  · next candidates kept heq =>
    rw [heq] at hrecall hrecalled
    exact ⟨hrecalled candidates rfl, _, rfl, hrecall, h.children, h.anchors⟩
  · exact ⟨List.Perm.refl _, _, rfl, h.setRootPhoneCandidates (List.Perm.refl _)⟩

lemma resolveRootMatches_keeps (table : PersonTable) (agencyId : ℕ) (row : Fields) :
    Keeps T db asked (resolveRootMatches T db table agencyId row (some c))
      (resolveRootMatches T db table agencyId row none).1 := by
  unfold resolveRootMatches
  dsimp only
  split
  · exact keeps_mk h
  · obtain ⟨hperm, hkeeps⟩ := rootCandidates_keeps h table agencyId (rowPhone T row)
    refine ⟨rootResult_perm hperm ?_ table row, hkeeps⟩
    exact (hperm.map _).nodup_iff.mpr (nodup_lookedUp table agencyId _ _)

variable (e : ReviewEntity)

lemma queryChildCandidates_keeps (agencyId : ℕ) (anchorId : ℤ) :
    Keeps T db asked (queryChildCandidates db e agencyId anchorId (some c)) (queryChildren db e agencyId anchorId) := by
  have hrecall := h.children.retrieve (e, agencyId, anchorId)
  have hrecalled := fun rows => h.children.recalled (k := (e, agencyId, anchorId)) (v := rows)
  unfold queryChildCandidates
  dsimp only
  split
  · next rows kept heq =>
    rw [heq] at hrecall hrecalled
    exact ⟨hrecalled rows rfl, _, rfl, h.roots, hrecall, h.anchors⟩
  · refine ⟨rfl, _, rfl, ?_⟩
    split
    · exact h.setChildCandidates e agencyId anchorId
    · exact h

lemma resolveChildMatches_keeps (agencyId : ℕ) (anchorId : ℤ) (row : Fields) :
    Keeps T db asked (resolveChildMatches T db e agencyId anchorId row (some c))
      (resolveChildMatches T db e agencyId anchorId row none).1 := by
  unfold resolveChildMatches
  split
  · exact keeps_mk h
  · obtain ⟨heq, hkeeps⟩ := queryChildCandidates_keeps h e agencyId anchorId
    exact ⟨congrArg (childResult T e row anchorId) heq, hkeeps⟩

lemma resolveExistingMatches_keeps (agencyId : ℕ) (anchorId : ℤ) (row : Fields) :
    Keeps T db asked (resolveExistingMatches T db e agencyId anchorId row (some c))
      (resolveExistingMatches T db e agencyId anchorId row none).1 := by
  cases e with
  | client => exact resolveRootMatches_keeps h .clients agencyId row
  | listing => exact resolveRootMatches_keeps h .listings agencyId row
  | demande => exact resolveChildMatches_keeps h .demande agencyId anchorId row
  | offer => exact resolveChildMatches_keeps h .offer agencyId anchorId row

end

/-! ### Anchors -/

variable {row row' : Fields} {agencyId : ℕ} {phones : List String} {phone : String}

lemma rowPhone_of_keys_of_ne (hphone : rowPhone T row ≠ "")
    (h : candidateAnchorKeys T row = candidateAnchorKeys T row') : rowPhone T row = rowPhone T row' := by
  have hmark : ∀ s t : String, "phone:" ++ s ≠ "name:" ++ t := fun s t heq => by
    have hlist := congrArg String.toList heq
    rw [String.toList_append, String.toList_append] at hlist
    exact absurd (head_eq_of_cons_eq hlist) (by decide)
  unfold candidateAnchorKeys at h
  dsimp only at h
  rw [if_neg hphone] at h
  by_cases hphone' : rowPhone T row' = ""
  · rw [if_pos hphone', nil_append] at h
    split at h
    all_goals
      split at h
      · cases h
      · exact absurd (head_eq_of_cons_eq h) (hmark _ _)
  · rw [if_neg hphone'] at h
    exact (String.append_right_inj _).mp (head_eq_of_cons_eq h)

lemma rowPhone_of_keys (h : candidateAnchorKeys T row = candidateAnchorKeys T row') :
    rowPhone T row = rowPhone T row' := by
  by_cases hphone : rowPhone T row = ""
  · by_cases hphone' : rowPhone T row' = ""
    · rw [hphone, hphone']
    · exact (rowPhone_of_keys_of_ne hphone' h.symm).symm
  · exact rowPhone_of_keys_of_ne hphone h

lemma anchorOfResult_rootResult (hphone : rowPhone T row = rowPhone T row')
    (hname : scoredName T row = scoredName T row') (table : PersonTable) (candidates : List DbDuplicateCandidate) :
    anchorOfResult (rootResult T table row candidates) = anchorOfResult (rootResult T table row' candidates) := by
  unfold rootResult
  rw [hphone, hname]
  split
  · rfl
  · simp only [anchorOfResult, finalizeResult, isEmpty_map]

variable {q' : AnchorRequest}

lemma AnchorRequest.aloneAnchor_congr {q : AnchorRequest} (hkey : q.key T = q'.key T) (hname : q.SameName T q') :
    q.aloneAnchor T db = q'.aloneAnchor T db := by
  obtain ⟨hside, hrest⟩ := Prod.mk.inj hkey
  obtain ⟨hagency, hkeys⟩ := Prod.mk.inj hrest
  have hphone := rowPhone_of_keys hkeys
  have htable : q.table = q'.table := by
    unfold AnchorRequest.table
    rw [hside]
  unfold AnchorRequest.aloneAnchor resolveRootMatches
  dsimp only
  rw [htable, hagency, hphone]
  split
  · rfl
  · next hne => exact anchorOfResult_rootResult hphone (hname hkey (by rwa [hphone])) _ _

/-- `resolve_child_anchor` with a faithful cache, where the anchors that it remembers are those of rows of the same
name. -/
lemma resolveChildAnchor_keeps (h : c.Faithful T db asked) {q : AnchorRequest} {explicitId : ℤ}
    (hexplicit : q.explicitId = some explicitId) (hq : q.Asks T → asked q)
    (hname : q.Asks T → ∀ q', asked q' → q'.SameName T q) :
    ∃ answer alone, resolveChildAnchor T db q (some c) = some answer ∧ resolveChildAnchor T db q none = some alone ∧
      Keeps T db asked answer alone.1 := by
  unfold resolveChildAnchor
  rw [hexplicit, map_some, map_some]
  refine ⟨_, _, rfl, rfl, ?_⟩
  split
  · exact keeps_mk h
  · next hnonpos =>
    cases hlocal : q.localId T with
    | some => exact keeps_mk h
    | none =>
      have hasks : q.Asks T := ⟨⟨explicitId, not_lt.mp hnonpos, hexplicit⟩, hlocal⟩
      have hrecall := h.anchors.retrieve (q.key T)
      have hrecalled := fun id => h.anchors.recalled (k := q.key T) (v := id)
      dsimp only
      split
      · next id kept heq =>
        rw [heq] at hrecall hrecalled
        obtain ⟨q', hq', hkey, hid⟩ := hrecalled id rfl
        exact ⟨hid.trans (AnchorRequest.aloneAnchor_congr hkey (hname hasks q' hq')), _, rfl, h.roots, h.children,
          hrecall⟩
      · obtain ⟨heq, _, hc', hkeeps⟩ := resolveRootMatches_keeps h q.table q.agencyId q.row
        have halone : anchorOfResult (resolveRootMatches T db q.table q.agencyId q.row none).1 = q.aloneAnchor T db :=
          rfl
        rw [heq, hc', halone, map_some]
        exact keeps_mk (hkeeps.setChildAnchorId (hq hasks))

/-- What a lookup of phones that are apart files under a phone is what the lookup of that phone alone finds. -/
lemma lookedUp_perm {table : PersonTable} (hapart : PhonesApart T db table agencyId phones) (hmem : phone ∈ phones) :
    (lookedUp T db table agencyId phones phone).Perm (lookedUp T db table agencyId [phone] phone) := by
  refine (perm_ext_iff_of_nodup (nodup_lookedUp table agencyId _ _).of_map
    (nodup_lookedUp table agencyId _ _).of_map).mpr fun candidate => ?_
  rw [mem_lookedUp, mem_lookedUp]
  constructor
  · rintro ⟨id, r, hget, hlive, hagency, hlast, heq⟩
    exact ⟨id, r, hget, hlive, hagency, (hapart phone hmem id r hget hlive hagency).mp hlast, heq⟩
  · rintro ⟨id, r, hget, hlive, hagency, hlast, heq⟩
    exact ⟨id, r, hget, hlive, hagency, (hapart phone hmem id r hget hlive hagency).mpr hlast, heq⟩

lemma IdentityResolutionCache.Faithful.foldl {α : Type*} {set : IdentityResolutionCache → α → IdentityResolutionCache}
    {keys : List α} (hset : ∀ c, c.Faithful T db asked → ∀ key ∈ keys, (set c key).Faithful T db asked)
    (h : c.Faithful T db asked) : (keys.foldl set c).Faithful T db asked := by
  induction keys generalizing c with
  | nil => exact h
  | cons key _ ih =>
    exact ih (fun c hc key' hkey' => hset c hc key' (mem_cons_of_mem key hkey')) (hset c h key mem_cons_self)

lemma prefetchRootMatchCache_keeps (h : c.Faithful T db asked) {e : ReviewEntity} {rows : List Fields}
    (hapart : (IdentityCall.prefetchRoot e agencyId rows).PhonesApart T db c) {c' : IdentityResolutionCache}
    (hc' : prefetchRootMatchCache T db c e agencyId rows = some c') : c'.Faithful T db asked := by
  unfold prefetchRootMatchCache at hc'
  dsimp only at hc'
  split at hc'
  · obtain ⟨⟩ := hc'
    exact h
  · obtain ⟨table, htable, rfl⟩ := map_eq_some_iff.mp hc'
    exact h.foldl fun c hc phone hphone => hc.setRootPhoneCandidates (lookedUp_perm (hapart table htable) hphone)

lemma prefetchChildMatchCache_keeps (h : c.Faithful T db asked) (e : ReviewEntity) (agencyId : ℕ)
    (anchorIds : List ℤ) : (prefetchChildMatchCache db c e agencyId anchorIds).Faithful T db asked := by
  unfold prefetchChildMatchCache
  dsimp only
  split
  · exact h
  · next children htable =>
    refine h.foldl fun c hc anchorId hanchor => ?_
    rw [queryAllChildren_eq htable hanchor]
    exact hc.setChildCandidates e agencyId anchorId

/-! ### Runs -/

def AskedBy (T : MatchTexts) (calls : List IdentityCall) (q : AnchorRequest) : Prop :=
  IdentityCall.resolveAnchor q ∈ calls ∧ q.Asks T

lemma IdentityCall.perform_spec {before : List IdentityCall} {call : IdentityCall}
    (h : c.Faithful T db (AskedBy T before)) (hapart : call.PhonesApart T db c)
    (hagree : ∀ call' ∈ before, call'.Agree T call) :
    (∀ alone, call.alone T db = some alone → (call.perform T db c).1 = alone) ∧
      (call.perform T db c).2.Faithful T db (AskedBy T (before ++ [call])) := by
  have hmono : c.Faithful T db (AskedBy T (before ++ [call])) :=
    h.mono fun q hq => ⟨mem_append_left _ hq.1, hq.2⟩
  cases call with
  | prefetchRoot =>
    refine ⟨fun alone halone => absurd halone.symm (some_ne_none alone), ?_⟩
    unfold IdentityCall.perform
    dsimp only
    split
    · exact hmono
    · next c' hc' => exact prefetchRootMatchCache_keeps hmono hapart hc'
  | prefetchChild e agencyId anchorIds =>
    exact ⟨fun alone halone => absurd halone.symm (some_ne_none alone),
      prefetchChildMatchCache_keeps hmono e agencyId anchorIds⟩
  | resolveExisting e agencyId anchorId row =>
    obtain ⟨heq, _, hc', hkeeps⟩ := resolveExistingMatches_keeps hmono e agencyId anchorId row
    unfold IdentityCall.perform IdentityCall.alone
    dsimp only
    rw [heq, hc']
    exact ⟨fun alone halone => some.inj halone, hkeeps⟩
  | resolveAnchor q =>
    unfold IdentityCall.perform IdentityCall.alone
    dsimp only
    cases hexplicit : q.explicitId with
    | none =>
      have hnone : ∀ cache, resolveChildAnchor T db q cache = none := fun cache => by
        unfold resolveChildAnchor
        rw [hexplicit]
        rfl
      rw [hnone, hnone]
      exact ⟨fun alone halone => some.inj halone, hmono⟩
    | some =>
      have hname : q.Asks T → ∀ q', AskedBy T (before ++ [.resolveAnchor q]) q' → q'.SameName T q := by
        rintro hasks q' ⟨hmem, hasks'⟩
        rcases mem_append.mp hmem with hmem | hmem
        · exact hagree _ hmem q' q rfl rfl hasks' hasks
        · obtain rfl := IdentityCall.resolveAnchor.inj (mem_singleton.mp hmem)
          exact fun _ _ => rfl
      obtain ⟨_, alone, hanswer, halone, heq, _, hc', hkeeps⟩ := resolveChildAnchor_keeps hmono hexplicit
        (fun hasks => ⟨mem_append_right _ mem_cons_self, hasks⟩) hname
      rw [hanswer, halone]
      dsimp only
      rw [heq, hc']
      exact ⟨fun alone halone => some.inj halone, hkeeps⟩

/-- For every database, size of the cache and sequence of calls: if no phone of a lookup takes a record from another,
and the anchors that are remembered under one key are those of rows with one name, every call that resolves something
returns what it returns without a cache. -/
theorem answers_alone (T : MatchTexts) (db : IdentityTables) (maxEntries : ℤ) (calls : List IdentityCall)
    (hapart : Guarded (IdentityCall.step T db) (fun c call => call.PhonesApart T db c) (.empty maxEntries) calls)
    (hagree : calls.Pairwise (IdentityCall.Agree T)) :
    List.Forall₂ (fun call answer => ∀ alone, call.alone T db = some alone → answer = alone) calls
      (answers T db (.empty maxEntries) calls) := by
  suffices hrun : ∀ (before : List IdentityCall) (c : IdentityResolutionCache), c.Faithful T db (AskedBy T before) →
      Guarded (IdentityCall.step T db) (fun c call => call.PhonesApart T db c) c calls →
      (before ++ calls).Pairwise (IdentityCall.Agree T) →
      List.Forall₂ (fun call answer => ∀ alone, call.alone T db = some alone → answer = alone) calls
        (answers T db c calls) from
    hrun [] _ (Faithful.empty _ _ _ maxEntries) hapart hagree
  clear hapart hagree
  induction calls with
  | nil => exact fun before c _ _ _ => List.Forall₂.nil
  | cons call _ ih =>
    intro before c hc hapart hagree
    obtain ⟨-, -, hcross⟩ := pairwise_append.mp hagree
    obtain ⟨hanswer, hnext⟩ := IdentityCall.perform_spec hc hapart.1 fun call' hcall' =>
      hcross call' hcall' call mem_cons_self
    refine List.Forall₂.cons hanswer (ih (before ++ [call]) _ hnext (hapart.2 _ rfl) ?_)
    rw [append_assoc]
    exact hagree

/-! ### A client and two names -/

/-- Texts in lower case, where names are alike or not. -/
def plainTexts : MatchTexts where
  backend := markedBackend
  env := oneKey
  isAlnum := Char.isAlphanum
  display := fun _ => ""
  ratio := fun _ _ => 2 / 7
  overlaps := fun _ _ => false
  withinBand := fun _ _ => false
  maxDuplicateCandidates := 5

def aliOnly : IdentityTables := ⟨oneClient "021234567", fun _ => ⟨1, "ali", "", "active"⟩, .empty, .empty⟩

def namedRow (phone name : String) : Fields := [("phone", .str phone), ("family_name", .str ""), ("name", .str name)]

def askFor (name : String) : AnchorRequest := ⟨"client_side", 1, namedRow "021 23 45 67" name, []⟩

variable (name : String)

lemma asks_askFor : (askFor name).Asks plainTexts := ⟨⟨0, le_refl 0, rfl⟩, by
  unfold AnchorRequest.localId askFor
  exact findSome?_eq_none_iff.mpr fun _ _ => rfl⟩

lemma lookedUp_aliOnly {last : String}
    (hlast : lastTrying markedBackend oneKey 1 (normalForms markedBackend phones) "021234567" = some last) :
    lookedUp plainTexts aliOnly .clients 1 phones phone =
      if phone = last then [candidateOf aliOnly .clients phone 1] else [] := by
  have hmem : ∀ c, c ∈ lookedUp plainTexts aliOnly .clients 1 phones phone ↔
      last = phone ∧ candidateOf aliOnly .clients phone 1 = c := by
    intro c
    rw [mem_lookedUp]
    constructor
    · rintro ⟨id, r, hget, hlive, hagency, hfiled, rfl⟩
      have hphone : r.phone = "021234567" := liveIn_oneClient ⟨id, hget, hlive, hagency⟩
      have hid : id = 1 := by
        by_contra hne
        change (Keyed.empty.set _ _).get? _ = _ at hget
        rw [Keyed.get?_set, if_neg fun heq => hne (Prod.mk.inj heq).2] at hget
        cases hget
      rw [hphone] at hfiled
      exact ⟨some.inj (hlast.symm.trans hfiled), by rw [hid]⟩
    · rintro ⟨rfl, rfl⟩
      exact ⟨1, _, rfl, rfl, rfl, hlast, rfl⟩
  split
  · next heq =>
    refine perm_singleton.mp ((perm_ext_iff_of_nodup (nodup_lookedUp _ _ _ _).of_map
      (nodup_singleton _)).mpr fun c => ?_)
    rw [hmem, mem_singleton, and_iff_right heq.symm, eq_comm]
  · next hne => exact eq_nil_iff_forall_not_mem.mpr fun c hc => hne ((hmem c).mp hc).1.symm

lemma landline_alone : lastTrying markedBackend oneKey 1 (normalForms markedBackend ["021234567"]) "021234567" =
    some "021234567" := by
  have hforms : normalForms markedBackend ["021234567"] = ["021234567"] := by decide
  have htries : Tries markedBackend oneKey 1 "021234567" "021234567" := by
    refine .inr (mem_sortedSet.mpr ?_)
    decide
  have hlast : ["021234567"].filter (fun phone => decide (Tries markedBackend oneKey 1 phone "021234567")) =
      ["021234567"] := filter_cons_of_pos (decide_eq_true htries)
  rw [lastTrying, hforms, hlast]
  rfl

lemma rowPhone_namedRow (phone name : String) :
    rowPhone plainTexts (namedRow phone name) = normalizePhoneForDedup markedBackend phone := by
  have htext : plainTexts.textOf (fieldOr (namedRow phone name) "phone" (.str "")) = phone := by
    change (if (Json.str phone).truthy then phone else "") = phone
    by_cases hphone : phone = "" <;> simp [Json.truthy, hphone]
  rw [rowPhone, htext]
  rfl

lemma resolveRootMatches_namedRow :
    (resolveRootMatches plainTexts aliOnly .clients 1 (namedRow "021 23 45 67" name) none).1 =
      rootResult plainTexts .clients (namedRow "021 23 45 67" name) [candidateOf aliOnly .clients "021234567" 1] := by
  have hnormal : normalizePhoneForDedup markedBackend "021 23 45 67" = "021234567" := rfl
  unfold resolveRootMatches rootCandidates
  dsimp only
  rw [rowPhone_namedRow, hnormal, if_neg (by decide), lookedUp_aliOnly landline_alone, if_pos rfl]

lemma aloneAnchor_askFor : (askFor name).aloneAnchor plainTexts aliOnly =
    anchorOfResult (rootResult plainTexts .clients (namedRow "021 23 45 67" name)
      [candidateOf aliOnly .clients "021234567" 1]) :=
  congrArg anchorOfResult (resolveRootMatches_namedRow name)

lemma AnchorRequest.Asks.alone {q : AnchorRequest} (hq : q.Asks T) :
    (IdentityCall.resolveAnchor q).alone T db = some (.anchor (q.aloneAnchor T db)) := by
  obtain ⟨⟨_, hnonpos, hexplicit⟩, hlocal⟩ := hq
  unfold IdentityCall.alone resolveChildAnchor
  dsimp only
  rw [hexplicit, map_some, if_neg (not_lt.mpr hnonpos), hlocal]
  dsimp only
  rw [AnchorRequest.aloneAnchor]

lemma answers_same_key (T : MatchTexts) (db : IdentityTables) {maxEntries : ℤ} {q : AnchorRequest}
    (hq : q.Asks T) (hq' : q'.Asks T) (hkey : q'.key T = q.key T) :
    answers T db (.empty maxEntries) [.resolveAnchor q, .resolveAnchor q'] =
      [.anchor (q.aloneAnchor T db), .anchor (q.aloneAnchor T db)] := by
  obtain ⟨⟨_, hnonpos, hexplicit⟩, hlocal⟩ := hq
  obtain ⟨⟨_, hnonpos', hexplicit'⟩, hlocal'⟩ := hq'
  obtain ⟨heq, c, hc, -⟩ := resolveRootMatches_keeps (Faithful.empty T db (fun _ => False) maxEntries) q.table
    q.agencyId q.row
  have hfirst : IdentityCall.perform T db (.empty maxEntries) (.resolveAnchor q) =
      (.anchor (q.aloneAnchor T db), c.setChildAnchorId (q.key T) (q.aloneAnchor T db)) := by
    have hmiss : Recency.retrieve (q.key T) (IdentityResolutionCache.empty maxEntries).childAnchorIds = (none, []) := rfl
    unfold IdentityCall.perform resolveChildAnchor
    dsimp only
    rw [hexplicit, map_some, if_neg (not_lt.mpr hnonpos), hlocal]
    dsimp only
    rw [hmiss]
    dsimp only
    rw [heq, hc]
    rfl
  have hcapacity : 0 < c.capacity := by
    unfold IdentityResolutionCache.capacity
    omega
  have hsecond : (IdentityCall.perform T db (c.setChildAnchorId (q.key T) (q.aloneAnchor T db))
      (.resolveAnchor q')).1 = .anchor (q.aloneAnchor T db) := by
    have hkept : ∃ kept, Recency.retrieve (q'.key T)
        (c.setChildAnchorId (q.key T) (q.aloneAnchor T db)).childAnchorIds = (some (q.aloneAnchor T db), kept) := by
      rw [hkey, Recency.retrieve, IdentityResolutionCache.setChildAnchorId]
      dsimp only
      rw [Recency.get?_remember_self hcapacity]
      exact ⟨_, rfl⟩
    obtain ⟨_, hkept⟩ := hkept
    unfold IdentityCall.perform resolveChildAnchor
    dsimp only
    rw [hexplicit', map_some, if_neg (not_lt.mpr hnonpos'), hlocal']
    dsimp only
    rw [hkept]
  rw [answers, answers, answers, hfirst, hsecond]

def oneRow : List IdentityCall :=
  [.prefetchRoot .client 1 [namedRow "021 23 45 67" "ali"], .resolveAnchor (askFor "ali"),
    .resolveAnchor (askFor "ali")]

/-- `answers_alone` for a row that is resolved twice. -/
theorem answers_alone_twice :
    List.Forall₂ (fun call answer => ∀ alone, call.alone plainTexts aliOnly = some alone → answer = alone) oneRow
      (answers plainTexts aliOnly (.empty 1) oneRow) := by
  refine answers_alone plainTexts aliOnly 1 oneRow
    ⟨?_, fun t _ => ⟨trivial, fun t _ => ⟨trivial, fun t _ => trivial⟩⟩⟩ ?_
  · rintro _ _
    have hmissing : missingPhones plainTexts (.empty 1) .client 1 [namedRow "021 23 45 67" "ali"] = ["021234567"] := by
      unfold missingPhones
      rw [map_singleton, rowPhone_namedRow]
      rfl
    rw [hmissing]
    rintro _ hphone _ r - - -
    rw [mem_singleton.mp hphone]
  · have hsame : ∀ call ∈ oneRow, ∀ q, call = .resolveAnchor q → q = askFor "ali" := by
      intro call hcall q hq
      simp only [oneRow, mem_cons, not_mem_nil, or_false] at hcall
      rcases hcall with rfl | rfl | rfl
      · cases hq
      · exact (IdentityCall.resolveAnchor.inj hq).symm
      · exact (IdentityCall.resolveAnchor.inj hq).symm
    refine pairwise_of_forall_mem_list ?_
    intro call hcall call' hcall' q q' hq hq' _ _ _ _
    rw [hsame call hcall q hq, hsame call' hcall' q' hq']

lemma aloneAnchor_zora : (askFor "zora").aloneAnchor plainTexts aliOnly = -1 := by
  have hsimilarity : nameSimilarity plainTexts "zora" "ali" = 2 / 7 := by
    have hratio : plainTexts.ratio "zora" "ali" = 2 / 7 := rfl
    rw [nameSimilarity, if_neg (by decide), if_neg (by decide), hratio]
    norm_num
  have hname : normalizeNameForMatch plainTexts (.str "ali") = "ali" := rfl
  have hscore : scoreCandidate plainTexts "021234567" "zora" (candidateOf aliOnly .clients "021234567" 1) =
      { candidateOf aliOnly .clients "021234567" 1 with
        matchConfidence := 770, matchReasons := ["same phone", "active record"] } := by
    have hfamily : (candidateOf aliOnly .clients "021234567" 1).familyName = "ali" := rfl
    unfold scoreCandidate
    dsimp only
    have hvery : decide ((94 / 100 : ℚ) ≤ 2 / 7) = false := by norm_num
    have hsimilar : decide ((84 / 100 : ℚ) ≤ 2 / 7) = false := by norm_num
    rw [hfamily, hname, hsimilarity, hvery, hsimilar]
    rfl
  have hnormal : normalizePhoneForDedup markedBackend "021 23 45 67" = "021234567" := rfl
  have hscored : scoredName plainTexts (namedRow "021 23 45 67" "zora") = "zora" := rfl
  rw [aloneAnchor_askFor, rootResult, scoreCandidatesForRow, rowPhone_namedRow, hnormal, hscored, map_singleton,
    hscore]
  rfl

/-- A row without a family name gets the anchor of a row with the same phone and another name; and a row whose phone
is looked up together with one that contains it is not found. -/
theorem cache_changes_answers :
    answers plainTexts aliOnly (.empty 4096) [.resolveAnchor (askFor "ali"), .resolveAnchor (askFor "zora")] =
        [.anchor 1, .anchor 1] ∧
      (IdentityCall.resolveAnchor (askFor "zora")).alone plainTexts aliOnly = some (.anchor (-1)) ∧
      answers plainTexts aliOnly (.empty 4096) [.prefetchRoot .client 1 [namedRow "021 23 45 67" "ali",
        namedRow "0021234567" "zora"], .resolveExisting .client 1 0 (namedRow "021 23 45 67" "ali")] =
        [.done, .resolved {}] ∧
      ∃ r, (IdentityCall.resolveExisting .client 1 0 (namedRow "021 23 45 67" "ali")).alone plainTexts aliOnly =
        some (.resolved r) ∧ r.suggestedAction = .updateExisting ∧ r.suggestedExistingId = 1 := by
  have hnormal : normalizePhoneForDedup markedBackend "021 23 45 67" = "021234567" := rfl
  refine ⟨?_, ?_, ?_, rootResult plainTexts .clients (namedRow "021 23 45 67" "ali")
    [candidateOf aliOnly .clients "021234567" 1], ?_, rfl, rfl⟩
  · have hali : (askFor "ali").aloneAnchor plainTexts aliOnly = 1 := by
      rw [aloneAnchor_askFor]
      rfl
    rw [answers_same_key plainTexts aliOnly (asks_askFor "ali") (asks_askFor "zora") rfl, hali]
  · rw [(asks_askFor "zora").alone, aloneAnchor_zora]
  · have hmissing : missingPhones plainTexts (.empty 4096) .client 1 [namedRow "021 23 45 67" "ali",
        namedRow "0021234567" "zora"] = ["021234567", "0021234567"] := by
      unfold missingPhones
      rw [map_cons, map_singleton, rowPhone_namedRow, rowPhone_namedRow, hnormal]
      rfl
    have hforms : normalForms markedBackend ["021234567", "0021234567"] = ["021234567", "0021234567"] := by decide
    have hlast := landline_taken
    rw [← hforms] at hlast
    have hfirst : lookedUp plainTexts aliOnly .clients 1 ["021234567", "0021234567"] "021234567" = [] := by
      rw [lookedUp_aliOnly hlast, if_neg (by decide)]
    -- nothing is remembered of the landline
    obtain ⟨c, hc, hkept⟩ : ∃ c, IdentityCall.perform plainTexts aliOnly (.empty 4096) (.prefetchRoot .client 1
        [namedRow "021 23 45 67" "ali", namedRow "0021234567" "zora"]) = (.done, c) ∧
          c.rootPhoneCandidates.get? (.clients, 1, "021234567") = some [] := by
      unfold IdentityCall.perform prefetchRootMatchCache
      dsimp only
      rw [hmissing, if_neg (by decide)]
      refine ⟨_, rfl, ?_⟩
      dsimp only
      rw [foldl_cons, foldl_cons, foldl_nil, hfirst]
      rfl
    have hresolved : (resolveExistingMatches plainTexts aliOnly .client 1 0 (namedRow "021 23 45 67" "ali")
        (some c)).1 = {} := by
      unfold resolveExistingMatches resolveRootMatches rootCandidates Recency.retrieve
      dsimp only
      rw [rowPhone_namedRow, hnormal, if_neg (by decide), hkept]
      rfl
    rw [answers, answers, answers, hc, IdentityCall.perform, hresolved]
  · rw [← resolveRootMatches_namedRow]
    rfl

end ImmoApp.Imports
