import ImmoApp.Crm.Tables
import ImmoApp.Foundation.Text
import Mathlib.Data.List.Sort
import Mathlib.Data.List.Dedup

/-!
# Location junctions

A demande names several locations in one text, an offer one.  `populate_location_links` splits the text
it is given into normalized tokens, gives each token an id in `locations` and replaces the links of the
record by the ids of its tokens.  The agency of a link, which only row-level security reads, is left out.
-/

namespace ImmoApp.Crm

open List Option

variable (unicode : Unicode)

def removeDiacritics (s : String) : String :=
  String.ofList (((unicode.nfkd s).toList.filter fun c => !unicode.combining c).map fun c =>
    if c = 'ı' then 'i' else c)

def normText (s : String) : String := removeDiacritics unicode (unicode.lower (strip s))

/-- `split_location_tokens`.  The source splits at runs of separators; the empty parts between the
separators of one run are dropped here with the other blank ones. -/
def splitLocationTokens (s : String) : List String :=
  ((splitOnAny (fun c => c == ';' || c == '\n' || c == '|') s).map strip).filter fun p => p ≠ ""

/-- `sorted(set(·))`. -/
def sortedSet {α : Type*} [DecidableEq α] (le : α → α → Prop) [DecidableRel le] (l : List α) :
    List α := l.dedup.insertionSort le

def normalizeLocationTokens (s : String) : List String :=
  sortedSet (fun a b => a ≤ b) (((splitLocationTokens s).map (normText unicode)).filter
    fun token => token ≠ "")

def Locations.id? (l : Locations) (token : String) : Option ℕ :=
  (l.rows.find? fun e => e.2 == token).map Prod.fst

/-- `INSERT … ON CONFLICT DO NOTHING`: a conflict uses up an id of the sequence. -/
def Locations.insert (l : Locations) (token : String) : Locations :=
  if h : token ∈ l.rows.map Prod.snd then
    { l with
      nextId := l.nextId + 1
      fresh := fun e he => Nat.lt_succ_of_lt (l.fresh e he) }
  else
    { rows := l.rows ++ [(l.nextId, token)]
      nextId := l.nextId + 1
      keyed := by
        rw [List.map_append, List.nodup_append]
        refine ⟨l.keyed, by simp, ?_⟩
        intro id hid id' hid' heq
        obtain ⟨e, he, rfl⟩ := List.mem_map.mp hid
        have hnext : id' = l.nextId := by simpa using hid'
        have hlt := l.fresh e he
        omega
      unique := by
        rw [List.map_append, List.nodup_append]
        refine ⟨l.unique, by simp, ?_⟩
        rintro norm hnorm _ hnorm' rfl
        have hnew : norm = token := by simpa using hnorm'
        exact h (hnew ▸ hnorm)
      fresh := by
        intro e he
        rcases List.mem_append.mp he with he | he
        · exact Nat.lt_succ_of_lt (l.fresh e he)
        · rw [List.mem_singleton.mp he]
          exact Nat.lt_succ_self _ }

/-- `_load_location_ids`: every token gets an id. -/
def loadLocationIds (l : Locations) (uniqueNorms : List String) : Locations :=
  uniqueNorms.foldl Locations.insert l

/-- `_bulk_insert_links`: the links of records that exist, without those that are there. -/
def bulkInsertLinks (parents : List ℕ) (links new : List (ℕ × ℕ)) : List (ℕ × ℕ) :=
  links ++ new.filter fun link => decide (link.1 ∈ parents) && decide (link ∉ links)

/-- `populate_location_links_batch` for one junction table. -/
def populateLocationLinksBatch (parents : List ℕ) (entityLocations : List (ℕ × String))
    (clearExisting : Bool) (locations : Locations) (links : List (ℕ × ℕ)) :
    Locations × List (ℕ × ℕ) :=
  let validRows := entityLocations.filter fun e => e.1 ≠ 0
  if validRows = [] then (locations, links) else
  let links := if clearExisting then links.filter fun link => link.1 ∉ validRows.map Prod.fst
    else links
  let tokensByEntity := validRows.map fun e => (e.1, normalizeLocationTokens unicode e.2)
  let uniqueNorms := sortedSet (fun a b => a ≤ b) (tokensByEntity.flatMap Prod.snd)
  if uniqueNorms = [] then (locations, links) else
  let locations := loadLocationIds locations uniqueNorms
  let new := sortedSet (fun a b => a.1 < b.1 ∨ a.1 = b.1 ∧ a.2 ≤ b.2) (tokensByEntity.flatMap
    fun e => e.2.filterMap fun token => (locations.id? token).map fun id => (e.1, id))
  (locations, bulkInsertLinks parents links new)

/-- `populate_location_links` for a demande. -/
def populateDemandeLinks (demandeId : ℕ) (locationsStr : String) (db : Db) : Db :=
  let result := populateLocationLinksBatch unicode (db.demandes.rows.map Row.id)
    [(demandeId, locationsStr)] true db.locations db.demandeLocations
  { db with locations := result.1, demandeLocations := result.2 }

/-- `populate_location_links` for an offer. -/
def populateOfferLinks (offerId : ℕ) (locationsStr : String) (db : Db) : Db :=
  let result := populateLocationLinksBatch unicode (db.offers.rows.map Row.id)
    [(offerId, locationsStr)] true db.locations db.offerLocations
  { db with locations := result.1, offerLocations := result.2 }

/-- The location joins of the first branch of `build_match_cte`: a demande and an offer that share a
location. -/
def locationJoin (db : Db) (demandeId offerId : ℕ) : Bool :=
  db.demandeLocations.any fun dl => dl.1 == demandeId &&
    db.offerLocations.any fun ol => ol.1 == offerId && ol.2 == dl.2

lemma locationJoin_iff {db : Db} {d o : ℕ} : locationJoin db d o = true ↔
    ∃ loc, (d, loc) ∈ db.demandeLocations ∧ (o, loc) ∈ db.offerLocations := by
  simp only [locationJoin, List.any_eq_true, Bool.and_eq_true, beq_iff_eq, Prod.exists]
  constructor
  · rintro ⟨_, loc, hd, rfl, _, loc', ho, rfl, rfl⟩
    exact ⟨loc', hd, ho⟩
  · rintro ⟨loc, hd, ho⟩
    exact ⟨d, loc, hd, rfl, o, loc, ho, rfl, rfl⟩

@[simp] lemma mem_sortedSet {α : Type*} [DecidableEq α] {le : α → α → Prop} [DecidableRel le]
    {l : List α} {a : α} : a ∈ sortedSet le l ↔ a ∈ l := by
  simp [sortedSet]

lemma nodup_sortedSet {α : Type*} [DecidableEq α] (le : α → α → Prop) [DecidableRel le] (l : List α) :
    (sortedSet le l).Nodup :=
  (perm_insertionSort _ _).nodup_iff.mpr (nodup_dedup l)

lemma pairwise_sortedSet {α : Type*} [LinearOrder α] (l : List α) :
    (sortedSet (fun a b => a ≤ b) l).Pairwise fun a b => a < b := by
  have hle : (sortedSet (fun a b => a ≤ b) l).Pairwise fun a b => a ≤ b := pairwise_insertionSort _ _
  refine (hle.and (nodup_sortedSet _ l)).imp ?_
  rintro a b ⟨hab, hne⟩
  exact lt_of_le_of_ne hab hne

lemma length_sortedSet_le {α : Type*} [DecidableEq α] (le : α → α → Prop) [DecidableRel le] (l : List α) :
    (sortedSet le l).length ≤ l.length := by
  rw [sortedSet, length_insertionSort]
  exact (dedup_sublist l).length_le

lemma normalizeLocationTokens_blank {s : String} (h : strip s = "") : normalizeLocationTokens unicode s = [] := by
  have hsplit : splitLocationTokens s = [] := by
    rw [splitLocationTokens, filter_eq_nil_iff]
    intro part hpart
    obtain ⟨_, hraw, rfl⟩ := mem_map.mp hpart
    simp [strip_of_mem_splitOnAny h hraw]
  simp [normalizeLocationTokens, hsplit, sortedSet]

def Locations.Extends (l l' : Locations) : Prop :=
  ∀ token id, l.id? token = some id → l'.id? token = some id

lemma Locations.Extends.refl (l : Locations) : l.Extends l := fun _ _ h => h

variable {l l' : Locations} {token : String} {id : ℕ} {links : List (ℕ × ℕ)} {parents : List ℕ}

lemma Locations.Extends.trans {l'' : Locations} (h : l.Extends l') (h' : l'.Extends l'') :
    l.Extends l'' := fun token id hid => h' token id (h token id hid)

lemma Locations.mem_of_id? (h : l.id? token = some id) : (id, token) ∈ l.rows := by
  obtain ⟨⟨_, token'⟩, hfind, rfl⟩ := map_eq_some_iff.mp h
  have htoken : token' = token := by simpa using find?_some hfind
  subst htoken
  exact mem_of_find?_eq_some hfind

lemma Locations.eq_of_id? {token' : String}
    (h : l.id? token = some id) (h' : l.id? token' = some id) : token = token' := by
  have heq := inj_on_of_nodup_map l.keyed (mem_of_id? h) (mem_of_id? h') rfl
  exact congrArg Prod.snd heq

lemma Locations.id?_isSome_iff : (l.id? token).isSome ↔ token ∈ l.rows.map Prod.snd := by
  rw [Locations.id?, isSome_map, find?_isSome]
  simp

lemma Locations.extends_insert (l : Locations) (token : String) : l.Extends (l.insert token) := by
  intro token' id h
  unfold Locations.insert
  split
  · exact h
  · obtain ⟨e, hfind, rfl⟩ := map_eq_some_iff.mp h
    simp [Locations.id?, find?_append, hfind]

lemma Locations.id?_insert_isSome (l : Locations) (token : String) : ((l.insert token).id? token).isSome := by
  rw [id?_isSome_iff]
  unfold Locations.insert
  split
  · assumption
  · simp

lemma loadLocationIds_spec (l : Locations) (tokens : List String) : l.Extends (loadLocationIds l tokens) ∧
      ∀ token ∈ tokens, ((loadLocationIds l tokens).id? token).isSome := by
  induction tokens generalizing l with
  | nil => exact ⟨.refl l, by simp⟩
  | cons token _ ih =>
    obtain ⟨hext, hids⟩ := ih (l.insert token)
    refine ⟨(l.extends_insert token).trans hext, fun token' htoken' => ?_⟩
    rcases mem_cons.mp htoken' with rfl | htoken'
    · obtain ⟨id, hid⟩ := isSome_iff_exists.mp (l.id?_insert_isSome token')
      have hkept := hext token' id hid
      exact isSome_iff_exists.mpr ⟨id, hkept⟩
    · exact hids token' htoken'

/-! ### Links -/

structure LinksOf (locations : Locations) (links : List (ℕ × ℕ)) (id : ℕ) (tokens : List String) :
    Prop where
  linked : ∀ loc, (id, loc) ∈ links ↔ ∃ token ∈ tokens, locations.id? token = some loc
  known : ∀ token ∈ tokens, (locations.id? token).isSome

lemma LinksOf.mono {links' : List (ℕ × ℕ)} {tokens : List String}
    (h : LinksOf l links id tokens) (hext : l.Extends l')
    (hlinks : ∀ loc, (id, loc) ∈ links' ↔ (id, loc) ∈ links) : LinksOf l' links' id tokens := by
  refine ⟨fun loc => ?_, fun token htoken => ?_⟩
  · rw [hlinks, h.linked]
    constructor
    · rintro ⟨token, htoken, hid⟩
      exact ⟨token, htoken, hext token loc hid⟩
    · rintro ⟨token, htoken, hid⟩
      obtain ⟨loc', hloc'⟩ := isSome_iff_exists.mp (h.known token htoken)
      have heq : loc' = loc := some.inj ((hext token loc' hloc').symm.trans hid)
      exact ⟨token, htoken, heq ▸ hloc'⟩
  · obtain ⟨loc, hloc⟩ := isSome_iff_exists.mp (h.known token htoken)
    exact isSome_iff_exists.mpr ⟨loc, hext token loc hloc⟩

@[simp] lemma mem_bulkInsertLinks {new : List (ℕ × ℕ)} {link : ℕ × ℕ} :
    link ∈ bulkInsertLinks parents links new ↔ link ∈ links ∨ link ∈ new ∧ link.1 ∈ parents := by
  simp only [bulkInsertLinks, mem_append, mem_filter, Bool.and_eq_true, decide_eq_true_eq]
  tauto

/-- What `populate_location_links` does to the tables: the record's links become those of its text, the
links of the others stay, and no location is lost. -/
lemma populate_spec (hid : id ≠ 0) (hparent : id ∈ parents) (text : String) (l : Locations) (links : List (ℕ × ℕ)) :
    let result := populateLocationLinksBatch unicode parents [(id, text)] true l links
    LinksOf result.1 result.2 id (normalizeLocationTokens unicode text) ∧ l.Extends result.1 ∧
      ∀ id' loc, id' ≠ id → ((id', loc) ∈ result.2 ↔ (id', loc) ∈ links) := by
  have hvalid : ([(id, text)].filter fun e : ℕ × String => e.1 ≠ 0) = [(id, text)] := by
    simp [hid]
  simp only [populateLocationLinksBatch, hvalid, map_cons, map_nil, flatMap_cons,
    flatMap_nil, append_nil, if_true, reduceCtorEq, if_false]
  generalize htokens : normalizeLocationTokens unicode text = tokens
  split
  · next hnone =>
    have hempty : tokens = [] := by
      refine eq_nil_iff_forall_not_mem.mpr fun token htoken => ?_
      have hmem : token ∈ sortedSet (fun a b : String => a ≤ b) tokens := mem_sortedSet.mpr htoken
      rw [hnone] at hmem
      exact absurd hmem not_mem_nil
    subst hempty
    refine ⟨⟨fun loc => ?_, by simp⟩, .refl l, fun id' loc hne => ?_⟩
    · simp
    · simp [hne]
  · obtain ⟨hext, hids⟩ := loadLocationIds_spec l (sortedSet (fun a b : String => a ≤ b) tokens)
    refine ⟨⟨fun loc => ?_, fun token htoken => hids token (mem_sortedSet.mpr htoken)⟩, hext,
      fun id' loc hne => ?_⟩
    · simp [hparent]
    · simp [hne, hne.symm]

end ImmoApp.Crm
