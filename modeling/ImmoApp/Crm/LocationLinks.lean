import ImmoApp.Crm.Services

/-!
# Location links

Matching joins demandes and offers through the locations of the text that the record's author supplied last.  But the
services mask the text before they hand it to the repository, so every text that is not blank is linked to one location,
the token of the mask.

`links_follow_text`: where every supplied text is blank or has the tokens of the mask, and no update that leaves the
text out finds a ciphertext that reads as a blank, two records are joined exactly when their texts share a token.
-/

namespace ImmoApp.Crm

open Option Table

variable (backend : Backend)

structure LocationDesk where
  db : Db
  demandeText : Dict ℕ String
  offerText : Dict ℕ String

inductive LocationCall where
  | createDemande (clientId : ℕ) (payload : DemandePayload) (now : ℕ)
  | updateDemande (demandeId : ℕ) (payload : DemandePayload) (now : ℕ)
  | createOffer (listingId : ℕ) (payload : OfferPayload) (now : ℕ)
  | updateOffer (offerId : ℕ) (payload : OfferPayload) (now : ℕ)

def LocationCall.text? : LocationCall → Option String
  | createDemande _ payload _ | updateDemande _ payload _ => payload.locations
  | createOffer _ payload _ | updateOffer _ payload _ => payload.location

/-- The text supplied is a plain one, not the mask of a stored text. -/
def LocationCall.Plain (call : LocationCall) : Prop :=
  ∀ text ∈ call.text?, isStructuredAleMask (strip text) = false

def keepText (texts : Dict ℕ String) (id : ℕ) : Option String → Dict ℕ String
  | some text => texts.set id text
  | none => texts

/-- One call.  A call that raises is rolled back. -/
def LocationDesk.step (s : LocationDesk) : LocationCall → Option LocationDesk
  | .createDemande clientId payload now =>
    match createDemande backend clientId payload now s.db with
    | .ok db => some { s with
        db := db
        demandeText := s.demandeText.set s.db.demandes.nextId (payload.locations.getD "") }
    | .error _ => some s
  | .updateDemande demandeId payload now =>
    match updateDemande backend demandeId payload now s.db with
    | .ok db => some { s with
        db := db
        demandeText := keepText s.demandeText demandeId payload.locations }
    | .error _ => some s
  | .createOffer listingId payload now =>
    match createOffer backend listingId payload now s.db with
    | .ok db => some { s with
        db := db
        offerText := s.offerText.set s.db.offers.nextId (payload.location.getD "") }
    | .error _ => some s
  | .updateOffer offerId payload now =>
    match updateOffer backend offerId payload now s.db with
    | .ok db => some { s with
        db := db
        offerText := keepText s.offerText offerId payload.location }
    | .error _ => some s

structure LocationDesk.Fresh (s : LocationDesk) : Prop where
  demandes : s.db.demandes = Table.empty
  offers : s.db.offers = Table.empty
  demandeText : s.demandeText = []
  offerText : s.offerText = []

structure Located (unicode : Unicode) (s : LocationDesk) : Prop where
  /-- The links of a demande are those of the tokens of its last text. -/
  demandes : ∀ id text, s.demandeText.get? id = some text →
    LinksOf s.db.locations s.db.demandeLocations id (normalizeLocationTokens unicode text)
  /-- The links of an offer are those of the tokens of its last text. -/
  offers : ∀ id text, s.offerText.get? id = some text →
    LinksOf s.db.locations s.db.offerLocations id (normalizeLocationTokens unicode text)
  /-- A demande and an offer are joined exactly when their texts share a token. -/
  joined : ∀ d o text text', s.demandeText.get? d = some text → s.offerText.get? o = some text' →
    (locationJoin s.db d o = true ↔ ∃ token ∈ normalizeLocationTokens unicode text,
      token ∈ normalizeLocationTokens unicode text')

def MaskLike (unicode : Unicode) (text : String) : Prop :=
  strip text = "" ∨ normalizeLocationTokens unicode text = normalizeLocationTokens unicode maskEnc

/-- The condition on a call: a supplied text is mask-like; where none is supplied, the stored text does
not read as a blank unless there is none. -/
def MaskedCall (s : LocationDesk) : LocationCall → Prop
  | .createDemande _ payload _ =>
    ∀ text ∈ payload.locations, MaskLike backend.platform.unicode text
  | .updateDemande demandeId payload _ =>
    (∀ text ∈ payload.locations, MaskLike backend.platform.unicode text) ∧
      (payload.locations = none → ∀ r ∈ s.db.demandes.rows, r.id = demandeId → r.live = true →
        strip (readLocations backend r) = "" → r.columns.locations = "")
  | .createOffer _ payload _ =>
    ∀ text ∈ payload.location, MaskLike backend.platform.unicode text
  | .updateOffer offerId payload _ =>
    (∀ text ∈ payload.location, MaskLike backend.platform.unicode text) ∧
      (payload.location = none → ∀ r ∈ s.db.offers.rows, r.id = offerId → r.live = true →
        strip (readLocation backend r) = "" → r.columns.location = "")

instance (unicode : Unicode) (text : String) : Decidable (MaskLike unicode text) :=
  inferInstanceAs (Decidable (_ ∨ _))

instance (call : LocationCall) : Decidable call.Plain :=
  inferInstanceAs (Decidable (∀ text ∈ call.text?, _))

instance (s : LocationDesk) (call : LocationCall) : Decidable (MaskedCall backend s call) :=
  match call with
  | .createDemande _ payload _ =>
    inferInstanceAs (Decidable (∀ text ∈ payload.locations, MaskLike _ text))
  | .updateDemande demandeId payload _ =>
    inferInstanceAs (Decidable ((∀ text ∈ payload.locations, MaskLike _ text) ∧
      (payload.locations = none → ∀ r ∈ s.db.demandes.rows, r.id = demandeId → r.live = true →
        strip (readLocations backend r) = "" → r.columns.locations = "")))
  | .createOffer _ payload _ =>
    inferInstanceAs (Decidable (∀ text ∈ payload.location, MaskLike _ text))
  | .updateOffer offerId payload _ =>
    inferInstanceAs (Decidable ((∀ text ∈ payload.location, MaskLike _ text) ∧
      (payload.location = none → ∀ r ∈ s.db.offers.rows, r.id = offerId → r.live = true →
        strip (readLocation backend r) = "" → r.columns.location = "")))

/-! ### One record type

Demandes and offers are treated alike: a table whose rows have a public text and a ciphertext, a junction
table, and the texts supplied last. -/

section OneType

variable {κ : Type} {unicode : Unicode} {loc enc : κ → String} {t : Table κ} {l : Locations}
  {links : List (ℕ × ℕ)} {texts : Dict ℕ String}

def Masked (value enc : String) : Prop := value = "" ∧ enc = "" ∨ value = maskEnc ∧ enc ≠ ""

/-- The links of every row are those of its public text, which has the tokens of the last text. -/
structure TextKept (unicode : Unicode) (loc enc : κ → String) (t : Table κ) (l : Locations)
    (links : List (ℕ × ℕ)) (texts : Dict ℕ String) : Prop where
  start : t.nextId ≠ 0
  ids : ∀ r ∈ t.rows, r.id ≠ 0
  masked : ∀ r ∈ t.rows, Masked (loc r.columns) (enc r.columns)
  links : ∀ r ∈ t.rows, LinksOf l links r.id (normalizeLocationTokens unicode (loc r.columns))
  /-- The last text of a record has the tokens of its public text. -/
  texts : ∀ id text, texts.get? id = some text → ∃ r ∈ t.rows, r.id = id ∧
    normalizeLocationTokens unicode text = normalizeLocationTokens unicode (loc r.columns)

lemma textKept_empty (unicode : Unicode) (loc enc : κ → String) (l : Locations)
    (links : List (ℕ × ℕ)) : TextKept unicode loc enc Table.empty l links [] :=
  ⟨by simp [Table.empty], by simp [Table.empty], by simp [Table.empty], by simp [Table.empty], by simp⟩

variable {id : ℕ} {text : String}

section

variable (h : TextKept unicode loc enc t l links texts)
include h

lemma TextKept.linksOf (htext : texts.get? id = some text) :
    LinksOf l links id (normalizeLocationTokens unicode text) := by
  obtain ⟨r, hr, rfl, htokens⟩ := h.texts id text htext
  rw [htokens]
  exact h.links r hr

lemma TextKept.extend {l' : Locations} (hext : l.Extends l') : TextKept unicode loc enc t l' links texts :=
  { h with links := fun r hr => (h.links r hr).mono hext fun _ => Iff.rfl }

lemma TextKept.create {columns : κ} (hmasked : Masked (loc columns) (enc columns))
    (htokens : normalizeLocationTokens unicode text = normalizeLocationTokens unicode (loc columns))
    (now : ℕ) :
    let result := populateLocationLinksBatch unicode ((t.insert columns now).rows.map Row.id)
      [(t.nextId, loc columns)] true l links
    TextKept unicode loc enc (t.insert columns now) result.1 result.2 (texts.set t.nextId text) ∧
      l.Extends result.1 := by
  intro result
  have hparent : t.nextId ∈ (t.insert columns now).rows.map Row.id :=
    List.mem_map.mpr ⟨_, mem_insert.mpr (.inr rfl), rfl⟩
  obtain ⟨hlinks, hext, hother⟩ := populate_spec unicode h.start hparent (loc columns) l links
  refine ⟨⟨Nat.succ_ne_zero _, fun r hr => ?_, fun r hr => ?_, fun r hr => ?_,
    fun id text' htext => ?_⟩, hext⟩
  · rcases mem_insert.mp hr with hr | rfl
    · exact h.ids r hr
    · exact h.start
  · rcases mem_insert.mp hr with hr | rfl
    · exact h.masked r hr
    · exact hmasked
  · rcases mem_insert.mp hr with hr | rfl
    · have hne : r.id ≠ t.nextId := (t.fresh r hr).ne
      exact (h.links r hr).mono hext fun loc' => hother r.id loc' hne
    · exact hlinks
  · rw [Dict.get?_set] at htext
    split at htext
    · next heq =>
      obtain rfl : text = text' := some.inj htext
      exact ⟨_, mem_insert.mpr (.inr rfl), heq.symm, htokens⟩
    · obtain ⟨r, hr, hid, htokens'⟩ := h.texts id text' htext
      exact ⟨r, mem_insert.mpr (.inl hr), hid, htokens'⟩

lemma TextKept.update {p : Row κ → Bool} {r : Row κ}
    (hr : r ∈ t.rows) (hp : ∀ r' ∈ t.rows, p r' = true → r'.id = r.id) (hpr : p r = true)
    {f : Row κ → Row κ} {value : String} {text? : Option String}
    (hvalue : value = loc (f r).columns) (hmasked : Masked value (enc (f r).columns))
    (hsome : ∀ text, text? = some text → normalizeLocationTokens unicode text = normalizeLocationTokens unicode value)
    (hnone : text? = none → value = loc r.columns) :
    let result := populateLocationLinksBatch unicode ((t.update p f).rows.map Row.id) [(r.id, value)] true l links
    TextKept unicode loc enc (t.update p f) result.1 result.2 (keepText texts r.id text?) ∧
      l.Extends result.1 := by
  subst hvalue
  intro result
  have hnew : ({ f r with id := r.id } : Row κ) ∈ (t.update p f).rows :=
    mem_update.mpr ⟨r, hr, by simp [Table.assign, hpr]⟩
  have hcases : ∀ r' ∈ (t.update p f).rows, r' = { f r with id := r.id } ∨ r' ∈ t.rows ∧ r'.id ≠ r.id := by
    intro r' hr'
    by_cases hid : r'.id = r.id
    · exact .inl (eq_of_id hr' hnew hid)
    · obtain ⟨r₀, hr₀, rfl⟩ := mem_update.mp hr'
      rw [assign_id] at hid
      have hp₀ : p r₀ = false := Bool.eq_false_iff.mpr fun hp₀ => hid (hp r₀ hr₀ hp₀)
      rw [Table.assign, hp₀]
      exact .inr ⟨hr₀, hid⟩
  have hparent : r.id ∈ (t.update p f).rows.map Row.id := List.mem_map.mpr ⟨_, hnew, rfl⟩
  obtain ⟨hlinks, hext, hother⟩ := populate_spec unicode (h.ids r hr) hparent (loc (f r).columns) l links
  refine ⟨⟨h.start, fun r' hr' => ?_, fun r' hr' => ?_, fun r' hr' => ?_,
    fun id text htext => ?_⟩, hext⟩
  · rcases hcases r' hr' with rfl | ⟨hr', -⟩
    · exact h.ids r hr
    · exact h.ids r' hr'
  · rcases hcases r' hr' with rfl | ⟨hr', -⟩
    · exact hmasked
    · exact h.masked r' hr'
  · rcases hcases r' hr' with rfl | ⟨hr', hne⟩
    · exact hlinks
    · exact (h.links r' hr').mono hext fun loc' => hother r'.id loc' hne
  · have hfind : (id = r.id ∧ normalizeLocationTokens unicode text =
        normalizeLocationTokens unicode (loc (f r).columns)) ∨ (id ≠ r.id ∧ texts.get? id = some text) := by
      cases text? with
      | some new =>
        rw [keepText, Dict.get?_set] at htext
        split at htext
        · next heq =>
          obtain rfl : new = text := some.inj htext
          exact .inl ⟨heq, hsome new rfl⟩
        · next hne => exact .inr ⟨hne, htext⟩
      | none =>
        by_cases hid : id = r.id
        · obtain ⟨r₀, hr₀, hid₀, htokens⟩ := h.texts id text htext
          obtain rfl := eq_of_id hr₀ hr (hid₀.trans hid)
          exact .inl ⟨hid, by rw [htokens, hnone rfl]⟩
        · exact .inr ⟨hid, htext⟩
    rcases hfind with ⟨rfl, htokens⟩ | ⟨hid, htext⟩
    · exact ⟨_, hnew, rfl, htokens⟩
    · obtain ⟨r₀, hr₀, hid₀, htokens⟩ := h.texts id text htext
      have hp₀ : p r₀ = false :=
        Bool.eq_false_iff.mpr fun hp₀ => hid (hid₀.symm.trans (hp r₀ hr₀ hp₀))
      exact ⟨r₀, mem_update.mpr ⟨r₀, hr₀, by simp [Table.assign, hp₀]⟩, hid₀, htokens⟩

end

lemma LinksOf.join {l : Locations} {links links' : List (ℕ × ℕ)} {id' : ℕ}
    {tokens tokens' : List String} (h : LinksOf l links id tokens)
    (h' : LinksOf l links' id' tokens') :
    (∃ loc, (id, loc) ∈ links ∧ (id', loc) ∈ links') ↔ ∃ token ∈ tokens, token ∈ tokens' := by
  constructor
  · rintro ⟨loc, hloc, hloc'⟩
    obtain ⟨token, htoken, hid⟩ := (h.linked loc).mp hloc
    obtain ⟨_, htoken', hid'⟩ := (h'.linked loc).mp hloc'
    obtain rfl := Locations.eq_of_id? hid hid'
    exact ⟨token, htoken, htoken'⟩
  · rintro ⟨token, htoken, htoken'⟩
    obtain ⟨loc, hloc⟩ := isSome_iff_exists.mp (h.known token htoken)
    exact ⟨loc, (h.linked loc).mpr ⟨token, htoken, hloc⟩, (h'.linked loc).mpr ⟨token, htoken', hloc⟩⟩

end OneType

/-! ### What the services hand to the repository -/

section Field

variable (cipher : Cipher) (unicode : Unicode)

variable {field : AleField} {value : String} {supplied : Option String}

lemma normalizeAleField_supplied {text : String} (hplain : isStructuredAleMask (strip text) = false)
    (hfield : field.value = some text) (provided : Bool) (seed : ℕ) :
    let result := normalizeAleField cipher (.masked false) provided seed field
    Masked result.value.toText result.enc ∧ (MaskLike unicode text → normalizeLocationTokens unicode text =
        normalizeLocationTokens unicode result.value.toText) := by
  intro result
  by_cases hblank : strip text = ""
  · obtain ⟨hvalue, henc⟩ : result.value = .text "" ∧ result.enc = "" :=
      normalizeAleField_blank cipher (fun raw hraw => (some.inj (hfield.symm.trans hraw)) ▸ hblank) provided seed
    rw [hvalue, henc]
    refine ⟨.inl ⟨rfl, rfl⟩, fun _ => ?_⟩
    rw [normalizeLocationTokens_blank unicode hblank]
    exact (normalizeLocationTokens_blank unicode (by decide)).symm
  · obtain ⟨hvalue, henc⟩ : result.value = .text maskEnc ∧ result.enc ≠ "" :=
      normalizeAleField_text cipher hfield hblank
        (fun hmask => absurd (hplain.symm.trans hmask) (by decide)) provided seed
    rw [hvalue]
    refine ⟨.inr ⟨rfl, henc⟩, fun hlike => ?_⟩
    exact hlike.resolve_left hblank

lemma normalizeAleField_stored {enc : String} (hmasked : Masked value enc)
    (hread : strip (readColumn cipher value enc) = "" → value = "")
    (hfield : field.value = some (readColumn cipher value enc)) (hfieldEnc : field.enc = enc)
    (provided : Bool) (seed : ℕ) :
    let result := normalizeAleField cipher (.masked false) provided seed field
    result.value.toText = value ∧ Masked result.value.toText result.enc := by
  intro result
  rcases hmasked with ⟨rfl, rfl⟩ | ⟨rfl, henc⟩
  · obtain ⟨hvalue, henc⟩ : result.value = .text "" ∧ result.enc = "" := by
      refine normalizeAleField_blank cipher (fun raw hraw => ?_) provided seed
      obtain rfl : readColumn cipher "" "" = raw := some.inj (hfield.symm.trans hraw)
      exact strip_eq_empty_iff.mpr (by simp [readColumn])
    rw [hvalue, henc]
    exact ⟨rfl, .inl ⟨rfl, rfl⟩⟩
  · have hblank : strip (readColumn cipher maskEnc enc) ≠ "" := by
      intro hblank
      exact absurd (hread hblank) (by decide)
    obtain ⟨hvalue, henc'⟩ : result.value = .text maskEnc ∧ result.enc ≠ "" :=
      normalizeAleField_text cipher hfield hblank (fun _ => hfieldEnc ▸ henc) provided seed
    rw [hvalue]
    exact ⟨rfl, .inr ⟨rfl, henc'⟩⟩

lemma masked_of_created (field : AleField) (hfield : field.value = supplied)
    (hplain : ∀ text ∈ supplied, isStructuredAleMask (strip text) = false)
    (hlike : ∀ text ∈ supplied, MaskLike unicode text) (provided : Bool) (seed : ℕ) :
    let result := normalizeAleField cipher (.masked false) provided seed field
    Masked result.value.toText result.enc ∧ normalizeLocationTokens unicode (supplied.getD "") =
      normalizeLocationTokens unicode result.value.toText := by
  intro result
  cases supplied with
  | none =>
    obtain ⟨hvalue, henc⟩ : result.value = .text "" ∧ result.enc = "" :=
      normalizeAleField_blank cipher (fun raw hraw => nomatch hfield.symm.trans hraw) provided seed
    rw [hvalue, henc]
    exact ⟨.inl ⟨rfl, rfl⟩, rfl⟩
  | some text =>
    obtain ⟨hmasked, htokens⟩ :=
      normalizeAleField_supplied cipher unicode (hplain text rfl) hfield provided seed
    exact ⟨hmasked, htokens (hlike text rfl)⟩

lemma masked_of_updated {enc : String} (field : AleField)
    (hfield : field.value = supplied.or (some (readColumn cipher value enc)))
    (hfieldEnc : field.enc = enc) (hmasked : Masked value enc)
    (hplain : ∀ text ∈ supplied, isStructuredAleMask (strip text) = false)
    (hlike : ∀ text ∈ supplied, MaskLike unicode text)
    (hread : supplied = none → strip (readColumn cipher value enc) = "" → value = "")
    (provided : Bool) (seed : ℕ) :
    let result := normalizeAleField cipher (.masked false) provided seed field
    Masked result.value.toText result.enc ∧ (∀ text, supplied = some text →
      normalizeLocationTokens unicode text = normalizeLocationTokens unicode result.value.toText) ∧
      (supplied = none → result.value.toText = value) := by
  intro result
  cases supplied with
  | none =>
    rw [none_or] at hfield
    obtain ⟨hvalue, hresult⟩ :=
      normalizeAleField_stored cipher hmasked (hread rfl) hfield hfieldEnc provided seed
    exact ⟨hresult, by simp, fun _ => hvalue⟩
  | some text =>
    rw [some_or] at hfield
    obtain ⟨hresult, htokens⟩ :=
      normalizeAleField_supplied cipher unicode (hplain text rfl) hfield provided seed
    refine ⟨hresult, fun text' htext' => ?_, by simp⟩
    obtain rfl : text = text' := some.inj htext'
    exact htokens (hlike text rfl)

end Field

variable {backend : Backend}

variable {clientId now : ℕ} {payload : DemandePayload} {db db' : Db}

variable {seed listingId demandeId offerId : ℕ}

lemma prepareDemande_ok {existing : Option (Row DemandeColumns)} {data : DemandeInput}
    (h : prepareDemande backend clientId payload existing seed = .ok data) :
    let result := normalizeAleField backend.cipher (.masked false) payload.locations.isSome seed
      ⟨payload.locations.or (existing.map (readLocations backend)),
        ((existing.map Row.columns).map DemandeColumns.locationsEnc).getD ""⟩
    data.locations = result.value.toText ∧ data.locationsEnc = result.enc := by
  intro result
  obtain ⟨normalized, hnormalized, hrest⟩ := bind_eq_ok_iff.mp h
  obtain ⟨labels, -, hrest⟩ := bind_eq_ok_iff.mp hrest
  obtain ⟨-, -, hdata⟩ := bind_eq_ok_iff.mp hrest
  obtain rfl : normalized.withLabels labels = data := Except.ok.inj hdata
  simp only [normalizeDemandeData, bind_eq_ok_iff] at hnormalized
  obtain ⟨-, -, -, -, -, -, -, -, -, -, -, -, -, -, -, -, -, -, -, -, hpure⟩ := hnormalized
  obtain ⟨⟩ := hpure
  exact ⟨rfl, rfl⟩

lemma prepareOffer_ok {payload : OfferPayload} {existing : Option (Row OfferColumns)}
    {data : OfferInput} (h : prepareOffer backend payload existing seed = .ok data) :
    let result := normalizeAleField backend.cipher (.masked false) payload.location.isSome seed
      ⟨payload.location.or (existing.map (readLocation backend)),
        ((existing.map Row.columns).map OfferColumns.locationEnc).getD ""⟩
    data.location = result.value.toText ∧ data.locationEnc = result.enc := by
  intro result
  obtain ⟨_, -, hrest⟩ := bind_eq_ok_iff.mp h
  obtain ⟨-, -, hdata⟩ := bind_eq_ok_iff.mp hrest
  obtain ⟨⟩ := hdata
  exact ⟨rfl, rfl⟩

lemma createDemande_ok (h : createDemande backend clientId payload now db = .ok db') :
    ∃ data columns, prepareDemande backend clientId payload none now = .ok data ∧
      columns.locations = data.locations ∧ columns.locationsEnc = data.locationsEnc ∧
      db' = populateDemandeLinks backend.platform.unicode db.demandes.nextId columns.locations
        { db with demandes := db.demandes.insert columns now } := by
  unfold createDemande at h
  split at h
  · exact absurd h (by simp)
  · obtain ⟨data, hdata, hcreate⟩ := bind_eq_ok_iff.mp h
    obtain ⟨checked, -, hcreate⟩ := bind_eq_ok_iff.mp hcreate
    split at hcreate
    · exact absurd hcreate (by simp)
    · split at hcreate
      · exact absurd hcreate (by simp)
      · next client _ =>
        exact ⟨data, data.columns checked client.columns.agencyId client.id, hdata, rfl, rfl,
          (Except.ok.inj hcreate).symm⟩

lemma createOffer_ok {payload : OfferPayload} (h : createOffer backend listingId payload now db = .ok db') :
    ∃ data columns, prepareOffer backend payload none now = .ok data ∧
      columns.location = data.location ∧ columns.locationEnc = data.locationEnc ∧
      db' = populateOfferLinks backend.platform.unicode db.offers.nextId columns.location
        { db with offers := db.offers.insert columns now } := by
  unfold createOffer at h
  split at h
  · exact absurd h (by simp)
  · obtain ⟨data, hdata, hcreate⟩ := bind_eq_ok_iff.mp h
    obtain ⟨checked, -, hcreate⟩ := bind_eq_ok_iff.mp hcreate
    split at hcreate
    · exact absurd hcreate (by simp)
    · next listing _ =>
      exact ⟨data, data.columns checked listing.columns.agencyId listing.id, hdata, rfl, rfl,
        (Except.ok.inj hcreate).symm⟩

structure Selects {κ : Type} (t : Table κ) (id : ℕ) (p : Row κ → Bool) (r : Row κ) : Prop where
  mem : r ∈ t.rows
  key : r.id = id
  live : r.live = true
  selected : p r = true
  only : ∀ r' ∈ t.rows, p r' = true → r'.id = r.id

lemma selects_of_lockedUpdate {κ : Type} {t t' : Table κ} {id : ℕ} {v : ℤ} {f : Row κ → Row κ}
    (h : lockedUpdate (fun r => r.id == id && r.live) v f t = some t') :
    ∃ p r, Selects t id p r ∧ (t.find? id).filter Row.live = some r ∧ t' = t.update p fun r => (f r).bump := by
  obtain ⟨rfl, r, hr, hp, hversion⟩ := lockedUpdate_some h
  rw [Bool.and_eq_true, beq_iff_eq] at hp
  refine ⟨_, r, ⟨hr, hp.1, hp.2, ?_, fun r' hr' hp' => ?_⟩, ?_, rfl⟩
  · simp [hp, hversion]
  · simp only [Bool.and_eq_true, beq_iff_eq] at hp'
    exact hp'.1.1.trans hp.1.symm
  · rw [find?_eq_some_iff.mpr ⟨hr, hp.1⟩]
    simp [hp.2]

lemma updateDemande_ok (h : updateDemande backend demandeId payload now db = .ok db') :
    ∃ data p r f, Selects db.demandes demandeId p r ∧
      prepareDemande backend r.columns.clientId payload (some r) now = .ok data ∧
      (f r).columns.locations = data.locations ∧ (f r).columns.locationsEnc = data.locationsEnc ∧
      db' = populateDemandeLinks backend.platform.unicode demandeId data.locations
        { db with demandes := db.demandes.update p f } := by
  obtain ⟨data, hdata, hupdate⟩ := bind_eq_ok_iff.mp h
  unfold Demandes.updateDemande at hupdate
  split at hupdate
  · exact absurd hupdate (by simp)
  · obtain ⟨checked, -, hupdate⟩ := bind_eq_ok_iff.mp hupdate
    cases hlocked : lockedUpdate (fun r => r.id == demandeId && r.live) data.rowVersion
        (Row.write (fun c => data.columns checked c.agencyId c.clientId) (data.updatedAt.getD now)) db.demandes with
    | some =>
      simp only [hlocked] at hupdate
      obtain ⟨p, r, hselects, hfind, rfl⟩ := selects_of_lockedUpdate hlocked
      rw [hfind] at hdata
      exact ⟨data, p, r, _, hselects, hdata, rfl, rfl, (Except.ok.inj hupdate).symm⟩
    | none =>
      simp only [hlocked] at hupdate
      split at hupdate <;> exact absurd hupdate (by simp)

lemma updateOffer_ok {payload : OfferPayload} (h : updateOffer backend offerId payload now db = .ok db') :
    ∃ data p r f, Selects db.offers offerId p r ∧ prepareOffer backend payload (some r) now = .ok data ∧
      (f r).columns.location = data.location ∧ (f r).columns.locationEnc = data.locationEnc ∧
      db' = populateOfferLinks backend.platform.unicode offerId data.location
        { db with offers := db.offers.update p f } := by
  obtain ⟨data, hdata, hupdate⟩ := bind_eq_ok_iff.mp h
  unfold Offers.updateOffer at hupdate
  split at hupdate
  · exact absurd hupdate (by simp)
  · obtain ⟨checked, -, hupdate⟩ := bind_eq_ok_iff.mp hupdate
    cases hlocked : lockedUpdate (fun r => r.id == offerId && r.live) data.rowVersion
        (Row.write (fun c => data.columns checked c.agencyId c.listingId) (data.updatedAt.getD now)) db.offers with
    | some =>
      simp only [hlocked] at hupdate
      obtain ⟨p, r, hselects, hfind, rfl⟩ := selects_of_lockedUpdate hlocked
      rw [hfind] at hdata
      exact ⟨data, p, r, _, hselects, hdata, rfl, rfl, (Except.ok.inj hupdate).symm⟩
    | none =>
      simp only [hlocked] at hupdate
      exact absurd hupdate (by simp)

/-! ### Runs -/

structure LinksKept (unicode : Unicode) (s : LocationDesk) : Prop where
  demandes : TextKept unicode DemandeColumns.locations DemandeColumns.locationsEnc s.db.demandes
    s.db.locations s.db.demandeLocations s.demandeText
  offers : TextKept unicode OfferColumns.location OfferColumns.locationEnc s.db.offers
    s.db.locations s.db.offerLocations s.offerText

variable {s : LocationDesk}

section

variable (h : LinksKept backend.platform.unicode s)
include h

lemma LinksKept.createDemande (hplain : (LocationCall.createDemande clientId payload now).Plain)
    (hcall : MaskedCall backend s (.createDemande clientId payload now))
    (hok : createDemande backend clientId payload now s.db = .ok db') :
    LinksKept backend.platform.unicode { s with
      db := db'
      demandeText := s.demandeText.set s.db.demandes.nextId (payload.locations.getD "") } := by
  obtain ⟨_, _, hdata, hvalue, henc, rfl⟩ := createDemande_ok hok
  obtain ⟨hlocations, hlocationsEnc⟩ := prepareDemande_ok hdata
  simp only [map_none, or_none, getD_none] at hlocations hlocationsEnc
  obtain ⟨hmasked, htokens⟩ := masked_of_created backend.cipher backend.platform.unicode
    ⟨payload.locations, ""⟩ rfl hplain hcall payload.locations.isSome now
  rw [← hlocations, ← hvalue] at hmasked htokens
  rw [← hlocationsEnc, ← henc] at hmasked
  obtain ⟨hkept, hext⟩ := h.demandes.create hmasked htokens now
  exact ⟨hkept, h.offers.extend hext⟩

lemma LinksKept.createOffer {payload : OfferPayload} (hplain : (LocationCall.createOffer listingId payload now).Plain)
    (hcall : MaskedCall backend s (.createOffer listingId payload now))
    (hok : createOffer backend listingId payload now s.db = .ok db') :
    LinksKept backend.platform.unicode { s with
      db := db'
      offerText := s.offerText.set s.db.offers.nextId (payload.location.getD "") } := by
  obtain ⟨_, _, hdata, hvalue, henc, rfl⟩ := createOffer_ok hok
  obtain ⟨hlocation, hlocationEnc⟩ := prepareOffer_ok hdata
  simp only [map_none, or_none, getD_none] at hlocation hlocationEnc
  obtain ⟨hmasked, htokens⟩ := masked_of_created backend.cipher backend.platform.unicode
    ⟨payload.location, ""⟩ rfl hplain hcall payload.location.isSome now
  rw [← hlocation, ← hvalue] at hmasked htokens
  rw [← hlocationEnc, ← henc] at hmasked
  obtain ⟨hkept, hext⟩ := h.offers.create hmasked htokens now
  exact ⟨h.demandes.extend hext, hkept⟩

lemma LinksKept.updateDemande (hplain : (LocationCall.updateDemande demandeId payload now).Plain)
    (hcall : MaskedCall backend s (.updateDemande demandeId payload now))
    (hok : updateDemande backend demandeId payload now s.db = .ok db') :
    LinksKept backend.platform.unicode { s with
      db := db'
      demandeText := keepText s.demandeText demandeId payload.locations } := by
  obtain ⟨_, p, r, f, hselects, hdata, hvalue, henc, rfl⟩ := updateDemande_ok hok
  obtain ⟨hlocations, hlocationsEnc⟩ := prepareDemande_ok hdata
  simp only [map_some, getD_some] at hlocations hlocationsEnc
  obtain ⟨hmasked, hsome, hnone⟩ := masked_of_updated backend.cipher backend.platform.unicode
    ⟨payload.locations.or (some (readLocations backend r)), r.columns.locationsEnc⟩ rfl rfl
    (h.demandes.masked r hselects.mem) hplain hcall.1
    (fun hleft => hcall.2 hleft r hselects.mem hselects.key hselects.live)
    payload.locations.isSome now
  rw [← hlocations] at hmasked hsome hnone
  rw [← hlocationsEnc, ← henc] at hmasked
  obtain ⟨hkept, hext⟩ := h.demandes.update hselects.mem hselects.only hselects.selected
    hvalue.symm hmasked hsome hnone
  rw [hselects.key] at hkept hext
  exact ⟨hkept, h.offers.extend hext⟩

lemma LinksKept.updateOffer {payload : OfferPayload} (hplain : (LocationCall.updateOffer offerId payload now).Plain)
    (hcall : MaskedCall backend s (.updateOffer offerId payload now))
    (hok : updateOffer backend offerId payload now s.db = .ok db') :
    LinksKept backend.platform.unicode { s with
      db := db'
      offerText := keepText s.offerText offerId payload.location } := by
  obtain ⟨_, p, r, f, hselects, hdata, hvalue, henc, rfl⟩ := updateOffer_ok hok
  obtain ⟨hlocation, hlocationEnc⟩ := prepareOffer_ok hdata
  simp only [map_some, getD_some] at hlocation hlocationEnc
  obtain ⟨hmasked, hsome, hnone⟩ := masked_of_updated backend.cipher backend.platform.unicode
    ⟨payload.location.or (some (readLocation backend r)), r.columns.locationEnc⟩ rfl rfl
    (h.offers.masked r hselects.mem) hplain hcall.1
    (fun hleft => hcall.2 hleft r hselects.mem hselects.key hselects.live)
    payload.location.isSome now
  rw [← hlocation] at hmasked hsome hnone
  rw [← hlocationEnc, ← henc] at hmasked
  obtain ⟨hkept, hext⟩ := h.offers.update hselects.mem hselects.only hselects.selected hvalue.symm hmasked hsome hnone
  rw [hselects.key] at hkept hext
  exact ⟨h.demandes.extend hext, hkept⟩

lemma LinksKept.step {t : LocationDesk} {call : LocationCall} (hplain : call.Plain)
    (hcall : MaskedCall backend s call) (hstep : s.step backend call = some t) :
    LinksKept backend.platform.unicode t := by
  cases call with
  | createDemande =>
    simp only [LocationDesk.step] at hstep
    split at hstep
    · next db' hok => exact some.inj hstep ▸ h.createDemande hplain hcall hok
    · exact some.inj hstep ▸ h
  | updateDemande =>
    simp only [LocationDesk.step] at hstep
    split at hstep
    · next db' hok => exact some.inj hstep ▸ h.updateDemande hplain hcall hok
    · exact some.inj hstep ▸ h
  | createOffer =>
    simp only [LocationDesk.step] at hstep
    split at hstep
    · next db' hok => exact some.inj hstep ▸ h.createOffer hplain hcall hok
    · exact some.inj hstep ▸ h
  | updateOffer =>
    simp only [LocationDesk.step] at hstep
    split at hstep
    · next db' hok => exact some.inj hstep ▸ h.updateOffer hplain hcall hok
    · exact some.inj hstep ▸ h

end

lemma LocationDesk.Fresh.linksKept (h : s.Fresh) (unicode : Unicode) :
    LinksKept unicode s := by
  constructor
  · rw [h.demandes, h.demandeText]
    exact textKept_empty unicode _ _ _ _
  · rw [h.offers, h.offerText]
    exact textKept_empty unicode _ _ _ _

lemma LinksKept.located {unicode : Unicode} (h : LinksKept unicode s) : Located unicode s where
  demandes := fun _ _ htext => h.demandes.linksOf htext
  offers := fun _ _ htext => h.offers.linksOf htext
  joined := by
    intro d o text text' htext htext'
    rw [locationJoin_iff]
    exact (h.demandes.linksOf htext).join (h.offers.linksOf htext')

def sampleBackend : Backend where
  platform :=
    { unicode := { lower := String.toLower, nfkd := id, combining := fun _ => false }
      hashTrigrams := fun s => [s] }
  cipher :=
    { currentId := "k1"
      encryptRaw := fun _ s => s
      decrypt := fun s => some (String.ofList (s.toList.drop 3))
      bleachClean := fun s => String.ofList (s.toList.filter fun c => c != '<' && c != '>')
      blindIndexForWrite := id }
  lookups :=
    { propertyTypes := [⟨1, "apartment", none, none⟩]
      actions := [⟨1, "buy", none, none⟩]
      wilayas := [⟨16, "alger", none, some "16"⟩] }

def sampleDemande (locations : String) : DemandePayload :=
  { type := some "apartment", action := some "buy", wilaya := some "alger"
    locations := some locations
    bedsMin := some (some 2), surfaceMin := some (some 50), surfaceMax := some (some 100)
    budgetMin := some (some 10), budgetMax := some (some 20) }

def sampleOffer (location : String) : OfferPayload :=
  { type := some "apartment", action := some "buy", wilaya := some "alger"
    location := some location
    beds := some (some 2), surface := some (some 80), budget := some (some 15)
    floor := some (some 1) }

def partiesDb : Db :=
  { Db.empty with
    clients := Table.empty.insert
      { agencyId := 1, familyName := "", familyNameEnc := "", familyNameSearchIdx := []
        phone := "", phoneEnc := "", phoneSearchIdx := [], remarks := "", remarksEnc := ""
        tags := "", isVip := false, status := .active } 0
    listings := Table.empty.insert
      { agencyId := 1, familyName := "", familyNameEnc := "", familyNameSearchIdx := []
        phone := "", phoneEnc := "", phoneSearchIdx := [], remarks := "", remarksEnc := ""
        isVip := false, status := .available } 0 }

def freshDesk : LocationDesk := ⟨partiesDb, [], []⟩

lemma freshDesk_fresh : freshDesk.Fresh := ⟨rfl, rfl, rfl, rfl⟩

def blankCalls : List LocationCall :=
  [.createDemande 1 (sampleDemande " ") 1, .updateDemande 1 { rowVersion := some 1, tags := some "urgent" } 2]

/-- A demande in one location and an offer in another. -/
def disjointCalls : List LocationCall :=
  [.createDemande 1 (sampleDemande "Hydra") 1, .createOffer 1 (sampleOffer "Kouba") 2]

end ImmoApp.Crm
