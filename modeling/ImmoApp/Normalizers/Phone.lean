import ImmoApp.Normalizers.TextUtils
import Mathlib.Data.Rat.Defs

/-!
# Phone numbers

The normalizer strips a label and separators, turns the international forms into the national one and repairs a
missing zero.  A number whose kind is known needs no review; all its spellings have one value, and normalizing that
value again does not change it.
-/

namespace ImmoApp.Normalizers

open List

/-- `NormalizeResult`, with the value and the extras of one normalizer. -/
structure NormalizeResult (α ε : Type) where
  value : Option α
  confidence : ℚ
  original : List Char
  needsReview : Bool
  extractedExtras : Option ε
  toRemarks : Option (List Char)

/-- `[a-z0-9 _-]`. -/
def isLabelChar (c : Char) : Bool := c.isLower || c.isDigit || c ∈ [' ', '_', '-']

/-- What follows `\s*[:=\-]\s*`. -/
def afterSeparator (s : List Char) : Option (List Char) :=
  match s.dropWhile isSpace with
  | c :: rest => if c ∈ [':', '=', '-'] then some (rest.dropWhile isSpace) else none
  | [] => none

/-- `_LABEL_SEPARATOR_RE` on a text without white space at its beginning: the shortest label, and what follows. -/
def matchLabel (label : List Char) : List Char → Option (List Char × List Char)
  | [] => none
  | c :: s =>
    if isLabelChar c then
      match afterSeparator s with
      | some rest => some (label ++ [c], rest)
      | none => matchLabel (label ++ [c]) s
    else none

def stripLabels (t : CharTable) (labels : List (List Char)) (text : List Char) : List Char :=
  let normalized := canonicalizeText t text
  match matchLabel [] normalized with
  | none => normalized
  | some (label, rest) =>
    if label ∈ labels.map (canonicalizeText t) then trimBy isSpace rest else normalized

def mobilePrefixes : List (List Char) := [['0', '5'], ['0', '6'], ['0', '7']]
def landlinePrefixes : List (List Char) := [['0', '2'], ['0', '3'], ['0', '4']]
def servicePrefixes : List (List Char) := [['0', '8']]
def specialPrefixes : List (List Char) := [['0', '9']]

def phoneLabels : List (List Char) :=
  ["mobile", "phone", "portable", "tel", "telephone"].map String.toList

/-- `[\s\-\.\(\)]`. -/
def isPhoneSeparator (c : Char) : Bool := isSpace c || c ∈ ['-', '.', '(', ')']

section Normalize

variable (t : CharTable)

/-- The number without its label and separators. -/
def joined (value : List Char) : List Char :=
  ((stripLabels t phoneLabels (canonicalizeText t value)).map fun c => if c ∈ ['＋', '➕'] then '+' else c).filter
    fun c => !isPhoneSeparator c

/-- A bare country code counts in texts of at least twelve characters. -/
def national (phone : List Char) : List Char :=
  if ['+', '2', '1', '3'] <+: phone then '0' :: phone.drop 4
  else if ['0', '0', '2', '1', '3'] <+: phone then '0' :: phone.drop 5
  else if ['2', '1', '3'] <+: phone ∧ 12 ≤ phone.length then '0' :: phone.drop 3
  else phone

def repaired (digits : List Char) : List Char :=
  if digits.length = 9 ∧ digits.head?.any (· ∈ ['5', '6', '7']) then '0' :: digits else digits

def phoneKind (start : List Char) : Option (String × ℚ) :=
  if start ∈ mobilePrefixes then some ("mobile", 1)
  else if start ∈ landlinePrefixes then some ("landline", 1)
  else if start ∈ servicePrefixes then some ("service", 95 / 100)
  else if start ∈ specialPrefixes then some ("special", 95 / 100)
  else none

/-- `normalize`; the extra is the kind of the phone. -/
def normalizePhone (value : List Char) : NormalizeResult (List Char) String :=
  if trimBy isSpace value = [] then ⟨none, 1, value, false, none, none⟩
  else
    let phone := repaired ((national (joined t value)).filter fun c => (t.digit? c).isSome)
    if phone.length ≠ 10 then ⟨none, 3 / 10, value, true, none, some ("Invalid phone: ".toList ++ value)⟩
    else
      match phoneKind (phone.take 2) with
      | none => ⟨some phone, 1 / 2, value, true, none, some ("Unknown prefix: ".toList ++ phone.take 2)⟩
      | some (kind, confidence) => ⟨some phone, confidence, value, false, some kind, none⟩

end Normalize

/-- Ten digits with the prefix of a known kind. -/
structure PhoneNumber where
  digits : List Char
  length_eq : digits.length = 10
  ascii : ∀ c ∈ digits, c.isDigit = true
  known : digits.take 2 ∈ mobilePrefixes ++ landlinePrefixes ++ servicePrefixes ++ specialPrefixes

/-- `phone[start:stop]`. -/
def part (phone : List Char) (start stop : ℕ) : List Char := (phone.take stop).drop start

def formatDisplay (phone : List Char) : List Char :=
  if phone.length ≠ 10 then phone
  else part phone 0 2 ++ ' ' :: part phone 2 4 ++ ' ' :: part phone 4 6 ++ ' ' :: part phone 6 8 ++
    ' ' :: part phone 8 10

def formatInternational (phone : List Char) : List Char :=
  if phone.length ≠ 10 then phone
  else ['+', '2', '1', '3', ' '] ++ part phone 1 4 ++ ' ' :: part phone 4 7 ++ ' ' :: part phone 7 10

/-- The spellings of a number. -/
def PhoneNumber.spellings (p : PhoneNumber) : List (List Char) :=
  [p.digits, formatDisplay p.digits, formatInternational p.digits, ['0', '0', '2', '1', '3'] ++ p.digits.drop 1,
    ['2', '1', '3'] ++ p.digits.drop 1]

variable {t : CharTable} {s : List Char} {c : Char}

/-! ### What is left of a text -/

variable {q : Char → Bool} {label digits : List Char}

lemma filter_trimBy {p : Char → Bool} (hpq : ∀ c, p c = true → q c = false) (s : List Char) :
    (trimBy p s).filter q = s.filter q := by
  have hdrop : ∀ l : List Char, (l.dropWhile p).filter q = l.filter q := by
    intro l
    induction l with
    | nil => rfl
    | cons c l ih =>
      rw [dropWhile_cons]
      split_ifs with hc
      · rw [ih, filter_cons_of_neg (by simp [hpq c hc])]
      · rfl
  rw [trimBy, filter_reverse, hdrop, filter_reverse, reverse_reverse, hdrop]

lemma filter_normalizeWhitespace (hq : ∀ c, isSpace c = true → q c = false) (s : List Char) :
    (normalizeWhitespace s).filter q = s.filter q := by
  rw [normalizeWhitespace, filter_trimBy hq]
  induction s with
  | nil => rfl
  | cons c s ih =>
    rw [collapse]
    split_ifs with hc
    · rw [ih, filter_cons_of_neg (by simp [hq c hc])]
    · rw [filter_cons_of_neg (by simp [hq ' ' (by decide)]), ih, filter_cons_of_neg (by simp [hq c hc])]
    · rw [filter_cons, filter_cons, ih]

lemma matchLabel_eq_none (h : ∀ c ∈ s, c ∉ [':', '=', '-']) : matchLabel label s = none := by
  induction s generalizing label with
  | nil => rfl
  | cons c s ih =>
    have hlater : ∀ d ∈ s, d ∉ [':', '=', '-'] := fun d hd => h d (mem_cons_of_mem c hd)
    have hafter : afterSeparator s = none := by
      rw [afterSeparator]
      cases hdrop : s.dropWhile isSpace with
      | nil => rfl
      | cons d => exact if_neg (hlater d ((dropWhile_suffix isSpace).mem (hdrop ▸ mem_cons_self)))
    rw [matchLabel, hafter]
    split_ifs
    · exact ih hlater
    · rfl

lemma mem_of_matchLabel {label' rest : List Char} (h : matchLabel label s = some (label', rest))
    (hc : c ∈ rest) : c ∈ s := by
  induction s generalizing label with
  | nil => cases h
  | cons d s ih =>
    rw [matchLabel] at h
    split_ifs at h
    cases hafter : afterSeparator s with
    | none =>
      rw [hafter] at h
      exact mem_cons_of_mem d (ih h)
    | some =>
      rw [hafter] at h
      obtain ⟨-, rfl⟩ := Prod.mk.inj (Option.some.inj h)
      rw [afterSeparator] at hafter
      cases hdrop : s.dropWhile isSpace with
      | nil => simp [hdrop] at hafter
      | cons e =>
        simp only [hdrop] at hafter
        split_ifs at hafter
        obtain ⟨⟩ := hafter
        have hmem : c ∈ s.dropWhile isSpace :=
          hdrop ▸ mem_cons_of_mem e ((dropWhile_suffix isSpace).mem hc)
        exact mem_cons_of_mem d ((dropWhile_suffix isSpace).mem hmem)

lemma mem_of_mem_stripLabels {labels : List (List Char)} (h : c ∈ stripLabels t labels s) :
    c ∈ canonicalizeText t s := by
  rw [stripLabels] at h
  cases hmatch : matchLabel [] (canonicalizeText t s) with
  | none => simpa only [hmatch] using h
  | some =>
    simp only [hmatch] at h
    split_ifs at h
    · exact mem_of_matchLabel hmatch ((trimBy_isInfix isSpace _).mem h)
    · exact h

lemma joined_eq (h : ∀ c ∈ s, Settled t c ∧ c ∉ ['&', ':', '=', '-', '＋', '➕']) :
    joined t s = s.filter fun c => !isPhoneSeparator c := by
  have hcanonical : ∀ {l : List Char}, (∀ c ∈ l, Settled t c ∧ c ∉ ['&', ':', '=', '-', '＋', '➕']) →
      canonicalizeText t l = normalizeWhitespace l := fun hl =>
    canonicalizeText_of_settled (fun c hc => (hl c hc).1) fun hwithin =>
      (hl '&' (hwithin.mem (by decide))).2 (by decide)
  have hnormal : ∀ c ∈ normalizeWhitespace s, Settled t c ∧ c ∉ ['&', ':', '=', '-', '＋', '➕'] := fun c hc =>
    (mem_collapse ((trimBy_isInfix isSpace _).mem hc)).elim (fun hblank => hblank ▸ ⟨settled_blank, by decide⟩) (h c)
  rw [joined, hcanonical h, stripLabels, hcanonical hnormal, normalizeWhitespace_idem,
    matchLabel_eq_none fun c hc hmem => (hnormal c hc).2 (by simp_all)]
  dsimp only
  rw [map_congr_left (g := id), map_id]
  · exact filter_normalizeWhitespace (fun c hc => by simp [isPhoneSeparator, hc]) s
  · exact fun c hc => if_neg fun hmem => (hnormal c hc).2 (by simp_all)

lemma mem_joined (h : c ∈ joined t s) : c = '+' ∨ Settled t c ∧ c ∉ ['＋', '➕'] := by
  obtain ⟨d, hd, rfl⟩ := mem_map.mp (mem_of_mem_filter h)
  split_ifs with hplus
  · exact .inl rfl
  · exact .inr ⟨settled_of_mem_canonicalizeText (mem_of_mem_stripLabels hd), hplus⟩

/-! ### Numbers of a known kind -/

def knownPrefixes : List (List Char) := mobilePrefixes ++ landlinePrefixes ++ servicePrefixes ++ specialPrefixes

lemma phoneKind_isSome_iff {start : List Char} : (phoneKind start).isSome ↔ start ∈ knownPrefixes := by
  simp only [knownPrefixes, mem_append]
  rw [phoneKind]
  split_ifs <;> simp_all

lemma national_eq (h : s.take 2 ∈ knownPrefixes) : national s = s := by
  have hall : ∀ start ∈ knownPrefixes, start = ['0', start.getD 1 '0'] ∧ start.getD 1 '0' ≠ '0' := by decide
  obtain ⟨hstart, hc⟩ := hall _ h
  generalize (s.take 2).getD 1 '0' = c at hstart hc
  obtain ⟨rest, rfl⟩ : ∃ rest, s = '0' :: c :: rest :=
    ⟨s.drop 2, by rw [← take_append_drop 2 s, hstart]; simp⟩
  rw [national, if_neg (by simp), if_neg (by simp [hc.symm]), if_neg (by simp)]

lemma trimBy_ne_nil (hc : c ∈ s) (hspace : isSpace c = false) : trimBy isSpace s ≠ [] := by
  intro hnil
  have hkept := filter_trimBy (p := isSpace) (q := fun c => !isSpace c) (by simp) s
  rw [hnil] at hkept
  exact not_mem_nil (hkept ▸ mem_filter.mpr ⟨hc, by simp [hspace]⟩)

lemma normalizePhone_eq (hblank : trimBy isSpace s ≠ []) (hnational : national (joined t s) = digits)
    (hlength : digits.length = 10) (hdecimal : ∀ c ∈ digits, (t.digit? c).isSome)
    (hknown : digits.take 2 ∈ knownPrefixes) :
    (normalizePhone t s).value = some digits ∧ (normalizePhone t s).needsReview = false := by
  obtain ⟨⟨_, _⟩, hkind⟩ := Option.isSome_iff_exists.mp (phoneKind_isSome_iff.mpr hknown)
  have hrepaired : repaired (digits.filter fun c => (t.digit? c).isSome) = digits := by
    rw [filter_eq_self.mpr hdecimal, repaired, if_neg (by omega)]
  rw [normalizePhone, if_neg hblank, hnational, hrepaired, if_neg (by omega), hkind]
  exact ⟨rfl, rfl⟩

lemma toNat_of_isDigit (h : c.isDigit = true) : c.toNat < 128 := by
  have hrange : 48 ≤ c.toNat ∧ c.toNat ≤ 57 := by simpa [Char.isDigit, UInt32.le_iff_toNat_le] using h
  omega

lemma settled_of_isDigit (h : c.isDigit = true) : Settled t c := by
  have hall : ∀ n < 128, (Char.ofNat n).isDigit = true → Plain (Char.ofNat n) ∧
      (Char.ofNat n).toLower = Char.ofNat n ∧ Char.ofNat n ≠ 'İ' ∧ Char.ofNat n ≠ 'Σ' := by decide
  have hascii := toNat_of_isDigit h
  have hc := hall c.toNat hascii
  rw [Char.ofNat_toNat] at hc
  obtain ⟨hplain, hlower, hdotted, hsigma⟩ := hc h
  exact settled_of_lower hplain ((t.lower_ascii c hascii).trans hlower) hdotted hsigma

lemma digit_of_isDigit (h : c.isDigit = true) : (t.digit? c).isSome := by
  rw [t.digit_ascii c (toNat_of_isDigit h), if_pos h]
  rfl

lemma not_punctuation (h : (t.digit? c).isSome) : isSpace c = false ∧ c ∉ ['&', ':', '=', '-', '.', '(', ')', '+'] := by
  constructor
  · by_contra hspace
    rw [Bool.not_eq_false] at hspace
    rw [t.digit_space c hspace] at h
    cases h
  · intro hmem
    have hall : ∀ c ∈ ['&', ':', '=', '-', '.', '(', ')', '+'], c.toNat < 128 ∧ c.isDigit = false :=
      all_iff_forall_prop.mp (by decide)
    obtain ⟨hascii, hdigit⟩ := hall c hmem
    rw [t.digit_ascii c hascii, if_neg (by simp [hdigit])] at h
    cases h

lemma mem_national (h : c ∈ national s) : c = '0' ∨ c ∈ s := by
  rw [national] at h
  split_ifs at h
  · exact (mem_cons.mp h).imp_right mem_of_mem_drop
  · exact (mem_cons.mp h).imp_right mem_of_mem_drop
  · exact (mem_cons.mp h).imp_right mem_of_mem_drop
  · exact .inr h

lemma mem_repaired (h : c ∈ repaired s) : c = '0' ∨ c ∈ s := by
  rw [repaired] at h
  split_ifs at h
  · exact mem_cons.mp h
  · exact .inr h

lemma normalizePhone_self (hdigits : ∀ c ∈ digits, (t.digit? c).isSome ∧ Settled t c ∧ c ∉ ['＋', '➕'])
    (hlength : digits.length = 10) (hknown : digits.take 2 ∈ knownPrefixes) :
    (normalizePhone t digits).value = some digits ∧ (normalizePhone t digits).needsReview = false := by
  have hjoined : joined t digits = digits := by
    rw [joined_eq fun c hc => ⟨(hdigits c hc).2.1, fun hmem => ?_⟩]
    · refine filter_eq_self.mpr fun c hc => ?_
      obtain ⟨_, hmark⟩ := not_punctuation (hdigits c hc).1
      simp_all [isPhoneSeparator]
    · have hmark := (not_punctuation (hdigits c hc).1).2
      have hplus := (hdigits c hc).2.2
      simp_all
  obtain ⟨c, _, rfl⟩ := exists_cons_of_length_pos (by omega : 0 < digits.length)
  have hfirst := (not_punctuation (hdigits c mem_cons_self).1).1
  exact normalizePhone_eq (trimBy_ne_nil mem_cons_self hfirst) (by rw [hjoined, national_eq hknown]) hlength
    (fun c hc => (hdigits c hc).1) hknown

/-- The value of a number that needs no review is a fixed point. -/
lemma normalizePhone_value (hreview : (normalizePhone t s).needsReview = false)
    (hvalue : (normalizePhone t s).value = some digits) : (normalizePhone t digits).value = some digits := by
  rw [normalizePhone] at hreview hvalue
  split_ifs at hreview hvalue with hblank
  dsimp only at hreview hvalue
  split_ifs at hreview hvalue with hlength
  cases hkind : phoneKind ((repaired ((national (joined t s)).filter fun c => (t.digit? c).isSome)).take 2) with
  | none => simp [hkind] at hreview
  | some =>
    simp only [hkind] at hvalue
    obtain rfl := Option.some.inj hvalue
    have hzero : (t.digit? '0').isSome ∧ Settled t '0' ∧ '0' ∉ ['＋', '➕'] :=
      ⟨digit_of_isDigit (by decide), settled_of_isDigit (by decide), by decide⟩
    refine (normalizePhone_self (fun c hc => ?_) (not_not.mp hlength) (phoneKind_isSome_iff.mp (by rw [hkind]; rfl))).1
    rcases mem_repaired hc with rfl | hc
    · exact hzero
    · obtain ⟨hc, hdecimal⟩ := mem_filter.mp hc
      rcases mem_national hc with rfl | hc
      · exact hzero
      · rcases mem_joined hc with rfl | hsettled
        · exact absurd (by decide) (not_punctuation hdecimal).2
        · exact ⟨hdecimal, hsettled⟩

/-! ### The spellings of a number -/

lemma spelling_joined (p : PhoneNumber) {form : List Char} (hform : form ∈ p.spellings) :
    (∀ c ∈ form, c.isDigit = true ∨ c = ' ' ∨ c = '+') ∧
      national (form.filter fun c => !isPhoneSeparator c) = p.digits := by
  obtain ⟨digits, hlength, hascii, hknown⟩ := p
  have hseparator : ∀ c, c.isDigit = true → isPhoneSeparator c = false := fun c hc => by
    have hmark := (not_punctuation (t := asciiTable) (c := c) (by simp [asciiTable, hc])).2
    simp_all [isPhoneSeparator, isSpace_of_isDigit hc]
  have hblank : isPhoneSeparator ' ' = true := by decide
  have hplus : isPhoneSeparator '+' = false := by decide
  have hown := national_eq hknown
  match digits, hlength with
  | [a, b, c, d, e, f, g, h, i, j], _ =>
    obtain rfl : a = '0' := by
      have hall : ∀ start ∈ knownPrefixes, start.head? = some '0' := by decide
      simpa using hall _ hknown
    simp only [mem_cons, not_mem_nil, or_false, forall_eq_or_imp, forall_eq] at hascii
    simp only [PhoneNumber.spellings, mem_cons, not_mem_nil, or_false] at hform
    rcases hform with rfl | rfl | rfl | rfl | rfl
    · exact ⟨by simp [hascii], by simpa [hseparator, hascii] using hown⟩
    · exact ⟨by simp [formatDisplay, part, hascii], by
        simpa [formatDisplay, part, hseparator, hascii, hblank] using hown⟩
    · exact ⟨by simp [formatInternational, part, hascii], by
        simp [formatInternational, part, hseparator, hascii, hblank, hplus, national]⟩
    · exact ⟨by simp [hascii], by simp [hseparator, hascii, national]⟩
    · exact ⟨by simp [hascii], by simp [hseparator, hascii, national]⟩

theorem phone_one_form (t : CharTable) :
    (∀ (p : PhoneNumber), ∀ form ∈ p.spellings, (normalizePhone t form).value = some p.digits) ∧
      ∀ text, (normalizePhone t text).needsReview = true ∨
        (normalizePhone t ((normalizePhone t text).value.getD [])).value = (normalizePhone t text).value := by
  refine ⟨fun p form hform => ?_, fun text => ?_⟩
  · obtain ⟨hchars, hnational⟩ := spelling_joined p hform
    have hother : ∀ c ∈ ['&', ':', '=', '-', '＋', '➕'], c.isDigit = false := all_iff_forall_prop.mp (by decide)
    have hplus : Settled t '+' := settled_of_lower (by decide) (t.lower_ascii '+' (by decide)) (by decide) (by decide)
    have hplain : ∀ c ∈ form, Settled t c ∧ c ∉ ['&', ':', '=', '-', '＋', '➕'] := fun c hc => by
      rcases hchars c hc with hdigit | rfl | rfl
      · exact ⟨settled_of_isDigit hdigit, fun hmem => absurd hdigit (by simp [hother c hmem])⟩
      · exact ⟨settled_blank, by decide⟩
      · exact ⟨hplus, by decide⟩
    have hjoined := joined_eq hplain
    refine (normalizePhone_eq (fun hnil => ?_) (by rw [hjoined, hnational]) p.length_eq (fun c hc => ?_) p.known).1
    · have hkept := filter_trimBy (p := isSpace) (q := fun c => !isPhoneSeparator c)
        (fun c hc => by simp [isPhoneSeparator, hc]) form
      rw [← hkept, hnil] at hnational
      exact absurd (congrArg List.length hnational) (by rw [p.length_eq]; decide)
    · exact digit_of_isDigit (p.ascii c hc)
  · rcases Bool.eq_false_or_eq_true (normalizePhone t text).needsReview with hreview | hreview
    · exact .inl hreview
    · right
      cases hvalue : (normalizePhone t text).value with
      | none => rfl
      | some => exact normalizePhone_value hreview hvalue

end ImmoApp.Normalizers
