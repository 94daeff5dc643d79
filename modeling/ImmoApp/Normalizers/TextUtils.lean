import ImmoApp.Foundation.Replace
import ImmoApp.Foundation.Text
import Mathlib.Data.Bool.AllAny
import Mathlib.Data.List.Chain
import Mathlib.Data.List.Infix

/-!
# Canonical texts of the importer

`canonicalize_text` replaces, translates and drops characters, lowers letters and collapses white space, in this
order; texts are lists of characters.  What the Unicode database says of a character is a `CharTable`, with the
facts of it that are relied on.

The reference of a blank is replaced before letters are lowered and characters dropped, so a text that only then
spells it is not canonical yet: `canonicalizeText_idem_iff`.
-/

namespace ImmoApp.Normalizers

open List Option

/-- `_TYPOGRAPHIC_TRANSLATION`, none for a character that is dropped. -/
def typographic (c : Char) : Option Char :=
  if c ∈ ['“', '”', '„', '«', '»'] then some (Char.ofNat 0x22)
  else if c ∈ ['‘', '’', '‚'] then some (Char.ofNat 0x27)
  else if c ∈ ['\u00a0', '\u202f', '\u2007'] then some ' '
  else if c ∈ ['\u200b', '\u200c', '\u200d', '\u2060', '\ufeff'] then none
  else if c ∈ ['–', '—', '−'] then some '-'
  else some c

def arabicDigit (c : Char) : Char :=
  if 0x660 ≤ c.toNat ∧ c.toNat ≤ 0x669 then Char.ofNat (c.toNat - 0x660 + 48)
  else if 0x6f0 ≤ c.toNat ∧ c.toNat ≤ 0x6f9 then Char.ofNat (c.toNat - 0x6f0 + 48)
  else c

/-- `_ACCENT_TRANSLATION`, by the letters that are put in. -/
def accents : List (List Char × Char) :=
  [(['é', 'è', 'ê', 'ë'], 'e'), (['à', 'â', 'ä'], 'a'), (['î', 'ï'], 'i'), (['ô', 'ö'], 'o'), (['ù', 'û', 'ü'], 'u'),
    (['ç'], 'c'), (['É', 'È', 'Ê', 'Ë'], 'E'), (['À', 'Â', 'Ä'], 'A'), (['Î', 'Ï'], 'I'), (['Ô', 'Ö'], 'O'),
    (['Ù', 'Û', 'Ü'], 'U'), (['Ç'], 'C')]

def unaccented (c : Char) : Char := ((accents.find? fun e => c ∈ e.1).map Prod.snd).getD c

/-- The characters of `_CONTROL_TRANSLATION`. -/
def isControl (c : Char) : Bool :=
  c.toNat < 9 || c.toNat == 11 || c.toNat == 12 || (14 ≤ c.toNat && c.toNat < 32) || c.toNat == 127

/-- No translation changes the character. -/
def Plain (c : Char) : Prop :=
  typographic c = some c ∧ arabicDigit c = c ∧ unaccented c = c ∧ isControl c = false

instance (c : Char) : Decidable (Plain c) := by
  unfold Plain
  infer_instance

/-- The Unicode database: the simple lower case, what decides on the form of a sigma, and decimal digits. -/
structure CharTable where
  lower : Char → Char
  cased : Char → Bool
  caseIgnorable : Char → Bool
  digit? : Char → Option ℕ
  lower_lower : ∀ c, lower (lower c) = lower c
  lower_plain : ∀ c, Plain c → Plain (lower c)
  lower_ascii : ∀ c, c.toNat < 128 → lower c = c.toLower
  lower_sigma : lower 'Σ' = 'σ' ∧ lower 'ς' = 'ς'
  lower_dotted : lower 'İ' = 'i' ∧ lower '\u0307' = '\u0307'
  digit_ascii : ∀ c, c.toNat < 128 → digit? c = if c.isDigit then some (c.toNat - 48) else none
  digit_space : ∀ c, isSpace c = true → digit? c = none

namespace CharTable

variable (t : CharTable)

/-- A capital sigma has another lower case at the end of a word. -/
def finalSigma (before after : List Char) : Bool :=
  (before.dropWhile t.caseIgnorable).head?.any t.cased && !(after.dropWhile t.caseIgnorable).head?.any t.cased

def sigmaAt (before after : List Char) (c : Char) : Char :=
  if c = 'Σ' then if t.finalSigma before after then 'ς' else 'σ' else c

/-- The forms of the capital sigmas, for the characters before the text. -/
def sigmas (before : List Char) : List Char → List Char
  | [] => []
  | c :: s => t.sigmaAt before s c :: sigmas (c :: before) s

def lowerChar (c : Char) : List Char := if c = 'İ' then ['i', '\u0307'] else [t.lower c]

/-- `str.lower()`. -/
def lowerText (before s : List Char) : List Char := (t.sigmas before s).flatMap t.lowerChar

end CharTable

def convertArabicDigits (s : List Char) : List Char := s.map arabicDigit

def stripAccents (s : List Char) : List Char := s.map unaccented

def collapse : List Char → List Char
  | [] => []
  | c :: s =>
    if isSpace c then if s.head?.any isSpace then collapse s else ' ' :: collapse s else c :: collapse s

def normalizeWhitespace (s : List Char) : List Char := trimBy isSpace (collapse s)

def nbsp : List Char := ['&', 'n', 'b', 's', 'p', ';']

section Canonical

variable (t : CharTable)

/-- The steps on single characters, for the characters before the text. -/
def clean (before s : List Char) : List Char :=
  (t.lowerText before (stripAccents (convertArabicDigits (s.filterMap typographic)))).filter fun c => !isControl c

def canonicalizeText (s : List Char) : List Char :=
  normalizeWhitespace (clean t [] (replaceAll nbsp [' '] s))

/-- The text spells the reference of a blank in another way: in capitals, or with characters that are dropped. -/
def RespellsNbsp (s : List Char) : Prop := ∃ mid, mid <:+: s ∧ clean t [] mid = nbsp ∧ ¬nbsp <:+: mid

end Canonical

/-! ### White space -/

lemma prefix_collapse_iff {pat s : List Char} (hpat : ∀ c ∈ pat, isSpace c = false) :
    pat <+: collapse s ↔ pat <+: s := by
  induction s generalizing pat with
  | nil => rfl
  | cons c s ih =>
    cases pat with
    | nil => simp
    | cons p pat =>
      have hp := hpat p mem_cons_self
      rw [collapse]
      split
      · next hspace =>
        have hright : ¬p :: pat <+: c :: s := fun h => by
          rw [(cons_prefix_cons.mp h).1, hspace] at hp
          cases hp
        refine iff_of_false ?_ hright
        split
        · next hnext =>
          rw [ih hpat]
          rintro ⟨_, rfl⟩
          exact absurd hnext (by simp [hp])
        · intro h
          rw [(cons_prefix_cons.mp h).1] at hp
          exact absurd hp (by decide)
      · rw [cons_prefix_cons, cons_prefix_cons, ih fun d hd => hpat d (mem_cons_of_mem p hd)]

lemma infix_trimBy_iff {p : Char → Bool} {pat s : List Char} (hne : pat ≠ []) (hpat : ∀ c ∈ pat, p c = false) :
    pat <:+: trimBy p s ↔ pat <:+: s := by
  have hdrop : ∀ {q l : List Char}, q ≠ [] → (∀ c ∈ q, p c = false) → (q <:+: l.dropWhile p ↔ q <:+: l) := by
    intro q l hq hfree
    refine ⟨fun h => h.trans (dropWhile_suffix p).isInfix, fun h => ?_⟩
    rw [← takeWhile_append_dropWhile (p := p) (l := l)] at h
    refine infix_of_infix_append hq (fun c hc hmem => ?_) h
    exact absurd (mem_takeWhile_imp hmem) (by simp [hfree c hc])
  rw [trimBy, ← reverse_infix, reverse_reverse, hdrop (by simpa using hne) (by simpa using hpat),
    reverse_infix, hdrop hne hpat]

lemma infix_normalizeWhitespace_iff {pat s : List Char} (hne : pat ≠ []) (hpat : ∀ c ∈ pat, isSpace c = false) :
    pat <:+: normalizeWhitespace s ↔ pat <:+: s := by
  rw [normalizeWhitespace, infix_trimBy_iff hne hpat]
  induction s with
  | nil => rfl
  | cons c s ih =>
    rw [infix_cons_iff, ← ih, ← prefix_collapse_iff hpat]
    have hcons : collapse (c :: s) = collapse s ∨ ∃ d, collapse (c :: s) = d :: collapse s := by
      rw [collapse]
      split_ifs <;> simp
    rcases hcons with hcons | ⟨d, hcons⟩
    · rw [hcons]
      exact ⟨.inr, fun h => h.elim List.IsPrefix.isInfix id⟩
    · rw [hcons, infix_cons_iff]

/-- White space is single blanks between the words. -/
structure Collapsed (s : List Char) : Prop where
  single : s.IsChain fun c d => isSpace c = true → isSpace d = false
  blank : ∀ c ∈ s, isSpace c = true → c = ' '

lemma collapsed_collapse (s : List Char) : Collapsed (collapse s) ∧
    (∀ c ∈ (collapse s).head?, isSpace c = true → ∃ d ∈ s.head?, isSpace d = true) := by
  induction s with
  | nil => exact ⟨⟨isChain_nil, by simp [collapse]⟩, by simp [collapse]⟩
  | cons c s ih =>
    obtain ⟨⟨hsingle, hblank⟩, hhead⟩ := ih
    rw [collapse]
    split
    · next hspace =>
      split
      · exact ⟨⟨hsingle, hblank⟩, fun _ _ _ => ⟨c, rfl, hspace⟩⟩
      · next hnext =>
        refine ⟨⟨isChain_cons.mpr ⟨fun d hd _ => ?_, hsingle⟩, fun d hd hd' => ?_⟩, fun _ _ _ => ⟨c, rfl, hspace⟩⟩
        · by_contra htrue
          obtain ⟨e, he, he'⟩ := hhead d hd (by simpa using htrue)
          exact hnext (by rw [mem_def.mp he]; exact he')
        · rcases mem_cons.mp hd with rfl | hd
          · rfl
          · exact hblank d hd hd'
    · next hspace =>
      refine ⟨⟨isChain_cons.mpr ⟨fun _ _ h => absurd h hspace, hsingle⟩, fun d hd hd' => ?_⟩, ?_⟩
      · rcases mem_cons.mp hd with rfl | hd
        · exact absurd hd' hspace
        · exact hblank d hd hd'
      · rintro d hd hd'
        exact ⟨d, hd, hd'⟩

lemma Collapsed.collapse_eq {s : List Char} (h : Collapsed s) : collapse s = s := by
  induction s with
  | nil => rfl
  | cons c s ih =>
    obtain ⟨hhead, hsingle⟩ := isChain_cons.mp h.single
    rw [collapse, ih ⟨hsingle, fun d hd => h.blank d (mem_cons_of_mem c hd)⟩]
    split
    · next hspace =>
      obtain rfl := h.blank c mem_cons_self hspace
      rw [if_neg]
      intro hnext
      obtain ⟨d, hd, hd'⟩ := (any_eq_true _ _).mp hnext
      exact absurd (hhead d hd hspace) (by simp [hd'])
    · rfl

lemma trimBy_isInfix (p : Char → Bool) (s : List Char) : trimBy p s <:+: s := by
  refine List.IsInfix.trans ?_ (dropWhile_suffix p).isInfix
  rw [← reverse_infix, trimBy, reverse_reverse]
  exact (dropWhile_suffix p).isInfix

lemma collapsed_normalizeWhitespace (s : List Char) : Collapsed (normalizeWhitespace s) where
  single := List.IsChain.infix (collapsed_collapse s).1.single (trimBy_isInfix isSpace _)
  blank c hc := (collapsed_collapse s).1.blank c ((trimBy_isInfix isSpace _).mem hc)

lemma normalizeWhitespace_idem (s : List Char) :
    normalizeWhitespace (normalizeWhitespace s) = normalizeWhitespace s := by
  rw [normalizeWhitespace, (collapsed_normalizeWhitespace s).collapse_eq, normalizeWhitespace, trimBy_trimBy]

lemma length_normalizeWhitespace (s : List Char) : (normalizeWhitespace s).length ≤ s.length := by
  refine (trimBy_isInfix isSpace _).length_le.trans ?_
  induction s with
  | nil => exact le_rfl
  | cons c s ih =>
    rw [collapse]
    split_ifs <;> simp only [length_cons] <;> omega

lemma mem_collapse {s : List Char} {c : Char} (h : c ∈ collapse s) : c = ' ' ∨ c ∈ s := by
  induction s with
  | nil => exact absurd h not_mem_nil
  | cons d s ih =>
    rw [collapse] at h
    split_ifs at h
    · exact (ih h).imp_right (mem_cons_of_mem d)
    · exact (mem_cons.mp h).elim .inl fun h => (ih h).imp_right (mem_cons_of_mem d)
    · rcases mem_cons.mp h with rfl | h
      · exact .inr mem_cons_self
      · exact (ih h).imp_right (mem_cons_of_mem d)

/-! ### The steps on single characters -/

lemma plain_digit : ∀ k < 10, Plain (Char.ofNat (k + 48)) := by decide

lemma plain_translate {c d : Char} (h : typographic c = some d)
    (hcontrol : isControl (unaccented (arabicDigit d)) = false) : Plain (unaccented (arabicDigit d)) := by
  have hplain : ∀ {e : Char}, Plain e → arabicDigit e = e → Plain (unaccented (arabicDigit e)) := fun hp he => by
    rw [he, hp.2.2.1]
    exact hp
  have hd : Plain d ∨ typographic d = some d := by
    have hc := h
    unfold typographic at h
    split_ifs at h
    · exact some.inj h ▸ .inl (by decide)
    · exact some.inj h ▸ .inl (by decide)
    · exact some.inj h ▸ .inl (by decide)
    · exact some.inj h ▸ .inl (by decide)
    · exact some.inj h ▸ .inr (some.inj h ▸ hc)
  rcases hd with hd | hd
  · exact hplain hd hd.2.1
  · have hdigit : (∃ k < 10, arabicDigit d = Char.ofNat (k + 48)) ∨ arabicDigit d = d := by
      unfold arabicDigit
      split_ifs
      · exact .inl ⟨d.toNat - 0x660, by omega, rfl⟩
      · exact .inl ⟨d.toNat - 0x6f0, by omega, rfl⟩
      · exact .inr rfl
    rcases hdigit with ⟨k, hk, hdigit⟩ | hdigit
    · rw [hdigit, (plain_digit k hk).2.2.1]
      exact plain_digit k hk
    · rw [hdigit] at hcontrol ⊢
      cases hfind : accents.find? fun e => d ∈ e.1 with
      | none =>
        have hsame : unaccented d = d := by rw [unaccented, hfind]; rfl
        rw [hsame] at hcontrol ⊢
        exact ⟨hd, hdigit, hsame, hcontrol⟩
      | some e =>
        have hletter : ∀ e ∈ accents, Plain e.2 := by decide
        rw [unaccented, hfind]
        exact hletter e (mem_of_find?_eq_some hfind)

section Steps

variable (t : CharTable)

/-- The steps leave the character as it is. -/
structure Settled (c : Char) : Prop where
  plain : Plain c
  lower : t.lowerChar c = [c]
  noSigma : c ≠ 'Σ'

variable {t} {before s : List Char} {c d : Char}

lemma clean_cons_of_none (h : typographic c = none) : clean t before (c :: s) = clean t before s := by
  simp [clean, h]

lemma clean_cons_of_some (before s : List Char) (h : typographic c = some d) : ∃ after, clean t before (c :: s) =
    ((t.lowerChar (t.sigmaAt before after (unaccented (arabicDigit d)))).filter fun c => !isControl c) ++
      clean t (unaccented (arabicDigit d) :: before) s :=
  ⟨_, by simp only [clean, h, filterMap_cons, convertArabicDigits, map_cons, stripAccents,
    CharTable.lowerText, CharTable.sigmas, flatMap_cons, filter_append]; rfl⟩

lemma Settled.clean_eq (h : ∀ c ∈ s, Settled t c) : clean t before s = s := by
  induction s generalizing before with
  | nil => rfl
  | cons c s ih =>
    have hc := h c mem_cons_self
    obtain ⟨_, hcons⟩ := clean_cons_of_some (t := t) before s hc.plain.1
    rw [hcons, hc.plain.2.1, hc.plain.2.2.1, CharTable.sigmaAt, if_neg hc.noSigma, hc.lower,
      filter_singleton, hc.plain.2.2.2, ih fun d hd => h d (mem_cons_of_mem c hd)]
    rfl

lemma settled_of_lower (hplain : Plain c) (hlower : t.lower c = c) (hdotted : c ≠ 'İ') (hsigma : c ≠ 'Σ') :
    Settled t c := ⟨hplain, by rw [CharTable.lowerChar, if_neg hdotted, hlower], hsigma⟩

lemma settled_blank : Settled t ' ' :=
  settled_of_lower (by decide) (t.lower_ascii ' ' (by decide)) (by decide) (by decide)

lemma settled_lower (h : Plain c) : Settled t (t.lower c) := by
  refine settled_of_lower (t.lower_plain c h) (t.lower_lower c) (fun heq => ?_) fun heq => ?_
  · have htwice := t.lower_lower c
    rw [heq, t.lower_dotted.1] at htwice
    exact absurd htwice (by decide)
  · have htwice := t.lower_lower c
    rw [heq, t.lower_sigma.1] at htwice
    exact absurd htwice (by decide)

lemma isControl_lower (h : isControl c = true) : isControl (t.lower c) = true := by
  have hall : ∀ n < 128, isControl (Char.ofNat n) = true → isControl (Char.ofNat n).toLower = true := by decide
  have hascii : c.toNat < 128 := by
    simp [isControl] at h
    omega
  have hc := hall c.toNat hascii
  rw [Char.ofNat_toNat] at hc
  rw [t.lower_ascii c hascii]
  exact hc h

lemma settled_of_mem_lowerChar {before after : List Char} {e : Char} (hplain : isControl c = false → Plain c)
    (he : e ∈ t.lowerChar (t.sigmaAt before after c)) (hcontrol : isControl e = false) : Settled t e := by
  have hsigma : t.lower 'σ' = 'σ' := by rw [← t.lower_sigma.1, t.lower_lower]
  rw [CharTable.sigmaAt] at he
  split_ifs at he
  · obtain rfl : e = 'ς' := by simpa [CharTable.lowerChar, t.lower_sigma.2] using he
    exact settled_of_lower (by decide) t.lower_sigma.2 (by decide) (by decide)
  · obtain rfl : e = 'σ' := by simpa [CharTable.lowerChar, hsigma] using he
    exact settled_of_lower (by decide) hsigma (by decide) (by decide)
  · rw [CharTable.lowerChar] at he
    split_ifs at he
    · rcases mem_pair.mp he with rfl | rfl
      · exact settled_of_lower (by decide) (t.lower_ascii 'i' (by decide)) (by decide) (by decide)
      · exact settled_of_lower (by decide) t.lower_dotted.2 (by decide) (by decide)
    · obtain rfl := mem_singleton.mp he
      cases hc : isControl c with
      | false => exact settled_lower (hplain hc)
      | true => rw [isControl_lower hc] at hcontrol; cases hcontrol

lemma settled_of_mem_clean {e : Char} (he : e ∈ clean t before s) : Settled t e := by
  induction s generalizing before with
  | nil => exact absurd he not_mem_nil
  | cons c s ih =>
    cases h : typographic c with
    | none => exact ih (clean_cons_of_none h ▸ he)
    | some =>
      obtain ⟨_, hcons⟩ := clean_cons_of_some (t := t) before s h
      rw [hcons, mem_append, mem_filter] at he
      rcases he with ⟨he, hcontrol⟩ | he
      · exact settled_of_mem_lowerChar (plain_translate h) he (by simpa using hcontrol)
      · exact ih he

/-! ### Spellings of the reference of a blank -/

def unsigma (c : Char) : Char := if c = 'ς' then 'σ' else c

/-- What becomes of a character, but for the form of a sigma. -/
def letters (t : CharTable) (c : Char) : List Char := (clean t [] [c]).map unsigma

lemma map_clean (before s : List Char) : (clean t before s).map unsigma = s.flatMap (letters t) := by
  induction s generalizing before with
  | nil => rfl
  | cons c s ih =>
    rw [flatMap_cons]
    cases h : typographic c with
    | none => rw [clean_cons_of_none h, ih, letters, clean_cons_of_none h]; rfl
    | some =>
      obtain ⟨_, hcons⟩ := clean_cons_of_some (t := t) before s h
      obtain ⟨_, hone⟩ := clean_cons_of_some (t := t) [] [] h
      have hsigma : t.lower 'σ' = 'σ' := by rw [← t.lower_sigma.1, t.lower_lower]
      rw [hcons, map_append, ih, letters, hone, map_append]
      refine congrArg (· ++ s.flatMap (letters t)) ?_
      rw [CharTable.sigmaAt, CharTable.sigmaAt]
      split_ifs <;> simp [CharTable.lowerChar, hsigma, t.lower_sigma.2] <;> rfl

lemma settled_nbsp : ∀ c ∈ nbsp, Settled t c := by
  have hall : ∀ c ∈ nbsp, Plain c ∧ c.toNat < 128 ∧ c.toLower = c ∧ c ≠ 'İ' ∧ c ≠ 'Σ' :=
    all_iff_forall_prop.mp (by decide)
  intro c hc
  obtain ⟨hplain, hascii, hlower, hdotted, hsigma⟩ := hall c hc
  exact settled_of_lower hplain ((t.lower_ascii c hascii).trans hlower) hdotted hsigma

/-- A text with the letters of the reference spells itself. -/
lemma flatMap_letters_eq (h : ∀ c ∈ s, c ∈ nbsp) : s.flatMap (letters t) = s := by
  have hsigma : ∀ c ∈ nbsp, unsigma c = c := all_iff_forall_prop.mp (by decide)
  rw [← map_clean [], Settled.clean_eq fun c hc => settled_nbsp c (h c hc)]
  exact (map_congr_left fun c hc => hsigma c (h c hc)).trans (map_id s)

lemma map_unsigma_eq_iff {l pat : List Char} (hpat : ∀ c ∈ pat, c ∈ nbsp) : l.map unsigma = pat ↔ l = pat := by
  have hsame : ∀ c, unsigma c ∈ nbsp → unsigma c = c := by
    intro c hc
    unfold unsigma at hc ⊢
    split_ifs with h
    · rw [if_pos h] at hc
      exact absurd hc (by decide)
    · rfl
  have hback : ∀ {l : List Char}, (∀ c ∈ l, unsigma c ∈ nbsp) → l.map unsigma = l := fun h =>
    (map_congr_left fun c hc => hsame c (h c hc)).trans (map_id _)
  constructor
  · rintro rfl
    exact (hback fun c hc => hpat _ (mem_map_of_mem hc)).symm
  · rintro rfl
    have hsigma : ∀ c ∈ nbsp, unsigma c = c := all_iff_forall_prop.mp (by decide)
    exact hback fun c hc => by rw [hsigma c (hpat c hc)]; exact hpat c hc

/-- At most one character becomes of a character, or none of the reference. -/
lemma letters_short (c : Char) : (letters t c).length ≤ 1 ∨ ∀ d ∈ letters t c, d ∉ nbsp := by
  cases h : typographic c with
  | none => exact .inl (by rw [letters, clean_cons_of_none h]; exact Nat.zero_le 1)
  | some d =>
    obtain ⟨after, hone⟩ := clean_cons_of_some (t := t) [] [] h
    have hnil : ∀ before, clean t before [] = [] := fun _ => rfl
    rw [letters, hone, hnil, append_nil, length_map]
    generalize t.sigmaAt [] after (unaccented (arabicDigit d)) = e
    rw [CharTable.lowerChar]
    split_ifs
    · exact .inr (all_iff_forall_prop.mp (by decide))
    · exact .inl (length_filter_le _ _)

end Steps

section FlatMap

variable {α β : Type*} {f : α → List β} {P : β → Prop} {pat : List β} {l : List α}

lemma prefix_flatMap (hf : ∀ a, (f a).length ≤ 1 ∨ ∀ b ∈ f a, ¬P b) (hpat : ∀ b ∈ pat, P b)
    (h : pat <+: l.flatMap f) : ∃ mid, mid <+: l ∧ mid.flatMap f = pat := by
  induction l generalizing pat with
  | nil => exact ⟨[], nil_prefix, (prefix_nil.mp h).symm⟩
  | cons a l ih =>
    rw [flatMap_cons] at h
    cases pat with
    | nil => exact ⟨[], nil_prefix, rfl⟩
    | cons b =>
      cases hfa : f a with
      | nil =>
        rw [hfa] at h
        obtain ⟨mid, hmid, heq⟩ := ih hpat h
        exact ⟨a :: mid, cons_prefix_cons.mpr ⟨rfl, hmid⟩, by rw [flatMap_cons, hfa, heq]; rfl⟩
      | cons _ rest =>
        rw [hfa, cons_append, cons_prefix_cons] at h
        obtain ⟨rfl, hrest⟩ := h
        rcases hf a with hshort | hfree
        · obtain rfl : rest = [] := eq_nil_of_length_eq_zero (by rw [hfa, length_cons] at hshort; omega)
          obtain ⟨mid, hmid, heq⟩ := ih (fun b hb => hpat b (mem_cons_of_mem _ hb)) hrest
          exact ⟨a :: mid, cons_prefix_cons.mpr ⟨rfl, hmid⟩, by rw [flatMap_cons, hfa, heq]; rfl⟩
        · exact absurd (hpat b mem_cons_self) (hfree b (hfa ▸ mem_cons_self))

lemma infix_flatMap_iff (hne : pat ≠ []) (hf : ∀ a, (f a).length ≤ 1 ∨ ∀ b ∈ f a, ¬P b) (hpat : ∀ b ∈ pat, P b) :
    pat <:+: l.flatMap f ↔ ∃ mid, mid <:+: l ∧ mid.flatMap f = pat := by
  refine ⟨fun h => ?_, ?_⟩
  · induction l with
    | nil => exact absurd (infix_nil.mp h) hne
    | cons a l ih =>
      have hlater : pat <:+: l.flatMap f → ∃ mid, mid <:+: a :: l ∧ mid.flatMap f = pat := fun h =>
        (ih h).imp fun mid hmid => ⟨infix_cons hmid.1, hmid.2⟩
      rw [flatMap_cons] at h
      rcases hf a with hshort | hfree
      · cases hfa : f a with
        | nil => exact hlater (by rwa [hfa] at h)
        | cons b rest =>
          obtain rfl : rest = [] := eq_nil_of_length_eq_zero (by rw [hfa, length_cons] at hshort; omega)
          rw [hfa] at h
          rcases infix_cons_iff.mp h with hfront | hwithin
          · obtain ⟨mid, hmid, heq⟩ := prefix_flatMap (l := a :: l) hf hpat (by rw [flatMap_cons, hfa]; exact hfront)
            exact ⟨mid, hmid.isInfix, heq⟩
          · exact hlater hwithin
      · exact hlater (infix_of_infix_append hne (fun b hb hmem => hfree b hmem (hpat b hb)) h)
  · rintro ⟨_, ⟨s, e, rfl⟩, rfl⟩
    rw [flatMap_append, flatMap_append]
    exact infix_append _ _ _

end FlatMap

/-! ### Canonical texts stay the same -/

section Fixed

variable {t : CharTable} {s : List Char}

lemma infix_clean_iff (before : List Char) :
    nbsp <:+: clean t before s ↔ ∃ mid, mid <:+: s ∧ mid.flatMap (letters t) = nbsp := by
  rw [← infix_flatMap_iff (P := (· ∈ nbsp)) (by decide) letters_short fun c hc => hc, ← map_clean before,
    infix_map_iff]
  constructor
  · intro h
    exact ⟨nbsp, h, ((map_unsigma_eq_iff fun c hc => hc).mpr rfl).symm⟩
  · rintro ⟨l, hl, heq⟩
    rwa [(map_unsigma_eq_iff fun c hc => hc).mp heq.symm] at hl

lemma respellsNbsp_iff : RespellsNbsp t s ↔ nbsp <:+: clean t [] (replaceAll nbsp [' '] s) := by
  have hreplaces : Replaces nbsp [' '] s _ := replaces_replaceAll (by decide) s
  have hborder : ∀ a ∈ nbsp.tails, a ≠ [] → a <+: nbsp → a = nbsp := by decide
  have hspelled : ∀ mid, clean t [] mid = nbsp ↔ mid.flatMap (letters t) = nbsp := fun mid => by
    rw [← map_clean [], map_unsigma_eq_iff fun c hc => hc]
  rw [infix_clean_iff]
  constructor
  · rintro ⟨mid, hwithin, hmid, hother⟩
    rw [hspelled] at hmid
    refine ⟨mid, hreplaces.infix_kept (by decide) hother (fun hinside => ?_) ?_ ?_ hwithin, hmid⟩
    · rw [flatMap_letters_eq fun c hc => hinside.mem hc] at hmid
      exact hother (hmid ▸ infix_rfl)
    · rintro a b hne rfl hsuffix
      rw [flatMap_append, flatMap_letters_eq fun c hc => hsuffix.mem hc] at hmid
      have hwhole := hborder a ((mem_tails _ _).mpr hsuffix) hne (hmid ▸ prefix_append a _)
      exact hother (hwhole ▸ (prefix_append a b).isInfix)
    · rintro a b hne rfl hfront
      rw [flatMap_append, flatMap_letters_eq fun c hc => hfront.mem hc] at hmid
      have hwhole := hborder b ((mem_tails _ _).mpr (hmid ▸ suffix_append _ b)) hne hfront
      exact hother (hwhole ▸ (suffix_append a b).isInfix)
  · rintro ⟨mid, hwithin, hmid⟩
    have hblank : ∀ c ∈ mid, c ∉ [' '] := by
      rintro c hc hspace
      obtain rfl := mem_singleton.mp hspace
      have hletter : ' ' ∈ mid.flatMap (letters t) := by
        refine mem_flatMap.mpr ⟨' ', hc, ?_⟩
        rw [letters, Settled.clean_eq fun d hd => mem_singleton.mp hd ▸ settled_blank]
        decide
      rw [hmid] at hletter
      exact absurd hletter (by decide)
    have hne : mid ≠ [] := by
      rintro rfl
      cases hmid
    refine ⟨mid, hreplaces.isInfix_of_isInfix (by decide) hblank hne hwithin, (hspelled mid).mpr hmid, fun hother => ?_⟩
    exact hreplaces.not_isInfix (by decide) (by decide) (by simp [nbsp]) (hother.trans hwithin)

/-- Each character of a canonical text stays as it is. -/
lemma settled_of_mem_canonicalizeText {c : Char} (h : c ∈ canonicalizeText t s) : Settled t c := by
  rcases (mem_collapse ((trimBy_isInfix isSpace _).mem h)) with rfl | h
  · exact settled_blank
  · exact settled_of_mem_clean h

/-- A text of such characters, without the reference of a blank, only has its white space collapsed. -/
lemma canonicalizeText_of_settled (hsettled : ∀ c ∈ s, Settled t c) (hnbsp : ¬nbsp <:+: s) :
    canonicalizeText t s = normalizeWhitespace s := by
  rw [canonicalizeText, (replaces_replaceAll (by decide) s).eq_of_not_isInfix hnbsp, Settled.clean_eq hsettled]

theorem canonicalizeText_idem_iff (t : CharTable) (s : List Char) :
    canonicalizeText t (canonicalizeText t s) = canonicalizeText t s ↔ ¬RespellsNbsp t s := by
  have hsettled := fun c (hc : c ∈ canonicalizeText t s) => settled_of_mem_canonicalizeText hc
  have hreplaces : Replaces nbsp [' '] _ _ := replaces_replaceAll (by decide) (canonicalizeText t s)
  have hspells : RespellsNbsp t s ↔ nbsp <:+: canonicalizeText t s := by
    rw [respellsNbsp_iff, canonicalizeText, infix_normalizeWhitespace_iff (by decide)
      (all_iff_forall_prop.mp (by decide))]
  rw [hspells]
  constructor
  · -- the reference is a text of its own, so replacing it makes the text shorter
    intro hsame hwithin
    have hshorter := (hreplaces.length_le (by decide)).2 hwithin
    have hmem : ∀ c ∈ replaceAll nbsp [' '] (canonicalizeText t s), Settled t c := fun c hc =>
      (hreplaces.mem_or_mem hc).elim (hsettled c) fun hblank => mem_singleton.mp hblank ▸ settled_blank
    have hlength : (canonicalizeText t (canonicalizeText t s)).length ≤
        (replaceAll nbsp [' '] (canonicalizeText t s)).length := by
      rw [← (Settled.clean_eq hmem : clean t [] _ = _)]
      exact length_normalizeWhitespace _
    rw [hsame] at hlength
    omega
  · intro hnot
    rw [canonicalizeText_of_settled hsettled hnot]
    exact normalizeWhitespace_idem _

end Fixed

def asciiLower (c : Char) : Char :=
  if c = 'Σ' then 'σ' else if c = 'İ' then 'i' else if c.toNat < 128 then c.toLower else c

/-- A table for the letters and digits of ASCII. -/
def asciiTable : CharTable where
  lower := asciiLower
  cased c := c.isAlpha
  caseIgnorable _ := false
  digit? c := if c.isDigit then some (c.toNat - 48) else none
  lower_lower c := by
    have hall : ∀ n < 128, asciiLower (Char.ofNat n).toLower = (Char.ofNat n).toLower := by decide
    have hc : asciiLower c = 'σ' ∨ asciiLower c = 'i' ∨ (c.toNat < 128 ∧ asciiLower c = c.toLower) ∨
        asciiLower c = c := by
      unfold asciiLower
      split_ifs <;> simp_all
    rcases hc with hc | hc | ⟨hascii, hc⟩ | hc
    · rw [hc]
      decide
    · rw [hc]
      decide
    · have hlower := hall c.toNat hascii
      rw [Char.ofNat_toNat] at hlower
      rw [hc, hlower]
    · rw [hc, hc]
  lower_plain c hc := by
    have hletter : ∀ k < 26, Plain (Char.ofNat (k + 97)) := by decide +kernel
    have hall : ∀ n < 128, (Char.ofNat n).toLower = Char.ofNat n ∨
        n - 65 < 26 ∧ (Char.ofNat n).toLower = Char.ofNat (n - 65 + 97) := by
      decide +kernel
    unfold asciiLower
    split_ifs with hsigma hdotted hascii
    · decide
    · decide
    · have hlower := hall c.toNat hascii
      rw [Char.ofNat_toNat] at hlower
      rcases hlower with hsame | ⟨hk, hlower⟩
      · rwa [hsame]
      · rw [hlower]
        exact hletter _ hk
    · exact hc
  lower_ascii c hc := by
    have hsigma : c ≠ 'Σ' := by rintro rfl; exact absurd hc (by decide)
    have hdotted : c ≠ 'İ' := by rintro rfl; exact absurd hc (by decide)
    rw [asciiLower, if_neg hsigma, if_neg hdotted, if_pos hc]
  lower_sigma := by decide
  lower_dotted := by decide
  digit_ascii _ _ := rfl
  digit_space c hc := by
    rw [if_neg]
    intro hdigit
    rw [isSpace_of_isDigit hdigit] at hc
    cases hc

/-- Capitals become the reference of a blank, which a second run replaces. -/
theorem capitals_not_canonical : ¬∀ (t : CharTable) (s : List Char),
    canonicalizeText t (canonicalizeText t s) = canonicalizeText t s := by
  intro h
  have honce : canonicalizeText asciiTable ['&', 'N', 'B', 'S', 'P', ';'] = nbsp := by decide +kernel
  have htwice := h asciiTable ['&', 'N', 'B', 'S', 'P', ';']
  rw [honce] at htwice
  exact absurd (congrArg length htwice) (by decide +kernel)

end ImmoApp.Normalizers
