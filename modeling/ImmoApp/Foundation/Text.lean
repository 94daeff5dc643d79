import Mathlib.Data.List.DropRight
import Mathlib.Logic.Function.Basic

/-!
# Texts

Stripping and splitting texts as Python does.  What the Unicode database decides (lower case,
compatibility decomposition, combining characters) is a parameter.
-/

namespace ImmoApp

open List

/-- The characters that `str.strip` removes: those for which `str.isspace` holds. -/
def isSpace (c : Char) : Bool :=
  (9 ≤ c.toNat && c.toNat ≤ 13) || (28 ≤ c.toNat && c.toNat ≤ 32) || c.toNat == 0x85 ||
    c.toNat == 0xa0 || c.toNat == 0x1680 || (0x2000 ≤ c.toNat && c.toNat ≤ 0x200a) ||
    c.toNat == 0x2028 || c.toNat == 0x2029 || c.toNat == 0x202f || c.toNat == 0x205f ||
    c.toNat == 0x3000

/-- A list without its first and last elements that satisfy `p`. -/
def trimBy {α : Type*} (p : α → Bool) (l : List α) : List α :=
  ((l.dropWhile p).reverse.dropWhile p).reverse

/-- `str.strip()`. -/
def strip (s : String) : String := String.ofList (trimBy isSpace s.toList)

/-- `s[:n]`. -/
def firstChars (n : ℕ) (s : String) : String := String.ofList (s.toList.take n)

def splitOnAny (separator : Char → Bool) (s : String) : List String :=
  (s.toList.splitOnP separator).map String.ofList

structure Unicode where
  lower : String → String
  nfkd : String → String
  combining : Char → Bool

lemma trimBy_trimBy {α : Type*} (p : α → Bool) (l : List α) : trimBy p (trimBy p l) = trimBy p l := by
  have hinit : trimBy p l <+: l.dropWhile p := by
    rw [← reverse_suffix, trimBy, reverse_reverse]
    exact dropWhile_suffix p
  have hhead : (trimBy p l).dropWhile p = trimBy p l := by
    rw [dropWhile_eq_self_iff]
    intro hlength hp
    have hne : l.dropWhile p ≠ [] := fun hnil => by simp [hnil] at hinit; simp [hinit] at hlength
    have hsame : (trimBy p l)[0] = (l.dropWhile p).head hne := by
      rw [head_eq_getElem]
      exact hinit.getElem hlength
    rw [hsame, head_dropWhile_not p hne] at hp
    exact absurd hp (by simp)
  have hlast : (trimBy p l).reverse.dropWhile p = (trimBy p l).reverse := by
    rw [trimBy, reverse_reverse, dropWhile_idempotent]
  rw [trimBy, hhead, hlast, reverse_reverse]

lemma strip_strip (s : String) : strip (strip s) = strip s := by
  rw [strip, strip, String.toList_ofList, trimBy_trimBy]

lemma strip_append {mark s : String} {c : Char} {rest : List Char} (hmark : mark.toList = c :: rest)
    (hc : isSpace c = false) (hs : strip s = s) (hne : s ≠ "") : strip (mark ++ s) = mark ++ s := by
  have htrim : trimBy isSpace s.toList = s.toList := by
    have hlist := congrArg String.toList hs
    rwa [strip, String.toList_ofList] at hlist
  -- the last character of the text is no space
  have hlast : s.toList.reverse.dropWhile isSpace = s.toList.reverse := by
    rw [← htrim, trimBy, reverse_reverse, dropWhile_idempotent]
  obtain ⟨last, init, hreverse⟩ : ∃ last init, s.toList.reverse = last :: init :=
    exists_cons_of_ne_nil fun hnil => hne (String.toList_inj.mp (reverse_eq_nil_iff.mp hnil))
  have hspace : isSpace last = false := by
    rw [hreverse, dropWhile_cons] at hlast
    by_contra htrue
    rw [Bool.not_eq_false] at htrue
    rw [if_pos htrue] at hlast
    have hlength := (dropWhile_suffix isSpace (l := init)).length_le
    rw [hlast, length_cons] at hlength
    omega
  rw [strip, trimBy, String.toList_append, hmark, cons_append, dropWhile_cons_of_neg (by simp [hc]),
    ← cons_append, reverse_append, hreverse, cons_append,
    dropWhile_cons_of_neg (by simp [hspace]), ← cons_append, ← hreverse, ← reverse_append,
    reverse_reverse, ← hmark, ← String.toList_append, String.ofList_toList]

/-! ### Blank texts -/

lemma strip_eq_empty_iff {s : String} : strip s = "" ↔ ∀ c ∈ s.toList, isSpace c = true := by
  have htrim : strip s = "" ↔ ∀ c ∈ s.toList.dropWhile isSpace, isSpace c = true := by
    rw [← String.toList_inj]
    simp [strip, trimBy, dropWhile_eq_nil_iff]
  rw [htrim]
  constructor
  · intro hall
    have hempty : s.toList.dropWhile isSpace = [] := by
      by_contra hne
      have hhead := head_dropWhile_not isSpace hne
      rw [hall _ (head_mem hne)] at hhead
      exact absurd hhead (by simp)
    exact dropWhile_eq_nil_iff.mp hempty
  · intro hall c hc
    exact hall c ((dropWhile_sublist isSpace).mem hc)

lemma strip_of_no_space {s : String} (h : ∀ c ∈ s.toList, isSpace c = false) : strip s = s := by
  have hdrop : ∀ l : List Char, (∀ c ∈ l, isSpace c = false) → l.dropWhile isSpace = l := by
    intro l hl
    cases l with
    | nil => rfl
    | cons c => rw [dropWhile_cons_of_neg (by rw [hl c mem_cons_self]; exact Bool.false_ne_true)]
  have hreverse : ∀ c ∈ s.toList.reverse, isSpace c = false := fun c hc => h c (mem_reverse.mp hc)
  rw [strip, trimBy, hdrop s.toList h, hdrop s.toList.reverse hreverse, reverse_reverse, String.ofList_toList]

lemma isSpace_of_isDigit {c : Char} (h : c.isDigit = true) : isSpace c = false := by
  have hrange : 48 ≤ c.toNat ∧ c.toNat ≤ 57 := by
    simpa [Char.isDigit, UInt32.le_iff_toNat_le] using h
  unfold isSpace
  simp
  omega

lemma mem_of_mem_splitOnP {α : Type*} {p : α → Bool} {l part : List α} {a : α}
    (hpart : part ∈ l.splitOnP p) (ha : a ∈ part) : a ∈ l := by
  induction l generalizing part with
  | nil =>
    rw [splitOnP_nil, mem_singleton] at hpart
    exact hpart ▸ ha
  | cons x xs ih =>
    rw [splitOnP_cons_eq_if_modifyHead] at hpart
    split at hpart
    · rcases mem_cons.mp hpart with rfl | hpart
      · exact absurd ha not_mem_nil
      · exact mem_cons_of_mem x (ih hpart ha)
    · obtain ⟨first, _, hsplit⟩ := exists_cons_of_ne_nil (splitOnP_ne_nil p xs)
      rw [hsplit, modifyHead_cons] at hpart
      rcases mem_cons.mp hpart with rfl | hpart
      · rcases mem_cons.mp ha with rfl | ha
        · exact mem_cons_self
        · exact mem_cons_of_mem x (ih (hsplit ▸ mem_cons_self) ha)
      · exact mem_cons_of_mem x (ih (hsplit ▸ mem_cons_of_mem first hpart) ha)

lemma strip_of_mem_splitOnAny {separator : Char → Bool} {s part : String} (h : strip s = "")
    (hpart : part ∈ splitOnAny separator s) : strip part = "" := by
  obtain ⟨_, hchars, rfl⟩ := mem_map.mp hpart
  rw [strip_eq_empty_iff] at h ⊢
  intro c hc
  rw [String.toList_ofList] at hc
  exact h c (mem_of_mem_splitOnP hchars hc)

lemma mem_intercalate {separator : String} {words : List String} {c : Char}
    (h : c ∈ (String.intercalate separator words).toList) : c ∈ separator.toList ∨ ∃ word ∈ words, c ∈ word.toList := by
  induction words with
  | nil =>
    rw [String.intercalate_nil] at h
    exact absurd h not_mem_nil
  | cons word words ih =>
    cases words with
    | nil =>
      rw [String.intercalate_singleton] at h
      exact .inr ⟨word, mem_cons_self, h⟩
    | cons =>
      rw [String.intercalate_cons_cons, String.toList_append, String.toList_append, mem_append, mem_append] at h
      rcases h with (hword | hseparator) | hrest
      · exact .inr ⟨word, mem_cons_self, hword⟩
      · exact .inl hseparator
      · exact (ih hrest).imp_right fun ⟨w, hw, hc⟩ => ⟨w, mem_cons_of_mem word hw, hc⟩

def markedPair : List Char → List Char → List Char
  | [], message => 'm' :: message
  | c :: key, message => 'k' :: c :: markedPair key message

def markedHash (key message : String) : String := String.ofList (markedPair key.toList message.toList)

lemma markedPair_injective2 : Function.Injective2 markedPair := by
  intro key
  induction key with
  | nil =>
    intro key' message message' h
    cases key' with
    | nil => exact ⟨rfl, by simpa [markedPair] using h⟩
    | cons => simp [markedPair] at h
  | cons _ _ ih =>
    intro key' message message' h
    cases key' with
    | nil => simp [markedPair] at h
    | cons =>
      simp only [markedPair, List.cons.injEq, true_and] at h
      obtain ⟨rfl, hrest⟩ := h
      obtain ⟨rfl, rfl⟩ := ih hrest
      exact ⟨rfl, rfl⟩

lemma markedHash_injective2 : Function.Injective2 markedHash := by
  intro key key' message message' h
  obtain ⟨hkey, hmessage⟩ := markedPair_injective2 (String.ofList_injective h)
  exact ⟨String.toList_injective hkey, String.toList_injective hmessage⟩

lemma markedHash_ne_empty (key message : String) : markedHash key message ≠ "" := by
  intro h
  have hchars : markedPair key.toList message.toList = [] := by
    simpa [markedHash] using congrArg String.toList h
  cases hkey : key.toList <;> simp [hkey, markedPair] at hchars

end ImmoApp
