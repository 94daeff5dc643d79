import Mathlib.Data.List.Basic

/-!
# Replacing a text

`str.replace(old, new)` on the characters: from left to right, each occurrence of the old text gives way to the new
one, and what is put in is not looked at again (`Replaces`).  `String.replace` does this for every old text that is
not empty (`replaces_replace`).  In a template of plain texts and names in braces it puts a text in the place of a
name (`replace_templateText`).
-/

namespace ImmoApp

open List

section Lists

variable {α : Type*} {old new : List α}

variable (old new) in
/-- Replacing the old elements from left to right turns the first list into the second. -/
inductive Replaces : List α → List α → Prop where
  | nil : Replaces [] []
  | found {s t : List α} : Replaces s t → Replaces (old ++ s) (new ++ t)
  /-- The old elements do not occur here. -/
  | skip {c : α} {s t : List α} : ¬old <+: c :: s → Replaces s t → Replaces (c :: s) (c :: t)

lemma Replaces.unique (hold : old ≠ []) {s t u : List α} (ht : Replaces old new s t) (hu : Replaces old new s u) :
    t = u := by
  induction ht generalizing u with
  | nil =>
    generalize hs : ([] : List α) = s at hu
    cases hu with
    | nil => rfl
    | found => exact absurd (append_eq_nil_iff.mp hs.symm).1 hold
    | skip => cases hs
  | @found s _ _ ih =>
    generalize hs : old ++ s = s' at hu
    cases hu with
    | nil => exact absurd (append_eq_nil_iff.mp hs).1 hold
    | found hrest' => rw [ih (append_cancel_left hs ▸ hrest')]
    | skip hnot => exact absurd ⟨s, hs⟩ hnot
  | @skip c s _ hnot _ ih =>
    generalize hs : c :: s = s' at hu
    cases hu with
    | nil => cases hs
    | found => exact absurd ⟨_, hs.symm⟩ hnot
    | skip _ hrest' =>
      cases hs
      rw [ih hrest']

lemma Replaces.append_left {s t : List α} (h : Replaces old new s t) :
    ∀ {piece : List α}, (∀ a c b, piece = a ++ c :: b → ¬old <+: c :: (b ++ s)) →
      Replaces old new (piece ++ s) (piece ++ t)
  | [], _ => h
  | c :: piece, hnot => by
    refine Replaces.skip (hnot [] c piece rfl) (h.append_left fun a d b hsplit => ?_)
    exact hnot (c :: a) d b (congrArg (c :: ·) hsplit)

def replaceFrom [DecidableEq α] (old new : List α) : ℕ → List α → List α
  | _, [] => []
  | n + 1, _ :: s => replaceFrom old new n s
  | 0, c :: s =>
    if old <+: c :: s then new ++ replaceFrom old new (old.length - 1) s else c :: replaceFrom old new 0 s

def replaceAll [DecidableEq α] (old new s : List α) : List α := replaceFrom old new 0 s

lemma replaces_replaceFrom [DecidableEq α] (hold : old ≠ []) (n : ℕ) (s : List α) :
    Replaces old new (s.drop n) (replaceFrom old new n s) := by
  induction s generalizing n with
  | nil =>
    rw [drop_nil]
    cases n <;> exact Replaces.nil
  | cons c s ih =>
    cases n with
    | succ n => exact ih n
    | zero =>
      rw [drop_zero, replaceFrom]
      split
      · next hfront =>
        obtain ⟨rest, hrest⟩ := hfront
        obtain ⟨_, old', rfl⟩ := exists_cons_of_ne_nil hold
        obtain ⟨rfl, rfl⟩ := List.cons.inj hrest
        have hfound := (ih old'.length).found
        have hdrop : (old'.append rest).drop old'.length = rest := drop_left
        rw [hdrop] at hfound
        exact hfound
      · next hnot => exact Replaces.skip hnot (ih 0)

lemma replaces_replaceAll [DecidableEq α] (hold : old ≠ []) (s : List α) :
    Replaces old new s (replaceAll old new s) := replaces_replaceFrom hold 0 s

lemma infix_of_infix_append {word : List α} (hne : old ≠ []) (hdisj : ∀ c ∈ old, c ∉ word) {s : List α}
    (h : old <:+: word ++ s) : old <:+: s := by
  induction word with
  | nil => exact h
  | cons c _ ih =>
    rcases infix_cons_iff.mp h with hfront | hwithin
    · obtain ⟨c', _, rfl⟩ := exists_cons_of_ne_nil hne
      obtain ⟨rfl, -⟩ := cons_prefix_cons.mp hfront
      exact absurd mem_cons_self (hdisj c' mem_cons_self)
    · exact ih (fun c hc hword => hdisj c hc (mem_cons_of_mem _ hword)) hwithin

section Occurrences

variable {s t piece : List α} (h : Replaces old new s t)
include h

lemma Replaces.eq_of_not_isInfix (hnot : ¬old <:+: s) : t = s := by
  induction h with
  | nil => rfl
  | found _ ih => exact absurd (infix_append [] old _) hnot
  | skip _ _ ih => rw [ih fun hwithin => hnot (infix_cons hwithin)]

lemma Replaces.length_le (hlen : new.length < old.length) :
    t.length ≤ s.length ∧ (old <:+: s → t.length < s.length) := by
  induction h with
  | nil => exact ⟨Nat.le_refl _, fun hwithin => by simp_all⟩
  | found _ ih =>
    rw [length_append, length_append]
    omega
  | skip hnot _ ih =>
    rw [length_cons, length_cons]
    refine ⟨by omega, fun hwithin => ?_⟩
    rcases infix_cons_iff.mp hwithin with hfront | hwithin
    · exact absurd hfront hnot
    · have hlt := ih.2 hwithin
      omega

/-- What is left of the first list was there before. -/
lemma Replaces.isPrefix_of_isPrefix (hnew : new ≠ []) (hpiece : ∀ c ∈ piece, c ∉ new) (hfront : piece <+: t) :
    piece <+: s := by
  induction h generalizing piece with
  | nil => exact hfront
  | found _ ih =>
    obtain ⟨c, _, rfl⟩ := exists_cons_of_ne_nil hnew
    rcases prefix_cons_iff.mp hfront with rfl | ⟨_, rfl, -⟩
    · exact nil_prefix
    · exact absurd mem_cons_self (hpiece c mem_cons_self)
  | skip _ _ ih =>
    rcases prefix_cons_iff.mp hfront with rfl | ⟨_, rfl, hrest'⟩
    · exact nil_prefix
    · exact cons_prefix_cons.mpr ⟨rfl, ih (fun c hc => hpiece c (mem_cons_of_mem _ hc)) hrest'⟩

lemma Replaces.isInfix_of_isInfix (hnew : new ≠ []) (hpiece : ∀ c ∈ piece, c ∉ new) (hne : piece ≠ [])
    (hwithin : piece <:+: t) : piece <:+: s := by
  induction h with
  | nil => exact hwithin
  | found _ ih =>
    exact (ih (infix_of_infix_append hne hpiece hwithin)).trans (suffix_append old _).isInfix
  | skip hnot hrest ih =>
    rcases infix_cons_iff.mp hwithin with hfront | hwithin
    · exact ((hrest.skip hnot).isPrefix_of_isPrefix hnew hpiece hfront).isInfix
    · exact infix_cons (ih hwithin)

lemma Replaces.mem_or_mem {c : α} (hc : c ∈ t) : c ∈ s ∨ c ∈ new := by
  induction h with
  | nil => exact .inl hc
  | found _ ih =>
    rcases mem_append.mp hc with hc | hc
    · exact .inr hc
    · exact (ih hc).imp_left (mem_append_right old)
  | skip _ _ ih =>
    rcases mem_cons.mp hc with rfl | hc
    · exact .inl mem_cons_self
    · exact (ih hc).imp_left (mem_cons_of_mem _)

lemma Replaces.not_isInfix (hold : old ≠ []) (hnew : new ≠ []) (hdisj : ∀ c ∈ old, c ∉ new) : ¬old <:+: t := by
  induction h with
  | nil => exact fun hwithin => hold (infix_nil.mp hwithin)
  | found _ ih => exact fun hwithin => ih (infix_of_infix_append hold hdisj hwithin)
  | skip hnot hrest ih =>
    intro hwithin
    rcases infix_cons_iff.mp hwithin with hfront | hwithin
    · exact hnot ((hrest.skip hnot).isPrefix_of_isPrefix hnew hdisj hfront)
    · exact ih hwithin

/-- A piece that no occurrence meets is still there. -/
lemma Replaces.infix_kept [DecidableEq α] (hold : old ≠ []) (hwhole : ¬old <:+: piece) (hinside : ¬piece <:+: old)
    (hends : ∀ a b, a ≠ [] → piece = a ++ b → ¬a <:+ old) (hbegins : ∀ a b, b ≠ [] → piece = a ++ b → ¬b <+: old)
    (hwithin : piece <:+: s) : piece <:+: t := by
  induction h with
  | nil => exact hwithin
  | @found _ t _ ih =>
    rcases infix_append_iff.mp hwithin with hpiece | hpiece | ⟨a, b, rfl, ha, hb⟩
    · exact absurd hpiece hinside
    · exact (ih hpiece).trans (suffix_append new t).isInfix
    · rcases eq_or_ne a [] with rfl | hne
      · exact (ih hb.isInfix).trans (suffix_append new t).isInfix
      · exact absurd ha (hends a b hne rfl)
  | @skip c s t hnot hrest ih =>
    rcases infix_cons_iff.mp hwithin with ⟨rest, hsplit⟩ | hpiece
    · -- no occurrence begins in the piece, so it is passed over as a whole
      have hkept : Replaces old new (piece ++ rest) (piece ++ replaceAll old new rest) := by
        refine (replaces_replaceAll hold rest).append_left fun a c b hpart hbegin => ?_
        rcases prefix_or_prefix_of_prefix hbegin (prefix_append (c :: b) rest) with hsmall | hlarge
        · exact hwhole (hsmall.isInfix.trans (hpart ▸ (suffix_append a (c :: b)).isInfix))
        · exact hbegins a (c :: b) (cons_ne_nil c b) hpart hlarge
      rw [(hrest.skip hnot).unique hold (hsplit ▸ hkept)]
      exact (prefix_append piece _).isInfix
    · exact infix_cons (ih hpiece)

end Occurrences

end Lists

section Strings

open String.Slice String.Slice.Pattern String.Slice.Pattern.Model

variable {old new : String} {s : String.Slice}

def replaceStep (new : String) (sofar : String) (step : SearchStep s) : String :=
  match step with
  | .matched .. => sofar ++ String.ToSlice.toSlice new
  | .rejected start stop => sofar ++ s.slice! start stop

lemma not_isPrefix_of_rejected {start stop : s.Pos} {t₁ piece t₂ : String} (hstart : start.Splits t₁ (piece ++ t₂))
    (hstop : stop.Splits (t₁ ++ piece) t₂)
    (hnone : ∀ pos, start ≤ pos → pos < stop → ¬MatchesAt old pos) {a b : List Char} {c : Char}
    (hpiece : piece.toList = a ++ c :: b) : ¬old.toList <+: c :: (b ++ t₂.toList) := by
  rintro ⟨rest, hrest⟩
  -- the place of the character is one of the search
  have hparts : piece = String.ofList a ++ String.ofList (c :: b) := by
    rw [← String.ofList_append, ← hpiece, String.ofList_toList]
  have hcopy : s.copy = (t₁ ++ String.ofList a) ++ (String.ofList (c :: b) ++ t₂) := by
    rw [hstart.eq_append, hparts]
    simp only [String.append_assoc]
  have hvalid : (t₁ ++ String.ofList a).rawEndPos.IsValidForSlice s :=
    String.Pos.Raw.isValidForSlice_iff_exists_append.mpr ⟨_, _, hcopy, rfl⟩
  have hpos : (s.pos _ hvalid).Splits (t₁ ++ String.ofList a) (String.ofList (c :: b) ++ t₂) := ⟨hcopy, rfl⟩
  have hle : start ≤ s.pos _ hvalid :=
    (hstart.le_iff_exists_eq_append hpos).mpr ⟨String.ofList a, rfl, by rw [hparts, String.append_assoc]⟩
  have hlt : s.pos _ hvalid < stop := by
    refine (hpos.lt_iff_exists_eq_append hstop).mpr ⟨String.ofList (c :: b), ?_, ?_, rfl⟩
    · intro hempty
      have hlist := congrArg String.toList hempty
      simp at hlist
    · rw [hparts, String.append_assoc]
  refine hnone _ hle hlt (ForwardStringSearcher.matchesAt_iff_splits.mpr
    ⟨t₁ ++ String.ofList a, String.ofList rest, ?_⟩)
  have hoccurs : String.ofList (c :: b) ++ t₂ = old ++ String.ofList rest := by
    rw [← String.toList_inj]
    simpa using hrest.symm
  exact hoccurs ▸ hpos

lemma replaces_of_isValidSearchFrom {pos : s.Pos} {l : List (SearchStep s)} (h : IsValidSearchFrom old pos l) :
    ∀ {t₁ t₂ : String}, pos.Splits t₁ t₂ → ∃ u, Replaces old.toList new.toList t₂.toList u ∧
      ∀ sofar, (l.foldl (replaceStep new) sofar).toList = sofar.toList ++ u := by
  induction h with
  | endPos =>
    intro t₁ t₂ hsplits
    obtain ⟨-, rfl⟩ := hsplits.eq (s.splits_endPos)
    exact ⟨[], Replaces.nil, fun sofar => (append_nil _).symm⟩
  | @matched _ _ _ hmatch _ ih =>
    intro t₁ t₂ hsplits
    obtain ⟨t, _, hstart, hstop⟩ := ForwardStringSearcher.isLongestMatchAt_iff_splits.mp hmatch
    obtain ⟨rfl, rfl⟩ := hsplits.eq hstart
    obtain ⟨u, hu, hfold⟩ := ih hstop
    refine ⟨new.toList ++ u, ?_, fun sofar => ?_⟩
    · rw [String.toList_append]
      exact hu.found
    · have hnew : (String.ToSlice.toSlice new).copy = new := String.copy_toSlice
      rw [foldl_cons, hfold, replaceStep, String.appendSlice_eq, hnew, String.toList_append, append_assoc]
  | @mismatched _ start stop hlt hnone _ ih =>
    intro t₁ t₂ hsplits
    have hle := Std.le_of_lt hlt
    obtain ⟨t, _, hstart, hstop⟩ := String.Slice.copy_slice_eq_iff_splits.mp ⟨hle, rfl⟩
    obtain ⟨rfl, rfl⟩ := hsplits.eq hstart
    obtain ⟨u, hu, hfold⟩ := ih hstop
    refine ⟨(s.slice start stop hle).copy.toList ++ u, ?_, fun sofar => ?_⟩
    · rw [String.toList_append]
      exact hu.append_left fun a c b hpiece => not_isPrefix_of_rejected hstart hstop hnone hpiece
    · rw [foldl_cons, hfold, replaceStep, ← String.Slice.slice_eq_slice! (h := hle), String.appendSlice_eq,
        String.toList_append, append_assoc]

lemma replace_eq_fold (s : String) :
    s.replace old new = (ToForwardSearcher.toSearcher old s.toSlice).toList.foldl (replaceStep new) "" := by
  rw [Std.Iter.foldl_toList, String.replace, String.Slice.replace]
  congr 1
  funext sofar step
  cases step <;> rfl

/-- `str.replace` on the characters. -/
theorem replaces_replace (hold : old ≠ "") (s : String) :
    Replaces old.toList new.toList s.toList (s.replace old new).toList := by
  have hlawful := ForwardStringSearcher.lawfulToForwardSearcherModel hold
  obtain ⟨u, hu, hfold⟩ : ∃ u, Replaces old.toList new.toList s.toSlice.copy.toList u ∧
      ∀ sofar, (((ToForwardSearcher.toSearcher old s.toSlice).toList).foldl (replaceStep new) sofar).toList =
        sofar.toList ++ u :=
    replaces_of_isValidSearchFrom (hlawful.isValidSearchFrom_toList s.toSlice) (s.toSlice.splits_startPos)
  have hreplace : (s.replace old new).toList = u := by
    rw [replace_eq_fold, hfold, String.toList_empty, nil_append]
  rw [hreplace]
  rwa [String.copy_toSlice] at hu

end Strings

section Templates

def PlainText (s : String) : Prop := ∀ c ∈ s.toList, c ≠ '\x7b' ∧ c ≠ '\x7d'

inductive TemplatePiece where
  | text (s : String)
  | name (key : String)

namespace TemplatePiece

def written : TemplatePiece → String
  | text s => s
  | name key => "\x7b" ++ key ++ "\x7d"

def Proper : TemplatePiece → Prop
  | text s => PlainText s
  | name key => PlainText key

def put (key value : String) : TemplatePiece → TemplatePiece
  | text s => text s
  | name key' => if key' = key then text value else name key'

end TemplatePiece

open TemplatePiece

def templateText (t : List TemplatePiece) : String := String.join (t.map written)

lemma templateText_cons (p : TemplatePiece) (t : List TemplatePiece) :
    templateText (p :: t) = p.written ++ templateText t := by
  rw [templateText, map_cons, String.join_cons, templateText]

lemma TemplatePiece.Proper.put {p : TemplatePiece} (hp : p.Proper) {key value : String} (hvalue : PlainText value) :
    (p.put key value).Proper := by
  cases p with
  | text => exact hp
  | name =>
    rw [TemplatePiece.put]
    split
    · exact hvalue
    · exact hp

lemma eq_of_closed_prefix {key key' : List Char} (hkey : ∀ c ∈ key, c ≠ '\x7d') (hkey' : ∀ c ∈ key', c ≠ '\x7d')
    {rest : List Char} (h : key ++ ['\x7d'] <+: key' ++ '\x7d' :: rest) : key = key' := by
  obtain ⟨_, hrest⟩ := h
  have hopen : ∀ {key : List Char}, (∀ c ∈ key, c ≠ '\x7d') → ∀ rest,
      (key ++ '\x7d' :: rest).takeWhile (· ≠ '\x7d') = key := by
    intro key hkey rest
    rw [takeWhile_append_of_pos (by simpa using hkey)]
    simp
  rw [append_assoc, singleton_append] at hrest
  have hsame := congrArg (List.takeWhile (· ≠ '\x7d')) hrest
  rwa [hopen hkey, hopen hkey'] at hsame

lemma toList_written_name (key : String) : (name key).written.toList = '\x7b' :: (key.toList ++ ['\x7d']) := by
  rw [written, String.toList_append, String.toList_append]
  rfl

lemma Replaces.written {key : String} (hkey : PlainText key) (value : String) {p : TemplatePiece} (hp : p.Proper)
    {s t : List Char} (h : Replaces (name key).written.toList value.toList s t) :
    Replaces (name key).written.toList value.toList (p.written.toList ++ s)
      ((p.put key value).written.toList ++ t) := by
  cases p with
  | text content =>
    refine h.append_left fun a c b hsplit hfront => ?_
    have hmem : c ∈ content.toList := by
      rw [show content.toList = a ++ c :: b from hsplit]
      exact mem_append_right a mem_cons_self
    rw [toList_written_name] at hfront
    exact (hp c hmem).1 (cons_prefix_cons.mp hfront).1.symm
  | name key' =>
    rw [TemplatePiece.put]
    split
    · next heq =>
      rw [heq]
      exact h.found
    · next hne =>
      refine h.append_left fun a c b hsplit hfront => ?_
      rw [toList_written_name] at hsplit hfront
      cases a with
      | nil =>
        -- the braces open here: both names would end at the same place
        obtain ⟨-, rfl⟩ := List.cons.inj hsplit
        have hrest := (cons_prefix_cons.mp hfront).2
        rw [append_assoc, singleton_append] at hrest
        have hsame := eq_of_closed_prefix (fun c hc => (hkey c hc).2) (fun c hc => (hp c hc).2) hrest
        exact hne (String.toList_inj.mp hsame.symm)
      | cons d a =>
        have hmem : c ∈ key'.toList ++ ['\x7d'] := by
          rw [(List.cons.inj hsplit).2]
          exact mem_append_right a mem_cons_self
        have hopen := (cons_prefix_cons.mp hfront).1
        rcases mem_append.mp hmem with hmem | hmem
        · exact (hp c hmem).1 hopen.symm
        · rw [mem_singleton.mp hmem] at hopen
          exact absurd hopen (by decide)

/-- Replacing a name in braces puts the text in its place. -/
theorem replace_templateText {key : String} (hkey : PlainText key) (value : String) {t : List TemplatePiece}
    (ht : ∀ p ∈ t, p.Proper) :
    (templateText t).replace ("\x7b" ++ key ++ "\x7d") value = templateText (t.map (put key value)) := by
  have hreplaces : Replaces (name key).written.toList value.toList (templateText t).toList
      (templateText (t.map (put key value))).toList := by
    induction t with
    | nil => exact Replaces.nil
    | cons p t ih =>
      have hrest := ih fun q hq => ht q (mem_cons_of_mem p hq)
      have hpiece := hrest.written hkey value (ht p mem_cons_self)
      rwa [← String.toList_append, ← String.toList_append, ← templateText_cons, ← templateText_cons,
        ← map_cons] at hpiece
  have hlist : (name key).written.toList ≠ [] := by
    rw [toList_written_name]
    exact cons_ne_nil _ _
  have hne : (name key).written ≠ "" := fun hempty => hlist (congrArg String.toList hempty)
  exact String.ext (Replaces.unique hlist (replaces_replace hne _) hreplaces)

end Templates

end ImmoApp
