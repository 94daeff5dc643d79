import ImmoApp.Crm.SearchKeys

/-!
# Duplicate phones of a batch

An import looks up the phones of a batch.  Every normal form of a phone is tried in some spellings, and one map leads
from a spelling back to the phone.  A landline is tried only with its leading zero, and since the later phones of a
batch overwrite the map, a row that is no number can take the spelling of one that is.

`filterBatch_iff` says which rows are judged rightly, for every table of stored numbers and every batch.
-/

namespace ImmoApp.Crm

open List

section Filter

variable (backend : SearchBackend) (env : SearchEnv) {α : Type*} (phone : α → String)

def numberedPhones (batch : List α) : List (ℕ × String) := (batch.zipIdx 1).map fun e => (e.2, phone e.1)

/-- `filter_batch`: the rows without and with a record of the same phone. -/
def filterBatch (people : People) (table : PersonTable) (agencyId : ℕ) (batch : List α) : List α × List α :=
  let phones := (((batch.map phone).filter fun p => p ≠ "").map (normalizePhoneForDedup backend)).filter fun p =>
    decide (9 ≤ p.length)
  if phones = [] then (batch, [])
  else
    let duplicates := (checkPhones backend env people table agencyId (numberedPhones phone batch)).map Prod.fst
    if duplicates = [] then (batch, [])
    else (((batch.zipIdx 1).filter fun e => !duplicates.contains e.2).map Prod.fst,
      ((batch.zipIdx 1).filter fun e => duplicates.contains e.2).map Prod.fst)

end Filter

/-- A number, without what is dialled before it: nine digits of a mobile, eight of a landline. -/
structure PhoneNumber where
  tail : List Char
  digits : ∀ c ∈ tail, c.isDigit = true
  /-- A mobile starts with 5, 6 or 7, a landline with 2, 3 or 4. -/
  shape : (tail.length = 9 ∧ ∃ c ∈ tail.head?, c = '5' ∨ c = '6' ∨ c = '7') ∨
    (tail.length = 8 ∧ ∃ c ∈ tail.head?, c = '2' ∨ c = '3' ∨ c = '4')

def PhoneNumber.Mobile (n : PhoneNumber) : Prop := n.tail.length = 9

instance (n : PhoneNumber) : Decidable n.Mobile := inferInstanceAs (Decidable (_ = _))

inductive Spelling where
  | national
  | country
  | international
  | bare
  deriving DecidableEq

def Spelling.code : Spelling → List Char
  | .national => ['0']
  | .country => ['2', '1', '3']
  | .international => ['0', '0', '2', '1', '3']
  | .bare => []

def PhoneNumber.spell (n : PhoneNumber) (s : Spelling) : String := String.ofList (s.code ++ n.tail)

def PhoneNumber.normal (n : PhoneNumber) (s : Spelling) : String :=
  if n.Mobile ∨ s ≠ .bare then n.spell .national else n.spell .bare

def Spells (backend : SearchBackend) (phone : String) (n : PhoneNumber) (s : Spelling) : Prop :=
  String.ofList (phone.toList.filter backend.isDigit) = n.spell s

structure PlainDigits (backend : SearchBackend) : Prop where
  digit : ∀ c : Char, c.isDigit = true → backend.digit c = true
  isDigit : ∀ c : Char, c.isDigit = true → backend.isDigit c = true
  normText : ∀ s : String, (∀ c ∈ s.toList, c.isDigit = true) → normText backend.unicode s = s

/-! ### Normal forms -/

section Normal

variable {backend : SearchBackend} {n m : PhoneNumber} {s t : Spelling}

lemma PhoneNumber.isDigit_spell {c : Char} (h : c ∈ (n.spell s).toList) : c.isDigit = true := by
  rw [PhoneNumber.spell, String.toList_ofList, mem_append] at h
  rcases h with h | h
  · cases s <;> simp only [Spelling.code, mem_cons, not_mem_nil, or_false] at h
    · rw [h]; rfl
    · rcases h with rfl | rfl | rfl <;> rfl
    · rcases h with rfl | rfl | rfl | rfl | rfl <;> rfl
  · exact n.digits c h

lemma Spelling.code_length_inj (h : s.code.length = t.code.length) : s = t := by
  cases s <;> cases t <;> first | rfl | cases h

lemma PhoneNumber.mobile_of_code_append (hn : n.tail.length = 9) (h : s.code ++ n.tail = t.code ++ m.tail) :
    m.tail.length = 9 := by
  rcases m.shape with ⟨hm, -⟩ | ⟨hm, -⟩
  · exact hm
  · have hlength := congrArg List.length h
    rw [length_append, length_append, hn, hm] at hlength
    have hcode : s = .bare ∧ t = .national := by
      cases s <;> cases t <;> first | exact ⟨rfl, rfl⟩ | cases hlength
    obtain ⟨rfl, rfl⟩ := hcode
    rcases n.shape with ⟨-, c, hc, hfirst⟩ | ⟨_, -⟩
    · change n.tail = '0' :: m.tail at h
      rw [h] at hc
      obtain rfl : '0' = c := Option.some.inj hc
      exact absurd hfirst (by decide)
    · omega

lemma PhoneNumber.spell_inj (h : n.spell s = m.spell t) : n = m ∧ s = t := by
  have hlist : s.code ++ n.tail = t.code ++ m.tail := String.ofList_injective h
  have htail : n.tail.length = m.tail.length := by
    rcases n.shape with ⟨hn, -⟩ | ⟨hn, -⟩
    · rw [hn, PhoneNumber.mobile_of_code_append hn hlist]
    · rcases m.shape with ⟨hm, -⟩ | ⟨hm, -⟩
      · rw [hm, PhoneNumber.mobile_of_code_append hm hlist.symm]
      · rw [hn, hm]
  have hcode : s.code.length = t.code.length := by
    have hlength := congrArg List.length hlist
    rw [length_append, length_append] at hlength
    omega
  have heq := (append_inj hlist hcode).2
  refine ⟨?_, Spelling.code_length_inj hcode⟩
  cases n
  cases m
  simpa using heq

def normalChars (digits : List Char) : List Char :=
  let national :=
    if ['0', '0', '2', '1', '3'].isPrefixOf digits then '0' :: digits.drop 5
    else if ['2', '1', '3'].isPrefixOf digits && decide (9 < digits.length) then '0' :: digits.drop 3
    else digits
  if national.length = 9 ∧ (national.head?.any fun c => c == '5' || c == '6' || c == '7') = true then '0' :: national
  else national

lemma normalizePhoneForDedup_eq (phone : String) :
    normalizePhoneForDedup backend phone = String.ofList (normalChars (phone.toList.filter backend.isDigit)) := by
  have hzero : ∀ l : List Char, "0" ++ String.ofList l = String.ofList ('0' :: l) := fun l => by
    rw [← String.toList_inj]
    simp
  unfold normalizePhoneForDedup normalChars startsWith dropChars
  simp only [String.toList_ofList, String.length_ofList, hzero]
  have hlong : "00213".toList = ['0', '0', '2', '1', '3'] := rfl
  have hcountry : "213".toList = ['2', '1', '3'] := rfl
  rw [hlong, hcountry]
  split_ifs <;> simp_all

lemma isDigit_of_mem_normalizePhoneForDedup {phone : String} {c : Char}
    (h : c ∈ (normalizePhoneForDedup backend phone).toList) : c = '0' ∨ backend.isDigit c = true := by
  have hchars : ∀ digits : List Char, ∀ c ∈ normalChars digits, c = '0' ∨ c ∈ digits := by
    intro digits c hc
    unfold normalChars at hc
    extract_lets national at hc
    have hnational : ∀ c ∈ national, c = '0' ∨ c ∈ digits := by
      intro c hc
      unfold national at hc
      split at hc
      · exact (mem_cons.mp hc).imp_right mem_of_mem_drop
      · split at hc
        · exact (mem_cons.mp hc).imp_right mem_of_mem_drop
        · exact .inr hc
    split at hc
    · rcases mem_cons.mp hc with hzero | hc
      · exact .inl hzero
      · exact hnational c hc
    · exact hnational c hc
  rw [normalizePhoneForDedup_eq, String.toList_ofList] at h
  exact (hchars _ c h).imp_right fun hc => (mem_filter.mp hc).2

lemma normalizePhoneForDedup_empty : normalizePhoneForDedup backend "" = "" := by
  rw [normalizePhoneForDedup_eq]
  rfl

lemma normalize_of_spells {phone : String} (h : Spells backend phone n s) :
    normalizePhoneForDedup backend phone = n.normal s := by
  have hdigits : phone.toList.filter backend.isDigit = s.code ++ n.tail := String.ofList_injective h
  rw [normalizePhoneForDedup_eq, hdigits, PhoneNumber.normal]
  rcases n.shape with ⟨hlength, c, hc, hfirst⟩ | ⟨hlength, c, hc, hfirst⟩
  · have hmobile : n.Mobile := hlength
    obtain ⟨rest, hrest⟩ : ∃ rest, n.tail = c :: rest := ⟨n.tail.tail, (cons_head?_tail hc).symm⟩
    rw [hrest, length_cons] at hlength
    rw [if_pos (.inl hmobile), PhoneNumber.spell, hrest]
    refine congrArg String.ofList ?_
    rcases hfirst with rfl | rfl | rfl <;> cases s <;> simp [normalChars, Spelling.code, hlength]
  · have hlandline : ¬n.Mobile := by
      rw [PhoneNumber.Mobile]
      omega
    obtain ⟨rest, hrest⟩ : ∃ rest, n.tail = c :: rest := ⟨n.tail.tail, (cons_head?_tail hc).symm⟩
    rw [hrest, length_cons] at hlength
    cases s
    all_goals
      simp only [hlandline, false_or, ne_eq, reduceCtorEq, not_false_eq_true, not_true_eq_false, if_true, if_false]
      rw [PhoneNumber.spell, hrest]
      refine congrArg String.ofList ?_
      rcases hfirst with rfl | rfl | rfl <;> simp [normalChars, Spelling.code, hlength]

lemma spells_spell (hplain : PlainDigits backend) (n : PhoneNumber) (s : Spelling) :
    Spells backend (n.spell s) n s := by
  rw [Spells, filter_eq_self.mpr fun c hc => hplain.isDigit c (PhoneNumber.isDigit_spell hc), String.ofList_toList]

lemma PhoneNumber.length_spell (n : PhoneNumber) (s : Spelling) :
    (n.spell s).length = s.code.length + n.tail.length := by
  rw [PhoneNumber.spell, String.length_ofList, length_append]

lemma PhoneNumber.length_normal_iff : 9 ≤ (n.normal s).length ↔ n.Mobile ∨ s ≠ .bare := by
  rw [PhoneNumber.normal]
  have htail : n.tail.length = 9 ∨ n.tail.length = 8 := n.shape.imp And.left And.left
  split
  · next h =>
    refine iff_of_true ?_ h
    rw [PhoneNumber.length_spell]
    change 9 ≤ 1 + n.tail.length
    omega
  · next h =>
    refine iff_of_false ?_ h
    have hlandline : n.tail.length ≠ 9 := fun hmobile => h (.inl hmobile)
    rw [PhoneNumber.length_spell]
    change ¬9 ≤ 0 + n.tail.length
    omega

lemma phoneDigits_spell (hplain : PlainDigits backend) (n : PhoneNumber) (s : Spelling) :
    phoneDigits backend.digit (n.spell s) = n.spell s := by
  have hstrip : strip (n.spell s) = n.spell s :=
    strip_of_no_space fun c hc => isSpace_of_isDigit (PhoneNumber.isDigit_spell hc)
  rw [phoneDigits, hstrip, filter_eq_self.mpr fun c hc => hplain.digit c (PhoneNumber.isDigit_spell hc),
    String.ofList_toList]

lemma mem_phoneLookupVariants_spell (hplain : PlainDigits backend) (n : PhoneNumber) (v : String) :
    v ∈ phoneLookupVariants backend (n.spell .national) ↔ ∃ s, (n.Mobile ∨ s = .national) ∧ v = n.spell s := by
  have hnormal : normalizePhoneForDedup backend (n.spell .national) = n.spell .national := by
    rw [normalize_of_spells (spells_spell hplain n .national), PhoneNumber.normal, if_pos (.inr (by decide))]
  have hbare : dropChars 1 (n.spell .national) = n.spell .bare := by
    rw [dropChars, PhoneNumber.spell, String.toList_ofList]
    rfl
  have hzero : startsWith "0" (n.spell .national) = true := by
    simp [startsWith, PhoneNumber.spell, Spelling.code]
  have hcountry : "213" ++ n.spell .bare = n.spell .country := by
    rw [PhoneNumber.spell, PhoneNumber.spell, ← String.toList_inj]
    simp [Spelling.code]
  have hinternational : "00213" ++ n.spell .bare = n.spell .international := by
    rw [PhoneNumber.spell, PhoneNumber.spell, ← String.toList_inj]
    simp [Spelling.code]
  unfold phoneLookupVariants
  dsimp only
  rw [phoneDigits_spell hplain, hnormal, hbare, hcountry, hinternational, hzero, mem_sortedSet, mem_filter,
    decide_eq_true_eq, PhoneNumber.length_spell]
  have htail : n.tail.length = 9 ∨ n.tail.length = 8 := n.shape.imp And.left And.left
  have hone : Spelling.national.code.length = 1 := rfl
  rw [hone]
  by_cases hmobile : n.Mobile
  · have hten : 1 + n.tail.length = 10 := by
      rw [hmobile]
    rw [if_pos ⟨hten, rfl⟩]
    simp only [mem_append, mem_cons, not_mem_nil, or_false]
    constructor
    · rintro ⟨(rfl | rfl) | rfl | rfl | rfl, -⟩ <;> exact ⟨_, .inl hmobile, rfl⟩
    · rintro ⟨s, -, rfl⟩
      refine ⟨by cases s <;> simp, ?_⟩
      rw [PhoneNumber.length_spell, hmobile]
      omega
  · have hnine : 1 + n.tail.length = 9 := by
      rw [htail.resolve_left hmobile]
    rw [hnine, if_neg (by omega), if_neg (by omega), if_neg (by omega)]
    simp only [append_nil, mem_cons, not_mem_nil, or_false, or_self, hmobile, false_or,
      exists_eq_left, and_iff_left_iff_imp]
    rintro rfl
    rw [PhoneNumber.length_spell, hone, hnine]

end Normal

section Stored

variable (backend : SearchBackend) (env : SearchEnv) (people : People) (table : PersonTable) (agencyId : ℕ)

/-- The public column of a number that is stored in a spelling: its digits, or their blind index. -/
def StoredAs (column : String) (n : PhoneNumber) (s : Spelling) : Prop :=
  column = n.spell s ∨ column = maskBidxPrefix ++ blindIndexForAgency backend env (n.spell s) agencyId

def LiveIn (r : PersonRow) : Prop :=
  ∃ id, people.get? (table, id) = some r ∧ r.live = true ∧ r.agencyId = agencyId

def Recorded (n : PhoneNumber) : Prop :=
  ∃ r, LiveIn people table agencyId r ∧ ∃ s, StoredAs backend env agencyId r.phone n s

variable {backend env people table agencyId} {n m : PhoneNumber} {t : Spelling}

/-- A normal form is tried against the columns of its own number: of a mobile in every spelling, of a landline in the
one with the leading zero. -/
lemma tries_iff (hplain : PlainDigits backend) (hshort : Function.Injective2 backend.shortHmac) {column : String}
    (h : StoredAs backend env agencyId column m t) :
    Tries backend env agencyId (n.spell .national) column ↔ n = m ∧ (n.Mobile ∨ t = .national) := by
  have hvariant : m.spell t ∈ phoneLookupVariants backend (n.spell .national) ↔
      n = m ∧ (n.Mobile ∨ t = .national) := by
    rw [mem_phoneLookupVariants_spell hplain]
    constructor
    · rintro ⟨s, hs, heq⟩
      obtain ⟨rfl, rfl⟩ := PhoneNumber.spell_inj heq
      exact ⟨rfl, hs⟩
    · rintro ⟨rfl, hs⟩
      exact ⟨t, hs, rfl⟩
  rw [← hvariant, Tries]
  rcases h with rfl | rfl
  · refine or_iff_right fun hmem => ?_
    have hcontrol := PhoneNumber.isDigit_spell (control_mem_of_mem_maskedPhoneProbes backend env hmem)
    exact absurd hcontrol (by decide)
  · rw [or_iff_left fun hmem => control_notMem_phoneLookupVariants backend hmem (control_mem_masked _),
      maskedPhoneProbes, mem_sortedSet, mem_map]
    constructor
    · rintro ⟨variant, hmem, heq⟩
      obtain ⟨s, -, rfl⟩ := (mem_phoneLookupVariants_spell hplain n variant).mp hmem
      have htext := (hshort (String.append_right_inj _ |>.mp heq)).2
      rw [hplain.normText _ fun c hc => PhoneNumber.isDigit_spell hc,
        hplain.normText _ fun c hc => PhoneNumber.isDigit_spell hc] at htext
      rw [← htext]
      exact hmem
    · exact fun hmem => ⟨_, hmem, rfl⟩

end Stored

/-! ### Which rows are judged rightly -/

section Judged

variable (backend : SearchBackend) (env : SearchEnv) (people : People) (table : PersonTable) (agencyId : ℕ)
  {α : Type*} (phone : α → String)

/-- The normal forms of a batch, as they are tried. -/
def batchForms (batch : List α) : List String :=
  normalForms backend (wantedPhones backend (numberedPhones phone batch))

/-- A row is judged rightly when its number is found where it is recorded, and a row without a number is the last of
the batch to be tried against no record. -/
structure JudgedRightly (batch : List α) (text : String) : Prop where
  /-- The number of the row is looked up, and it is the last to be tried against a record in a spelling in which it is
  tried. -/
  found : ∀ n s, Spells backend text n s → Recorded backend env people table agencyId n →
    (n.Mobile ∨ s ≠ .bare) ∧ ∃ r t, LiveIn people table agencyId r ∧ StoredAs backend env agencyId r.phone n t ∧
      (n.Mobile ∨ t = .national) ∧
      lastTrying backend env agencyId (batchForms backend phone batch) r.phone = some (n.spell .national)
  free : (∀ n s, ¬Spells backend text n s) → 9 ≤ (normalizePhoneForDedup backend text).length →
    ∀ r, LiveIn people table agencyId r → lastTrying backend env agencyId (batchForms backend phone batch) r.phone ≠
        some (normalizePhoneForDedup backend text)

variable {backend env people table agencyId phone} {batch : List α}

/-- The rows that are reported: their phones are looked up, and are the last to be tried against a record. -/
lemma mem_checkPhones_batch {i : ℕ} :
    i ∈ (checkPhones backend env people table agencyId (numberedPhones phone batch)).map Prod.fst ↔
      ∃ row, (row, i) ∈ batch.zipIdx 1 ∧ 9 ≤ (normalizePhoneForDedup backend (phone row)).length ∧
        ∃ r, LiveIn people table agencyId r ∧
          lastTrying backend env agencyId (batchForms backend phone batch) r.phone =
            some (normalizePhoneForDedup backend (phone row)) := by
  rw [mem_map]
  constructor
  · rintro ⟨⟨_, id⟩, hmem, rfl⟩
    obtain ⟨_, hrow, hlong, hfound⟩ := (mem_checkPhones backend env).mp hmem
    obtain ⟨r, hget, hlive, hagency, hlast⟩ := (mem_lookupPhones backend env).mp hfound
    obtain ⟨⟨row, i⟩, hentry, heq⟩ := mem_map.mp hrow
    obtain ⟨rfl, rfl⟩ := Prod.mk.inj heq
    exact ⟨row, hentry, hlong, r, ⟨id, hget, hlive, hagency⟩, hlast⟩
  · rintro ⟨row, hrow, hlong, r, ⟨id, hget, hlive, hagency⟩, hlast⟩
    refine ⟨(i, id), (mem_checkPhones backend env).mpr ⟨phone row, mem_map.mpr ⟨(row, i), hrow, rfl⟩, hlong, ?_⟩,
      rfl⟩
    exact (mem_lookupPhones backend env).mpr ⟨r, hget, hlive, hagency, hlast⟩

lemma filterBatch_eq : filterBatch backend env phone people table agencyId batch =
    (((batch.zipIdx 1).filter fun e => !((checkPhones backend env people table agencyId
      (numberedPhones phone batch)).map Prod.fst).contains e.2).map Prod.fst,
      ((batch.zipIdx 1).filter fun e => ((checkPhones backend env people table agencyId
        (numberedPhones phone batch)).map Prod.fst).contains e.2).map Prod.fst) := by
  have hall : ∀ found : List ℕ, found = [] →
      (batch, ([] : List α)) = (((batch.zipIdx 1).filter fun e => !found.contains e.2).map Prod.fst,
        ((batch.zipIdx 1).filter fun e => found.contains e.2).map Prod.fst) := by
    rintro _ rfl
    simp
  unfold filterBatch
  dsimp only
  split
  · next hshort =>
    refine hall _ (eq_nil_iff_forall_not_mem.mpr fun i hi => ?_)
    obtain ⟨row, hrow, hlong, -⟩ := mem_checkPhones_batch.mp hi
    have hne : phone row ≠ "" := by
      intro hempty
      rw [hempty, normalizePhoneForDedup_empty] at hlong
      exact absurd hlong (by decide)
    have hmem : normalizePhoneForDedup backend (phone row) ∈
        (((batch.map phone).filter fun p => p ≠ "").map (normalizePhoneForDedup backend)).filter
          fun p => decide (9 ≤ p.length) := by
      refine mem_filter.mpr ⟨mem_map_of_mem (mem_filter.mpr ⟨?_, by simpa using hne⟩),
        by simpa using hlong⟩
      exact mem_map_of_mem (fst_mem_of_mem_zipIdx hrow)
    rw [hshort] at hmem
    cases hmem
  · split
    · next hnone => exact hall _ hnone
    · rfl

variable (backend env people table agencyId phone) in
/-- The filter keeps the order and splits the batch at the rows that are looked up and are the last to be tried against
a record. -/
lemma filterBatch_reported (batch : List α) : ∃ duplicate : α × ℕ → Bool,
    filterBatch backend env phone people table agencyId batch =
      (((batch.zipIdx 1).filter fun e => !duplicate e).map Prod.fst,
        ((batch.zipIdx 1).filter duplicate).map Prod.fst) ∧
    ∀ e ∈ batch.zipIdx 1, (duplicate e = true ↔ 9 ≤ (normalizePhoneForDedup backend (phone e.1)).length ∧
      ∃ r, LiveIn people table agencyId r ∧ lastTrying backend env agencyId (batchForms backend phone batch) r.phone =
        some (normalizePhoneForDedup backend (phone e.1))) := by
  refine ⟨_, filterBatch_eq, fun e he => ?_⟩
  rw [contains_iff_mem, mem_checkPhones_batch]
  constructor
  · rintro ⟨row, hrow, hrest⟩
    have heq : row = e.1 := by
      have hat := (mem_zipIdx_iff_le_and_getElem?_sub.mp hrow).2
      rw [(mem_zipIdx_iff_le_and_getElem?_sub.mp he).2] at hat
      exact (Option.some.inj hat).symm
    rw [heq] at hrest
    exact hrest
  · exact fun hrest => ⟨e.1, he, hrest⟩

lemma recorded_of_lastTrying (hplain : PlainDigits backend) (hshort : Function.Injective2 backend.shortHmac)
    (hstored : ∀ r, LiveIn people table agencyId r → ∃ n s, StoredAs backend env agencyId r.phone n s)
    {n : PhoneNumber} {forms : List String} {r : PersonRow} (hlive : LiveIn people table agencyId r)
    (hlast : lastTrying backend env agencyId forms r.phone = some (n.spell .national)) :
    ∃ t, StoredAs backend env agencyId r.phone n t ∧ (n.Mobile ∨ t = .national) := by
  obtain ⟨m, t, hstore⟩ := hstored r hlive
  have htries := of_decide_eq_true (mem_filter.mp (mem_of_getLast? hlast)).2
  obtain ⟨rfl, hreached⟩ := (tries_iff hplain hshort hstore).mp htries
  exact ⟨t, hstore, hreached⟩

/-- For every batch and all records with stored numbers, the filter keeps the order and splits the batch in two, and a
row is among the duplicates exactly if its number is recorded if and only if it is judged rightly. -/
theorem filterBatch_iff (hplain : PlainDigits backend) (hshort : Function.Injective2 backend.shortHmac)
    (hstored : ∀ r, LiveIn people table agencyId r → ∃ n s, StoredAs backend env agencyId r.phone n s)
    (batch : List α) :
    ∃ duplicate : α × ℕ → Bool, filterBatch backend env phone people table agencyId batch =
        (((batch.zipIdx 1).filter fun e => !duplicate e).map Prod.fst,
          ((batch.zipIdx 1).filter duplicate).map Prod.fst) ∧
      ∀ e ∈ batch.zipIdx 1,
        ((duplicate e = true ↔ ∃ n s, Spells backend (phone e.1) n s ∧ Recorded backend env people table agencyId n) ↔
          JudgedRightly backend env people table agencyId phone batch (phone e.1)) := by
  obtain ⟨duplicate, heq, hreported⟩ := filterBatch_reported backend env people table agencyId phone batch
  refine ⟨duplicate, heq, fun e he => ?_⟩
  rw [hreported e he]
  by_cases hnumber : ∃ n s, Spells backend (phone e.1) n s
  · obtain ⟨n, s, hspells⟩ := hnumber
    have hunique : ∀ m t, Spells backend (phone e.1) m t → n = m ∧ s = t := fun m t hother =>
      PhoneNumber.spell_inj (hspells.symm.trans hother)
    have hrecorded : (∃ m t, Spells backend (phone e.1) m t ∧ Recorded backend env people table agencyId m) ↔
        Recorded backend env people table agencyId n := by
      constructor
      · rintro ⟨m, t, hother, hrecord⟩
        rw [(hunique m t hother).1]
        exact hrecord
      · exact fun hrecord => ⟨n, s, hspells, hrecord⟩
    rw [hrecorded, normalize_of_spells hspells, PhoneNumber.length_normal_iff]
    constructor
    · intro hclaim
      refine ⟨fun m t hother hrecord => ?_, fun hnone => absurd hspells (hnone n s)⟩
      obtain ⟨rfl, rfl⟩ := hunique m t hother
      obtain ⟨hlooked, r, hlive, hlast⟩ := hclaim.mpr hrecord
      rw [PhoneNumber.normal, if_pos hlooked] at hlast
      obtain ⟨t, hstore, hreached⟩ := recorded_of_lastTrying hplain hshort hstored hlive hlast
      exact ⟨hlooked, r, t, hlive, hstore, hreached, hlast⟩
    · intro hright
      constructor
      · rintro ⟨hlooked, r, hlive, hlast⟩
        rw [PhoneNumber.normal, if_pos hlooked] at hlast
        obtain ⟨t, hstore, -⟩ := recorded_of_lastTrying hplain hshort hstored hlive hlast
        exact ⟨r, hlive, t, hstore⟩
      · intro hrecord
        obtain ⟨hlooked, r, t, hlive, -, -, hlast⟩ := hright.found n s hspells hrecord
        refine ⟨hlooked, r, hlive, ?_⟩
        rw [PhoneNumber.normal, if_pos hlooked]
        exact hlast
  · have hnone : ∀ n s, ¬Spells backend (phone e.1) n s := fun n s h => hnumber ⟨n, s, h⟩
    constructor
    · intro hclaim
      refine ⟨fun n s h => absurd h (hnone n s), fun _ hlong r hlive hlast => ?_⟩
      obtain ⟨n, s, hspells, -⟩ := hclaim.mp ⟨hlong, r, hlive, hlast⟩
      exact hnone n s hspells
    · intro hright
      refine iff_of_false ?_ ?_
      · rintro ⟨hlong, r, hlive, hlast⟩
        exact hright.free hnone hlong r hlive hlast
      · rintro ⟨n, s, hspells, -⟩
        exact hnone n s hspells

end Judged

/-! ### A landline -/

lemma plainDigits_markedBackend : PlainDigits markedBackend := by
  refine ⟨fun c hc => hc, fun c hc => hc, fun s hs => ?_⟩
  have hstrip : strip s = s := strip_of_no_space fun c hc => isSpace_of_isDigit (hs c hc)
  have hmap : (s.toList.map fun c => if c = 'ı' then 'i' else c) = s.toList := by
    refine (map_congr_left fun c hc => if_neg ?_).trans s.toList.map_id'
    rintro rfl
    exact absurd (hs _ hc) (by decide)
  change String.ofList (((strip s).toList.filter fun _ => true).map fun c => if c = 'ı' then 'i' else c) = s
  rw [hstrip, filter_eq_self.mpr fun _ _ => rfl, hmap, String.ofList_toList]

def landline : PhoneNumber :=
  ⟨['2', '1', '2', '3', '4', '5', '6', '7'], List.all_eq_true.mp rfl, Or.inr ⟨rfl, '2', rfl, Or.inl rfl⟩⟩

def oneClient (column : String) : People :=
  Keyed.empty.set (.clients, 1) ⟨1, true, column, "", none, "", none, "", ""⟩

def oneKey : SearchEnv := ⟨"secret", none, none⟩

lemma liveIn_oneClient {column : String} {r : PersonRow} (h : LiveIn (oneClient column) .clients 1 r) :
    r.phone = column := by
  obtain ⟨_, hget, -⟩ := h
  rw [oneClient, Keyed.get?_set] at hget
  split at hget
  · rw [← Option.some.inj hget]
  · cases hget

/-- `filterBatch_iff` for a client that is stored with the leading zero. -/
theorem filterBatch_iff_landline : ∃ duplicate : String × ℕ → Bool,
      filterBatch markedBackend oneKey id (oneClient "021234567") .clients 1 ["021 23 45 67"] =
        ((((["021 23 45 67"] : List String).zipIdx 1).filter fun e => !duplicate e).map Prod.fst,
          ((["021 23 45 67"] : List String).zipIdx 1 |>.filter duplicate).map Prod.fst) ∧
      ∀ e ∈ (["021 23 45 67"] : List String).zipIdx 1,
        ((duplicate e = true ↔ ∃ n s, Spells markedBackend (id e.1) n s ∧
            Recorded markedBackend oneKey (oneClient "021234567") .clients 1 n) ↔
          JudgedRightly markedBackend oneKey (oneClient "021234567") .clients 1 id ["021 23 45 67"] (id e.1)) :=
  filterBatch_iff plainDigits_markedBackend markedHash_injective2
    (fun _ hr => ⟨landline, .national, .inl (liveIn_oneClient hr)⟩) _

lemma landline_not_reported {forms : List String} : lastTrying markedBackend oneKey 1 forms "21321234567" ≠
    some (landline.spell .national) := by
  intro hlast
  have htries := of_decide_eq_true (mem_filter.mp (mem_of_getLast? hlast)).2
  have hstore : StoredAs markedBackend oneKey 1 "21321234567" landline .country := .inl rfl
  have hreached := ((tries_iff plainDigits_markedBackend markedHash_injective2 hstore).mp htries).2
  exact absurd hreached (by decide)

lemma landline_taken : lastTrying markedBackend oneKey 1 ["021234567", "0021234567"] "021234567" =
    some "0021234567" := by
  have htries : Tries markedBackend oneKey 1 "0021234567" "021234567" := by
    refine .inr (mem_sortedSet.mpr ?_)
    decide
  have hlast : ["0021234567"].filter (fun phone => decide (Tries markedBackend oneKey 1 phone "021234567")) =
      ["0021234567"] := filter_cons_of_pos (decide_eq_true htries)
  rw [lastTrying, ← singleton_append, filter_append, hlast, getLast?_concat]

lemma landline_taken_in_batch : lastTrying markedBackend oneKey 1
    (batchForms markedBackend id ["021 23 45 67", "0021234567"]) "021234567" = some "0021234567" := by
  have hforms : batchForms markedBackend id ["021 23 45 67", "0021234567"] = ["021234567", "0021234567"] := by
    decide
  rw [hforms, landline_taken]

/-- A landline that is stored with 213 is not found with the leading zero; and a row that is no number takes a
landline that is stored with the leading zero. -/
theorem landline_missed : filterBatch markedBackend oneKey id (oneClient "21321234567") .clients 1 ["021 23 45 67"] =
        (["021 23 45 67"], []) ∧
      Spells markedBackend "021 23 45 67" landline .national ∧
      Recorded markedBackend oneKey (oneClient "21321234567") .clients 1 landline ∧
      filterBatch markedBackend oneKey id (oneClient "021234567") .clients 1 ["021 23 45 67", "0021234567"] =
        (["021 23 45 67"], ["0021234567"]) ∧
      Recorded markedBackend oneKey (oneClient "021234567") .clients 1 landline := by
  have hnormal : normalizePhoneForDedup markedBackend "021 23 45 67" = landline.spell .national := rfl
  refine ⟨?_, rfl, ⟨_, ⟨1, rfl, rfl, rfl⟩, .country, .inl rfl⟩, ?_, ⟨_, ⟨1, rfl, rfl, rfl⟩, .national, .inl rfl⟩⟩
  · obtain ⟨duplicate, heq, hreported⟩ := filterBatch_reported markedBackend oneKey (oneClient "21321234567") .clients 1 id
      ["021 23 45 67"]
    have hclean : duplicate ("021 23 45 67", 1) = false := by
      rw [← Bool.not_eq_true, hreported _ (by decide)]
      rintro ⟨-, r, hlive, hlast⟩
      rw [liveIn_oneClient hlive, id, hnormal] at hlast
      exact landline_not_reported hlast
    rw [heq]
    simp [hclean]
  · obtain ⟨duplicate, heq, hreported⟩ := filterBatch_reported markedBackend oneKey (oneClient "021234567") .clients 1 id
      ["021 23 45 67", "0021234567"]
    have hclean : duplicate ("021 23 45 67", 1) = false := by
      rw [← Bool.not_eq_true, hreported _ (by decide)]
      rintro ⟨-, r, hlive, hlast⟩
      rw [liveIn_oneClient hlive, landline_taken_in_batch] at hlast
      exact absurd hlast (by decide)
    have htaken : duplicate ("0021234567", 2) = true := by
      rw [hreported _ (by decide)]
      exact ⟨by decide, _, ⟨1, rfl, rfl, rfl⟩, landline_taken_in_batch⟩
    rw [heq]
    simp [hclean, htaken]

end ImmoApp.Crm
