import ImmoApp.Foundation.Dict
import ImmoApp.Foundation.Runs
import Mathlib.Data.Nat.Basic

/-!
# Caches under generations

A reader reads the generation of its cache key, looks for an entry under that key and generation, and computes the
answer where there is none, in several queries that other commits may come between.  A commit makes entries unreachable
by raising the generation.

An answer is fresh when its computation began after every commit that the request began after and that changed what it
asks for.  `answers_fresh`: so it is when every commit raises the generations of the keys whose answers it changes.
-/

namespace ImmoApp

open List hiding getElem?_eq_some_iff

open Dict

/-- A computation in several queries of the database. -/
inductive Fill (δ π : Type) where
  | done (payload : π)
  | query (next : δ → Fill δ π)

/-- Reads that are cached under generations, and the writes beside them. -/
structure CachedReads (δ κ ρ π μ : Type) where
  /-- What a write makes of the database, `none` where it is rolled back. -/
  perform : μ → δ → Option δ
  /-- The cache key of a query, `none` where it is not cached. -/
  key : κ → Option ρ
  generation : δ → ρ → ℕ
  /-- Whether the processes keep the answers in their own memory too. -/
  inProcess : ρ → Bool
  fill : κ → Fill δ π

inductive ReadStage (δ π : Type) where
  | started
  | keyed (generation : ℕ)
  /-- It computes, since that many commits; with the generation it will leave the answer under. -/
  | filling (generation : Option ℕ) (computed : ℕ) (rest : Fill δ π)

structure PendingRead (δ κ π : Type) where
  process : ℕ
  query : κ
  begun : ℕ
  stage : ReadStage δ π

structure CacheEntry (π : Type) where
  payload : π
  computed : ℕ

structure ReadAnswer (κ π : Type) where
  query : κ
  begun : ℕ
  computed : ℕ
  payload : π

/-- The database, its log, the entries shared or of one process, the requests and the answers. -/
structure ReadDesk (δ κ ρ π : Type) where
  db : δ
  /-- Each commit: the database before and after it. -/
  log : List (δ × δ)
  /-- The entries, by the process that keeps them (`none` for the shared ones), key and generation. -/
  cache : Dict (Option ℕ × ρ × ℕ) (CacheEntry π)
  pending : Dict ℕ (PendingRead δ κ π)
  answers : List (ReadAnswer κ π)

def ReadDesk.initial {δ κ ρ π : Type} (d : δ) : ReadDesk δ κ ρ π := ⟨d, [], [], [], []⟩

inductive ReadAction (κ ρ μ : Type) where
  | commit (w : μ)
  | start (number process : ℕ) (query : κ)
  | readGeneration (number : ℕ)
  /-- It finds an entry, shared or of its own process, which may then keep it too. -/
  | lookup (number : ℕ) (own keep : Bool)
  /-- It finds none, or is not cached, and begins to compute. -/
  | fill (number : ℕ)
  | query (number : ℕ)
  /-- It answers; the caches may accept the entry or not. -/
  | finish (number : ℕ) (share keep : Bool)
  | evict (place : Option ℕ × ρ × ℕ)

section Reads

variable {δ κ ρ π μ : Type}

namespace ReadDesk

def advance (s : ReadDesk δ κ ρ π) (number : ℕ) (p : PendingRead δ κ π) (stage : ReadStage δ π) :
    ReadDesk δ κ ρ π :=
  { s with pending := s.pending.set number { p with stage := stage } }

def answer (s : ReadDesk δ κ ρ π) (number : ℕ) (p : PendingRead δ κ π) (e : CacheEntry π) :
    ReadDesk δ κ ρ π :=
  { s with
    pending := s.pending.erase number
    answers := s.answers ++ [⟨p.query, p.begun, e.computed, e.payload⟩] }

def keepAt [DecidableEq ρ] (s : ReadDesk δ κ ρ π) (accepted : Bool) (place : Option ℕ × ρ × ℕ) (e : CacheEntry π) :
    ReadDesk δ κ ρ π :=
  if accepted then { s with cache := s.cache.set place e } else s

def step [DecidableEq ρ] (reads : CachedReads δ κ ρ π μ) (s : ReadDesk δ κ ρ π) : ReadAction κ ρ μ → Option (ReadDesk δ κ ρ π)
  | .commit w =>
    match reads.perform w s.db with
    | some d => some { s with db := d, log := s.log ++ [(s.db, d)] }
    | none => some s
  | .start number process query =>
    match s.pending.get? number with
    | some _ => none
    | none => some (s.advance number ⟨process, query, s.log.length, .started⟩ .started)
  | .readGeneration number =>
    match s.pending.get? number with
    | some p =>
      match p.stage, reads.key p.query with
      | .started, some key => some (s.advance number p (.keyed (reads.generation s.db key)))
      | _, _ => none
    | none => none
  | .lookup number own keep =>
    match s.pending.get? number with
    | some p =>
      match p.stage, reads.key p.query with
      | .keyed g, some key =>
        match s.cache.get? (if own then some p.process else none, key, g) with
        | some e =>
          some ((s.keepAt (keep && reads.inProcess key) (some p.process, key, g) e).answer number p e)
        | none => none
      | _, _ => none
    | none => none
  | .fill number =>
    match s.pending.get? number with
    | some p =>
      match p.stage, reads.key p.query with
      | .started, none => some (s.advance number p (.filling none s.log.length (reads.fill p.query)))
      | .keyed g, some _ => some (s.advance number p (.filling (some g) s.log.length (reads.fill p.query)))
      | _, _ => none
    | none => none
  | .query number =>
    match s.pending.get? number with
    | some p =>
      match p.stage with
      | .filling g computed (.query next) => some (s.advance number p (.filling g computed (next s.db)))
      | _ => none
    | none => none
  | .finish number share keep =>
    match s.pending.get? number with
    | some p =>
      match p.stage with
      | .filling g computed (.done payload) =>
        let e : CacheEntry π := ⟨payload, computed⟩
        match g, reads.key p.query with
        | some g, some key =>
          some (((s.keepAt share (none, key, g) e).keepAt (keep && reads.inProcess key)
            (some p.process, key, g) e).answer number p e)
        | _, _ => some (s.answer number p e)
      | _ => none
    | none => none
  | .evict place => some { s with cache := s.cache.erase place }

end ReadDesk

variable (reads : CachedReads δ κ ρ π μ) (changed : δ → δ → κ → Prop)

/-- The computation of an answer began after every commit that the request began after and that changed what
it asks for. -/
def ReadAnswer.Fresh (log : List (δ × δ)) (a : ReadAnswer κ π) : Prop :=
  ∀ i < a.begun, ∀ c, log[i]? = some c → changed c.1 c.2 a.query → i < a.computed

/-- A commit raises the generations of the keys whose answers it changes, and lowers none. -/
structure CachedReads.Bumps (d d' : δ) : Prop where
  le : ∀ key, reads.generation d key ≤ reads.generation d' key
  lt : ∀ k key, reads.key k = some key → changed d d' k → reads.generation d key < reads.generation d' key

/-- The commits before a time reached a generation at most. -/
def CachedReads.Reached (log : List (δ × δ)) (key : ρ) (g time : ℕ) : Prop :=
  ∀ i < time, ∀ c, log[i]? = some c → reads.generation c.2 key ≤ g

/-- An answer that was computed from some time on may be kept under a generation: the generation is none of the
future, and the commits since that time that changed it passed the generation. -/
structure CachedReads.Keeps (s : ReadDesk δ κ ρ π) (key : ρ) (g computed : ℕ) : Prop where
  le : g ≤ reads.generation s.db key
  passed : ∀ i ≥ computed, ∀ c, s.log[i]? = some c → ∀ k, reads.key k = some key →
    changed c.1 c.2 k → g < reads.generation c.2 key

def PendingRead.Sound (s : ReadDesk δ κ ρ π) (p : PendingRead δ κ π) : Prop :=
  match p.stage with
  | .started => True
  | .keyed g => ∀ key, reads.key p.query = some key →
      g ≤ reads.generation s.db key ∧ reads.Reached s.log key g p.begun
  | .filling g computed _ => p.begun ≤ computed ∧
      ∀ h ∈ g, ∀ key, reads.key p.query = some key → reads.Keeps changed s key h computed

structure ReadDesk.Coherent (s : ReadDesk δ κ ρ π) : Prop where
  /-- No commit reached a later generation than the present one. -/
  log : ∀ c ∈ s.log, ∀ key, reads.generation c.2 key ≤ reads.generation s.db key
  cache : ∀ e ∈ s.cache, reads.Keeps changed s e.1.2.1 e.1.2.2 e.2.computed
  begun : ∀ p ∈ s.pending, p.2.begun ≤ s.log.length
  pending : ∀ p ∈ s.pending, p.2.Sound reads changed s
  answered : ∀ a ∈ s.answers, a.begun ≤ s.log.length
  answers : ∀ a ∈ s.answers, a.Fresh changed s.log

variable {reads changed} {s t : ReadDesk δ κ ρ π}

lemma CachedReads.Keeps.fresh {key : ρ} {g computed : ℕ} {a : ReadAnswer κ π}
    (hkeeps : reads.Keeps changed s key g computed) (hkey : reads.key a.query = some key)
    (hreached : reads.Reached s.log key g a.begun) (hcomputed : a.computed = computed) :
    a.Fresh changed s.log := by
  intro i hi c hc hchanged
  by_contra hlate
  have hbeyond := hkeeps.passed i (by omega) c hc a.query hkey hchanged
  have hwithin := hreached i hi c hc
  omega

lemma ReadAnswer.fresh_of_le {log : List (δ × δ)} {a : ReadAnswer κ π} (h : a.begun ≤ a.computed) :
    a.Fresh changed log := fun _ hi _ _ _ => lt_of_lt_of_le hi h

/-! ### What an action keeps -/

lemma PendingRead.Sound.of_eq {p : PendingRead δ κ π} (hp : p.Sound reads changed s) (hdb : t.db = s.db)
    (hlog : t.log = s.log) : p.Sound reads changed t := by
  unfold PendingRead.Sound at hp ⊢
  cases hstage : p.stage with
  | started => trivial
  | keyed =>
    rw [hstage] at hp
    simpa only [hdb, hlog] using hp
  | filling =>
    rw [hstage] at hp
    refine ⟨hp.1, fun h hh key hkey => ⟨?_, ?_⟩⟩
    · rw [hdb]
      exact (hp.2 h hh key hkey).le
    · rw [hlog]
      exact (hp.2 h hh key hkey).passed

lemma CachedReads.Keeps.of_eq {key : ρ} {g computed : ℕ} (h : reads.Keeps changed s key g computed)
    (hdb : t.db = s.db) (hlog : t.log = s.log) : reads.Keeps changed t key g computed :=
  ⟨hdb ▸ h.le, hlog ▸ h.passed⟩

namespace ReadDesk

lemma coherent_initial (d : δ) : (ReadDesk.initial d : ReadDesk δ κ ρ π).Coherent reads changed where
  log := fun _ hc => absurd hc not_mem_nil
  cache := fun _ he => absurd he not_mem_nil
  begun := fun _ hp => absurd hp not_mem_nil
  pending := fun _ hp => absurd hp not_mem_nil
  answered := fun _ ha => absurd ha not_mem_nil
  answers := fun _ ha => absurd ha not_mem_nil

lemma Coherent.advance (hs : s.Coherent reads changed) {number : ℕ} {p : PendingRead δ κ π}
    {stage : ReadStage δ π} (hbegun : p.begun ≤ s.log.length)
    (hsound : PendingRead.Sound reads changed s { p with stage := stage }) :
    (s.advance number p stage).Coherent reads changed where
  log := hs.log
  cache := fun e he => (hs.cache e he).of_eq rfl rfl
  begun := by
    intro q hq
    rcases mem_set.mp hq with rfl | ⟨hq, -⟩
    · exact hbegun
    · exact hs.begun q hq
  pending := by
    intro q hq
    rcases mem_set.mp hq with rfl | ⟨hq, -⟩
    · exact hsound.of_eq rfl rfl
    · exact (hs.pending q hq).of_eq rfl rfl
  answered := hs.answered
  answers := hs.answers

lemma Coherent.answer (hs : s.Coherent reads changed) {number : ℕ} {p : PendingRead δ κ π}
    {e : CacheEntry π} (hbegun : p.begun ≤ s.log.length)
    (hfresh : ReadAnswer.Fresh changed s.log ⟨p.query, p.begun, e.computed, e.payload⟩) :
    (s.answer number p e).Coherent reads changed where
  log := hs.log
  cache := fun e he => (hs.cache e he).of_eq rfl rfl
  begun := fun q hq => hs.begun q (mem_erase.mp hq).1
  pending := fun q hq => (hs.pending q (mem_erase.mp hq).1).of_eq rfl rfl
  answered := by
    intro a ha
    rcases mem_append.mp ha with ha | ha
    · exact hs.answered a ha
    · rw [mem_singleton.mp ha]
      exact hbegun
  answers := by
    intro a ha
    rcases mem_append.mp ha with ha | ha
    · exact hs.answers a ha
    · rw [mem_singleton.mp ha]
      exact hfresh

/-! ### Commits -/

end ReadDesk

lemma getElem?_concat_eq_some {α : Type*} {l : List α} {x c : α} {i : ℕ} (h : (l ++ [x])[i]? = some c) :
    l[i]? = some c ∨ i = l.length ∧ c = x := by
  rw [getElem?_append] at h
  split at h
  · exact .inl h
  · next hlength =>
    right
    obtain ⟨hi, hc⟩ := List.getElem?_eq_some_iff.mp h
    rw [length_singleton] at hi
    refine ⟨by omega, ?_⟩
    rw [← hc]
    simp

def ReadDesk.after (s : ReadDesk δ κ ρ π) (d : δ) : ReadDesk δ κ ρ π :=
  { s with db := d, log := s.log ++ [(s.db, d)] }

section Commit

variable {d : δ}

/-- What may be kept under a generation may still be kept after a commit that raises the generations it has
to. -/
lemma CachedReads.Keeps.after {key : ρ} {g computed : ℕ} (h : reads.Keeps changed s key g computed)
    (hbumps : reads.Bumps changed s.db d) : reads.Keeps changed (s.after d) key g computed where
  le := le_trans h.le (hbumps.le key)
  passed := by
    intro i hi c hc k hkey hchanged
    rcases getElem?_concat_eq_some hc with hold | ⟨-, rfl⟩
    · exact h.passed i hi c hold k hkey hchanged
    · exact lt_of_le_of_lt h.le (hbumps.lt k key hkey hchanged)

lemma CachedReads.Reached.after {key : ρ} {g time : ℕ} (h : reads.Reached s.log key g time)
    (htime : time ≤ s.log.length) : reads.Reached (s.after d).log key g time := by
  intro i hi c hc
  rcases getElem?_concat_eq_some hc with hold | ⟨rfl, -⟩
  · exact h i hi c hold
  · omega

lemma PendingRead.Sound.after {p : PendingRead δ κ π} (hp : p.Sound reads changed s)
    (hbumps : reads.Bumps changed s.db d) (hbegun : p.begun ≤ s.log.length) :
    p.Sound reads changed (s.after d) := by
  unfold PendingRead.Sound at hp ⊢
  cases hstage : p.stage with
  | started => trivial
  | keyed =>
    rw [hstage] at hp
    intro key hkey
    obtain ⟨hle, hreached⟩ := hp key hkey
    exact ⟨le_trans hle (hbumps.le key), hreached.after hbegun⟩
  | filling =>
    rw [hstage] at hp
    exact ⟨hp.1, fun h hh key hkey => (hp.2 h hh key hkey).after hbumps⟩

lemma ReadAnswer.Fresh.after {a : ReadAnswer κ π} (ha : a.Fresh changed s.log)
    (hbegun : a.begun ≤ s.log.length) : a.Fresh changed (s.after d).log := by
  intro i hi c hc hchanged
  rcases getElem?_concat_eq_some hc with hold | ⟨rfl, -⟩
  · exact ha i hi c hold hchanged
  · omega

lemma ReadDesk.Coherent.after (hs : s.Coherent reads changed) (hbumps : reads.Bumps changed s.db d) :
    (s.after d).Coherent reads changed := by
  have hlength : s.log.length ≤ (s.after d).log.length := by simp [ReadDesk.after]
  refine ⟨fun c hc key => ?_, fun e he => (hs.cache e he).after hbumps, fun p hp => ?_, fun p hp => ?_,
    fun a ha => ?_, fun a ha => (hs.answers a ha).after (hs.answered a ha)⟩
  · rcases mem_append.mp hc with hold | hnew
    · exact le_trans (hs.log c hold key) (hbumps.le key)
    · rw [mem_singleton.mp hnew]
      exact le_rfl
  · exact le_trans (hs.begun p hp) hlength
  · exact (hs.pending p hp).after hbumps (hs.begun p hp)
  · exact le_trans (hs.answered a ha) hlength

end Commit

/-! ### Runs -/

section Steps

variable [DecidableEq ρ] {action : ReadAction κ ρ μ}

namespace ReadDesk

variable (accepted : Bool) (place : Option ℕ × ρ × ℕ) (e : CacheEntry π)

@[simp] lemma keepAt_db : (s.keepAt accepted place e).db = s.db := by
  unfold ReadDesk.keepAt
  split <;> rfl

@[simp] lemma keepAt_log : (s.keepAt accepted place e).log = s.log := by
  unfold ReadDesk.keepAt
  split <;> rfl

lemma Coherent.keepAt (hs : s.Coherent reads changed) {accepted : Bool} {place : Option ℕ × ρ × ℕ}
    {e : CacheEntry π} (he : reads.Keeps changed s place.2.1 place.2.2 e.computed) :
    (s.keepAt accepted place e).Coherent reads changed := by
  unfold ReadDesk.keepAt
  split
  · refine ⟨hs.log, fun x hx => ?_, hs.begun, fun q hq => (hs.pending q hq).of_eq rfl rfl, hs.answered,
      hs.answers⟩
    rcases mem_set.mp hx with rfl | ⟨hx, -⟩
    · exact he.of_eq rfl rfl
    · exact (hs.cache x hx).of_eq rfl rfl
  · exact hs

/-- The condition on a step: a commit raises the generations it has to. -/
def Bumping (reads : CachedReads δ κ ρ π μ) (changed : δ → δ → κ → Prop) (s : ReadDesk δ κ ρ π)
    (action : ReadAction κ ρ μ) : Prop :=
  ∀ w d, action = .commit w → reads.perform w s.db = some d → reads.Bumps changed s.db d

lemma Coherent.step (hs : s.Coherent reads changed) (hbumping : Bumping reads changed s action)
    (hstep : ReadDesk.step reads s action = some t) : t.Coherent reads changed := by
  cases action with
  | commit w =>
    simp only [ReadDesk.step] at hstep
    split at hstep
    · next d hd =>
      obtain ⟨⟩ := hstep
      exact hs.after (hbumping w d rfl hd)
    · obtain ⟨⟩ := hstep
      exact hs
  | start =>
    simp only [ReadDesk.step] at hstep
    split at hstep
    · cases hstep
    · obtain ⟨⟩ := hstep
      exact hs.advance le_rfl trivial
  | readGeneration =>
    simp only [ReadDesk.step] at hstep
    split at hstep
    · next p hp =>
      have hbegun := hs.begun _ (mem_of_get? hp)
      split at hstep
      · next key hstage hkey =>
        obtain ⟨⟩ := hstep
        refine hs.advance hbegun fun key' hkey' => ?_
        obtain rfl := Option.some.inj (hkey.symm.trans hkey')
        exact ⟨le_rfl, fun i _ c hc => hs.log c (mem_of_getElem? hc) key⟩
      · cases hstep
    · cases hstep
  | lookup =>
    simp only [ReadDesk.step] at hstep
    split at hstep
    · next p hp =>
      have hbegun := hs.begun _ (mem_of_get? hp)
      have hsound := hs.pending _ (mem_of_get? hp)
      split at hstep
      · next g key hstage hkey =>
        rw [PendingRead.Sound, hstage] at hsound
        obtain ⟨-, hreached⟩ := hsound key hkey
        split at hstep
        · next e he =>
          have hkeeps : reads.Keeps changed s key g e.computed := hs.cache _ (mem_of_get? he)
          obtain ⟨⟩ := hstep
          refine (hs.keepAt hkeeps).answer (by simpa using hbegun) ?_
          rw [keepAt_log]
          exact hkeeps.fresh hkey hreached rfl
        · cases hstep
      · cases hstep
    · cases hstep
  | fill =>
    simp only [ReadDesk.step] at hstep
    split at hstep
    · next p hp =>
      have hbegun := hs.begun _ (mem_of_get? hp)
      have hsound := hs.pending _ (mem_of_get? hp)
      split at hstep
      · obtain ⟨⟩ := hstep
        exact hs.advance hbegun ⟨hbegun, fun h hh => absurd hh (by simp)⟩
      · next g key hstage hkey =>
        rw [PendingRead.Sound, hstage] at hsound
        obtain ⟨⟩ := hstep
        refine hs.advance hbegun ⟨hbegun, fun h hh key' hkey' => ?_⟩
        obtain ⟨⟩ := hh
        refine ⟨(hsound key' hkey').1, fun i hi c hc => ?_⟩
        exact absurd (List.getElem?_eq_some_iff.mp hc).1 (by omega)
      · cases hstep
    · cases hstep
  | query =>
    simp only [ReadDesk.step] at hstep
    split at hstep
    · next p hp =>
      have hbegun := hs.begun _ (mem_of_get? hp)
      have hsound := hs.pending _ (mem_of_get? hp)
      split at hstep
      · next g computed next hstage =>
        rw [PendingRead.Sound, hstage] at hsound
        obtain ⟨⟩ := hstep
        exact hs.advance hbegun hsound
      · cases hstep
    · cases hstep
  | finish =>
    simp only [ReadDesk.step] at hstep
    split at hstep
    · next p hp =>
      have hbegun := hs.begun _ (mem_of_get? hp)
      have hsound := hs.pending _ (mem_of_get? hp)
      split at hstep
      · next g computed payload hstage =>
        rw [PendingRead.Sound, hstage] at hsound
        split at hstep
        · next g key hkey =>
          have hkeeps := hsound.2 g rfl key hkey
          obtain ⟨⟩ := hstep
          refine ((hs.keepAt hkeeps).keepAt (hkeeps.of_eq ?_ ?_)).answer (by simpa using hbegun) ?_
          · exact keepAt_db _ _ _
          · exact keepAt_log _ _ _
          · exact ReadAnswer.fresh_of_le hsound.1
        · obtain ⟨⟩ := hstep
          exact hs.answer hbegun (ReadAnswer.fresh_of_le hsound.1)
      · cases hstep
    · cases hstep
  | evict =>
    obtain ⟨⟩ := hstep
    exact ⟨hs.log, fun e he => (hs.cache e (mem_erase.mp he).1).of_eq rfl rfl, hs.begun,
      fun q hq => (hs.pending q hq).of_eq rfl rfl, hs.answered, hs.answers⟩

end ReadDesk

/-- When every commit raises the generations of the keys whose answers it changes, all answers are fresh. -/
theorem answers_fresh {d : δ} {actions : List (ReadAction κ ρ μ)}
    (hbumping : Guarded (ReadDesk.step reads) (ReadDesk.Bumping reads changed) (ReadDesk.initial d) actions)
    (hrun : run (ReadDesk.step reads) (ReadDesk.initial d) actions = some t) :
    ∀ a ∈ t.answers, a.Fresh changed t.log := by
  have hcoherent : t.Coherent reads changed :=
    run_invariant (P := ReadDesk.Coherent reads changed) (fun _ _ _ hs hC hstep => hs.step hC hstep)
      (ReadDesk.coherent_initial d) hbumping hrun
  exact hcoherent.answers

end Steps

end Reads

end ImmoApp
