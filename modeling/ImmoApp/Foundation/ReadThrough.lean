import Mathlib.Logic.Function.Basic
import Mathlib.Data.List.Forall2
import Mathlib.Data.Set.Basic

/-!
# Reads that fill in what is missing

A read of a key whose value is missing first fills in a value that is computed for this read; the later reads find it.
`fetch` is the effect of one read, `fetchAll` of a request that reads several keys, and `run` of a list of requests.

The store is blind to what is asked for where every missing value would be filled in alike.  A blind store stays blind,
and requests that differ only in what they ask for leave it alike.
-/

namespace ImmoApp.ReadThrough

variable {κ ι β : Type*} [DecidableEq κ] (missing : β → Prop) [DecidablePred missing] (fill : ι → κ → β)

/-- A read of the key `k` that asks for `i`. -/
def fetch (i : ι) (v : κ → β) (k : κ) : κ → β :=
  if missing (v k) then Function.update v k (fill i k) else v

/-- A request: it reads the keys one after the other and asks for `i` each time. -/
def fetchAll (i : ι) (keys : List κ) (v : κ → β) : κ → β := keys.foldl (fetch missing fill i) v

def run (requests : List (List κ × ι)) (v : κ → β) : κ → β :=
  requests.foldl (fun v request => fetchAll missing fill request.2 request.1 v) v

/-- What is asked for does not matter to the missing values of some keys. -/
def Blind (keys : Set κ) (allowed : Set ι) (v : κ → β) : Prop :=
  ∀ k ∈ keys, missing (v k) → ∀ i ∈ allowed, ∀ j ∈ allowed, fill i k = fill j k

/-- The two requests read the same keys and ask for things that are allowed. -/
structure Alike (keys : Set κ) (allowed : Set ι) (request request' : List κ × ι) : Prop where
  same : request.1 = request'.1
  keys : ∀ k ∈ request.1, k ∈ keys
  asked : request.2 ∈ allowed
  asked' : request'.2 ∈ allowed

variable {missing fill}

lemma fetch_of_missing {i : ι} {v : κ → β} {k : κ} (h : missing (v k)) :
    fetch missing fill i v k = Function.update v k (fill i k) := if_pos h

lemma fetch_of_present {i : ι} {v : κ → β} {k : κ} (h : ¬missing (v k)) : fetch missing fill i v k = v := if_neg h

lemma fetch_of_ne {i : ι} {v : κ → β} {k k' : κ} (h : k' ≠ k) : fetch missing fill i v k k' = v k' := by
  by_cases hmissing : missing (v k)
  · rw [fetch_of_missing hmissing, Function.update_of_ne h]
  · rw [fetch_of_present hmissing]

lemma missing_of_fetch {i : ι} {v : κ → β} {k k' : κ} (h : missing (fetch missing fill i v k k')) :
    missing (v k') := by
  by_cases hk : k' = k
  · by_contra hpresent
    rw [hk] at h hpresent
    rw [fetch_of_present hpresent] at h
    exact hpresent h
  · rwa [fetch_of_ne hk] at h

lemma fetch_eq_self {i : ι} {v : κ → β} {k : κ} (h : missing (v k) → fill i k = v k) :
    fetch missing fill i v k = v := by
  by_cases hmissing : missing (v k)
  · rw [fetch_of_missing hmissing, h hmissing, Function.update_eq_self]
  · exact fetch_of_present hmissing

lemma Blind.fetch {keys : Set κ} {allowed : Set ι} {v : κ → β} (h : Blind missing fill keys allowed v)
    (i : ι) (k : κ) :
    Blind missing fill keys allowed (fetch missing fill i v k) :=
  fun k' hk' hmissing => h k' hk' (missing_of_fetch hmissing)

lemma Blind.fetch_eq {keys : Set κ} {allowed : Set ι} {v : κ → β} (h : Blind missing fill keys allowed v) {k : κ}
    (hk : k ∈ keys) {i j : ι} (hi : i ∈ allowed) (hj : j ∈ allowed) :
    ReadThrough.fetch missing fill i v k = ReadThrough.fetch missing fill j v k := by
  by_cases hmissing : missing (v k)
  · rw [fetch_of_missing hmissing, fetch_of_missing hmissing, h k hk hmissing i hi j hj]
  · rw [fetch_of_present hmissing, fetch_of_present hmissing]

lemma fetchAll_eq_self {i : ι} {keys : List κ} {v : κ → β} (h : ∀ k, missing (v k) → fill i k = v k) :
    fetchAll missing fill i keys v = v := by
  induction keys with
  | nil => rfl
  | cons k keys ih =>
    change fetchAll missing fill i keys (fetch missing fill i v k) = v
    rw [fetch_eq_self (h k), ih]

lemma fetchAll_of_not_mem {i : ι} {keys : List κ} {v : κ → β} {k : κ} (h : k ∉ keys) :
    fetchAll missing fill i keys v k = v k := by
  induction keys generalizing v with
  | nil => rfl
  | cons k' keys ih =>
    rw [List.mem_cons, not_or] at h
    change fetchAll missing fill i keys (fetch missing fill i v k') k = v k
    rw [ih h.2, fetch_of_ne h.1]

lemma Blind.fetchAll {keys : Set κ} {allowed : Set ι} {v : κ → β} (h : Blind missing fill keys allowed v) (i : ι)
    (ks : List κ) : Blind missing fill keys allowed (fetchAll missing fill i ks v) := by
  induction ks generalizing v with
  | nil => exact h
  | cons k _ ih => exact ih (h.fetch i k)

lemma Blind.fetchAll_eq {keys : Set κ} {allowed : Set ι} {v : κ → β} (h : Blind missing fill keys allowed v)
    {ks : List κ} (hks : ∀ k ∈ ks, k ∈ keys) {i j : ι} (hi : i ∈ allowed) (hj : j ∈ allowed) :
    ReadThrough.fetchAll missing fill i ks v = ReadThrough.fetchAll missing fill j ks v := by
  induction ks generalizing v with
  | nil => rfl
  | cons k ks ih =>
    have hfirst : ReadThrough.fetch missing fill i v k = ReadThrough.fetch missing fill j v k :=
      h.fetch_eq (hks k List.mem_cons_self) hi hj
    have hrest := ih (h.fetch i k) fun k' hk' => hks k' (List.mem_cons_of_mem k hk')
    rw [hfirst] at hrest
    change ReadThrough.fetchAll missing fill i ks (ReadThrough.fetch missing fill i v k) = _
    rw [hfirst, hrest]
    rfl

/-- Runs of requests that differ only in what they ask for leave a blind store alike. -/
theorem Blind.run_eq {keys : Set κ} {allowed : Set ι} {requests requests' : List (List κ × ι)}
    (halike : List.Forall₂ (Alike keys allowed) requests requests') {v : κ → β}
    (h : Blind missing fill keys allowed v) : run missing fill requests v = run missing fill requests' v := by
  induction halike generalizing v with
  | nil => rfl
  | @cons request request' requests requests' hrequest _ ih =>
    have hfirst := h.fetchAll_eq hrequest.keys hrequest.asked hrequest.asked'
    have hrest := ih (h.fetchAll request.2 request.1)
    change run missing fill requests (ReadThrough.fetchAll missing fill request.2 request.1 v) =
      run missing fill requests' (ReadThrough.fetchAll missing fill request'.2 request'.1 v)
    rw [hrest, hfirst, hrequest.same]

end ImmoApp.ReadThrough
