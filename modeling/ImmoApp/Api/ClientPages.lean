import ImmoApp.Foundation.Cursors
import ImmoApp.Foundation.Json
import ImmoApp.Foundation.Keyed
import ImmoApp.Foundation.Loops
import Mathlib.Algebra.Order.Ring.Int
import Mathlib.Data.List.MinMax

/-!
# Pages of the client list

The server lists clients newest first: it reads a page behind a cursor and names the next cursor, or it goes to an
offset and names none.  The client walks to an offset from the nearest one that it remembers, with the cursor that it
got there.  So it never gets a cursor (`Blind`), and every page it asks for is the first one.

`page_faithful_iff` says for which calls that makes no difference.
-/

namespace ImmoApp.Api

open List Option Keyed Bool

/-! ### The server -/

structure ClientRow where
  id : ℕ
  fields : Json
  deriving DecidableEq

structure ListFilter where
  search : String
  status : String
  includeDeleted : Bool

structure ClientLists where
  rows : ListFilter → List ClientRow
  sorted : ∀ f, (rows f).Pairwise fun a b => b.id < a.id
  positive : ∀ f, ∀ r ∈ rows f, 0 < r.id

structure ListParams where
  limit : Option ℤ
  offset : Option ℤ
  cursor : Option ℕ
  filter : ListFilter

structure ListReply where
  items : List ClientRow
  nextCursor : Option ℕ

/-- `normalize_limit` with the values of the list. -/
def normalizeLimit (value : Option ℤ) : ℕ :=
  match value with
  | none => 50
  | some n => if n < 1 then 1 else if 200 < n then 200 else n.toNat

/-- `max_scan_rows` of the route. -/
def maxScanRows : ℕ := 1000

/-- `LIMIT limit OFFSET offset`; a negative offset raises. -/
def sqlPage (limit : ℕ) (offset : ℤ) (rows : List ClientRow) : Option (List ClientRow) :=
  if offset < 0 then none else some ((rows.drop offset.toNat).take limit)

structure PageWalk where
  current : ℕ
  cursor : Option ℕ
  ended : Bool

def PageWalk.next (limit offset : ℕ) (rows : List ClientRow) (w : PageWalk) : PageWalk :=
  let step := min limit (offset - w.current)
  let page := pageBehind ClientRow.id step w.cursor rows
  let cursor := (lastKey ClientRow.id page).filter (0 < ·)
  if page.length < step then { w with current := w.current + page.length, ended := true }
  else ⟨w.current + page.length, cursor, cursor.isNone⟩

/-- `while current_offset < offset`. -/
def PageWalk.goes (offset : ℕ) (w : PageWalk) : Bool := !w.ended && decide (w.current < offset)

/-- `_fetch_clients_page`; every round of its loop goes at least one row further. -/
def fetchClientsPage (limit : ℕ) (offset : ℤ) (rows : List ClientRow) : Option (List ClientRow) :=
  if limit = 0 ∨ offset < 0 then sqlPage limit offset rows
  else
    let w := whileFor (PageWalk.goes offset.toNat) (PageWalk.next limit offset.toNat rows) offset.toNat
      ⟨0, none, false⟩
    some (if w.ended then [] else pageBehind ClientRow.id limit w.cursor rows)

/-- The GET branch of `clients_list`; `none` stands for an error response. -/
def ClientLists.get (server : ClientLists) (p : ListParams) : Option ListReply :=
  let limit := normalizeLimit p.limit
  match p.cursor with
  | some cursor =>
    if maxScanRows < limit then none
    else
      let items := pageBehind ClientRow.id limit (some cursor) (server.rows p.filter)
      some ⟨items, if items.length = limit then lastKey ClientRow.id items else none⟩
  | none =>
    if maxScanRows < limit + p.offset.getD 0 then none
    else (fetchClientsPage limit (p.offset.getD 0) (server.rows p.filter)).map fun items => ⟨items, none⟩

/-! ### The client -/

structure ClientFilter where
  search : String
  status : Option String
  includeDeleted : Bool
  fields : List String

/-- The filter as it reaches the server: a status that is `None` is not sent. -/
def ClientFilter.sent (f : ClientFilter) : ListFilter := ⟨f.search, f.status.getD "active", f.includeDeleted⟩

/-- A key of `_CLIENT_CURSOR_ANCHORS`. -/
structure CursorKey where
  limit : ℕ
  search : String
  status : Option String
  includeDeleted : Bool
  fields : String
  deriving DecidableEq

def clientCursorKey (limit : ℕ) (f : ClientFilter) : CursorKey :=
  ⟨limit, f.search, f.status, f.includeDeleted, ",".intercalate f.fields⟩

abbrev Anchors := Keyed ℕ (Option ℕ)

/-- `_CLIENT_CURSOR_ANCHORS`. -/
abbrev AnchorTable := Keyed CursorKey Anchors

/-- `{0: None}`. -/
def initialAnchors : Anchors := Keyed.empty.set 0 none

/-- The anchors of a key, after `setdefault`. -/
def anchorsOf (table : AnchorTable) (k : CursorKey) : Anchors := (table.get? k).getD initialAnchors

def anchorOffset (anchors : Anchors) (offset : ℕ) : ℕ :=
  ((anchors.entries.map Prod.fst).filter (· ≤ offset)).maximum.unbotD 0

inductive WalkOutcome where
  | going
  | ended
  | raised
  deriving DecidableEq

structure CursorWalk where
  current : ℕ
  cursor : Option ℕ
  anchors : Anchors
  outcome : WalkOutcome

section Fetch

variable (server : ClientLists) (f : ClientFilter)

def fetchClientsCursorPage (limit : ℕ) (cursor : Option ℕ) : Option (List ClientRow × Option ℕ) :=
  (server.get ⟨some limit, none, cursor.filter (0 < ·), f.sent⟩).map fun reply =>
    (reply.items, reply.nextCursor.filter (0 < ·))

def CursorWalk.next (limit offset : ℕ) (w : CursorWalk) : CursorWalk :=
  let step := min limit (offset - w.current)
  match fetchClientsCursorPage server f step w.cursor with
  | none => { w with outcome := .raised }
  | some (page, nextCursor) =>
    let anchors := w.anchors.set (w.current + page.length) nextCursor
    if page.length < step ∨ nextCursor = none then ⟨w.current + page.length, w.cursor, anchors, .ended⟩
    else ⟨w.current + page.length, nextCursor, anchors, .going⟩

/-- `while current_offset < offset`. -/
def CursorWalk.goes (offset : ℕ) (w : CursorWalk) : Bool :=
  decide (w.outcome = .going) && decide (w.current < offset)

/-- The branch of `fetch_clients` with cursors. -/
def fetchByCursor (limit offset : ℕ) (table : AnchorTable) : Option (List ClientRow) × AnchorTable :=
  let k := clientCursorKey limit f
  let anchors := anchorsOf table k
  let start := anchorOffset anchors offset
  let w := whileFor (CursorWalk.goes offset) (CursorWalk.next server f limit offset) (offset - start)
    ⟨start, (anchors.get? start).join, anchors, .going⟩
  match w.outcome with
  | .raised => (none, table.set k w.anchors)
  | .ended => (some [], table.set k w.anchors)
  | .going =>
    match fetchClientsCursorPage server f limit w.cursor with
    | none => (none, table.set k w.anchors)
    | some (page, nextCursor) => (some page, table.set k (w.anchors.set (offset + page.length) nextCursor))

/-- The branch of `fetch_clients` with offsets. -/
def fetchByOffset (limit : Option ℤ) (offset : ℤ) : Option (List ClientRow) :=
  (server.get ⟨limit, some offset, none, f.sent⟩).map ListReply.items

/-- `fetch_clients` without the overlay; there is no page where a request raises. -/
def fetchClients (limit : Option ℤ) (offset : ℤ) (table : AnchorTable) : Option (List ClientRow) × AnchorTable :=
  match limit with
  | some n =>
    if 0 < n ∧ 0 ≤ offset then fetchByCursor server f n.toNat offset.toNat table
    else (fetchByOffset server f (some n) offset, table)
  | none => (fetchByOffset server f none offset, table)

end Fetch

inductive PagingCall where
  | fetch (limit : Option ℤ) (offset : ℤ) (f : ClientFilter)
  | reset

def anchorsAfter (server : ClientLists) (table : AnchorTable) : PagingCall → AnchorTable
  | .fetch limit offset f => (fetchClients server f limit offset table).2
  | .reset => Keyed.empty

/-- An index of a slice, for a list of `n` elements. -/
def sliceIndex (n : ℕ) (i : ℤ) : ℕ := if i < 0 then (n + i).toNat else min i.toNat n

/-- `rows[start:stop]`. -/
def slice (rows : List ClientRow) (start stop : ℤ) : List ClientRow :=
  (rows.drop (sliceIndex rows.length start)).take (sliceIndex rows.length stop - sliceIndex rows.length start)

/-! ### The page of the server -/

section Server

variable {rows : List ClientRow} {limit offset : ℕ} {w : PageWalk}

/-- A walk is in step with the list: its cursor is the one after the rows that it has passed, and it ends only in
front of an offset behind the end of the list. -/
structure PageWalk.InStep (rows : List ClientRow) (offset : ℕ) (w : PageWalk) : Prop where
  ended : w.ended = true → rows.length < offset
  going : w.ended = false →
    w.current ≤ rows.length ∧ w.current ≤ offset ∧ w.cursor = cursorAt ClientRow.id rows w.current

def PageWalk.rest (offset : ℕ) (w : PageWalk) : ℕ := if w.ended then 0 else offset - w.current

lemma PageWalk.goes_iff : w.goes offset = true ↔ w.ended = false ∧ w.current < offset := by
  rw [PageWalk.goes, and_eq_true, decide_eq_true_eq, not_eq_true']

lemma PageWalk.rest_next (hlimit : 0 < limit) (hgoes : w.goes offset = true) :
    (w.next limit offset rows).rest offset < w.rest offset := by
  obtain ⟨hended, _⟩ := PageWalk.goes_iff.mp hgoes
  have hrest : w.rest offset = offset - w.current := by rw [PageWalk.rest, hended, if_neg Bool.false_ne_true]
  rw [hrest, PageWalk.next]
  split
  · rw [PageWalk.rest, if_pos rfl]
    omega
  · next hfull =>
    rw [PageWalk.rest]
    split
    · omega
    · dsimp only
      omega

lemma PageWalk.InStep.next (hsorted : rows.Pairwise fun a b => b.id < a.id) (hpositive : ∀ r ∈ rows, 0 < r.id)
    (hlimit : 0 < limit) (hgoes : w.goes offset = true) (h : w.InStep rows offset) :
    (w.next limit offset rows).InStep rows offset := by
  obtain ⟨hended, _⟩ := PageWalk.goes_iff.mp hgoes
  obtain ⟨hinside, -, hcursor⟩ := h.going hended
  have hpage : pageBehind ClientRow.id (min limit (offset - w.current)) w.cursor rows =
      (rows.drop w.current).take (min limit (offset - w.current)) := by
    rw [hcursor, pageBehind_cursorAt hsorted hinside]
  have hlength : ((rows.drop w.current).take (min limit (offset - w.current))).length =
      min (min limit (offset - w.current)) (rows.length - w.current) := by
    rw [length_take, length_drop]
  rw [PageWalk.next, hpage, hlength]
  split
  · next hshort => exact ⟨fun _ => by omega, fun hfalse => absurd hfalse true_eq_false.mp⟩
  · next hfull =>
    -- a full page lies inside the list, and its last key is the cursor after it
    have hsum : w.current + min (min limit (offset - w.current)) (rows.length - w.current) =
        w.current + min limit (offset - w.current) := by omega
    have hlast : lastKey ClientRow.id ((rows.drop w.current).take (min limit (offset - w.current))) =
        cursorAt ClientRow.id rows (w.current + min limit (offset - w.current)) :=
      lastKey_page (by omega) (by omega)
    obtain ⟨a, ha, hkey⟩ : ∃ a ∈ rows,
        cursorAt ClientRow.id rows (w.current + min limit (offset - w.current)) = some a.id :=
      exists_cursorAt (by omega) (by omega)
    have hfilter : (cursorAt ClientRow.id rows (w.current + min limit (offset - w.current))).filter (0 < ·) =
        cursorAt ClientRow.id rows (w.current + min limit (offset - w.current)) := by
      rw [hkey, filter_some, if_pos (decide_eq_true (hpositive a ha))]
    rw [hsum, hlast, hfilter]
    have hstep : w.current + min limit (offset - w.current) ≤ rows.length ∧
        w.current + min limit (offset - w.current) ≤ offset := by omega
    refine ⟨fun htrue => ?_, fun _ => ⟨hstep.1, hstep.2, rfl⟩⟩
    rw [hkey] at htrue
    exact absurd htrue false_ne_true

variable (offset) in
lemma PageWalk.arrives (hsorted : rows.Pairwise fun a b => b.id < a.id) (hpositive : ∀ r ∈ rows, 0 < r.id)
    (hlimit : 0 < limit) {w : PageWalk}
    (hw : whileFor (PageWalk.goes offset) (PageWalk.next limit offset rows) offset ⟨0, none, false⟩ = w) :
    (w.ended = true ∧ rows.length < offset) ∨
      (w.ended = false ∧ offset ≤ rows.length ∧ w.cursor = cursorAt ClientRow.id rows offset) := by
  have hstart : PageWalk.InStep rows offset ⟨0, none, false⟩ :=
    ⟨fun htrue => absurd htrue false_ne_true, fun _ => ⟨Nat.zero_le _, Nat.zero_le _, rfl⟩⟩
  have hends : PageWalk.goes offset
      (whileFor (PageWalk.goes offset) (PageWalk.next limit offset rows) offset ⟨0, none, false⟩) = false :=
    whileFor_ends (PageWalk.rest offset) (fun w hgoes => PageWalk.rest_next hlimit hgoes) (Nat.sub_le _ _)
  have hin : PageWalk.InStep rows offset
      (whileFor (PageWalk.goes offset) (PageWalk.next limit offset rows) offset ⟨0, none, false⟩) :=
    whileFor_invariant (fun w hgoes h => PageWalk.InStep.next hsorted hpositive hlimit hgoes h) offset hstart
  rw [hw] at hends hin
  rcases hended : w.ended with _ | _
  · obtain ⟨hinside, _, hcursor⟩ := hin.going hended
    have hnot : ¬w.current < offset := fun hless =>
      false_ne_true (hends.symm.trans (PageWalk.goes_iff.mpr ⟨hended, hless⟩))
    have hat : w.current = offset := by omega
    rw [hat] at hinside hcursor
    exact .inr ⟨rfl, hinside, hcursor⟩
  · exact .inl ⟨rfl, hin.ended hended⟩

theorem fetchClientsPage_eq (hsorted : rows.Pairwise fun a b => b.id < a.id) (hpositive : ∀ r ∈ rows, 0 < r.id)
    (hlimit : 0 < limit) :
    fetchClientsPage limit offset rows = some ((rows.drop offset).take limit) := by
  have hpositive' : ¬(limit = 0 ∨ (offset : ℤ) < 0) := by omega
  rw [fetchClientsPage, if_neg hpositive', Int.toNat_natCast]
  dsimp only
  rcases PageWalk.arrives _ hsorted hpositive hlimit rfl with ⟨hended, hbehind⟩ | ⟨hended, hinside, hcursor⟩
  · rw [if_pos hended, drop_eq_nil_of_le hbehind.le, take_nil]
  · rw [if_neg (by rw [hended]; exact false_ne_true), hcursor, pageBehind_cursorAt hsorted hinside]

end Server

/-! ### Blind clients -/

/-- The start is remembered, and no cursor at all. -/
structure Blind (anchors : Anchors) : Prop where
  start : anchors.get? 0 = some none
  none_of_get? : ∀ o c, anchors.get? o = some c → c = none

lemma blind_initialAnchors : Blind initialAnchors := by
  refine ⟨rfl, fun o c h => ?_⟩
  rw [initialAnchors, get?_set] at h
  split at h
  · exact (some.inj h).symm
  · rw [get?_empty] at h
    cases h

variable {anchors : Anchors}

lemma Blind.set (h : Blind anchors) (n : ℕ) : Blind (anchors.set n none) := by
  refine ⟨?_, fun o c hget => ?_⟩
  · rw [get?_set, h.start, ite_self]
  · rw [get?_set] at hget
    split at hget
    · exact (some.inj hget).symm
    · exact h.none_of_get? o c hget

def BlindTable (table : AnchorTable) : Prop := ∀ k anchors, table.get? k = some anchors → Blind anchors

lemma blindTable_empty : BlindTable Keyed.empty := by
  intro k anchors h
  rw [get?_empty] at h
  cases h

lemma BlindTable.set {table : AnchorTable} (h : BlindTable table) (hanchors : Blind anchors)
    (k : CursorKey) : BlindTable (table.set k anchors) := by
  intro k' anchors' hget
  rw [get?_set] at hget
  split at hget
  · exact some.inj hget ▸ hanchors
  · exact h k' anchors' hget

lemma BlindTable.anchorsOf {table : AnchorTable} (h : BlindTable table) (k : CursorKey) :
    Blind (anchorsOf table k) := by
  rw [Api.anchorsOf]
  cases hget : table.get? k with
  | none => exact blind_initialAnchors
  | some anchors => exact h k anchors hget

/-- The nearest anchor: it is remembered and not behind the offset, and an offset that is remembered is its own. -/
lemma anchorOffset_spec (hstart : anchors.get? 0 ≠ none) (offset : ℕ) :
    anchorOffset anchors offset ≤ offset ∧ anchors.get? (anchorOffset anchors offset) ≠ none ∧
      (anchors.get? offset ≠ none → anchorOffset anchors offset = offset) := by
  have hmem : ∀ o, o ∈ (anchors.entries.map Prod.fst).filter (· ≤ offset) ↔ anchors.get? o ≠ none ∧ o ≤ offset := by
    intro o
    rw [mem_filter, decide_eq_true_eq, mem_keys_iff]
  have hne : (anchors.entries.map Prod.fst).filter (· ≤ offset) ≠ [] :=
    ne_nil_of_mem ((hmem 0).mpr ⟨hstart, Nat.zero_le _⟩)
  obtain ⟨m, hm⟩ := WithBot.ne_bot_iff_exists.mp (maximum_ne_bot_of_ne_nil hne)
  have hmax : anchorOffset anchors offset = m := by rw [anchorOffset, ← hm, WithBot.unbotD_coe]
  obtain ⟨hremembered, hle⟩ := (hmem m).mp (maximum_mem hm.symm)
  refine ⟨hmax ▸ hle, hmax ▸ hremembered, fun hoffset => ?_⟩
  have hge : offset ≤ m := le_maximum_of_mem ((hmem offset).mpr ⟨hoffset, le_rfl⟩) hm.symm
  omega

section Client

variable {server : ClientLists} {f : ClientFilter} {limit offset : ℕ} {table : AnchorTable}

lemma normalizeLimit_natCast (hlimit : 0 < limit) : normalizeLimit (some (limit : ℤ)) = min limit 200 := by
  rw [normalizeLimit, if_neg (by omega)]
  split <;> omega

lemma fetchClientsCursorPage_none (hlimit : 0 < limit) :
    fetchClientsCursorPage server f limit none = some ((server.rows f.sent).take (min limit 200), none) := by
  have hscan : ¬((maxScanRows : ℤ) < ((min limit 200 : ℕ) : ℤ) + 0) := by
    rw [maxScanRows]
    omega
  have hpage : fetchClientsPage (min limit 200 : ℕ) (0 : ℕ) (server.rows f.sent) =
      some (((server.rows f.sent).drop 0).take (min limit 200)) :=
    fetchClientsPage_eq (server.sorted f.sent) (server.positive f.sent) (by omega)
  rw [drop_zero, Nat.cast_zero] at hpage
  simp only [fetchClientsCursorPage, ClientLists.get, filter_none, normalizeLimit_natCast hlimit,
    getD_none, if_neg hscan, hpage, map_some]

lemma CursorWalk.next_none {w : CursorWalk} (hlimit : 0 < limit) (hcursor : w.cursor = none)
    (hless : w.current < offset) :
    ∃ n, w.next server f limit offset = ⟨n, none, w.anchors.set n none, .ended⟩ := by
  have hstep : 0 < min limit (offset - w.current) := by omega
  refine ⟨w.current + ((server.rows f.sent).take (min (min limit (offset - w.current)) 200)).length, ?_⟩
  rw [CursorWalk.next, hcursor, fetchClientsCursorPage_none hstep]
  exact if_pos (.inr rfl)

def Remembered (table : AnchorTable) (limit : ℕ) (f : ClientFilter) (offset : ℕ) : Prop :=
  (anchorsOf table (clientCursorKey limit f)).get? offset ≠ none

lemma fetchByCursor_of_blind (hlimit : 0 < limit) (hblind : BlindTable table) : (Remembered table limit f offset →
      (fetchByCursor server f limit offset table).1 = some ((server.rows f.sent).take (min limit 200))) ∧
    (¬Remembered table limit f offset → (fetchByCursor server f limit offset table).1 = some []) ∧
    BlindTable (fetchByCursor server f limit offset table).2 := by
  have hanchors := hblind.anchorsOf (clientCursorKey limit f)
  obtain ⟨hle, hremembered, hoffset⟩ := anchorOffset_spec (by rw [hanchors.start]; exact some_ne_none _) offset
  have hcursor : ((anchorsOf table (clientCursorKey limit f)).get?
      (anchorOffset (anchorsOf table (clientCursorKey limit f)) offset)).join = none := by
    obtain ⟨c, hc⟩ := ne_none_iff_exists'.mp hremembered
    rw [hc, hanchors.none_of_get? _ c hc, join_some]
  rw [fetchByCursor, hcursor]
  rcases em (Remembered table limit f offset) with hat | hnot
  · rw [hoffset hat, Nat.sub_self, whileFor]
    dsimp only
    rw [fetchClientsCursorPage_none hlimit]
    exact ⟨fun _ => rfl, fun h => absurd hat h, hblind.set (hanchors.set _) _⟩
  · have hless : anchorOffset (anchorsOf table (clientCursorKey limit f)) offset < offset := by
      refine lt_of_le_of_ne hle fun heq => hnot ?_
      rw [Remembered, ← heq]
      exact hremembered
    obtain ⟨m, hm⟩ : ∃ m, offset - anchorOffset (anchorsOf table (clientCursorKey limit f)) offset = m + 1 :=
      Nat.exists_eq_add_one.mpr (Nat.sub_pos_of_lt hless)
    obtain ⟨n, hn⟩ : ∃ n, CursorWalk.next server f limit offset
        ⟨anchorOffset (anchorsOf table (clientCursorKey limit f)) offset, none,
          anchorsOf table (clientCursorKey limit f), .going⟩ =
        ⟨n, none, (anchorsOf table (clientCursorKey limit f)).set n none, .ended⟩ :=
      CursorWalk.next_none hlimit rfl hless
    have hgoes : CursorWalk.goes offset ⟨anchorOffset (anchorsOf table (clientCursorKey limit f)) offset, none,
        anchorsOf table (clientCursorKey limit f), .going⟩ = true := by
      rw [CursorWalk.goes, decide_eq_true rfl, decide_eq_true hless, Bool.and_self]
    rw [hm, whileFor, if_pos hgoes, hn, whileFor_of_false rfl]
    exact ⟨fun h => absurd h hnot, fun _ => rfl, hblind.set (hanchors.set n) _⟩

end Client

/-! ### Which pages are right -/

lemma BlindTable.anchorsAfter {server : ClientLists} {table : AnchorTable} (h : BlindTable table) :
    ∀ call, BlindTable (anchorsAfter server table call)
  | .reset => blindTable_empty
  | .fetch none _ _ => h
  | .fetch (some n) offset f => by
    rw [Api.anchorsAfter, fetchClients]
    split
    · next hn => exact (fetchByCursor_of_blind (by omega) h).2.2
    · exact h

lemma blindTable_run (server : ClientLists) (calls : List PagingCall) :
    BlindTable (calls.foldl (anchorsAfter server) Keyed.empty) := by
  induction calls using List.reverseRecOn with
  | nil => exact blindTable_empty
  | append_singleton _ call ih =>
    rw [foldl_append, foldl_cons, foldl_nil]
    exact ih.anchorsAfter call

lemma sliceIndex_natCast (n i : ℕ) : sliceIndex n i = min i n := by
  rw [sliceIndex, if_neg (by omega), Int.toNat_natCast]

lemma slice_forwards {rows : List ClientRow} (limit offset : ℕ) :
    slice rows offset (offset + limit) = (rows.drop offset).take limit := by
  rw [slice, ← Nat.cast_add, sliceIndex_natCast, sliceIndex_natCast]
  rcases le_total offset rows.length with hinside | hbehind
  · rw [min_eq_left hinside, take_eq_take_iff, length_drop]
    omega
  · rw [min_eq_right hbehind, drop_length, take_nil, drop_eq_nil_of_le hbehind, take_nil]

lemma take_eq_drop_take_iff {rows : List ClientRow} (hsorted : rows.Pairwise fun a b => b.id < a.id)
    {n m offset : ℕ} (hn : 0 < n) (hoffset : 0 < offset) :
    rows.take n = (rows.drop offset).take m ↔ rows = [] := by
  constructor
  · intro heq
    rcases rows with _ | ⟨r, rows⟩
    · rfl
    · exfalso
      obtain ⟨n, rfl⟩ := Nat.exists_eq_add_one.mpr hn
      obtain ⟨_, rfl⟩ := Nat.exists_eq_add_one.mpr hoffset
      rw [take_succ_cons, drop_succ_cons] at heq
      have hmem : r ∈ rows := mem_of_mem_drop (mem_of_mem_take (heq ▸ mem_cons_self))
      exact lt_irrefl _ ((pairwise_cons.mp hsorted).1 r hmem)
  · rintro rfl
    rw [take_nil, drop_nil, take_nil]

/-- Where a page is the one of the list.  A limit that is not positive is taken for 1. -/
def Harmless (server : ClientLists) (limit offset : ℤ) (f : ClientFilter) (table : AnchorTable) : Prop :=
  let n := (server.rows f.sent).length
  0 ≤ offset ∧
    if 0 < limit then
      (offset = 0 ∧ (limit ≤ 200 ∨ n ≤ 200)) ∨
        (0 < offset ∧ n ≤ offset ∧ (n = 0 ∨ ¬Remembered table limit.toNat f offset.toNat))
    else
      offset < maxScanRows ∧ (n ≤ offset ∨ (offset + limit < 0 ∧ n + limit = 1))

section Pages

variable {server : ClientLists} {f : ClientFilter} {table : AnchorTable}

lemma fetchByCursor_eq_slice_iff {limit offset : ℕ} (hlimit : 0 < limit) (hblind : BlindTable table) :
    (fetchByCursor server f limit offset table).1 = some (slice (server.rows f.sent) offset (offset + limit)) ↔
      (offset = 0 ∧ (limit ≤ 200 ∨ (server.rows f.sent).length ≤ 200)) ∨
        (0 < offset ∧ (server.rows f.sent).length ≤ offset ∧
          ((server.rows f.sent).length = 0 ∨ ¬Remembered table limit f offset)) := by
  have hfirst : Remembered table limit f offset →
      (fetchByCursor server f limit offset table).1 = some ((server.rows f.sent).take (min limit 200)) :=
    (fetchByCursor_of_blind hlimit hblind).1
  have hgivesUp : ¬Remembered table limit f offset → (fetchByCursor server f limit offset table).1 = some [] :=
    (fetchByCursor_of_blind hlimit hblind).2.1
  rw [slice_forwards]
  rcases Nat.eq_zero_or_pos offset with rfl | hpos
  · have hremembered : Remembered table limit f 0 := by
      rw [Remembered, (hblind.anchorsOf _).start]
      exact some_ne_none _
    rw [hfirst hremembered, drop_zero, some_inj, take_eq_take_iff]
    omega
  · rcases em (Remembered table limit f offset) with hat | hnot
    · rw [hfirst hat, some_inj, take_eq_drop_take_iff (server.sorted f.sent) (by omega) hpos,
        ← length_eq_zero_iff]
      constructor
      · intro hnil
        exact .inr ⟨hpos, by omega, .inl hnil⟩
      · rintro (⟨hzero, -⟩ | ⟨-, -, hnil | hnot⟩)
        · omega
        · exact hnil
        · exact absurd hat hnot
    · rw [hgivesUp hnot, some_inj, eq_comm, take_eq_nil_iff, drop_eq_nil_iff]
      constructor
      · rintro (_ | hbehind)
        · omega
        · exact .inr ⟨hpos, hbehind, .inr hnot⟩
      · rintro (⟨_, -⟩ | ⟨-, hbehind, -⟩)
        · omega
        · exact .inr hbehind

lemma fetchByOffset_eq_slice_iff {limit : ℤ} {offset : ℕ} (hlimit : ¬0 < limit) :
    fetchByOffset server f (some limit) offset = some (slice (server.rows f.sent) offset (offset + limit)) ↔
      (offset : ℤ) < maxScanRows ∧ (((server.rows f.sent).length : ℤ) ≤ offset ∨
        ((offset : ℤ) + limit < 0 ∧ ((server.rows f.sent).length : ℤ) + limit = 1)) := by
  have hone : normalizeLimit (some limit) = 1 := if_pos (by omega)
  have hpage : fetchClientsPage (1 : ℕ) offset (server.rows f.sent) = some (((server.rows f.sent).drop offset).take 1) :=
    fetchClientsPage_eq (server.sorted f.sent) (server.positive f.sent) Nat.one_pos
  have hfetch : fetchByOffset server f (some limit) offset =
      if (maxScanRows : ℤ) < 1 + offset then none else some (((server.rows f.sent).drop offset).take 1) := by
    simp only [fetchByOffset, ClientLists.get, hone, getD_some, hpage, Nat.cast_one]
    split <;> rfl
  rw [hfetch]
  generalize server.rows f.sent = rows
  by_cases hscan : (maxScanRows : ℤ) < 1 + offset
  · rw [if_pos hscan]
    exact iff_of_false (some_ne_none _).symm fun h => by omega
  · have hstart : sliceIndex rows.length offset = min offset rows.length := sliceIndex_natCast _ _
    rw [if_neg hscan, some_inj, slice, hstart]
    rcases le_or_gt rows.length offset with hbehind | hinside
    · rw [min_eq_right hbehind, drop_length, take_nil, drop_eq_nil_of_le hbehind, take_nil]
      exact iff_of_true rfl ⟨by omega, .inl (by omega)⟩
    · rw [min_eq_left hinside.le, take_eq_take_iff, length_drop, sliceIndex]
      split
      · omega
      · omega

lemma fetchByOffset_of_negative {limit offset : ℤ} (hoffset : offset < 0) :
    fetchByOffset server f (some limit) offset = none := by
  have hlimit : normalizeLimit (some limit) ≤ 200 := by
    rw [normalizeLimit]
    split
    · omega
    · split <;> omega
  have hscan : ¬((maxScanRows : ℤ) < normalizeLimit (some limit) + offset) := by
    rw [maxScanRows]
    omega
  simp only [fetchByOffset, ClientLists.get, getD_some, if_neg hscan, fetchClientsPage,
    if_pos (.inr hoffset : _ ∨ offset < 0), sqlPage, if_pos hoffset, map_none]

end Pages

/-- After every run of calls a page is the one of the list if and only if it is asked for at the start, or behind the
end of the list and not at a remembered offset. -/
theorem page_faithful_iff (server : ClientLists) (calls : List PagingCall) (limit offset : ℤ) (f : ClientFilter) :
    (fetchClients server f (some limit) offset (calls.foldl (anchorsAfter server) Keyed.empty)).1 =
        some (slice (server.rows f.sent) offset (offset + limit)) ↔
      Harmless server limit offset f (calls.foldl (anchorsAfter server) Keyed.empty) := by
  have hblind := blindTable_run server calls
  generalize calls.foldl (anchorsAfter server) Keyed.empty = table at hblind
  rw [Harmless, fetchClients]
  rcases lt_or_ge offset 0 with hnegative | hoffset
  · rw [if_neg (by omega), fetchByOffset_of_negative hnegative]
    exact iff_of_false (some_ne_none _).symm fun h => by omega
  · obtain ⟨_, rfl⟩ := Int.eq_ofNat_of_zero_le hoffset
    by_cases hlimit : 0 < limit
    · obtain ⟨_, rfl⟩ := Int.eq_ofNat_of_zero_le hlimit.le
      rw [if_pos ⟨hlimit, hoffset⟩, if_pos hlimit, Int.toNat_natCast, Int.toNat_natCast,
        fetchByCursor_eq_slice_iff (by omega) hblind, and_iff_right hoffset]
      norm_cast
    · rw [if_neg fun h => hlimit h.1, if_neg hlimit, fetchByOffset_eq_slice_iff hlimit]
      exact (and_iff_right hoffset).symm

def everyClient : ClientFilter := ⟨"", some "active", false, []⟩

def twoClients : ClientLists where
  rows := fun _ => [⟨7, .null⟩, ⟨5, .null⟩]
  sorted := by simp
  positive := by simp

/-- The second page of two clients is not the second client: without an earlier call it is empty, and after the first
page it is the first page again. -/
theorem second_page_wrong : (fetchClients twoClients everyClient (some 1) 1 Keyed.empty).1 = some [] ∧
      (fetchClients twoClients everyClient (some 1) 1
        ([PagingCall.fetch (some 1) 0 everyClient].foldl (anchorsAfter twoClients) Keyed.empty)).1 =
          some [⟨7, .null⟩] ∧
      slice (twoClients.rows everyClient.sent) 1 (1 + 1) = [⟨5, .null⟩] := by
  decide

end ImmoApp.Api
