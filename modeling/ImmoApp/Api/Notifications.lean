import ImmoApp.Foundation.Cursors
import ImmoApp.Foundation.Keysets
import Mathlib.Data.List.Induction
import Mathlib.Data.List.Nodup

/-!
# Notifications

Who sees a notification is a disjunction of up to five conditions, one for each scope.  The queries put them in a row
joined by `OR` and append a condition with `AND`, which binds tighter: the cursor, and that there is no read mark, apply
to the last scope only.  So a notification of an earlier scope comes back on every page behind a cursor, and counts as
unread when it was read.  `listed_iff` says which calls are right all the same.
-/

namespace ImmoApp.Notifications

open List Option

structure Notification where
  id : ℕ
  scope : String
  role : Option String
  userId : Option ℕ
  body : String
  deriving DecidableEq

structure NotificationDb where
  notifications : List Notification
  /-- `notification_reads`: notifications with their readers. -/
  reads : List (ℕ × ℕ)
  /-- `id BIGSERIAL PRIMARY KEY`. -/
  distinct : (notifications.map Notification.id).Nodup
  positive : ∀ n ∈ notifications, 0 < n.id
  /-- `PRIMARY KEY (notification_id, user_id)`. -/
  marks : reads.Nodup

structure Viewer where
  userId : Option ℕ
  role : Option String
  isOwner : Bool
  isSuperuser : Bool

/-- `_visibility_filters`, as conditions on a row. -/
def visibilityFilters (v : Viewer) : List (Notification → Bool) :=
  (v.userId.toList.map fun user n => n.scope == "user" && n.userId == some user) ++ [fun n => n.scope == "agency"] ++
    ((v.role.filter (· ≠ "")).toList.map fun role n => n.scope == "role" && n.role == some role) ++
    (if v.isOwner then [fun n => n.scope == "owner"] else []) ++
    (if v.isSuperuser then [fun n => n.scope == "global"] else [])

/-- `WHERE f₁ OR … OR fₖ`. -/
def orAll (filters : List (Notification → Bool)) (n : Notification) : Bool := filters.any fun f => f n

/-- `WHERE f₁ OR … OR fₖ AND condition`: the condition belongs to the last filter. -/
def orAllAnd (filters : List (Notification → Bool)) (condition : Notification → Bool) (n : Notification) : Bool :=
  orAll filters.dropLast n || (filters.getLast?.any fun f => f n) && condition n

section Queries

variable (db : NotificationDb) (v : Viewer)

def orderById (rows : List Notification) : List Notification := rows.insertionSort fun a b => b.id ≤ a.id

/-- `_fetch_notification_page`, without the columns of the read mark. -/
def fetchNotificationPage (limit : ℕ) (cursor : Option ℕ) : List Notification :=
  (orderById (db.notifications.filter (match cursor.filter (0 < ·) with
    | none => orAll (visibilityFilters v)
    | some c => orAllAnd (visibilityFilters v) fun n => n.id < c))).take limit

/-- The loop of `_fetch_notification_rows`, with what is left of the offset: the cursor it ends with, none where it
returns. -/
def walkTo (limit : ℕ) : ℕ → ℕ → Option ℕ → Option (Option ℕ)
  | 0, _, cursor => some cursor
  | fuel + 1, left, cursor =>
    if left = 0 then some cursor
    else
      let step := min limit left
      let page := fetchNotificationPage db v step cursor
      if page.length < step then none
      else
        match (page.getLast?.map Notification.id).filter (0 < ·) with
        | none => none
        | some last => walkTo limit fuel (left - step) (some last)

def fetchNotificationRows (limit offset : ℕ) (cursor : Option ℕ) : List Notification :=
  if (cursor.filter (0 < ·)).isSome then fetchNotificationPage db v limit cursor
  else if limit = 0 ∨ offset = 0 then fetchNotificationPage db v limit none
  else
    match walkTo db v limit offset offset none with
    | none => []
    | some cursor => fetchNotificationPage db v limit cursor

def inferNotificationTotal (limit offset : ℕ) (cursor : Option ℕ) (itemCount : ℕ) : Option ℕ :=
  if cursor.isSome ∨ limit = 0 then none else if itemCount < limit then some (offset + itemCount) else none

def listNotificationsWithTotal (limit offset : ℕ) (cursor : Option ℕ) : List Notification × ℕ :=
  let rows := fetchNotificationRows db v limit offset cursor
  (rows, (inferNotificationTotal limit offset cursor rows.length).getD
    (db.notifications.countP (orAll (visibilityFilters v))))

def cursorPages (limit : ℕ) : ℕ → Option ℕ → Option (List Notification)
  | 0, _ => none
  | n + 1, cursor =>
    let page := (listNotificationsWithTotal db v limit 0 cursor).1
    if page.length = limit then
      match (page.getLast?.map Notification.id).filter (0 < ·) with
      | none => some page
      | some last => (cursorPages limit n (some last)).map (page ++ ·)
    else some page

/-- `notification_reads` has a mark of the user. -/
def isRead (user : ℕ) (n : Notification) : Bool := db.reads.contains (n.id, user)

def countUnreadNotifications : ℕ :=
  match v.userId with
  | none => 0
  | some user => db.notifications.countP (orAllAnd (visibilityFilters v) fun n => !isRead db user n)

def visible : List Notification := orderById (db.notifications.filter (orAll (visibilityFilters v)))

/-- The viewer sees the notification through a filter that is not the last one. -/
def earlier (n : Notification) : Bool := orAll (visibilityFilters v).dropLast n

/-- The calls with a limit and an offset, and the count of what is unread, are right. -/
structure Listed (limit offset : ℕ) : Prop where
  pages : ∃ n, cursorPages db v limit n none = some (visible db v)
  slice : (listNotificationsWithTotal db v limit offset none).1 = ((visible db v).drop offset).take limit
  total : ∀ cursor, (listNotificationsWithTotal db v limit offset cursor).2 = (visible db v).length
  unread : countUnreadNotifications db v = (visible db v).countP fun n => v.userId.all fun user => !isRead db user n

/-- No notification of an earlier scope is among the first ones. -/
def NoneEarlier (m : ℕ) : Prop := ∀ n ∈ (visible db v).take m, earlier v n = false

def behindCursor (cursor : Option ℕ) : List Notification :=
  match cursor with
  | none => visible db v
  | some c => (visible db v).filter fun n => earlier v n || decide (n.id < c)

end Queries

variable {db : NotificationDb} {v : Viewer} {cursor : Option ℕ} {limit offset m : ℕ}

/-! ### Pages -/

lemma orAll_eq (filters : List (Notification → Bool)) (n : Notification) :
    orAll filters n = (orAll filters.dropLast n || filters.getLast?.any fun f => f n) := by
  induction filters using List.reverseRecOn with
  | nil => rfl
  | append_singleton => simp [orAll]

lemma pairwise_visible (db : NotificationDb) (v : Viewer) : (visible db v).Pairwise fun a b => b.id < a.id := by
  have htotal : Std.Total fun a b : Notification => b.id ≤ a.id := ⟨fun _ _ => le_total _ _⟩
  have htrans : IsTrans Notification fun a b => b.id ≤ a.id := ⟨fun _ _ _ h h' => h'.trans h⟩
  have hsorted := pairwise_insertionSort (fun a b : Notification => b.id ≤ a.id)
    (db.notifications.filter (orAll (visibilityFilters v)))
  have hids : ((visible db v).map Notification.id).Nodup :=
    ((perm_insertionSort _ _).map _).nodup_iff.mpr (db.distinct.sublist (filter_sublist.map _))
  refine (hsorted.and (pairwise_map.mp hids)).imp fun h => ?_
  exact lt_of_le_of_ne h.1 (Ne.symm h.2)

variable {n : Notification} {k : ℕ}

lemma mem_visible : n ∈ visible db v ↔ n ∈ db.notifications ∧ orAll (visibilityFilters v) n = true := by
  rw [visible, orderById, mem_insertionSort, mem_filter]

lemma pos_of_mem_visible (hn : n ∈ visible db v) : 0 < n.id := db.positive n (mem_visible.mp hn).1

lemma fetchNotificationPage_eq (hcursor : ∀ c ∈ cursor, 0 < c) :
    fetchNotificationPage db v limit cursor = (behindCursor db v cursor).take limit := by
  have htotal : Std.Total fun a b : Notification => b.id ≤ a.id := ⟨fun _ _ => le_total _ _⟩
  have htrans : IsTrans Notification fun a b => b.id ≤ a.id := ⟨fun _ _ _ h h' => h'.trans h⟩
  cases cursor with
  | none => rfl
  | some c =>
    have hc : (some c).filter (fun c => decide (0 < c)) = some c := by simp [Option.filter, hcursor c rfl]
    rw [fetchNotificationPage, hc, behindCursor, visible, orderById, orderById, filter_insertionSort,
      List.filter_filter]
    congr 2
    refine filter_congr fun n _ => ?_
    change (orAll _ n || _) = _
    rw [orAll_eq (visibilityFilters v), earlier]
    cases orAll (visibilityFilters v).dropLast n <;> simp [Bool.and_comm]

/-- The cursor is the one that belongs to the first `m` notifications; it is no help once one of an earlier scope is among
them, since the last of these comes back first. -/
def Stands (db : NotificationDb) (v : Viewer) (m : ℕ) (cursor : Option ℕ) : Prop :=
  (NoneEarlier db v m ∧ cursor = cursorAt Notification.id (visible db v) m) ∨
    ∃ a ∈ (visible db v).take m, earlier v a = true ∧ (∀ b ∈ visible db v, earlier v b = true → b.id ≤ a.id) ∧
      ∃ c, cursor = some c ∧ 0 < c ∧ c ≤ a.id

lemma Stands.pos (h : Stands db v m cursor) : ∀ c ∈ cursor, 0 < c := by
  rintro c rfl
  rcases h with ⟨-, hc⟩ | ⟨a, -, -, -, _, hc, hpos, -⟩
  · obtain ⟨_, hlast, rfl⟩ := map_eq_some_iff.mp hc.symm
    exact pos_of_mem_visible (mem_of_mem_take (mem_of_getLast? hlast))
  · exact some.inj hc ▸ hpos

lemma behindCursor_of_noneEarlier (h : NoneEarlier db v m) (hm : m ≤ (visible db v).length) :
    behindCursor db v (cursorAt Notification.id (visible db v) m) = (visible db v).drop m := by
  have hbehind := behind_cursorAt (pairwise_visible db v) hm
  rw [← hbehind]
  cases hcursor : cursorAt Notification.id (visible db v) m with
  | none => rfl
  | some =>
    rw [hcursor] at hbehind
    refine filter_congr fun n hn => ?_
    cases hn' : earlier v n with
    | false => simp
    | true =>
      have hdrop : n ∈ (visible db v).drop m := by
        rw [← take_append_drop m (visible db v)] at hn
        refine (mem_append.mp hn).resolve_left fun htake => ?_
        rw [h n htake] at hn'
        cases hn'
      rw [← hbehind] at hdrop
      simpa using (mem_filter.mp hdrop).2

variable {l : List Notification} {a b : Notification}

lemma lt_of_mem_drop (hsorted : l.Pairwise fun a b => b.id < a.id)
    (ha : a ∈ l.take k) (hb : b ∈ l.drop k) : b.id < a.id := by
  rw [← take_append_drop k l, pairwise_append] at hsorted
  exact hsorted.2.2 a ha b hb

lemma last_le (hsorted : l.Pairwise fun a b => b.id < a.id) {last : Notification}
    (hlast : l.getLast? = some last) (hb : b ∈ l) : last.id ≤ b.id := by
  obtain ⟨_, rfl⟩ := getLast?_eq_some_iff.mp hlast
  rcases mem_append.mp hb with hb | hb
  · exact ((pairwise_append.mp hsorted).2.2 b hb last (mem_singleton.mpr rfl)).le
  · exact le_of_eq (congrArg _ (mem_singleton.mp hb)).symm

/-- The first notification of an earlier scope is the greatest. -/
lemma exists_first_earlier (h : ¬ NoneEarlier db v m) : ∃ a ∈ (visible db v).take m, earlier v a = true ∧
    ∀ b ∈ visible db v, earlier v b = true → b.id ≤ a.id := by
  simp only [NoneEarlier, not_forall, Bool.not_eq_false] at h
  obtain ⟨n, hn, hearlier⟩ := h
  obtain ⟨a, hfind⟩ := isSome_iff_exists.mp (find?_isSome.mpr ⟨n, mem_of_mem_take hn, hearlier⟩)
  obtain ⟨ha, _, _, hsplit, hbefore⟩ := find?_eq_some_iff_append.mp hfind
  have hmax : ∀ b ∈ visible db v, earlier v b = true → b.id ≤ a.id := by
    intro b hb hb'
    have hsorted := pairwise_visible db v
    rw [hsplit] at hb hsorted
    rcases mem_append.mp hb with hb | hb
    · simpa [hb'] using hbefore b hb
    · rcases mem_cons.mp hb with rfl | hb
      · exact le_rfl
      · exact ((pairwise_cons.mp (pairwise_append.mp hsorted).2.1).1 b hb).le
  refine ⟨a, ?_, ha, hmax⟩
  have hmem : a ∈ (visible db v).take m ++ (visible db v).drop m := by
    rw [take_append_drop]
    exact mem_of_find?_eq_some hfind
  refine (mem_append.mp hmem).resolve_right fun hdrop => ?_
  have hlt := lt_of_mem_drop (pairwise_visible db v) hn hdrop
  have hle := hmax n (mem_of_mem_take hn) hearlier
  omega

/-- Behind the cursor are the notifications after the first `m`, unless one of an earlier scope comes back first. -/
lemma Stands.behind (h : Stands db v m cursor) (hm : m ≤ (visible db v).length) :
    (NoneEarlier db v m ∧ behindCursor db v cursor = (visible db v).drop m) ∨
      ¬ NoneEarlier db v m ∧ ∃ a ∈ (visible db v).take m, ∃ rest, behindCursor db v cursor = a :: rest := by
  rcases h with ⟨hnone, rfl⟩ | ⟨a, ha, hearlier, hmax, c, rfl, -, hc⟩
  · exact .inl ⟨hnone, behindCursor_of_noneEarlier hnone hm⟩
  · refine .inr ⟨fun hnone => ?_, a, ha, ?_⟩
    · rw [hnone a ha] at hearlier
      cases hearlier
    · have hmem : a ∈ behindCursor db v (some c) :=
        mem_filter.mpr ⟨mem_of_mem_take ha, by rw [hearlier, Bool.true_or]⟩
      have hsorted : (behindCursor db v (some c)).Pairwise fun a b => b.id < a.id :=
        (pairwise_visible db v).sublist filter_sublist
      have hle : ∀ b ∈ behindCursor db v (some c), b.id ≤ a.id := by
        intro b hb
        obtain ⟨hb, hcondition⟩ := mem_filter.mp hb
        rcases (Bool.or_eq_true _ _).mp hcondition with hb' | hb'
        · exact hmax b hb hb'
        · exact (of_decide_eq_true hb').le.trans hc
      cases hbehind : behindCursor db v (some c) with
      | nil =>
        rw [hbehind] at hmem
        cases hmem
      | cons b rest =>
        rw [hbehind] at hmem hsorted hle
        rcases mem_cons.mp hmem with rfl | hrest
        · exact ⟨rest, rfl⟩
        · have hlt := (pairwise_cons.mp hsorted).1 a hrest
          have hle := hle b (mem_cons_self ..)
          omega

/-- A page that is full leads to the cursor after it. -/
lemma Stands.page (h : Stands db v m cursor) {step : ℕ} (hstep : 0 < step) (hm : m + step ≤ (visible db v).length)
    (hfull : step ≤ (behindCursor db v cursor).length) :
    ∃ last, (((behindCursor db v cursor).take step).getLast?.map Notification.id).filter (0 < ·) = some last ∧
      Stands db v (m + step) (some last) ∧
      (behindCursor db v cursor).length - step ≤ (behindCursor db v (some last)).length := by
  have hsub : (behindCursor db v cursor).Sublist (visible db v) := by
    cases cursor with
    | none => exact List.Sublist.refl _
    | some => exact filter_sublist
  obtain ⟨last, hlast⟩ : ∃ last, ((behindCursor db v cursor).take step).getLast? = some last := by
    refine isSome_iff_exists.mp (getLast?_isSome.mpr fun hnil => ?_)
    have hlength := congrArg List.length hnil
    rw [length_take, length_nil] at hlength
    omega
  have hmem := mem_of_mem_take (mem_of_getLast? hlast)
  have hsorted := (pairwise_visible db v).sublist hsub
  rw [← take_append_drop step (behindCursor db v cursor), pairwise_append] at hsorted
  refine ⟨last.id, by simp [hlast, Option.filter, pos_of_mem_visible (hsub.subset hmem)], ?_, ?_⟩
  · have hpos := pos_of_mem_visible (hsub.subset hmem)
    rcases h with ⟨hnone, rfl⟩ | ⟨a, ha, hearlier, hmax, c, rfl, -, hc⟩
    · have hcursor : lastKey Notification.id _ = _ := lastKey_page hstep hm
      rw [lastKey, ← behindCursor_of_noneEarlier hnone (by omega), hlast, map_some] at hcursor
      by_cases hnext : NoneEarlier db v (m + step)
      · exact .inl ⟨hnext, hcursor⟩
      · obtain ⟨a, ha, hearlier, hmax⟩ := exists_first_earlier hnext
        obtain ⟨_, hrow, hid⟩ := map_eq_some_iff.mp hcursor.symm
        exact .inr ⟨a, ha, hearlier, hmax, last.id, rfl, hpos,
          hid ▸ last_le ((pairwise_visible db v).sublist (take_sublist _ _)) hrow ha⟩
    · refine .inr ⟨a, take_subset_take_left _ (Nat.le_add_right _ _) ha, hearlier, hmax, last.id, rfl, hpos, ?_⟩
      obtain ⟨-, hcondition⟩ := mem_filter.mp hmem
      rcases (Bool.or_eq_true _ _).mp hcondition with hl | hl
      · exact hmax last (hsub.subset hmem) hl
      · exact (of_decide_eq_true hl).le.trans hc
  · rw [← length_drop]
    have hrest : ((behindCursor db v cursor).drop step).filter (fun n => earlier v n || decide (n.id < last.id)) =
        (behindCursor db v cursor).drop step := by
      refine filter_eq_self.mpr fun n hn => ?_
      have hlt := hsorted.2.2 last (mem_of_getLast? hlast) n hn
      simp [hlt]
    rw [← hrest]
    exact (((drop_sublist _ _).trans hsub).filter _).length_le

/-! ### Calls -/

lemma stands_none (db : NotificationDb) (v : Viewer) : Stands db v 0 none :=
  .inl ⟨by simp [NoneEarlier], rfl⟩

/-- The loop comes to a cursor of the offset. -/
lemma walkTo_spec (hlimit : 0 < limit) {fuel left : ℕ} (hfuel : left ≤ fuel) (h : Stands db v m cursor)
    (hm : m + left ≤ (visible db v).length) (hleft : left ≤ (behindCursor db v cursor).length) :
    ∃ cursor', walkTo db v limit fuel left cursor = some cursor' ∧ Stands db v (m + left) cursor' := by
  induction fuel generalizing m left cursor with
  | zero =>
    obtain rfl : left = 0 := by omega
    exact ⟨cursor, rfl, h⟩
  | succ fuel ih =>
    rw [walkTo]
    split
    · next hzero => exact ⟨cursor, rfl, by rwa [hzero]⟩
    · next hpos =>
      have hstep : 0 < min limit left := by omega
      obtain ⟨_, hlast, hstands, _⟩ := h.page hstep (by omega) (by omega)
      have hpage : ¬ (fetchNotificationPage db v (min limit left) cursor).length < min limit left := by
        rw [fetchNotificationPage_eq h.pos, length_take]
        omega
      dsimp only
      rw [if_neg hpage, fetchNotificationPage_eq h.pos, hlast]
      have hnext := ih (show left - min limit left ≤ fuel by omega) hstands (by omega) (by omega)
      have hsum : m + min limit left + (left - min limit left) = m + left := by omega
      rwa [hsum] at hnext

/-- A slice is right exactly when no notification of an earlier scope stands before it. -/
lemma slice_iff (hlimit : 0 < limit) (hoffset : offset ≤ (visible db v).length) :
    fetchNotificationRows db v limit offset none = ((visible db v).drop offset).take limit ↔
      NoneEarlier db v offset := by
  have hnone : (none : Option ℕ).filter (fun c => decide (0 < c)) = none := rfl
  rw [fetchNotificationRows, hnone, if_neg (by simp)]
  by_cases hzero : offset = 0
  · rw [if_pos (.inr hzero), hzero, fetchNotificationPage_eq (by simp), behindCursor, drop_zero]
    simp [NoneEarlier]
  · rw [if_neg (by omega)]
    obtain ⟨_, hwalk, hstands⟩ :=
      walkTo_spec hlimit (le_refl offset) (stands_none db v) (by omega) hoffset
    rw [Nat.zero_add] at hstands
    rw [hwalk]
    dsimp only
    rw [fetchNotificationPage_eq hstands.pos]
    rcases hstands.behind hoffset with ⟨hclean, hbehind⟩ | ⟨hdirty, a, ha, _, hbehind⟩
    · rw [hbehind]
      exact iff_of_true rfl hclean
    · refine iff_of_false (fun heq => ?_) hdirty
      have hmem : a ∈ ((visible db v).drop offset).take limit := by
        rw [← heq, hbehind, take_cons hlimit]
        exact mem_cons_self ..
      have hlt := lt_of_mem_drop (pairwise_visible db v) ha (mem_of_mem_take hmem)
      omega

lemma noneEarlier_mono (h : NoneEarlier db v k) (hm : m ≤ k) : NoneEarlier db v m :=
  fun n hn => h n (take_subset_take_left _ hm hn)

lemma cursorPages_succ (h : Stands db v m cursor) (n : ℕ) : cursorPages db v limit (n + 1) cursor =
    if ((behindCursor db v cursor).take limit).length = limit then
      match (((behindCursor db v cursor).take limit).getLast?.map Notification.id).filter (0 < ·) with
      | none => some ((behindCursor db v cursor).take limit)
      | some last => (cursorPages db v limit n (some last)).map ((behindCursor db v cursor).take limit ++ ·)
    else some ((behindCursor db v cursor).take limit) := by
  have hpage : (listNotificationsWithTotal db v limit 0 cursor).1 = (behindCursor db v cursor).take limit := by
    rw [← fetchNotificationPage_eq h.pos]
    simp only [listNotificationsWithTotal, fetchNotificationRows, or_true, if_true]
    cases cursor with
    | none => rfl
    | some c => simp [Option.filter, h.pos c rfl]
  rw [cursorPages, hpage]

/-- The first page is part of what is read. -/
lemma mem_of_cursorPages (h : Stands db v m cursor) {n : ℕ} {out : List Notification}
    (hpages : cursorPages db v limit n cursor = some out)
    (ha : a ∈ (behindCursor db v cursor).take limit) : a ∈ out := by
  cases n with
  | zero => cases hpages
  | succ =>
    rw [cursorPages_succ h] at hpages
    split at hpages
    · split at hpages
      · exact some.inj hpages ▸ ha
      · obtain ⟨_, -, rfl⟩ := map_eq_some_iff.mp hpages
        exact mem_append_left _ ha
    · exact some.inj hpages ▸ ha

/-- From a cursor of full pages on, the pages are the other notifications exactly when none of an earlier scope stands on
a full page. -/
lemma exists_cursorPages_iff (hlimit : 0 < limit) (h : Stands db v m cursor) (hclean : NoneEarlier db v m)
    (hdvd : limit ∣ m) (hm : m ≤ (visible db v).length) :
    (∃ n, cursorPages db v limit n cursor = some ((visible db v).drop m)) ↔
      NoneEarlier db v ((visible db v).length / limit * limit) := by
  induction hrest : (visible db v).length - m using Nat.strong_induction_on generalizing m cursor with
  | _ _ ih =>
    obtain ⟨k, rfl⟩ := hdvd
    have hbehind := ((h.behind hm).resolve_right fun hdirty => hdirty.1 hclean).2
    by_cases hfull : limit * k + limit ≤ (visible db v).length
    · obtain ⟨last, hlast, hstands, -⟩ := h.page hlimit hfull (by rw [hbehind, length_drop]; omega)
      have hlength : ((behindCursor db v cursor).take limit).length = limit := by
        rw [hbehind, length_take, length_drop]
        omega
      have hsplit : (visible db v).drop (limit * k) =
          (behindCursor db v cursor).take limit ++ (visible db v).drop (limit * k + limit) := by
        rw [hbehind, ← drop_drop, take_append_drop]
      have hpages : (∃ n, cursorPages db v limit n cursor = some ((visible db v).drop (limit * k))) ↔
          ∃ n, cursorPages db v limit n (some last) = some ((visible db v).drop (limit * k + limit)) := by
        have hsucc : ∀ n, cursorPages db v limit (n + 1) cursor = some ((visible db v).drop (limit * k)) ↔
            cursorPages db v limit n (some last) = some ((visible db v).drop (limit * k + limit)) := by
          intro n
          rw [cursorPages_succ h, if_pos hlength, hlast, hsplit, map_eq_some_iff]
          simp
        constructor
        · rintro ⟨n, hn⟩
          cases n with
          | zero => cases hn
          | succ n => exact ⟨n, (hsucc n).mp hn⟩
        · rintro ⟨n, hn⟩
          exact ⟨n + 1, (hsucc n).mpr hn⟩
      rw [hpages]
      have hdvd : limit ∣ limit * k + limit := ⟨k + 1, by rw [Nat.mul_succ]⟩
      by_cases hnext : NoneEarlier db v (limit * k + limit)
      · exact ih _ (by omega) hstands hnext hdvd hfull rfl
      · refine iff_of_false ?_ fun hall => hnext (noneEarlier_mono hall ?_)
        · rintro ⟨n, hn⟩
          obtain ⟨a, ha, _, hbehind'⟩ := ((hstands.behind hfull).resolve_left fun hclean' => hnext hclean'.1).2
          have hfirst : a ∈ (behindCursor db v (some last)).take limit := by
            rw [hbehind', take_cons hlimit]
            exact mem_cons_self ..
          have hmem := mem_of_cursorPages hstands hn hfirst
          exact absurd (lt_of_mem_drop (pairwise_visible db v) ha hmem) (lt_irrefl _)
        · rw [← Nat.mul_succ, Nat.mul_comm] at hfull ⊢
          exact Nat.mul_le_mul_right limit ((Nat.le_div_iff_mul_le hlimit).mpr hfull)
    · have hdiv : (visible db v).length / limit * limit = limit * k := by
        have hk : (visible db v).length / limit = k := by
          refine Nat.div_eq_of_lt_le ?_ ?_
          · rwa [Nat.mul_comm]
          · rw [Nat.mul_comm, Nat.mul_succ]
            omega
        rw [hk, Nat.mul_comm]
      rw [hdiv]
      refine iff_of_true ⟨1, ?_⟩ hclean
      have hshort : ((visible db v).drop (limit * k)).length < limit := by
        rw [length_drop]
        omega
      rw [cursorPages_succ h, hbehind, take_of_length_le hshort.le, if_neg hshort.ne]

lemma countP_add {α : Type*} (p q : α → Bool) (l : List α) :
    l.countP p = l.countP (fun a => p a && q a) + l.countP fun a => p a && !q a := by
  induction l with
  | nil => rfl
  | cons a l ih =>
    rw [countP_cons, countP_cons, countP_cons, ih]
    cases p a <;> cases q a <;> simp <;> omega

/-- The unread ones are counted rightly exactly when none of an earlier scope was read. -/
lemma unread_iff : countUnreadNotifications db v =
      (visible db v).countP (fun n => v.userId.all fun user => !isRead db user n) ↔
    (v.userId = none → visible db v = []) ∧
      ∀ user ∈ v.userId, ∀ n ∈ visible db v, earlier v n = true → isRead db user n = false := by
  unfold countUnreadNotifications
  cases hviewer : v.userId with
  | none =>
    have hall : (visible db v).countP (fun _ => true) = (visible db v).length := countP_eq_length.mpr (by simp)
    simp only [all_none, hall, forall_const, mem_def, reduceCtorEq, false_imp_iff, and_true]
    rw [eq_comm, length_eq_zero_iff]
  | some user =>
    simp only [all_some, reduceCtorEq, false_imp_iff, true_and, mem_some_iff, forall_eq']
    have hvisible : (visible db v).countP (fun n => !isRead db user n) = db.notifications.countP fun n =>
        orAllAnd (visibilityFilters v) (fun n => !isRead db user n) n && !isRead db user n := by
      rw [visible, orderById, (perm_insertionSort _ _).countP_eq, countP_filter]
      refine countP_congr fun n _ => ?_
      rw [orAll_eq, orAllAnd]
      cases isRead db user n <;> simp
    rw [hvisible, countP_add _ (fun n => !isRead db user n), Nat.add_eq_left, countP_eq_zero]
    simp only [mem_visible, orAll_eq (visibilityFilters v), orAllAnd, earlier]
    refine forall_congr' fun n => ?_
    cases isRead db user n <;> cases orAll (visibilityFilters v).dropLast n <;> simp

/-- Exactly which calls are right. -/
theorem listed_iff (db : NotificationDb) (v : Viewer) (hlimit : 0 < limit) (offset : ℕ) : Listed db v limit offset ↔
    (offset ≤ (visible db v).length ∧ NoneEarlier db v offset ∧
      NoneEarlier db v ((visible db v).length / limit * limit)) ∧
    (v.userId = none → visible db v = []) ∧
      ∀ user ∈ v.userId, ∀ n ∈ visible db v, earlier v n = true → isRead db user n = false := by
  rw [← unread_iff]
  have hpages := exists_cursorPages_iff hlimit (stands_none db v) (by simp [NoneEarlier]) ⟨0, rfl⟩ (Nat.zero_le _)
  rw [drop_zero] at hpages
  have hcount : db.notifications.countP (orAll (visibilityFilters v)) = (visible db v).length := by
    rw [countP_eq_length_filter, visible, orderById, length_insertionSort]
  have htotal : ∀ rows, (inferNotificationTotal limit offset none rows).getD (visible db v).length =
      if rows < limit then offset + rows else (visible db v).length := by
    intro rows
    rw [inferNotificationTotal, if_neg (by simp; omega)]
    split <;> rfl
  constructor
  · rintro ⟨hwalk, hslice, htotals, hunread⟩
    have hnone := htotals none
    rw [listNotificationsWithTotal, hcount, htotal, show fetchNotificationRows db v limit offset none = _ from hslice,
      length_take, length_drop] at hnone
    have hoffset : offset ≤ (visible db v).length := by
      split at hnone <;> omega
    exact ⟨⟨hoffset, (slice_iff hlimit hoffset).mp hslice, hpages.mp hwalk⟩, hunread⟩
  · rintro ⟨⟨hoffset, hslice, hwalk⟩, hunread⟩
    have hrows := (slice_iff hlimit hoffset).mpr hslice
    refine ⟨hpages.mpr hwalk, hrows, fun cursor => ?_, hunread⟩
    cases cursor with
    | none =>
      rw [listNotificationsWithTotal, hcount, htotal, hrows, length_take, length_drop]
      split <;> omega
    | some => exact hcount

/-- A message to the viewer, who has read it, and one to the agency. -/
def twoScopes : NotificationDb where
  notifications := [⟨1, "agency", none, none, "Maintenance"⟩, ⟨2, "user", none, some 7, "Visite"⟩]
  reads := [(2, 7)]
  distinct := by decide
  positive := by decide
  marks := by decide

def viewer : Viewer := ⟨some 7, none, false, false⟩

theorem listed_iff_twoScopes : ¬ Listed twoScopes viewer 1 0 := by
  rw [listed_iff twoScopes viewer (by decide) 0]
  rintro ⟨-, -, hunread⟩
  exact absurd (hunread 7 rfl ⟨2, "user", none, some 7, "Visite"⟩ (by decide) (by decide)) (by decide)

/-- The second page is the first one again. -/
theorem notification_repeated : ¬ ∀ (db : NotificationDb) (v : Viewer) (limit offset : ℕ), 0 < limit →
    Listed db v limit offset := by
  intro h
  exact absurd (h twoScopes viewer 1 0 (by decide)).unread (by decide)

end ImmoApp.Notifications
