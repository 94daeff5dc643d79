import Mathlib.Algebra.Order.Field.Basic
import Mathlib.Tactic.Linarith
import Mathlib.Tactic.NormNum
import Mathlib.Tactic.Ring
import ImmoApp.Matching.Artifacts

/-!
# Two scorers

The score of a demande and an offer is computed by an SQL expression, for the stored pairs, and by
`calculate_score`, which the expression mirrors.  Here both are taken in exact arithmetic and before they are
rounded, on rows whose columns may be `NULL`.

They treat a zero, a negative number and a text differently, and `sqlScore_eq_iff` says exactly when they
agree.
-/

namespace ImmoApp.Matching

open Crm

/-- The columns of a demande that its scores depend on; `none` is `NULL`. -/
structure DemandeRow where
  type : Option String
  budgetMax : Option ℚ
  surfaceMin : Option ℚ
  bedsMin : Option ℤ
  furnished : Option String

/-- The columns of an offer that its scores depend on. -/
structure OfferRow where
  type : Option String
  budget : Option ℚ
  surface : Option ℚ
  beds : Option ℤ
  furnished : Option String

def pointsOf {α : Type*} (a b : Option α) (points : α → α → ℚ) : ℚ :=
  match a, b with
  | some x, some y => points x y
  | _, _ => 0

section Sql

variable (lower : String → String) (d : DemandeRow) (o : OfferRow)

/-- `BTRIM(LOWER(·))`. -/
def sqlNorm (column : Option String) : Option String := column.map fun s => btrim (lower s)

/-- `COALESCE(NULLIF(BTRIM(LOWER(·)), ''), '')`. -/
def sqlText (column : Option String) : String := ((sqlNorm lower column).filter (· ≠ "")).getD ""

/-- `=` in a condition, which does not hold where a side is `NULL`. -/
def sqlEq (a b : Option String) : Bool := a.isSome && a == b

def SqlSameType : Prop :=
  sqlText lower d.type = "" ∨ sqlText lower o.type = "" ∨ sqlEq (sqlNorm lower d.type) (sqlNorm lower o.type)

instance : Decidable (SqlSameType lower d o) := by unfold SqlSameType; infer_instance

def SqlSameFurnished : Prop :=
  sqlText lower d.furnished ∉ ["", "any"] ∧
    sqlEq (sqlNorm lower d.furnished) (sqlNorm lower (some (o.furnished.getD "")))

instance : Decidable (SqlSameFurnished lower d o) := by unfold SqlSameFurnished; infer_instance

def sqlPlacePoints (hasLocations locationMatch : Bool) : ℚ :=
  if hasLocations then (if locationMatch then 2 else 0) else 1

/-- The points for the price.  The divisor of the source is never `NULL` where the condition holds. -/
def sqlBudgetPoints : ℚ :=
  pointsOf d.budgetMax o.budget fun budgetMax budget =>
    if 0 < budgetMax ∧ budget ≤ budgetMax then min 2 ((1 - budget / budgetMax) * 4) else 0

def sqlSurfacePoints : ℚ :=
  pointsOf d.surfaceMin o.surface fun surfaceMin surface =>
    if 0 < surfaceMin ∧ surfaceMin ≤ surface then min 2 ((surface - surfaceMin) / max 1 surfaceMin * 2)
    else 0

def sqlBedsPoints : ℚ :=
  pointsOf d.bedsMin o.beds fun bedsMin beds =>
    if 0 < bedsMin ∧ bedsMin ≤ beds then min 1 (((beds : ℚ) - bedsMin) * (3 / 10)) else 0

/-- `SCORE_RAW_SQL`. -/
def sqlScoreRaw (hasLocations locationMatch : Bool) : ℚ :=
  (if SqlSameType lower d o then 2 else 0) + sqlPlacePoints hasLocations locationMatch + sqlBudgetPoints d o +
    sqlSurfacePoints d o + sqlBedsPoints d o + (if SqlSameFurnished lower d o then 1 else 0)

/-- `SCORE_SQL` before it is rounded. -/
def sqlScore (hasLocations locationMatch : Bool) : ℚ := min (sqlScoreRaw lower d o hasLocations locationMatch) 10

end Sql

/-! ### The function -/

/-- What `calculate_score` reads of a `Demande`. -/
structure Demande where
  type : String
  budgetMax : Option ℚ
  surfaceMin : Option ℚ
  bedsMin : Option ℤ
  furnished : String

/-- What `calculate_score` reads of an `Offer`. -/
structure Offer where
  type : String
  budget : Option ℚ
  surface : Option ℚ
  beds : Option ℤ
  furnished : String

def Demande.fromRow (row : DemandeRow) : Demande where
  type := row.type.getD ""
  budgetMax := row.budgetMax
  surfaceMin := row.surfaceMin
  bedsMin := row.bedsMin
  furnished := row.furnished.getD ""

def Offer.fromRow (row : OfferRow) : Offer where
  type := row.type.getD ""
  budget := row.budget
  surface := row.surface
  beds := row.beds
  furnished := row.furnished.getD ""

section Python

/-- A number that an `if` reads as true: neither `None` nor zero. -/
def truthy {α : Type*} [DecidableEq α] [Zero α] (number : Option α) : Option α := number.filter (· ≠ 0)

variable (unicode : Unicode) (demande : Demande) (offer : Offer)

def SameType : Prop :=
  normText unicode demande.type = "" ∨ normText unicode offer.type = "" ∨
    normText unicode demande.type = normText unicode offer.type

instance : Decidable (SameType unicode demande offer) := by unfold SameType; infer_instance

def SameFurnished : Prop :=
  demande.furnished ≠ "" ∧ offer.furnished ≠ "" ∧ normText unicode demande.furnished ∉ ["", "any"] ∧
    normText unicode demande.furnished = normText unicode offer.furnished

instance : Decidable (SameFurnished unicode demande offer) := by unfold SameFurnished; infer_instance

def placePoints (hasLocationMatch demandeHasLocations : Bool) : ℚ :=
  if demandeHasLocations then (if hasLocationMatch then 2 else 0) else 1

def budgetPoints : ℚ :=
  pointsOf (truthy demande.budgetMax) (truthy offer.budget) fun budgetMax budget =>
    if budget ≤ budgetMax then min 2 ((1 - budget / budgetMax) * 4) else 0

def surfacePoints : ℚ :=
  pointsOf (truthy demande.surfaceMin) (truthy offer.surface) fun surfaceMin surface =>
    if surfaceMin ≤ surface then min 2 ((surface - surfaceMin) / max 1 surfaceMin * 2) else 0

def bedsPoints : ℚ :=
  pointsOf (truthy demande.bedsMin) (truthy offer.beds) fun bedsMin beds =>
    if bedsMin ≤ beds then min 1 (((beds : ℚ) - bedsMin) * (3 / 10)) else 0

/-- The points that `calculate_score` adds up. -/
def calculateScoreRaw (hasLocationMatch demandeHasLocations : Bool) : ℚ :=
  (if SameType unicode demande offer then 2 else 0) + placePoints hasLocationMatch demandeHasLocations +
    budgetPoints demande offer + surfacePoints demande offer + bedsPoints demande offer +
      (if SameFurnished unicode demande offer then 1 else 0)

/-- `calculate_score` before it rounds. -/
def calculateScore (hasLocationMatch demandeHasLocations : Bool) : ℚ :=
  min (calculateScoreRaw unicode demande offer hasLocationMatch demandeHasLocations) 10

end Python

/-! ### Where they differ -/

section Differences

variable (d : DemandeRow) (o : OfferRow)

/-- The points for a price that only the expression gives: the offer is free, or both are negative. -/
def budgetExcess : ℚ :=
  pointsOf d.budgetMax o.budget fun budgetMax budget =>
    if 0 < budgetMax ∧ budget = 0 then 2
    else if budgetMax < 0 ∧ budget < budgetMax then (budget / budgetMax - 1) * 4 else 0

/-- The points for a surface that only the function gives: the least surface is negative. -/
def surfaceExcess : ℚ :=
  pointsOf d.surfaceMin o.surface fun surfaceMin surface =>
    if surfaceMin < 0 ∧ surfaceMin < surface ∧ surface ≠ 0 then min 2 ((surface - surfaceMin) * 2) else 0

/-- The points for bedrooms that only the function gives: their least number is negative. -/
def bedsExcess : ℚ :=
  pointsOf d.bedsMin o.beds fun bedsMin beds =>
    if bedsMin < 0 ∧ bedsMin < beds ∧ beds ≠ 0 then min 1 (((beds : ℚ) - bedsMin) * (3 / 10)) else 0

/-- The points of a comparison that one side makes and the other does not. -/
def pointsUnless (p q : Prop) [Decidable p] [Decidable q] (points : ℚ) : ℚ :=
  if p ∧ ¬q then points else 0

/-- What only the expression gives is what only the function gives. -/
def Balanced (unicode : Unicode) (lower : String → String) : Prop :=
  pointsUnless (SqlSameType lower d o) (SameType unicode (.fromRow d) (.fromRow o)) 2 +
      pointsUnless (SqlSameFurnished lower d o) (SameFurnished unicode (.fromRow d) (.fromRow o)) 1 +
      budgetExcess d o
    = pointsUnless (SameType unicode (.fromRow d) (.fromRow o)) (SqlSameType lower d o) 2 +
      pointsUnless (SameFurnished unicode (.fromRow d) (.fromRow o)) (SqlSameFurnished lower d o) 1 +
      surfaceExcess d o + bedsExcess d o

lemma points_add_pointsUnless (p q : Prop) [Decidable p] [Decidable q] (points : ℚ) :
    (if p then points else 0) + pointsUnless q p points = (if q then points else 0) + pointsUnless p q points := by
  unfold pointsUnless
  by_cases hp : p <;> by_cases hq : q <;> simp [hp, hq]

lemma pointsOf_truthy {α : Type*} [DecidableEq α] [Zero α] (points : α → α → ℚ) (a b : Option α) :
    pointsOf (truthy a) (truthy b) points = pointsOf a b fun x y => if x ≠ 0 ∧ y ≠ 0 then points x y else 0 := by
  rcases a with _ | x
  · simp [truthy, pointsOf]
  rcases b with _ | y
  · by_cases hx : x = 0 <;> simp [truthy, pointsOf, hx]
  by_cases hx : x = 0 <;> by_cases hy : y = 0 <;> simp [truthy, pointsOf, Option.filter_some, hx, hy]

lemma pointsOf_add {α : Type*} (p q : α → α → ℚ) (a b : Option α) :
    pointsOf a b p + pointsOf a b q = pointsOf a b fun x y => p x y + q x y := by
  rcases a with _ | x
  · simp [pointsOf]
  rcases b with _ | y <;> simp [pointsOf]

lemma sqlBudgetPoints_eq : sqlBudgetPoints d o = budgetPoints (.fromRow d) (.fromRow o) + budgetExcess d o := by
  rw [budgetPoints, pointsOf_truthy, budgetExcess, Demande.fromRow, Offer.fromRow, pointsOf_add, sqlBudgetPoints]
  congr
  funext budgetMax budget
  rcases lt_trichotomy budgetMax 0 with hmax | rfl | hmax
  · rcases lt_trichotomy budget budgetMax with hlt | rfl | hgt
    · have hratio : 1 ≤ budget / budgetMax := by
        rw [one_le_div_of_neg hmax]
        exact hlt.le
      have hleast : min 2 ((1 - budget / budgetMax) * 4) = (1 - budget / budgetMax) * 4 :=
        min_eq_right (by linarith)
      simp only [hmax.not_gt, hmax, hmax.ne, hlt, hlt.le, (hlt.trans hmax).ne, hleast, false_and, and_self,
        ne_eq, not_false_eq_true, if_true, if_false]
      ring
    · simp [hmax.ne, hmax.not_gt]
    · simp [hmax.not_gt, hgt.not_ge, hgt.not_gt]
  · simp
  · by_cases hfree : budget = 0
    · subst hfree
      norm_num [hmax, hmax.le]
    · simp [hmax, hmax.ne', hmax.not_gt, hfree]

lemma surfacePoints_eq : surfacePoints (.fromRow d) (.fromRow o) = sqlSurfacePoints d o + surfaceExcess d o := by
  rw [surfacePoints, pointsOf_truthy, surfaceExcess, Demande.fromRow, Offer.fromRow, sqlSurfacePoints, pointsOf_add]
  congr
  funext surfaceMin surface
  rcases lt_trichotomy surfaceMin 0 with hmin | rfl | hmin
  · rw [max_eq_left (by linarith), div_one]
    rcases lt_trichotomy surface surfaceMin with hlt | rfl | hgt
    · simp [hlt.not_ge, hlt.not_gt]
    · simp [hmin.not_gt]
    · by_cases hzero : surface = 0 <;> simp [hmin, hmin.ne, hmin.not_gt, hgt, hgt.le, hzero]
  · simp
  · by_cases hle : surfaceMin ≤ surface
    · simp [hmin, hmin.ne', hmin.not_gt, hle, (hmin.trans_le hle).ne']
    · simp [hmin.not_gt, hle]

lemma bedsPoints_eq : bedsPoints (.fromRow d) (.fromRow o) = sqlBedsPoints d o + bedsExcess d o := by
  rw [bedsPoints, pointsOf_truthy, bedsExcess, Demande.fromRow, Offer.fromRow, sqlBedsPoints, pointsOf_add]
  congr
  funext bedsMin beds
  rcases lt_trichotomy bedsMin 0 with hmin | rfl | hmin
  · rcases lt_trichotomy beds bedsMin with hlt | rfl | hgt
    · simp [hlt.not_ge, hlt.not_gt]
    · simp [hmin.not_gt]
    · by_cases hzero : beds = 0 <;> simp [hmin, hmin.ne, hmin.not_gt, hgt, hgt.le, hzero]
  · simp
  · by_cases hle : bedsMin ≤ beds
    · simp [hmin, hmin.ne', hmin.not_gt, hle, (hmin.trans_le hle).ne']
    · simp [hmin.not_gt, hle]

/-! ### The sums -/

lemma pointsOf_min_le {α : Type*} {most : ℚ} (hmost : 0 ≤ most) (p : α → α → Prop)
    [∀ x y, Decidable (p x y)] (value : α → α → ℚ) (a b : Option α) :
    pointsOf a b (fun x y => if p x y then min most (value x y) else 0) ≤ most := by
  rcases a with _ | x
  · exact hmost
  rcases b with _ | y
  · exact hmost
  · dsimp only [pointsOf]
    split
    · exact min_le_left _ _
    · exact hmost

lemma sqlPlacePoints_le (hasLocations locationMatch : Bool) : sqlPlacePoints hasLocations locationMatch ≤ 2 := by
  unfold sqlPlacePoints
  split_ifs <;> norm_num

lemma points_le_ten (p q : Prop) [Decidable p] [Decidable q] {place budget surface beds : ℚ}
    (hplace : place ≤ 2) (hbudget : budget ≤ 2) (hsurface : surface ≤ 2) (hbeds : beds ≤ 1) :
    (if p then (2 : ℚ) else 0) + place + budget + surface + beds + (if q then 1 else 0) ≤ 10 := by
  have htype : (if p then (2 : ℚ) else 0) ≤ 2 := by split <;> norm_num
  have hfurnished : (if q then (1 : ℚ) else 0) ≤ 1 := by split <;> norm_num
  linarith

variable (unicode : Unicode) (lower : String → String) (hasLocations locationMatch : Bool)

lemma sqlScore_eq_raw :
    sqlScore lower d o hasLocations locationMatch = sqlScoreRaw lower d o hasLocations locationMatch :=
  min_eq_left (points_le_ten _ _ (sqlPlacePoints_le _ _) (pointsOf_min_le (by norm_num) _ _ _ _)
    (pointsOf_min_le (by norm_num) _ _ _ _) (pointsOf_min_le (by norm_num) _ _ _ _))

lemma calculateScore_eq_raw (demande : Demande) (offer : Offer) (hasLocationMatch demandeHasLocations : Bool) :
    calculateScore unicode demande offer hasLocationMatch demandeHasLocations
      = calculateScoreRaw unicode demande offer hasLocationMatch demandeHasLocations :=
  min_eq_left (points_le_ten _ _ (sqlPlacePoints_le _ _) (pointsOf_min_le (by norm_num) _ _ _ _)
    (pointsOf_min_le (by norm_num) _ _ _ _) (pointsOf_min_le (by norm_num) _ _ _ _))

lemma calculateScore_eq :
    calculateScore unicode (.fromRow d) (.fromRow o) locationMatch hasLocations
      = sqlScore lower d o hasLocations locationMatch +
        (pointsUnless (SameType unicode (.fromRow d) (.fromRow o)) (SqlSameType lower d o) 2 +
          pointsUnless (SameFurnished unicode (.fromRow d) (.fromRow o)) (SqlSameFurnished lower d o) 1 +
          surfaceExcess d o + bedsExcess d o) -
        (pointsUnless (SqlSameType lower d o) (SameType unicode (.fromRow d) (.fromRow o)) 2 +
          pointsUnless (SqlSameFurnished lower d o) (SameFurnished unicode (.fromRow d) (.fromRow o)) 1 +
          budgetExcess d o) := by
  have htype := points_add_pointsUnless (SqlSameType lower d o) (SameType unicode (.fromRow d) (.fromRow o)) 2
  have hfurnished := points_add_pointsUnless (SqlSameFurnished lower d o)
    (SameFurnished unicode (.fromRow d) (.fromRow o)) 1
  have hplace : placePoints locationMatch hasLocations = sqlPlacePoints hasLocations locationMatch := rfl
  have hbudget := sqlBudgetPoints_eq d o
  have hsurface := surfacePoints_eq d o
  have hbeds := bedsPoints_eq d o
  rw [sqlScore_eq_raw, sqlScoreRaw, calculateScore_eq_raw, calculateScoreRaw]
  linarith

/-- The two scores of a demande and an offer, whatever their columns: they are the same exactly when what
only one of them gives is what only the other one gives. -/
theorem sqlScore_eq_iff : sqlScore lower d o hasLocations locationMatch
      = calculateScore unicode (.fromRow d) (.fromRow o) locationMatch hasLocations ↔
        Balanced d o unicode lower := by
  rw [calculateScore_eq d o unicode lower, Balanced]
  constructor
  · intro h
    linarith
  · intro h
    linarith

def flatWanted : DemandeRow where
  type := some "apartment"
  budgetMax := some 100
  surfaceMin := some 0
  bedsMin := some 0
  furnished := none

def flatForFree : OfferRow where
  type := some "apartment"
  budget := some 0
  surface := some 50
  beds := some 2
  furnished := none

def plainUnicode : Unicode := ⟨id, id, fun _ => false⟩

/-- The expression gives two points for a price of zero, the function none. -/
theorem free_offer_scores : sqlScore id flatWanted flatForFree false false = 5 ∧
      calculateScore plainUnicode (.fromRow flatWanted) (.fromRow flatForFree) false false = 3 := by
  decide +kernel

end Differences

end ImmoApp.Matching
