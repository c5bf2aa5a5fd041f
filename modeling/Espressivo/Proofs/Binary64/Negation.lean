import Espressivo.Proofs.Binary64.Monotone

/-!
# Negation

Negation changes the sign and nothing else. Rounding treats both signs alike, so that quotients,
products and nearest whole numbers are negated with their terms, while rounding down becomes
rounding up. Only an exact sum of zero does not follow its terms, and its sign is all that differs.
-/

namespace Espressivo
namespace Binary64

/-- The value with the other sign. -/
def Finite.opposite (x : Finite) : Finite := { x with negative := !x.negative }

theorem negative_opposite (x : Finite) : x.opposite.negative = !x.negative := rfl

theorem units_opposite (x : Finite) : x.opposite.units = x.units := rfl

@[simp] theorem neg_finite (x : Finite) : -finite x = finite x.opposite := rfl

@[simp] theorem neg_round (negative : Bool) (num den : Nat) :
    -round negative num den = round (!negative) num den := by
  unfold round
  split <;> rfl

@[simp] theorem isFinite_neg (x : Binary64) : (-x).isFinite = x.isFinite := by
  cases x <;> rfl

theorem position_opposite (x : Finite) : x.opposite.position = -x.position := position_neg x

theorem signed_not (negative : Bool) (n : Nat) : signed (!negative) n = -signed negative n := by
  cases negative with
  | false => rfl
  | true => exact (Int.neg_neg _).symm

theorem position?_neg (x : Binary64) : (-x).position? = x.position?.map (-·) := by
  cases x with
  | nan => rfl
  | infinite negative => exact congrArg some (signed_not negative limit)
  | finite x => simp only [neg_finite, position?, position_opposite, Option.map_some]

/-! ## Quotients and products -/

theorem opposite_bne (x : Finite) (negative : Bool) :
    (x.opposite.negative != negative) = !(x.negative != negative) :=
  Bool.not_bne x.negative negative

theorem finite_div_zero {x y : Finite} (hy : y.units = 0) :
    finite x / finite y = if x.units = 0 then nan else infinite (x.negative != y.negative) :=
  if_pos hy

theorem neg_div (x y : Binary64) : -x / y = -(x / y) := by
  cases x with
  | nan => rfl
  | infinite negX =>
    cases y with
    | nan => rfl
    | infinite negY => rfl
    | finite y => exact congrArg infinite (Bool.not_bne negX y.negative)
  | finite x =>
    cases y with
    | nan => rfl
    | infinite negY => exact congrArg zero (opposite_bne x negY)
    | finite y =>
      by_cases hy : y.units = 0
      · rw [neg_finite, finite_div_zero hy, finite_div_zero hy, opposite_bne]
        show (if x.units = 0 then nan else _) = -(if x.units = 0 then nan else _)
        split <;> rfl
      · rw [neg_finite, finite_div_finite hy, finite_div_finite hy, neg_round, opposite_bne]
        rfl

theorem neg_mul (x y : Binary64) : -x * y = -(x * y) := by
  cases x with
  | nan => rfl
  | infinite negX =>
    cases y with
    | nan => rfl
    | infinite negY => exact congrArg infinite (Bool.not_bne negX negY)
    | finite y =>
      show (if y.units = 0 then nan else infinite ((!negX) != y.negative)) =
        -(if y.units = 0 then nan else infinite (negX != y.negative))
      rw [Bool.not_bne]
      split <;> rfl
  | finite x =>
    cases y with
    | nan => rfl
    | infinite negY =>
      show (if x.units = 0 then nan else infinite (x.opposite.negative != negY)) =
        -(if x.units = 0 then nan else infinite (x.negative != negY))
      rw [opposite_bne]
      split <;> rfl
    | finite y =>
      show round (x.opposite.negative != y.negative) (x.units * y.units) one =
        -round (x.negative != y.negative) (x.units * y.units) one
      rw [opposite_bne, neg_round]

/-! ## Whole numbers -/

/-- Roundings of amounts that agree once the sign is turned. -/
theorem mapWhole_neg {rounding turned : Finite → Nat}
    (hturned : ∀ x, turned x.opposite = rounding x) (x : Binary64) :
    mapWhole turned (-x) = -mapWhole rounding x := by
  cases x with
  | nan => rfl
  | infinite negative => rfl
  | finite x =>
    show ofWhole (!x.negative) (turned x.opposite) = -ofWhole x.negative (rounding x)
    rw [hturned, ofWhole, ofWhole, neg_round]

theorem whole_opposite (x : Finite) : x.opposite.whole = x.whole := by
  rw [Finite.whole, Finite.whole, units_opposite]

theorem wholeUp_opposite (x : Finite) : x.opposite.wholeUp = x.wholeUp := by
  rw [Finite.wholeUp, Finite.wholeUp, units_opposite]

theorem wholeNearest_opposite (x : Finite) : x.opposite.wholeNearest = x.wholeNearest := by
  rw [Finite.wholeNearest, Finite.wholeNearest, units_opposite]

theorem roundToWhole_neg (x : Binary64) : (-x).roundToWhole = -x.roundToWhole :=
  mapWhole_neg wholeNearest_opposite x

theorem floor_neg (x : Binary64) : (-x).floor = -x.ceil := by
  unfold floor ceil
  apply mapWhole_neg
  intro x
  rw [negative_opposite, wholeUp_opposite, whole_opposite]
  cases x.negative <;> simp

theorem ceil_neg (x : Binary64) : (-x).ceil = -x.floor := by
  unfold floor ceil
  apply mapWhole_neg
  intro x
  rw [negative_opposite, wholeUp_opposite, whole_opposite]
  cases x.negative <;> simp

/-! ## Distances -/

theorem abs_round (negative : Bool) (num den : Nat) :
    (round negative num den).abs = round false num den := by
  unfold round
  split <;> rfl

/-- The size of a sum does not depend on the common sign of its terms, not even if it is zero. -/
theorem abs_neg_add_neg (x y : Binary64) : (-x + -y).abs = (x + y).abs := by
  cases x with
  | nan => rfl
  | infinite negX =>
    cases y with
    | nan => rfl
    | infinite negY => cases negX <;> cases negY <;> rfl
    | finite y => rfl
  | finite x =>
    cases y with
    | nan => rfl
    | infinite negY => rfl
    | finite y =>
      show (x.opposite.add y.opposite).abs = (x.add y).abs
      have hsum : x.opposite.position + y.opposite.position = -(x.position + y.position) := by
        rw [position_opposite, position_opposite]
        omega
      simp only [Finite.add, hsum, Int.neg_eq_zero, Int.natAbs_neg]
      split
      · rfl
      · rw [abs_round, abs_round]

theorem abs_neg_sub_neg (x y : Binary64) : (-x - -y).abs = (x - y).abs := abs_neg_add_neg x (-y)

end Binary64
end Espressivo
