import Mathlib.Algebra.Order.Field.Basic
import Mathlib.Algebra.Order.Field.Rat
import Mathlib.Tactic.FieldSimp
import Mathlib.Tactic.Linarith
import Mathlib.Tactic.NormNum
import Espressivo.Proofs.Binary64.Negation

/-!
# Rational values

A finite value is a rational number. A quotient of positive values that is not too small is off the
exact quotient by one part in `2 ^ 53` at most, and so is a whole number made a value. A difference
below a value was below it before it was rounded, and the fraction of a value is exact.
-/

namespace Espressivo
namespace Binary64

/-- The value as a rational number. -/
def Finite.toRat (x : Finite) : ℚ := x.position / one

/-- The value is the number but for a relative error of one part in `2 ^ 53`. -/
def Finite.Rounds (x : Finite) (exact : ℚ) : Prop := |x.toRat - exact| ≤ exact / 2 ^ 53

theorem one_pos_rat : (0 : ℚ) < one := Nat.cast_pos.2 Binary64.one_pos

section

variable {x y z : Finite}

theorem toRat_le_toRat_iff : x.toRat ≤ y.toRat ↔ finite x ≤ finite y := by
  rw [Finite.toRat, Finite.toRat, div_le_div_iff_of_pos_right one_pos_rat, Int.cast_le,
    finite_le_finite_iff]

theorem toRat_lt_toRat_iff : x.toRat < y.toRat ↔ finite x < finite y := by
  rw [Finite.toRat, Finite.toRat, div_lt_div_iff_of_pos_right one_pos_rat, Int.cast_lt]
  exact Iff.rfl

theorem toRat_of_not_negative (hx : x.negative = false) : x.toRat = x.units / one := by
  rw [Finite.toRat, position_eq_signed, hx, signed_false, Int.cast_natCast]

theorem toRat_nonneg (hx : x.negative = false) : 0 ≤ x.toRat := by
  rw [toRat_of_not_negative hx]
  exact div_nonneg (Nat.cast_nonneg _) one_pos_rat.le

theorem toRat_pos (hx : x.negative = false) (hunits : 0 < x.units) : 0 < x.toRat := by
  rw [toRat_of_not_negative hx]
  exact div_pos (Nat.cast_pos.2 hunits) one_pos_rat

theorem units_pos_of_toRat_pos (hx : x.negative = false) (hpos : 0 < x.toRat) : 0 < x.units := by
  rw [toRat_of_not_negative hx, div_pos_iff_of_pos_right one_pos_rat] at hpos
  exact_mod_cast hpos

theorem toRat_of_whole {n : Nat} (hx : x.negative = false) (hunits : x.units = n * one) :
    x.toRat = n := by
  rw [toRat_of_not_negative hx, hunits, Nat.cast_mul, mul_div_cancel_right₀ _ one_pos_rat.ne']

theorem exists_ofNat_eq {n : Nat} (hn : n < Nat.pow 2 53) :
    ∃ w : Finite, ofNat n = finite w ∧ w.negative = false ∧ w.units = n * one :=
  ⟨⟨false, n * one, representable_mul_one hn⟩, ofNat_eq_finite hn, rfl, rfl⟩

theorem units_lt_of_toRat_lt {n : Nat} (hx : x.negative = false) (hlt : x.toRat < n) :
    x.units < n * one := by
  rw [toRat_of_not_negative hx, div_lt_iff₀ one_pos_rat] at hlt
  exact_mod_cast hlt

theorem toRat_le_of_units_le {factor : Nat} (hx : x.negative = false) (hfactor : 0 < factor)
    (hunits : x.units * factor ≤ one) : x.toRat ≤ 1 / factor := by
  rw [toRat_of_not_negative hx, div_le_div_iff₀ one_pos_rat (Nat.cast_pos.2 hfactor), one_mul]
  exact_mod_cast hunits

/-- A constant that evaluates to a value without a sign. -/
theorem exists_finite_of_units (value : Binary64) (property : Nat → Prop) [DecidablePred property]
    (hvalue : value.toFinite?.any fun q => !q.negative && decide (property q.units)) :
    ∃ q : Finite, value = finite q ∧ q.negative = false ∧ property q.units := by
  cases value with
  | finite q =>
    have hq : (!q.negative && decide (property q.units)) = true := hvalue
    rw [Bool.and_eq_true, Bool.not_eq_true', decide_eq_true_eq] at hq
    exact ⟨q, rfl, hq⟩
  | _ => cases hvalue

/-! ## Rounded results -/

theorem Finite.Rounds.le {exact : ℚ} (hx : x.Rounds exact) :
    x.toRat ≤ exact * (1 + 1 / 2 ^ 53) := by
  have hle := (abs_le.1 hx).2
  linarith

theorem Finite.Rounds.ge {exact : ℚ} (hx : x.Rounds exact) :
    exact * (1 - 1 / 2 ^ 53) ≤ x.toRat := by
  have hle := (abs_le.1 hx).1
  linarith

/-- The quotient of two numbers that are rounded before they are divided. -/
theorem Finite.Rounds.div {num den : ℚ} (hx : x.Rounds num) (hy : y.Rounds den) (hnum : 0 ≤ num)
    (hden : 0 < den) :
    num / den * (1 - 1 / 2 ^ 53) ≤ x.toRat / y.toRat * (1 + 1 / 2 ^ 53) ∧
      x.toRat / y.toRat * (1 - 1 / 2 ^ 53) ≤ num / den * (1 + 1 / 2 ^ 53) := by
  have hxDown := hx.ge
  have hyDown := hy.ge
  have hxNonneg : 0 ≤ x.toRat := by linarith
  have hyPos : 0 < y.toRat := by linarith
  have hexact : num / den * den = num := div_mul_cancel₀ _ hden.ne'
  have hquotient : x.toRat / y.toRat * y.toRat = x.toRat := div_mul_cancel₀ _ hyPos.ne'
  have hnonneg : 0 ≤ x.toRat / y.toRat := div_nonneg hxNonneg hyPos.le
  generalize x.toRat / y.toRat = quotient at *
  generalize num / den = exact at *
  constructor
  · refine le_of_mul_le_mul_right ?_ hden
    calc exact * (1 - 1 / 2 ^ 53) * den = num * (1 - 1 / 2 ^ 53) := by rw [← hexact]; ring
      _ ≤ quotient * y.toRat := hxDown.trans_eq hquotient.symm
      _ ≤ quotient * (den * (1 + 1 / 2 ^ 53)) := mul_le_mul_of_nonneg_left hy.le hnonneg
      _ = quotient * (1 + 1 / 2 ^ 53) * den := by ring
  · refine le_of_mul_le_mul_right ?_ hden
    calc quotient * (1 - 1 / 2 ^ 53) * den = quotient * (den * (1 - 1 / 2 ^ 53)) := by ring
      _ ≤ quotient * y.toRat := mul_le_mul_of_nonneg_left hyDown hnonneg
      _ ≤ num * (1 + 1 / 2 ^ 53) := hquotient.trans_le hx.le
      _ = exact * (1 + 1 / 2 ^ 53) * den := by rw [← hexact]; ring

theorem rounds_of_units {num den : Nat} (hx : x.negative = false) (hden : 0 < den)
    (hup : x.units * den * 2 ^ 53 ≤ num * 2 ^ 53 + num)
    (hdown : num * 2 ^ 53 ≤ x.units * den * 2 ^ 53 + num) : x.Rounds (num / den / one) := by
  have hden' : (0 : ℚ) < den := Nat.cast_pos.2 hden
  have hone := one_pos_rat
  have hup' : (x.units * den * 2 ^ 53 : ℚ) ≤ num * 2 ^ 53 + num := by exact_mod_cast hup
  have hdown' : (num * 2 ^ 53 : ℚ) ≤ x.units * den * 2 ^ 53 + num := by exact_mod_cast hdown
  have hvalue : x.toRat = x.units * den / (den * one) := by
    rw [toRat_of_not_negative hx]
    field_simp
  have hexact : (num / den / one : ℚ) = num / (den * one) := div_div _ _ _
  rw [Finite.Rounds, hvalue, hexact, ← sub_div, abs_div, abs_of_pos (mul_pos hden' hone),
    div_right_comm, div_le_div_iff_of_pos_right (mul_pos hden' hone), abs_le]
  constructor <;> linarith

/-- An amount of `2 ^ 53` units or more is rounded to a value near it. -/
theorem rounds_nearest {num den : Nat} (hx : x.negative = false)
    (hunits : x.units = nearest num den) (hden : 0 < den) (hlarge : 2 ^ 53 ≤ num / den) :
    x.Rounds (num / den / one) := by
  have hspacing : den * spacing (num / den) * 2 ^ 52 ≤ num := by
    calc den * spacing (num / den) * 2 ^ 52 = den * (spacing (num / den) * 2 ^ 52) :=
          Nat.mul_assoc ..
      _ ≤ den * (num / den) := Nat.mul_le_mul_left den (spacing_mul_le hlarge)
      _ ≤ num := Nat.mul_div_le num den
  have hup := two_mul_nearest_le num den
  have hdown := two_mul_le_nearest hden num
  rw [← hunits] at hup hdown
  generalize den * spacing (num / den) = step at hspacing hup hdown
  apply rounds_of_units hx hden
  · linarith
  · linarith

/-- The quotient of positive values, if it is neither too large nor too small. -/
theorem exists_div_eq_finite {bound : Nat} (hx : x.negative = false) (hy : y.negative = false)
    (hpos : 0 < y.units) (hbound : Representable bound)
    (hle : x.units * one ≤ bound * y.units) :
    ∃ z : Finite, finite x / finite y = finite z ∧ z.negative = false ∧
      z.units = nearest (x.units * one) y.units := by
  obtain ⟨z, hz, -⟩ : (round x.negative (x.units * one) y.units).Within bound :=
    within_round hpos hbound hle
  rw [div_eq_round hy hpos, hz]
  obtain ⟨hnegative, hunits⟩ := round_eq_finite_iff.1 hz
  exact ⟨z, rfl, hnegative.trans hx, hunits⟩

theorem units_le_of_toRat_le {factor : Nat} (hx : x.negative = false) (hy : y.negative = false)
    (hle : x.toRat ≤ factor * y.toRat) : x.units ≤ factor * y.units := by
  rw [toRat_of_not_negative hx, toRat_of_not_negative hy, ← mul_div_assoc,
    div_le_div_iff_of_pos_right one_pos_rat] at hle
  exact_mod_cast hle

theorem toRat_of_units_eq_zero (hunits : x.units = 0) : x.toRat = 0 := by
  rw [Finite.toRat, position_eq_signed, hunits]
  cases x.negative <;> exact div_eq_zero_iff.2 (Or.inl Int.cast_zero)

/-- A quotient that is zero or neither too large nor too small is rounded to a value near it. -/
theorem rounds_div (hx : x.negative = false) (hy : y.negative = false) (hpos : 0 < y.units)
    (hlow : x.units = 0 ∨ y.toRat ≤ 2 ^ 65 * x.toRat) (hhigh : x.toRat ≤ 2 ^ 65 * y.toRat) :
    ∃ z : Finite, finite x / finite y = finite z ∧ z.negative = false ∧
      z.Rounds (x.toRat / y.toRat) := by
  have hhigh' : x.units ≤ 2 ^ 65 * y.units :=
    units_le_of_toRat_le hx hy (by rw [Nat.cast_pow, Nat.cast_ofNat]; exact hhigh)
  have hbound : x.units * one ≤ 2 ^ 65 * one * y.units := by
    calc x.units * one ≤ 2 ^ 65 * y.units * one := Nat.mul_le_mul_right one hhigh'
      _ = 2 ^ 65 * one * y.units := Nat.mul_right_comm ..
  obtain ⟨z, hz, hnegative, hunits⟩ :=
    exists_div_eq_finite hx hy hpos (representable_power (by decide)) hbound
  refine ⟨z, hz, hnegative, ?_⟩
  rcases hlow with hzero | hlow
  · rw [hzero, Nat.zero_mul, nearest_zero] at hunits
    simp [Finite.Rounds, toRat_of_units_eq_zero hzero, toRat_of_units_eq_zero hunits]
  · have hone : 2 ^ 53 * 2 ^ 65 ≤ one := by decide +kernel
    have hlow' : y.units ≤ 2 ^ 65 * x.units :=
      units_le_of_toRat_le hy hx (by rw [Nat.cast_pow, Nat.cast_ofNat]; exact hlow)
    have hlarge : 2 ^ 53 * y.units ≤ x.units * one := by
      calc 2 ^ 53 * y.units ≤ 2 ^ 53 * (2 ^ 65 * x.units) := Nat.mul_le_mul_left _ hlow'
        _ = x.units * (2 ^ 53 * 2 ^ 65) := by rw [← Nat.mul_assoc, Nat.mul_comm]
        _ ≤ x.units * one := Nat.mul_le_mul_left _ hone
    have hrounds := rounds_nearest hnegative hunits hpos ((Nat.le_div_iff_mul_le hpos).2 hlarge)
    have hy' : (0 : ℚ) < y.units := Nat.cast_pos.2 hpos
    have hone' := one_pos_rat
    have hexact : ((x.units * one : Nat) / y.units / one : ℚ) = x.toRat / y.toRat := by
      rw [toRat_of_not_negative hx, toRat_of_not_negative hy, Nat.cast_mul]
      field_simp
    rw [hexact] at hrounds
    exact hrounds

/-- A quotient of whole numbers that are values themselves. -/
theorem rounds_div_of_whole {n d : Nat} (hx : x.negative = false) (hy : y.negative = false)
    (hxUnits : x.units = n * one) (hyUnits : y.units = d * one) (hn : n ≤ 2 ^ 64) (hpos : 0 < d)
    (hd : d ≤ 2 ^ 64) :
    ∃ z : Finite, finite x / finite y = finite z ∧ z.negative = false ∧ z.Rounds (n / d) := by
  have hxRat := toRat_of_whole hx hxUnits
  have hyRat := toRat_of_whole hy hyUnits
  have hn' : (n : ℚ) ≤ 2 ^ 64 := by exact_mod_cast hn
  have hd' : (d : ℚ) ≤ 2 ^ 64 := by exact_mod_cast hd
  have hone : (1 : ℚ) ≤ d := by exact_mod_cast hpos
  have hunits : 0 < y.units := units_pos_of_toRat_pos hy (by linarith)
  have hlow : x.units = 0 ∨ y.toRat ≤ 2 ^ 65 * x.toRat := by
    rcases Nat.eq_zero_or_pos n with hzero | hnPos
    · exact Or.inl (by rw [hxUnits, hzero, Nat.zero_mul])
    · have hnOne : (1 : ℚ) ≤ n := by exact_mod_cast hnPos
      exact Or.inr (by linarith)
  have hrounds := rounds_div hx hy hunits hlow (by linarith)
  rw [hxRat, hyRat] at hrounds
  exact hrounds

/-- Rounding does not take a quotient below one. -/
theorem one_le_toRat_div (hx : x.negative = false) (hy : y.negative = false) (hpos : 0 < y.units)
    (hle : y.units ≤ x.units) (hdiv : finite x / finite y = finite z) : 1 ≤ z.toRat := by
  rw [div_eq_round hy hpos] at hdiv
  obtain ⟨hnegative, hunits⟩ := round_eq_finite_iff.1 hdiv
  have hone : HasSignificand (1 * one) := (representable_whole (by decide)).2
  have hnearest : 1 * one ≤ z.units := by
    rw [hunits]
    refine le_nearest hpos hone ?_
    rw [Nat.one_mul, Nat.mul_comm]
    exact Nat.mul_le_mul_right one hle
  rw [toRat_of_not_negative (hnegative.trans hx), one_le_div one_pos_rat]
  rw [Nat.one_mul] at hnearest
  exact_mod_cast hnearest

/-- An amount of whole units is rounded to a value near it. -/
theorem rounds_units {units bound : Nat} (hbound : Representable bound) (hle : units ≤ bound) :
    ∃ z : Finite, round false units 1 = finite z ∧ z.negative = false ∧ z.Rounds (units / one) := by
  obtain ⟨z, hz, -⟩ : (round false units 1).Within bound :=
    within_round Nat.one_pos hbound (by rwa [Nat.mul_one])
  obtain ⟨hnegative, hunits⟩ := round_eq_finite_iff.1 hz
  refine ⟨z, hz, hnegative, ?_⟩
  have hup := nearest_mul_le_add units
  have hdown := mul_le_nearest_mul_add units
  rw [← hunits, ← Nat.mul_one z.units] at hup hdown
  have hrounds := rounds_of_units hnegative Nat.one_pos hup hdown
  rwa [Nat.cast_one, div_one] at hrounds

theorem rounds_ofNat {n exponent : Nat} (hexponent : exponent ≤ 1023) (hn : n ≤ 2 ^ exponent) :
    ∃ z : Finite, ofNat n = finite z ∧ z.negative = false ∧ z.Rounds n := by
  obtain ⟨z, hz, hnegative, hrounds⟩ :=
    rounds_units (representable_power hexponent) (Nat.mul_le_mul_right one hn)
  rw [Nat.cast_mul, mul_div_cancel_right₀ _ one_pos_rat.ne'] at hrounds
  exact ⟨z, hz, hnegative, hrounds⟩

/-! ## Differences -/

/-- A rounded distance below a value was below it before. -/
theorem abs_sub_lt_of_lt {bound : Finite} (hbound : bound.negative = false)
    (hlt : (finite x - finite y).abs < finite bound) : |x.toRat - y.toRat| < bound.toRat := by
  obtain ⟨a, b, ha, hb, hab⟩ := lt_iff.1 hlt
  rw [position?_abs, position?_sub, Option.map_some, Option.some.injEq, natAbs_signed] at ha
  have hposition : (bound.units : Int) = b := by
    rw [← signed_false bound.units, ← hbound]
    exact Option.some.inj hb
  have hunits : (x.position - y.position).natAbs < bound.units := by
    refine Nat.lt_of_not_le fun hle => ?_
    have hnearest := le_nearest Nat.one_pos bound.representable.2
      (Nat.le_trans (Nat.le_of_eq (Nat.mul_one _)) hle)
    have hlimit := bound.representable.1
    omega
  rw [toRat_of_not_negative hbound, Finite.toRat, Finite.toRat, ← sub_div, abs_div,
    abs_of_pos one_pos_rat, div_lt_div_iff_of_pos_right one_pos_rat, ← Int.cast_sub, ← Int.cast_abs,
    Int.abs_eq_natAbs, Int.cast_natCast, Nat.cast_lt]
  exact hunits

/-! ## Fractions -/

theorem hasSignificand_mod_one {units : Nat} (hunits : HasSignificand units) :
    HasSignificand (units % one) := by
  obtain ⟨significand, exponent, hsignificand, rfl⟩ := hunits
  obtain ⟨scale, hone⟩ := one_eq_two_pow
  rw [hone]
  show HasSignificand (significand * 2 ^ exponent % 2 ^ scale)
  rcases Nat.le_total exponent scale with hle | hle
  · obtain ⟨rest, rfl⟩ := Nat.exists_eq_add_of_le hle
    rw [Nat.pow_add, Nat.mul_comm (2 ^ exponent), Nat.mul_mod_mul_right]
    exact ⟨significand % 2 ^ rest, exponent,
      Nat.lt_of_le_of_lt (Nat.mod_le _ _) hsignificand, rfl⟩
  · have hzero : significand * 2 ^ exponent % 2 ^ scale = 0 :=
      Nat.mod_eq_zero_of_dvd (Nat.dvd_mul_left_of_dvd (Nat.pow_dvd_pow 2 hle) significand)
    rw [hzero]
    exact hasSignificand_of_le (Nat.zero_le _)

/-- What a value is above its whole part. -/
def Finite.fraction (x : Finite) : Finite where
  negative := false
  units := x.units % one
  representable := ⟨Nat.lt_of_le_of_lt (Nat.mod_le _ _) x.representable.1,
    hasSignificand_mod_one x.representable.2⟩

theorem toRat_fraction (hx : x.negative = false) : x.fraction.toRat = x.toRat - x.whole := by
  have hdivision : (x.whole * one + x.units % one : Nat) = x.units := Nat.div_add_mod' x.units one
  rw [toRat_of_not_negative (x := x.fraction) rfl, toRat_of_not_negative hx, eq_sub_iff_add_eq',
    ← hdivision, Nat.cast_add, Nat.cast_mul, add_div, mul_div_cancel_right₀ _ one_pos_rat.ne']
  rfl

theorem toRat_fraction_lt (x : Finite) : x.fraction.toRat < 1 := by
  rw [toRat_of_not_negative (x := x.fraction) rfl, div_lt_one one_pos_rat]
  exact Nat.cast_lt.2 (Nat.mod_lt _ Binary64.one_pos)

theorem ofInt_whole (hx : x.negative = false) :
    ∃ w : Finite, ofInt x.whole = finite w ∧ w.negative = false ∧ w.units = x.whole * one := by
  obtain ⟨w, hw, hnegative, hunits⟩ := ofWhole_eq_finite (Nat.le_refl x.whole) (whole_le_wholeUp x)
  have hsign : decide ((x.whole : Int) < 0) = x.negative := by
    rw [hx]
    exact decide_eq_false (Int.not_lt.2 (Int.natCast_nonneg _))
  refine ⟨w, ?_, hnegative.trans hx, hunits⟩
  rw [ofInt, hsign, Int.natAbs_natCast]
  exact hw

theorem toInt64?_of_not_negative (hx : x.negative = false) :
    (finite x).toInt64? = if x.whole < 2 ^ 63 then some (x.whole : Int) else none := by
  have hlow : -(Nat.pow 2 63 : Int) ≤ x.whole := by omega
  have hhigh : (x.whole : Int) < Nat.pow 2 63 ↔ x.whole < 2 ^ 63 := Int.ofNat_lt
  have htruncate : x.truncate = x.whole := by simp [Finite.truncate, hx]
  simp only [toInt64?, htruncate, hlow, hhigh, true_and]

/-- Taking the whole part away leaves the fraction, without a rounding error. -/
theorem sub_whole (hx : x.negative = false) : finite x - ofInt x.whole = finite x.fraction := by
  obtain ⟨w, hw, hnegative, hunits⟩ := ofInt_whole hx
  have hsum : x.position + w.opposite.position = x.fraction.units := by
    have hdivision : x.whole * one + x.units % one = x.units := Nat.div_add_mod' x.units one
    rw [position_opposite, position_eq_signed, position_eq_signed, hx, hnegative, signed_false,
      signed_false, hunits]
    show (x.units : Int) + -(x.whole * one : Nat) = (x.units % one : Nat)
    omega
  rw [hw]
  show x.add w.opposite = finite x.fraction
  unfold Finite.add
  dsimp only
  rw [hsum, Int.natAbs_natCast, hx, Bool.false_and,
    decide_eq_false (Int.not_lt.2 (Int.natCast_nonneg _))]
  split
  · rename_i hzero
    exact (eq_zero_of_units_eq_zero (Int.natCast_eq_zero.1 hzero)).symm
  · exact round_of_representable false x.fraction.representable

end

end Binary64
end Espressivo
