import Espressivo.Proofs.Binary64.NearestWhole
import Espressivo.Proofs.Timing.ContinuedFraction
import Espressivo.Proofs.Timing.Idempotence

/-!
# Accuracy of fractions

The fraction of a value is close to it from the tolerance of the search up to `2 ^ 63`. Below the
tolerance the search takes zero for a match, and from `2 ^ 63` on there is no fraction.
-/

namespace Espressivo
namespace Fraction

open Binary64

variable {x : Finite} {denominator : Nat}

/-! ## The denominator one -/

theorem mul_one_eq (x : Finite) : finite x * ofNat 1 = finite x := by
  rw [ofNat_eq_finite (by decide)]
  show round (x.negative != false) (x.units * (1 * one)) one = finite x
  have hround := round_mul_right Binary64.one_pos x.negative x.units 1
  rw [Nat.one_mul] at hround
  rw [Bool.bne_false, Nat.one_mul, hround]
  exact round_of_representable x.negative x.representable

theorem div_one_eq (x : Finite) : finite x / ofNat 1 = finite x := by
  obtain ⟨unit, hunit, hnegative, hunits⟩ := exists_ofNat_eq (n := 1) (by decide)
  have hround := round_mul_right Binary64.one_pos x.negative x.units 1
  rw [Nat.one_mul] at hround hunits
  rw [hunit, div_eq_round hnegative (by rw [hunits]; exact Binary64.one_pos), hunits]
  exact hround.trans (round_of_representable x.negative x.representable)

theorem numerator_one (x : Finite) : numerator (finite x) 1 = (finite x).roundToWhole := by
  rw [numerator, mul_one_eq]

theorem roundToWhole_of_isWhole (hwhole : x.IsWhole) : (finite x).roundToWhole = finite x := by
  show ofWhole x.negative x.wholeNearest = finite x
  rw [Finite.wholeNearest_of_isWhole hwhole, ofWhole_whole hwhole]

theorem abs_sub_self (x : Finite) : (finite x - finite x).abs = 0 := by
  show (x.add x.opposite).abs = 0
  have hsum : x.position + x.opposite.position = 0 := by
    rw [position_opposite]
    exact Int.add_right_neg _
  unfold Finite.add
  dsimp only
  rw [if_pos hsum, zero_eq]
  rfl

theorem matches_one_of_isWhole (hwhole : x.IsWhole) : Matches (finite x) 1 := by
  unfold Matches
  rw [numerator_one, roundToWhole_of_isWhole hwhole, div_one_eq, abs_sub_self]
  decide +kernel

/-- The first denominator that is tried is one. -/
theorem denominator?_eq_one (hmatch : Matches (finite x) 1) : denominator? (finite x) = some 1 :=
  List.find?_cons_of_pos (decide_eq_true hmatch)

theorem ofBinary64?_finite (x : Finite) :
    ofBinary64? (finite x) = withDenominator? x (denominator? (finite x)) := rfl

theorem of_denominator?_eq_some {value : Binary64} (hfind : denominator? value = some denominator) :
    0 < denominator ∧ denominator ≤ maxDenominator ∧ Matches value denominator := by
  unfold denominator? at hfind
  have hmatch := List.find?_some hfind
  have hrange := List.mem_range'_1.1 (List.mem_of_find?_eq_some hfind)
  exact ⟨hrange.1, by omega, of_decide_eq_true hmatch⟩

/-! ## The numerator of a match -/

/-- The numerator is a whole number, if the product is not too large. -/
theorem exists_numerator_eq {bound : Nat} (hx : x.negative = false)
    (hdenominator : denominator < Nat.pow 2 53) (hbound : bound ≤ 1023)
    (hle : x.units * denominator ≤ 2 ^ bound * one) :
    ∃ (w : Finite) (n : Nat), numerator (finite x) denominator = finite w ∧ w.negative = false ∧
      w.units = n * one ∧ n ≤ 2 ^ bound := by
  have hproduct : x.units * (denominator * one) ≤ 2 ^ bound * one * one := by
    rw [← Nat.mul_assoc]
    exact Nat.mul_le_mul_right one hle
  obtain ⟨product, hfinite, hunits⟩ : (round x.negative (x.units * (denominator * one)) one).Within
      (2 ^ bound * one) := within_round Binary64.one_pos (representable_power hbound) hproduct
  have hnegative := (round_eq_finite_iff.1 hfinite).1.trans hx
  obtain ⟨w, hw, hwNegative, hwUnits⟩ := ofWhole_eq_finite (whole_le_wholeNearest product)
    (wholeNearest_le_wholeUp product)
  refine ⟨w, product.wholeNearest, ?_, hwNegative.trans hnegative, hwUnits, ?_⟩
  · rw [numerator, ofNat_eq_finite hdenominator]
    show roundToWhole (round (x.negative != false) (x.units * (denominator * one)) one) = finite w
    rw [Bool.bne_false, hfinite]
    exact hw
  · have hup := wholeUp_mul_one_lt product
    exact Nat.le_trans (wholeNearest_le_wholeUp product) (Binary64.le_of_mul_one_lt (by omega))

theorem numerator_of_denominator? (hx : x.negative = false) (hlt : x.toRat < 2 ^ 63)
    (hfind : denominator? (finite x) = some denominator) :
    ∃ (w : Finite) (n : Nat), numerator (finite x) denominator = finite w ∧ w.negative = false ∧
      w.units = n * one ∧ n < 2 ^ 63 := by
  by_cases hsmall : x.units ≤ 2 ^ 53 * one
  · have hdenominator : denominator ≤ 2 ^ 8 :=
      Nat.le_trans (of_denominator?_eq_some hfind).2.1 (by decide)
    have hle : x.units * denominator ≤ 2 ^ 61 * one := by
      calc x.units * denominator ≤ 2 ^ 53 * one * 2 ^ 8 := Nat.mul_le_mul hsmall hdenominator
        _ = 2 ^ 61 * one := by rw [Nat.mul_right_comm, ← Nat.pow_add]
    obtain ⟨w, n, hw, hnegative, hunits, hn⟩ := exists_numerator_eq hx
      (Nat.lt_of_le_of_lt hdenominator (by decide)) (by decide) hle
    exact ⟨w, n, hw, hnegative, hunits, Nat.lt_of_le_of_lt hn (by decide)⟩
  · -- A value of this size is whole, so that the search ends at the denominator one.
    have hwhole : x.IsWhole := isWhole_of_large <| by
      calc Nat.pow 2 52 * one ≤ 2 ^ 53 * one := Nat.mul_le_mul_right one (by decide)
        _ ≤ x.units := Nat.le_of_not_le hsmall
    rw [denominator?_eq_one (matches_one_of_isWhole hwhole), Option.some.injEq] at hfind
    have hunits : x.units < 2 ^ 63 * one := units_lt_of_toRat_lt hx (by exact_mod_cast hlt)
    rw [← hwhole.whole_mul_one] at hunits
    rw [← hfind, numerator_one, roundToWhole_of_isWhole hwhole]
    exact ⟨x, x.whole, rfl, hx, hwhole.whole_mul_one.symm, Nat.lt_of_mul_lt_mul_right hunits⟩

/-! ## Accuracy -/

/-- The tolerance of the search is all but a thousand-millionth. -/
theorem exists_tolerance_eq : ∃ bound : Finite, (1e-9 : Binary64) = finite bound ∧
    bound.negative = false ∧ bound.Rounds (1 / 10 ^ 9) ∧ 1 / 10 ^ 9 ≤ bound.toRat := by
  obtain ⟨bound, hbound, hnegative, hdown, hup⟩ := exists_finite_of_units 1e-9
    (fun units => one ≤ units * 10 ^ 9 ∧ units * 10 ^ 9 * 2 ^ 53 ≤ one * 2 ^ 53 + one)
    (by decide +kernel)
  have hone := one_pos_rat
  have hlow : (1 : ℚ) / 10 ^ 9 ≤ bound.toRat := by
    rw [toRat_of_not_negative hnegative, div_le_div_iff₀ (by norm_num) hone, one_mul]
    exact_mod_cast hdown
  have hrounds := rounds_of_units hnegative (Nat.pow_pos (n := 9) (by decide : 0 < 10)) hup
    (Nat.le_add_right_of_le (Nat.mul_le_mul_right _ hdown))
  have hexact : ((one : ℚ) / (10 ^ 9 : Nat) / one) = 1 / 10 ^ 9 := by
    rw [Nat.cast_pow, Nat.cast_ofNat]
    field_simp
  rw [hexact] at hrounds
  exact ⟨bound, hbound, hnegative, hrounds, hlow⟩

/-- A match that is no smaller than the tolerance is a positive fraction that is close. -/
theorem near_of_matches {w : Finite} {n : Nat} (hlow : (1e-9 : Binary64) ≤ finite x)
    (hdenominator : 0 < denominator) (hdenominatorMax : denominator ≤ maxDenominator)
    (hw : numerator (finite x) denominator = finite w) (hnegative : w.negative = false)
    (hunits : w.units = n * one) (hn : n < 2 ^ 63) (hmatch : Matches (finite x) denominator) :
    0 < n ∧ |(n / denominator : ℚ) - x.toRat| < 1 / 10 ^ 9 + x.toRat / 2 ^ 51 := by
  obtain ⟨bound, hbound, hboundNegative, hboundRounds, hboundLow⟩ := exists_tolerance_eq
  obtain ⟨d, hd, hdNegative, hdUnits⟩ :=
    exists_ofNat_eq (Nat.lt_of_le_of_lt hdenominatorMax (by decide))
  obtain ⟨z, hz, -, hzRounds⟩ := rounds_div_of_whole hnegative hdNegative hunits hdUnits
    (Nat.le_trans hn.le (by decide)) hdenominator (Nat.le_trans hdenominatorMax (by decide))
  rw [Matches, hw, hd, hz, hbound] at hmatch
  rw [hbound, ← toRat_le_toRat_iff] at hlow
  obtain ⟨hdown, hup⟩ := abs_lt.1 (abs_sub_lt_of_lt hboundNegative hmatch)
  have hboundUp := hboundRounds.le
  have hzUp := hzRounds.le
  have hzDown := hzRounds.ge
  constructor
  · refine Nat.pos_of_ne_zero fun hzero => ?_
    have hquotient : (n / denominator : ℚ) = 0 := by simp [hzero]
    rw [hquotient] at hzUp
    linarith
  · rw [abs_lt]
    constructor <;> linarith

/-- From the tolerance up to `2 ^ 63` every value has a fraction, which is positive and close. -/
theorem exists_ofBinary64?_eq (hx : x.negative = false) (hlow : (1e-9 : Binary64) ≤ finite x)
    (hhigh : x.toRat < 2 ^ 63) :
    ∃ fraction, ofBinary64? (finite x) = some fraction ∧ 0 < fraction ∧
      |fraction - x.toRat| < 1 / 10 ^ 9 + x.toRat / 2 ^ 51 := by
  cases hfind : denominator? (finite x) with
  | some denominator =>
    obtain ⟨hdenominator, hmax, hmatch⟩ := of_denominator?_eq_some hfind
    obtain ⟨w, n, hw, hnegative, hunits, hn⟩ := numerator_of_denominator? hx hhigh hfind
    obtain ⟨hpos, hnear⟩ := near_of_matches hlow hdenominator hmax hw hnegative hunits hn hmatch
    have hwhole : w.whole = n := by
      rw [Finite.whole, hunits, Nat.mul_div_cancel _ Binary64.one_pos]
    have hfraction : mkRat n denominator = n / denominator := by
      rw [Rat.mkRat_eq_div, Int.cast_natCast]
    refine ⟨mkRat n denominator, ?_, ?_, ?_⟩
    · rw [ofBinary64?_finite, hfind, withDenominator?, hw, toInt64?_of_not_negative hnegative,
        hwhole, if_pos hn, Option.map_some]
    · rw [hfraction]
      exact div_pos (Nat.cast_pos.2 hpos) (Nat.cast_pos.2 hdenominator)
    · rw [hfraction]
      exact hnear
  | none =>
    obtain ⟨bound, hbound, hnegative, hrounds, hboundLow⟩ := exists_tolerance_eq
    obtain ⟨fraction, hfraction, hnear⟩ := exists_expand?_eq hx hhigh
    rw [hbound, ← toRat_le_toRat_iff] at hlow
    obtain ⟨hdown, hup⟩ := abs_le.1 hnear
    rw [ofBinary64?_finite, hfind]
    refine ⟨fraction, hfraction, ?_, hnear.trans_lt ?_⟩
    · linarith
    · linarith

/-! ## Values out of range -/

theorem position?_abs_zero_sub (hx : x.negative = false) :
    (zero false - finite x).abs.position? = (finite x).position? := by
  have hposition : x.position = x.units := by rw [position_eq_signed, hx, signed_false]
  have hzero : Finite.position ⟨false, 0, representable_zero⟩ = 0 := rfl
  rw [zero, position?_abs, position?_sub, Option.map_some, natAbs_signed, hzero, Int.zero_sub,
    Int.natAbs_neg, hposition, Int.natAbs_natCast,
    nearest_of_hasSignificand x.representable.2, Nat.min_eq_left (Nat.le_of_lt x.representable.1)]
  exact congrArg some hposition.symm

/-- Zero matches what is smaller than the tolerance. -/
theorem ofBinary64?_of_small (hx : x.negative = false) (hlt : finite x < (1e-9 : Binary64)) :
    ofBinary64? (finite x) = some 0 := by
  obtain ⟨bound, hbound, -, hrounds, -⟩ := exists_tolerance_eq
  have hhalf : 2 * x.units < one := by
    have hsmall : x.toRat < 1 / 2 := by
      rw [hbound, ← toRat_lt_toRat_iff] at hlt
      have hup := hrounds.le
      linarith
    rw [toRat_of_not_negative hx, div_lt_div_iff₀ one_pos_rat (by norm_num), one_mul, mul_comm]
      at hsmall
    exact_mod_cast hsmall
  have hnumerator : numerator (finite x) 1 = zero false := by
    have hnearest : x.wholeNearest = 0 := Nat.div_eq_of_lt (by omega)
    rw [numerator_one]
    show ofWhole x.negative x.wholeNearest = zero false
    rw [hx, hnearest, ofWhole, Nat.zero_mul, round_zero]
  have hmatch : Matches (finite x) 1 := by
    obtain ⟨a, b, ha, hb, hab⟩ := lt_iff.1 hlt
    rw [Matches, hnumerator, zero, div_one_eq, ← zero]
    exact lt_iff.2 ⟨a, b, (position?_abs_zero_sub hx).trans ha, hb, hab⟩
  rw [ofBinary64?_finite, denominator?_eq_one hmatch, withDenominator?, hnumerator, zero,
    toInt64?_of_not_negative rfl, whole_eq_zero rfl, if_pos (by decide), Option.map_some,
    Int.natCast_zero, Rat.zero_mkRat]

/-- A numerator that does not fit into 64 bits gives no fraction. -/
theorem ofBinary64?_of_large (hx : x.negative = false) (hlarge : 2 ^ 63 ≤ x.toRat) :
    ofBinary64? (finite x) = none := by
  have hunits : 2 ^ 63 * one ≤ x.units := by
    rw [toRat_of_not_negative hx, le_div_iff₀ one_pos_rat] at hlarge
    exact_mod_cast hlarge
  have hwhole : x.IsWhole := isWhole_of_large <| by
    calc Nat.pow 2 52 * one ≤ 2 ^ 63 * one := Nat.mul_le_mul_right one (by decide)
      _ ≤ x.units := hunits
  have hrange : ¬ x.whole < 2 ^ 63 := by
    rw [← hwhole.whole_mul_one] at hunits
    exact Nat.not_lt.2 (Nat.le_of_mul_le_mul_right hunits Binary64.one_pos)
  rw [ofBinary64?_finite, denominator?_eq_one (matches_one_of_isWhole hwhole), withDenominator?,
    numerator_one, roundToWhole_of_isWhole hwhole, toInt64?_of_not_negative hx, if_neg hrange,
    Option.map_none]

end Fraction
end Espressivo
