import Espressivo.Proofs.Binary64.Monotone

/-!
# The nearest whole number

Rounding to a whole number finds the one that is at most a half away. Where two are, it is the one
farther from zero, so that it comes out within a range if the value lies less than a half outside of
it at the lower end, and less than a half above it at the upper end.
-/

namespace Espressivo
namespace Binary64

/-- The value is at most a half away from the whole number, and if it is a half away, then the whole
number is farther from zero. -/
def Finite.RoundsTo (x : Finite) (n : Int) : Prop :=
  2 * (x.position - n * one).natAbs ≤ one ∧
    (2 * (x.position - n * one).natAbs = one → x.units < n.natAbs * one)

instance (x : Finite) (n : Int) : Decidable (x.RoundsTo n) := inferInstanceAs (Decidable (_ ∧ _))

namespace Finite

variable (x : Finite)

/-- Without a sign there is one whole number that an amount is rounded to. -/
theorem near_iff_eq_wholeNearest (n : Int) :
    (2 * (x.units - n * one).natAbs ≤ one ∧
      (2 * (x.units - n * one).natAbs = one → x.units < n.natAbs * one)) ↔
      n = x.wholeNearest := by
  have hbelow := two_mul_units_lt_wholeNearest x
  have habove := two_mul_wholeNearest_le_units x
  have hone := one_pos
  constructor
  · intro ⟨hnear, htie⟩
    have hn : 0 ≤ n := by
      by_contra hnegative
      have hfar : n * one ≤ -1 * one :=
        Int.mul_le_mul_of_nonneg_right (by omega) (Int.natCast_nonneg one)
      generalize one = unit at hnear hfar hone
      omega
    obtain ⟨m, rfl⟩ := Int.eq_ofNat_of_zero_le hn
    rw [Int.natAbs_natCast] at htie
    rw [← Int.natCast_mul] at hnear htie
    refine congrArg Nat.cast (Nat.le_antisymm ?_ ?_)
    · refine Binary64.le_of_mul_one_lt ?_
      generalize one = unit at *
      omega
    · refine Binary64.le_of_mul_one_lt ?_
      generalize one = unit at *
      omega
  · rintro rfl
    rw [Int.natAbs_natCast, ← Int.natCast_mul]
    generalize one = unit at *
    omega

theorem roundsTo_iff (n : Int) : x.RoundsTo n ↔ n = x.middle := by
  unfold RoundsTo middle
  rw [position_eq_signed]
  cases x.negative with
  | false => exact x.near_iff_eq_wholeNearest n
  | true =>
    have hdistance : (signed true x.units - n * one).natAbs = (x.units - -n * one).natAbs := by
      rw [signed_true, ← Int.natAbs_neg, Int.neg_mul]
      congr 1
      omega
    rw [hdistance, ← Int.natAbs_neg n, x.near_iff_eq_wholeNearest (-n), signed_true]
    omega

/-- The nearest whole number lies in a range if the value is less than a half outside of it. -/
theorem middle_within_iff (n : Nat) :
    0 ≤ x.middle ∧ x.middle ≤ n ↔
      -(one : Int) < 2 * x.position ∧ 2 * x.position < 2 * (n * one) + one := by
  have hbelow := two_mul_units_lt_wholeNearest x
  have habove := two_mul_wholeNearest_le_units x
  have hone := one_pos
  rw [middle, position_eq_signed, ← Int.natCast_mul]
  cases x.negative with
  | false =>
    rw [signed_false, signed_false]
    constructor
    · intro ⟨_, hle⟩
      have hmul := Nat.mul_le_mul_right one (Int.ofNat_le.1 hle)
      generalize one = unit at *
      omega
    · intro ⟨_, hlt⟩
      refine ⟨Int.natCast_nonneg _, Int.ofNat_le.2 (Binary64.le_of_mul_one_lt ?_)⟩
      generalize one = unit at *
      omega
  | true =>
    rw [signed_true, signed_true]
    constructor
    · intro ⟨hle, _⟩
      have hzero : x.wholeNearest = 0 := by omega
      rw [hzero] at hbelow
      generalize one = unit at *
      omega
    · intro ⟨hlt, _⟩
      have hzero : x.wholeNearest ≤ 0 := Binary64.le_of_mul_one_lt (by
        generalize one = unit at *
        omega)
      omega

theorem wholeNearest_of_isWhole {x : Finite} (hwhole : x.IsWhole) : x.wholeNearest = x.whole := by
  have hle := wholeNearest_le_wholeUp x
  rw [wholeUp_of_isWhole hwhole] at hle
  exact Nat.le_antisymm hle (whole_le_wholeNearest x)

/-- Rounding changes a value if it is not whole. -/
theorem position_eq_middle_mul_one_iff : x.position = x.middle * one ↔ x.IsWhole := by
  have hunits : x.position = x.middle * one ↔ x.units = x.wholeNearest * one := by
    rw [position_eq_signed, middle, ← signed_mul]
    generalize x.wholeNearest * one = rounded, x.units = units
    cases x.negative with
    | false =>
      rw [signed_false, signed_false]
      omega
    | true =>
      rw [signed_true, signed_true]
      omega
  rw [hunits]
  constructor
  · intro heq
    unfold IsWhole
    rw [heq]
    exact Nat.mul_mod_left _ _
  · intro hwhole
    rw [wholeNearest_of_isWhole hwhole, hwhole.whole_mul_one]

/-! ## Values -/

theorem truncate_eq_tdiv : x.truncate = x.position.tdiv one := by
  unfold truncate position whole
  rw [Int.ofNat_tdiv]
  split
  · rw [Int.neg_tdiv]
  · rfl

/-- A whole number that fits into a byte is that byte. -/
theorem toNat_toUInt8 {w : Finite} {n : Nat} (hn : n < UInt8.size)
    (hposition : w.position = n * one) : (finite w).toUInt8.toNat = n := by
  have hone : (one : Int) ≠ 0 := Int.natCast_ne_zero.2 (Nat.ne_of_gt one_pos)
  have htruncate : w.truncate = n := by
    rw [truncate_eq_tdiv, hposition, Int.mul_tdiv_cancel _ hone]
  have hint : (finite w).toIntWithin 0 255 = n := by
    have hsize : UInt8.size = 256 := rfl
    simp only [toIntWithin, htruncate]
    omega
  rw [toUInt8, hint, Int.toNat_natCast]
  exact UInt8.toNat_ofNat_of_lt' hn

end Finite

/-! ## Ranges -/

section

variable {low high : Finite} {n : Nat}

/-- The value lies strictly between the halves below zero and above another whole number if the
whole number nearest to it lies between these two. -/
theorem between_halves_iff (hlow : 2 * low.position = -one)
    (hhigh : 2 * high.position = 2 * (n * one) + one) {x : Finite} :
    finite low < finite x ∧ finite x < finite high ↔ 0 ≤ x.middle ∧ x.middle ≤ n := by
  rw [x.middle_within_iff]
  show low.position < x.position ∧ x.position < high.position ↔ _
  rw [← hlow, ← hhigh]
  omega

theorem eq_of_toFinite? {x : Binary64} {q : Finite} (hx : x.toFinite? = some q) :
    x = finite q := by
  cases x with
  | finite p => exact congrArg finite (Option.some.inj hx)
  | _ => cases hx

theorem exists_finite_of_between {x : Binary64} (hlow : finite low < x) (hhigh : x < finite high) :
    ∃ q, x = finite q := by
  cases x with
  | nan => exact absurd rfl (ne_nan_of_lt hlow)
  | infinite negative =>
    cases negative with
    | false => exact absurd (le_of_lt hhigh) not_infinite_le
    | true => exact absurd (le_of_lt hlow) not_le_infinite
  | finite q => exact ⟨q, rfl⟩

/-- What is rounded to a whole number between zero and another one lies strictly between the halves
around them. -/
theorem roundToWhole_within_iff (hn : n < Nat.pow 2 53) (hlow : 2 * low.position = -one)
    (hhigh : 2 * high.position = 2 * (n * one) + one) {x : Binary64} :
    0 ≤ x.roundToWhole ∧ x.roundToWhole ≤ ofNat n ↔ finite low < x ∧ x < finite high := by
  rw [zero_eq, ofNat_eq_finite hn]
  cases x with
  | nan =>
    exact iff_of_false (fun h => ne_nan_of_le_right h.1 rfl) fun h => ne_nan_of_lt h.1 rfl
  | infinite negative =>
    cases negative with
    | false =>
      exact iff_of_false (fun h => not_infinite_le h.2) fun h => not_infinite_le (le_of_lt h.2)
    | true =>
      exact iff_of_false (fun h => not_le_infinite h.1) fun h => not_le_infinite (le_of_lt h.1)
  | finite x =>
    obtain ⟨w, hw, hposition⟩ := roundToWhole_finite x
    have hone : (0 : Int) < one := Int.natCast_pos.2 one_pos
    rw [hw, between_halves_iff hlow hhigh]
    show 0 ≤ w.position ∧ w.position ≤ ((n * one : Nat) : Int) ↔ _
    rw [hposition, Int.natCast_mul, Int.mul_nonneg_iff_of_pos_right hone]
    exact and_congr_right fun _ => ⟨(Int.le_of_mul_le_mul_right · hone),
      (Int.mul_le_mul_of_nonneg_right · (Int.le_of_lt hone))⟩

end

end Binary64
end Espressivo
