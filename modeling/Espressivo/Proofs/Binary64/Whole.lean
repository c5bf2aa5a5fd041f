import Espressivo.Proofs.Binary64.Exact

/-!
# Zeros and whole numbers

The signs of zeros, which arithmetic keeps track of: an exact result of zero keeps the sign that is
asked for, no other result is a zero by rounding to a whole number of units or more, and adding zero
leaves no negative zero. A value that is whole and no negative zero is that of its integer.
-/

namespace Espressivo
namespace Binary64

/-! ## Rounding -/

theorem le_roundHalfEven (num den : Nat) : num / den ≤ roundHalfEven num den := by
  unfold roundHalfEven
  dsimp only
  split <;> omega

theorem spacing_le {units : Nat} (hunits : units ≠ 0) : spacing units ≤ units :=
  calc spacing units ≤ Nat.pow 2 units.log2 := Nat.pow_le_pow_right (by decide) (by omega)
    _ ≤ units := Nat.log2_self_le hunits

/-- What is at least one unit is not rounded to zero. -/
theorem nearest_pos {num den : Nat} (hunits : num / den ≠ 0) : 0 < nearest num den := by
  have hstep := spacing_pos (num / den)
  have hquotient : 0 < num / (den * spacing (num / den)) := by
    rw [← Nat.div_div_eq_div_mul]
    exact Nat.div_pos (spacing_le hunits) hstep
  exact Nat.mul_pos (Nat.lt_of_lt_of_le hquotient (le_roundHalfEven _ _)) hstep

theorem roundHalfEven_zero (den : Nat) : roundHalfEven 0 den = 0 := by
  have heven : 2 * 0 < den ∨ (2 * 0 = den ∧ 0 % 2 = 0) := by omega
  rw [roundHalfEven, Nat.zero_div, Nat.zero_mod]
  exact if_pos heven

theorem nearest_zero (den : Nat) : nearest 0 den = 0 := by
  rw [nearest, Nat.zero_div, roundHalfEven_zero, Nat.zero_mul]

theorem round_eq_finite_iff {negative : Bool} {num den : Nat} {x : Finite} :
    round negative num den = finite x ↔ x.negative = negative ∧ x.units = nearest num den := by
  unfold round
  constructor
  · intro hround
    split at hround
    · cases hround
      exact ⟨rfl, rfl⟩
    · cases hround
  · rintro ⟨hnegative, hunits⟩
    have hlimit : nearest num den < limit := hunits ▸ x.representable.1
    rw [dif_pos hlimit]
    cases x
    cases hnegative
    cases hunits
    rfl

theorem isFinite_round_iff {negative : Bool} {num den : Nat} :
    (round negative num den).isFinite ↔ nearest num den < limit := by
  unfold round
  by_cases hlimit : nearest num den < limit
  · rw [dif_pos hlimit]
    exact iff_of_true rfl hlimit
  · rw [dif_neg hlimit]
    exact iff_of_false nofun hlimit

theorem round_zero (negative : Bool) (den : Nat) : round negative 0 den = zero negative :=
  round_eq_finite_iff.2 ⟨rfl, (nearest_zero den).symm⟩

theorem round_ne_zero (negative sign : Bool) {num den : Nat} (hunits : num / den ≠ 0) :
    round negative num den ≠ zero sign := by
  intro hround
  have hnearest := nearest_pos hunits
  rw [← (round_eq_finite_iff.1 hround).2] at hnearest
  exact Nat.lt_irrefl 0 hnearest

theorem zero_eq : (0 : Binary64) = zero false := by
  have hofNat : (0 : Binary64) = ofNat 0 := rfl
  rw [hofNat, ofNat, ofWhole, Nat.zero_mul, round_zero]

theorem eq_zero_of_units_eq_zero {x : Finite} (hunits : x.units = 0) :
    finite x = zero x.negative := by
  cases x
  cases hunits
  rfl

/-! ## Arithmetic of zeros -/

theorem finite_div_finite {x y : Finite} (hy : y.units ≠ 0) :
    finite x / finite y = round (x.negative != y.negative) (x.units * one) y.units :=
  if_neg hy

theorem zero_div {y : Finite} (hy : y.units ≠ 0) (sign : Bool) :
    zero sign / finite y = zero (sign != y.negative) := by
  rw [zero, finite_div_finite hy, Nat.zero_mul, round_zero]

theorem zero_mul (sign : Bool) (y : Finite) :
    zero sign * finite y = zero (sign != y.negative) := by
  show round _ (0 * y.units) one = _
  rw [Nat.zero_mul, round_zero]

theorem zero_add_zero (sign : Bool) : zero sign + 0 = 0 := by
  rw [zero_eq]
  cases sign <;> rfl

theorem mapWhole_zero {rounding : Finite → Nat} {sign : Bool}
    (hrounding : rounding ⟨sign, 0, representable_zero⟩ = 0) :
    mapWhole rounding (zero sign) = zero sign := by
  show ofWhole sign (rounding _) = _
  rw [hrounding, ofWhole, Nat.zero_mul, round_zero]

theorem whole_eq_zero {x : Finite} (hunits : x.units = 0) : x.whole = 0 := by
  rw [Finite.whole, hunits, Nat.zero_div]

theorem wholeUp_eq_zero {x : Finite} (hunits : x.units = 0) : x.wholeUp = 0 := by
  have hone := one_pos
  rw [Finite.wholeUp, hunits]
  exact Nat.div_eq_of_lt (by omega)

theorem wholeNearest_eq_zero {x : Finite} (hunits : x.units = 0) : x.wholeNearest = 0 := by
  have hone := one_pos
  rw [Finite.wholeNearest, hunits]
  exact Nat.div_eq_of_lt (by omega)

theorem roundToWhole_zero (sign : Bool) : roundToWhole (zero sign) = zero sign :=
  mapWhole_zero (wholeNearest_eq_zero rfl)

theorem floor_zero (sign : Bool) : floor (zero sign) = zero sign := by
  apply mapWhole_zero
  cases sign
  · exact whole_eq_zero rfl
  · exact wholeUp_eq_zero rfl

theorem ceil_zero (sign : Bool) : ceil (zero sign) = zero sign := by
  apply mapWhole_zero
  cases sign
  · exact wholeUp_eq_zero rfl
  · exact whole_eq_zero rfl

/-! ## Negative zeros -/

theorem ofInt_ne_zero_true (n : Int) : ofInt n ≠ zero true := by
  intro hzero
  have hsign := (round_eq_finite_iff.1 hzero).1
  have hnegative : n < 0 := of_decide_eq_true hsign.symm
  refine round_ne_zero _ true ?_ hzero
  rw [Nat.div_one]
  exact Nat.mul_ne_zero (by omega) (Nat.ne_of_gt one_pos)

theorem add_zero_ne_zero_true (x : Binary64) : x + 0 ≠ zero true := by
  rw [zero_eq]
  cases x with
  | nan => exact nofun
  | infinite negative => exact nofun
  | finite x =>
    show x.add _ ≠ zero true
    unfold Finite.add
    dsimp only
    split
    · rw [Bool.and_false]
      exact fun heq => by simp [zero] at heq
    · rename_i hsum
      exact round_ne_zero _ true (by omega)

theorem ne_zero_true_of_pos {x : Binary64} (hpos : 0 < x) : x ≠ zero true := by
  rintro rfl
  rw [zero_eq] at hpos
  obtain ⟨a, b, ha, hb, hab⟩ := lt_iff.1 hpos
  cases ha
  cases hb
  exact Int.lt_irrefl 0 hab

/-! ## Whole numbers -/

theorem Finite.IsWhole.whole_mul_one {x : Finite} (hwhole : x.IsWhole) :
    x.whole * one = x.units :=
  Nat.div_mul_cancel (Nat.dvd_of_mod_eq_zero hwhole)

theorem ofWhole_whole {x : Finite} (hwhole : x.IsWhole) :
    ofWhole x.negative x.whole = finite x := by
  rw [ofWhole, hwhole.whole_mul_one, round_of_representable x.negative x.representable]

theorem Finite.natAbs_truncate (x : Finite) : x.truncate.natAbs = x.whole := by
  unfold truncate
  split <;> omega

theorem ofInt_truncate {x : Finite} (hwhole : x.IsWhole) (hzero : finite x ≠ zero true) :
    ofInt x.truncate = finite x := by
  have hsign : decide (x.truncate < 0) = x.negative := by
    unfold Finite.truncate
    cases hnegative : x.negative with
    | false => simp
    | true =>
      -- A negative value has a whole part, since it is no negative zero.
      have hunits : x.units ≠ 0 := fun h => hzero (hnegative ▸ eq_zero_of_units_eq_zero h)
      have hpos : x.whole ≠ 0 := fun h => hunits (by rw [← hwhole.whole_mul_one, h, Nat.zero_mul])
      simp only [if_true, decide_eq_true_eq]
      omega
  rw [ofInt, hsign, x.natAbs_truncate, ofWhole_whole hwhole]

end Binary64
end Espressivo
