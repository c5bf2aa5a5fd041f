import Espressivo.Proofs.Binary64.Whole

/-!
# Roundings to whole numbers

Rounding a finite value down, up or to nearest gives a finite value again, without any error: from
`2 ^ 52` on every value is whole, and below that whole numbers are representable.
-/

namespace Espressivo
namespace Binary64

variable {x : Finite}

theorem isWhole_of_large (hlarge : Nat.pow 2 52 * one ≤ x.units) : x.IsWhole := by
  obtain ⟨exponent, hone⟩ := one_eq_two_pow
  have hunits : x.units ≠ 0 := by
    have hpos : 0 < Nat.pow 2 52 * one := Nat.mul_pos (Nat.two_pow_pos 52) one_pos
    omega
  have hpow : 2 ^ (52 + exponent) ≤ x.units := by
    rw [Nat.pow_add]
    rw [hone] at hlarge
    exact hlarge
  have hlog := (Nat.le_log2 hunits).2 hpow
  have hdvd : one ∣ spacing x.units := by
    rw [hone]
    exact Nat.pow_dvd_pow 2 (by omega)
  exact Nat.mod_eq_zero_of_dvd (Nat.dvd_trans hdvd (spacing_dvd x.representable.2))

/-! ## Bounds -/

theorem le_of_mul_one_lt {m n : Nat} (hlt : m * one < n * one + one) : m ≤ n := by
  rw [← Nat.succ_mul] at hlt
  exact Nat.le_of_lt_succ (Nat.lt_of_mul_lt_mul_right hlt)

theorem whole_mul_one_le (x : Finite) : x.whole * one ≤ x.units := Nat.div_mul_le_self _ _

theorem units_lt_whole_mul_one (x : Finite) : x.units < x.whole * one + one := by
  have hdivision := Nat.div_add_mod' x.units one
  have hremainder := Nat.mod_lt x.units one_pos
  rw [Finite.whole]
  omega

theorem wholeUp_mul_one_lt (x : Finite) : x.wholeUp * one < x.units + one := by
  have hdivision := Nat.div_mul_le_self (x.units + (one - 1)) one
  have hone := one_pos
  rw [Finite.wholeUp]
  omega

theorem units_le_wholeUp_mul_one (x : Finite) : x.units ≤ x.wholeUp * one := by
  have hdivision := Nat.div_add_mod' (x.units + (one - 1)) one
  have hremainder := Nat.mod_lt (x.units + (one - 1)) one_pos
  have hone := one_pos
  rw [← Finite.wholeUp] at hdivision
  omega

theorem whole_le_wholeUp (x : Finite) : x.whole ≤ x.wholeUp :=
  Nat.div_le_div_right (Nat.le_add_right _ _)

theorem wholeUp_le_whole_add_one (x : Finite) : x.wholeUp ≤ x.whole + 1 := by
  have hup := wholeUp_mul_one_lt x
  have hdown := units_lt_whole_mul_one x
  refine le_of_mul_one_lt ?_
  rw [Nat.succ_mul]
  omega

theorem wholeUp_of_isWhole (hwhole : x.IsWhole) : x.wholeUp = x.whole := by
  have hup := wholeUp_mul_one_lt x
  refine Nat.le_antisymm (le_of_mul_one_lt ?_) (whole_le_wholeUp x)
  rwa [hwhole.whole_mul_one]

theorem two_mul_units_lt_wholeNearest (x : Finite) :
    2 * x.units < 2 * (x.wholeNearest * one) + one := by
  have hdivision := Nat.div_add_mod' (2 * x.units + one) (2 * one)
  have hremainder := Nat.mod_lt (2 * x.units + one) (Nat.mul_pos Nat.two_pos one_pos)
  have hassoc : x.wholeNearest * (2 * one) = 2 * (x.wholeNearest * one) := Nat.mul_left_comm _ _ _
  rw [← Finite.wholeNearest, hassoc] at hdivision
  omega

theorem two_mul_wholeNearest_le_units (x : Finite) :
    2 * (x.wholeNearest * one) ≤ 2 * x.units + one := by
  have hdivision := Nat.div_mul_le_self (2 * x.units + one) (2 * one)
  have hassoc : x.wholeNearest * (2 * one) = 2 * (x.wholeNearest * one) := Nat.mul_left_comm _ _ _
  rwa [← Finite.wholeNearest, hassoc] at hdivision

theorem whole_le_wholeNearest (x : Finite) : x.whole ≤ x.wholeNearest := by
  have hdown := whole_mul_one_le x
  have hnearest := two_mul_units_lt_wholeNearest x
  exact le_of_mul_one_lt (by omega)

theorem wholeNearest_le_wholeUp (x : Finite) : x.wholeNearest ≤ x.wholeUp := by
  have hnearest := two_mul_wholeNearest_le_units x
  have hup := units_le_wholeUp_mul_one x
  have hone := one_pos
  exact le_of_mul_one_lt (by omega)

/-- A value that is off a whole number by less than a half is rounded to it. -/
theorem wholeNearest_eq {n distance : Nat} (hup : x.units ≤ n * one + distance)
    (hdown : n * one ≤ x.units + distance) (hdistance : 2 * distance < one) :
    x.wholeNearest = n := by
  have hbelow := two_mul_units_lt_wholeNearest x
  have habove := two_mul_wholeNearest_le_units x
  exact Nat.le_antisymm (le_of_mul_one_lt (by omega)) (le_of_mul_one_lt (by omega))

/-! ## Values -/

/-- What lies between the two whole numbers next to a value is reached without a rounding error. -/
theorem ofWhole_eq_finite {n : Nat} (hdown : x.whole ≤ n) (hup : n ≤ x.wholeUp) :
    ∃ w : Finite, ofWhole x.negative n = finite w ∧ w.negative = x.negative ∧
      w.units = n * one := by
  by_cases hlarge : Nat.pow 2 52 * one ≤ x.units
  · have hwhole := isWhole_of_large hlarge
    rw [wholeUp_of_isWhole hwhole] at hup
    rw [Nat.le_antisymm hup hdown]
    exact ⟨x, ofWhole_whole hwhole, rfl, hwhole.whole_mul_one.symm⟩
  · have hless : x.whole * one < Nat.pow 2 52 * one :=
      Nat.lt_of_le_of_lt (whole_mul_one_le x) (Nat.not_le.1 hlarge)
    have hwhole : x.whole < Nat.pow 2 52 := Nat.lt_of_mul_lt_mul_right hless
    have hn : n < Nat.pow 2 53 :=
      calc n ≤ x.whole + 1 := Nat.le_trans hup (wholeUp_le_whole_add_one x)
        _ ≤ Nat.pow 2 52 := hwhole
        _ < Nat.pow 2 53 := by decide
    exact ⟨_, round_of_representable x.negative (representable_mul_one hn), rfl, rfl⟩

end Binary64
end Espressivo
