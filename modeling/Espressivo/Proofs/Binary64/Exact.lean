import Espressivo.Binary64.Arithmetic
import Espressivo.Proofs.Binary64.Order

/-!
# Exact results

Rounding keeps what it can represent, so that whole numbers with a significand of 53 bits are values
themselves. A value that is at most a whole number stays so when it is made a byte.
-/

namespace Espressivo
namespace Binary64

theorem one_pos : 0 < one := by decide +kernel

theorem one_eq_two_pow : ∃ exponent, one = Nat.pow 2 exponent := ⟨1074, by decide +kernel⟩

theorem spacing_pos (units : Nat) : 0 < spacing units := Nat.two_pow_pos _

theorem roundHalfEven_mul {den : Nat} (hden : 0 < den) (n : Nat) :
    roundHalfEven (n * den) den = n := by
  have hquotient : n * den / den = n := Nat.mul_div_cancel n hden
  have hremainder : n * den % den = 0 := Nat.mul_mod_left n den
  simp only [roundHalfEven, hquotient, hremainder, Nat.mul_zero, if_pos (Or.inl hden)]

/-- The amount has a significand of at most 53 bits, however large it is. -/
def HasSignificand (units : Nat) : Prop :=
  ∃ significand exponent : Nat, significand < Nat.pow 2 53 ∧
    units = significand * Nat.pow 2 exponent

/-- A significand of 53 bits ends where the spacing begins. -/
theorem spacing_dvd {units : Nat} (hunits : HasSignificand units) : spacing units ∣ units := by
  obtain ⟨significand, exponent, hsignificand, hproduct⟩ := hunits
  by_cases hzero : units = 0
  · rw [hzero]
    exact Nat.dvd_zero _
  · have hlt : units < 2 ^ (53 + exponent) := by
      rw [hproduct, Nat.pow_add]
      exact Nat.mul_lt_mul_of_pos_right hsignificand (Nat.two_pow_pos exponent)
    have hlog : units.log2 < 53 + exponent := (Nat.log2_lt hzero).2 hlt
    have hpow : spacing units ∣ Nat.pow 2 exponent := Nat.pow_dvd_pow 2 (by omega)
    rw [hproduct] at hpow ⊢
    exact Nat.dvd_trans hpow (Nat.dvd_mul_left _ _)

theorem nearest_of_hasSignificand {units : Nat} (hunits : HasSignificand units) :
    nearest units 1 = units := by
  obtain ⟨steps, hsteps⟩ := spacing_dvd hunits
  have hround : roundHalfEven units (spacing units) = steps := by
    have hmul := roundHalfEven_mul (spacing_pos units) steps
    rwa [Nat.mul_comm, ← hsteps] at hmul
  simp only [nearest, Nat.div_one, Nat.one_mul, hround]
  rw [Nat.mul_comm, ← hsteps]

theorem round_of_representable {units : Nat} (negative : Bool) (hunits : Representable units) :
    round negative units 1 = finite ⟨negative, units, hunits⟩ := by
  have hnearest := nearest_of_hasSignificand hunits.2
  have hlimit : nearest units 1 < limit := by
    rw [hnearest]
    exact hunits.1
  unfold round
  rw [dif_pos hlimit]
  simp only [hnearest]

theorem representable_mul_one {n : Nat} (hn : n < Nat.pow 2 53) : Representable (n * one) := by
  obtain ⟨exponent, hone⟩ := one_eq_two_pow
  refine ⟨?_, n, exponent, hn, by rw [hone]⟩
  calc n * one < Nat.pow 2 53 * one := Nat.mul_lt_mul_of_pos_right hn one_pos
    _ ≤ limit := by decide +kernel

theorem ofNat_eq_finite {n : Nat} (hn : n < Nat.pow 2 53) :
    ofNat n = finite ⟨false, n * one, representable_mul_one hn⟩ :=
  round_of_representable false (representable_mul_one hn)

theorem position?_ofNat {n : Nat} (hn : n < Nat.pow 2 53) :
    (ofNat n).position? = some ((n * one : Nat) : Int) := by
  rw [ofNat_eq_finite hn]
  rfl

/-! ## Bytes -/

theorem truncate_le_of_position_le {x : Finite} {n : Nat}
    (hle : x.position ≤ ((n * one : Nat) : Int)) : x.truncate ≤ n := by
  unfold Finite.truncate
  split
  · omega
  · rename_i hpositive
    rw [Finite.position, if_neg hpositive] at hle
    have hunits : x.units ≤ one * n := by
      rw [Nat.mul_comm]
      exact Int.ofNat_le.1 hle
    exact Int.ofNat_le.2 (Nat.div_le_of_le_mul hunits)

/-- An infinite value is a byte only if it is negative, and then it is zero. -/
theorem toIntWithin_le {x : Binary64} {n : Nat} (hn : n < Nat.pow 2 53) (high : Int)
    (hle : x ≤ ofNat n) : x.toIntWithin 0 high ≤ n := by
  obtain ⟨a, b, hx, hb, hab⟩ := le_iff.1 hle
  rw [position?_ofNat hn] at hb
  cases hb
  cases x with
  | nan => cases hx
  | infinite negative =>
    cases hx
    cases negative with
    | true => exact Int.natCast_nonneg n
    | false =>
      have hlimit : n * one < limit := (representable_mul_one hn).1
      simp only [Bool.false_eq_true, if_false] at hab
      omega
  | finite x =>
    cases hx
    have htruncate := truncate_le_of_position_le hab
    simp only [toIntWithin]
    omega

theorem toUInt8_le {x : Binary64} {n : Nat} (hn : n < UInt8.size) (hle : x ≤ ofNat n) :
    x.toUInt8 ≤ UInt8.ofNat n := by
  have hint := toIntWithin_le (Nat.lt_trans hn (by decide)) 255 hle
  have hnat : (x.toIntWithin 0 255).toNat ≤ n := by omega
  exact (UInt8.ofNat_le_iff_le (Nat.lt_of_le_of_lt hnat hn) hn).2 hnat

end Binary64
end Espressivo
