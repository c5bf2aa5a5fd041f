import Espressivo.Proofs.Binary64.SumProduct
import Espressivo.Proofs.Timing.Fraction

/-!
# Recovered fractions

Fractions with denominators of the search are too far apart for one of them to be taken for another,
so that the search finds a fraction that was rounded to a value again, and in lowest terms, as no
smaller denominator has a multiple of it.
-/

namespace Espressivo
namespace Fraction

open Binary64

/-! ## Quotients of whole numbers -/

section

variable {n d : Nat}

theorem ofWhole_div_ofNat (hn : n < Nat.pow 2 53) (hpos : 0 < d) (hd : d < Nat.pow 2 53)
    (negative : Bool) : ofWhole negative n / ofNat d = round negative (n * one) d := by
  have hwhole : ofWhole negative n = finite ⟨negative, n * one, representable_mul_one hn⟩ :=
    round_of_representable negative (representable_mul_one hn)
  obtain ⟨q, hq, hnegative, hunits⟩ := exists_ofNat_eq hd
  have hqPos : 0 < q.units := by
    rw [hunits]
    exact Nat.mul_pos hpos Binary64.one_pos
  rw [hwhole, hq, div_eq_round hnegative hqPos, hunits]
  exact round_mul_right Binary64.one_pos negative (n * one) d

/-- Common factors do not show in a quotient. -/
theorem round_reduced {factor : Nat} (hfactor : 0 < factor) (negative : Bool) (n d : Nat) :
    round negative (factor * n * one) (factor * d) = round negative (n * one) d := by
  rw [Nat.mul_assoc, Nat.mul_comm factor, Nat.mul_comm factor, round_mul_right hfactor]

theorem exists_round_eq_finite (hn : n ≤ 2 ^ 32) (hpos : 0 < d) (hd : d ≤ maxDenominator) :
    ∃ x : Finite, round false (n * one) d = finite x ∧ x.negative = false ∧ x.Rounds (n / d) := by
  have hnPow : n < Nat.pow 2 53 := Nat.lt_of_le_of_lt hn (by decide)
  have hdPow : d < Nat.pow 2 53 := Nat.lt_of_le_of_lt hd (by decide)
  obtain ⟨w, hw, hwNegative, hwUnits⟩ := exists_ofNat_eq hnPow
  obtain ⟨q, hq, hqNegative, hqUnits⟩ := exists_ofNat_eq hdPow
  obtain ⟨x, hx, hnegative, hrounds⟩ := rounds_div_of_whole hwNegative hqNegative hwUnits hqUnits
    (Nat.le_trans hn (by decide)) hpos (Nat.le_trans hd (by decide))
  refine ⟨x, ?_, hnegative, hrounds⟩
  rw [← ofWhole_div_ofNat hnPow hpos hdPow, ← ofNat, hw, hq, hx]

end

/-! ## Matches -/

/-- Different fractions with denominators of the search are far apart. -/
theorem mul_eq_of_near {m n q d : Nat} (hq : 0 < q) (hqMax : q ≤ maxDenominator) (hd : 0 < d)
    (hdMax : d ≤ maxDenominator) (hnear : |(m / q - n / d : ℚ)| < 1 / 192 ^ 2) :
    m * d = n * q := by
  have hq' : (0 : ℚ) < q := Nat.cast_pos.2 hq
  have hd' : (0 : ℚ) < d := Nat.cast_pos.2 hd
  have hproduct : (q * d : ℚ) ≤ 192 ^ 2 := by exact_mod_cast Nat.mul_le_mul hqMax hdMax
  have hcross : (m / q - n / d : ℚ) = (m * d - n * q) / (q * d) := by
    rw [div_sub_div _ _ hq'.ne' hd'.ne', mul_comm (q : ℚ) n]
  rw [hcross, abs_div, abs_of_pos (mul_pos hq' hd'),
    div_lt_div_iff₀ (mul_pos hq' hd') (by norm_num), one_mul] at hnear
  have hone : |(m * d - n * q : ℚ)| < 1 := by linarith
  have hint : |(m * d - n * q : Int)| < 1 := by exact_mod_cast hone
  rw [Int.abs_lt_one_iff] at hint
  exact_mod_cast Int.sub_eq_zero.1 hint

section

variable {x : Finite} {n d : Nat} (hnegative : x.negative = false) (hrounds : x.Rounds (n / d))
  (hn : n ≤ 2 ^ 32) (hpos : 0 < d) (hd : d ≤ maxDenominator)

include hnegative hrounds hn hpos

theorem units_mul_le {q : Nat} (hq : q ≤ maxDenominator) : x.units * q ≤ 2 ^ 41 * one := by
  have hn' : (n : ℚ) ≤ 2 ^ 32 := by exact_mod_cast hn
  have hquotient : (n / d : ℚ) ≤ n := div_le_self (Nat.cast_nonneg n) (by exact_mod_cast hpos)
  have hup := hrounds.le
  have hunits : x.units < 2 ^ 33 * one := by
    refine units_lt_of_toRat_lt hnegative ?_
    push_cast
    linarith
  calc x.units * q ≤ 2 ^ 33 * one * 2 ^ 8 :=
        Nat.mul_le_mul hunits.le (Nat.le_trans hq (by decide))
    _ = 2 ^ 41 * one := by rw [Nat.mul_right_comm, ← Nat.pow_add]

include hd

/-- The denominator of the fraction has the numerator of the fraction. -/
theorem numerator_eq : numerator (finite x) d = ofNat n := by
  obtain ⟨q, hq, hqNegative, hqUnits⟩ := exists_ofNat_eq (Nat.lt_of_le_of_lt hd (by decide))
  have hproduct : d * x.units ≤ 2 ^ 41 * one := by
    rw [Nat.mul_comm]
    exact units_mul_le hnegative hrounds hn hpos hd
  obtain ⟨z, hz, hzNegative, hzRounds⟩ := rounds_mul_of_whole hqNegative hnegative hqUnits
    (representable_power (by decide)) hproduct
  have hd' : (0 : ℚ) < d := Nat.cast_pos.2 hpos
  have hn' : (n : ℚ) ≤ 2 ^ 32 := by exact_mod_cast hn
  have hnNonneg : (0 : ℚ) ≤ n := Nat.cast_nonneg n
  have hexact : (d * (n / d) : ℚ) = n := mul_div_cancel₀ _ hd'.ne'
  have hup := mul_le_mul_of_nonneg_left hrounds.le hd'.le
  have hdown := mul_le_mul_of_nonneg_left hrounds.ge hd'.le
  have hzUp := hzRounds.le
  have hzDown := hzRounds.ge
  have hnear : |z.toRat - n| < 1 / 2 := by
    rw [abs_lt]
    constructor <;> linarith
  rw [numerator, hq, finite_mul_comm, hz]
  show ofWhole z.negative z.wholeNearest = ofNat n
  rw [hzNegative, wholeNearest_of_near hzNegative hnear]
  rfl

/-- Another denominator matches only with the same fraction. -/
theorem exists_mul_eq_of_matches {q : Nat} (hnPos : 0 < n) (hq : 0 < q) (hqMax : q ≤ maxDenominator)
    (hmatch : Matches (finite x) q) : ∃ m, m * d = n * q := by
  obtain ⟨tolerance, htolerance, -, htoleranceRounds, -⟩ := exists_tolerance_eq
  have hd' : (0 : ℚ) < d := Nat.cast_pos.2 hpos
  have hdMax : (d : ℚ) ≤ 192 := by exact_mod_cast hd
  have hnOne : (1 : ℚ) ≤ n := by exact_mod_cast hnPos
  have hn' : (n : ℚ) ≤ 2 ^ 32 := by exact_mod_cast hn
  have hleast : (1 / 192 : ℚ) ≤ n / d := by
    rw [div_le_div_iff₀ (by norm_num) hd']
    linarith
  have hmost : (n / d : ℚ) ≤ n := div_le_self (Nat.cast_nonneg n) (by exact_mod_cast hpos)
  obtain ⟨hdown, hup⟩ := abs_le.1 hrounds
  -- a value below the tolerance would match zero, which is not the fraction
  have hlow : (1e-9 : Binary64) ≤ finite x := by
    have htoleranceUp := htoleranceRounds.le
    rw [htolerance, ← toRat_le_toRat_iff]
    linarith
  obtain ⟨w, m, hw, hwNegative, hwUnits, hm⟩ := exists_numerator_eq hnegative
    (Nat.lt_of_le_of_lt hqMax (by decide)) (by decide)
    (units_mul_le hnegative hrounds hn hpos hqMax)
  obtain ⟨-, hnear⟩ := near_of_matches hlow hq hqMax hw hwNegative hwUnits
    (Nat.lt_of_le_of_lt hm (by decide)) hmatch
  obtain ⟨hnearDown, hnearUp⟩ := abs_lt.1 hnear
  refine ⟨m, mul_eq_of_near hq hqMax hpos hd ?_⟩
  rw [abs_lt]
  constructor <;> linarith

/-- The quotient of the numerator and the denominator is the value itself. -/
theorem matches_of_eq (hx : ofNat n / ofNat d = finite x) : Matches (finite x) d := by
  rw [Matches, numerator_eq hnegative hrounds hn hpos hd, hx, abs_sub_self]
  decide +kernel

/-- The search ends at the denominator of a fraction in lowest terms. -/
theorem denominator?_eq (hx : ofNat n / ofNat d = finite x) (hcoprime : n.Coprime d) :
    denominator? (finite x) = some d := by
  unfold denominator?
  rw [List.find?_range'_eq_some]
  refine ⟨decide_eq_true (matches_of_eq hnegative hrounds hn hpos hd hx),
    List.mem_range'_1.2 ⟨hpos, by omega⟩, fun q hq hlt => ?_⟩
  have hnPos : 0 < n := Nat.pos_of_ne_zero fun hzero => by
    rw [hzero, Nat.coprime_zero_left] at hcoprime
    omega
  rw [Bool.not_eq_true', decide_eq_false_iff_not]
  intro hmatch
  obtain ⟨m, hm⟩ := exists_mul_eq_of_matches hnegative hrounds hn hpos hd hnPos hq
    (Nat.le_trans hlt.le hd) hmatch
  -- only multiples of `d` are denominators of the fraction, and none of them is below `d`
  have hdvd : d ∣ q := hcoprime.symm.dvd_of_dvd_mul_left ⟨m, by rw [← hm, Nat.mul_comm]⟩
  exact Nat.not_lt.2 (Nat.le_of_dvd hq hdvd) hlt

end

/-! ## Signs -/

theorem numerator_opposite (x : Finite) (q : Nat) :
    numerator (finite x.opposite) q = -numerator (finite x) q := by
  rw [numerator, numerator, ← neg_finite, neg_mul, roundToWhole_neg]

theorem matches_opposite (x : Finite) (q : Nat) :
    Matches (finite x.opposite) q ↔ Matches (finite x) q := by
  rw [Matches, Matches, numerator_opposite, neg_div, ← neg_finite, abs_neg_sub_neg]

theorem denominator?_opposite (x : Finite) :
    denominator? (finite x.opposite) = denominator? (finite x) := by
  unfold denominator?
  simp only [matches_opposite]

theorem toInt64?_ofWhole {n : Nat} (hn : n ≤ 2 ^ 32) (negative : Bool) :
    (ofWhole negative n).toInt64? = some (signed negative n) := by
  have hrepresentable := representable_mul_one (Nat.lt_of_le_of_lt hn (by decide))
  have hwhole : ofWhole negative n = finite ⟨negative, n * one, hrepresentable⟩ :=
    round_of_representable negative hrepresentable
  have htruncate : Finite.truncate ⟨negative, n * one, hrepresentable⟩ = signed negative n := by
    rw [Finite.truncate, Finite.whole, Nat.mul_div_cancel n Binary64.one_pos]
    rfl
  have hrange : -(Nat.pow 2 63 : Int) ≤ signed negative n ∧ signed negative n < Nat.pow 2 63 := by
    have hpow : Nat.pow 2 63 = 9223372036854775808 := rfl
    rw [hpow]
    cases negative with
    | false =>
      rw [signed_false]
      omega
    | true =>
      rw [signed_true]
      omega
  rw [hwhole, toInt64?, htruncate, if_pos hrange]

/-! ## Recovery -/

theorem ofBinary64?_round {n d : Nat} (hn : n ≤ 2 ^ 32) (hpos : 0 < d) (hd : d ≤ maxDenominator)
    (hcoprime : n.Coprime d) (negative : Bool) :
    denominator? (round negative (n * one) d) = some d ∧
      ofBinary64? (round negative (n * one) d) = some (mkRat (signed negative n) d) := by
  obtain ⟨x, hx, hnegative, hrounds⟩ := exists_round_eq_finite hn hpos hd
  have hvalue : ofNat n / ofNat d = finite x := by
    rw [ofNat, ofWhole_div_ofNat (Nat.lt_of_le_of_lt hn (by decide)) hpos
      (Nat.lt_of_le_of_lt hd (by decide)), hx]
  have hnumerator := numerator_eq hnegative hrounds hn hpos hd
  have hdenominator := denominator?_eq hnegative hrounds hn hpos hd hvalue hcoprime
  cases negative with
  | false =>
    rw [hx]
    refine ⟨hdenominator, ?_⟩
    rw [ofBinary64?_finite, hdenominator, withDenominator?, hnumerator, ofNat, toInt64?_ofWhole hn,
      Option.map_some]
  | true =>
    have hopposite : round true (n * one) d = finite x.opposite := by
      rw [← neg_finite, ← hx, neg_round, Bool.not_false]
    have hturned : -ofNat n = ofWhole true n := neg_round false (n * one) 1
    rw [hopposite]
    refine ⟨(denominator?_opposite x).trans hdenominator, ?_⟩
    rw [ofBinary64?_finite, denominator?_opposite, hdenominator, withDenominator?,
      numerator_opposite, hnumerator, hturned, toInt64?_ofWhole hn, Option.map_some]

/-- The search recovers a fraction from the quotient of its terms, and ends at its denominator in
lowest terms. -/
theorem ofBinary64?_quotient {p : Int} {d : Nat} (hp : p.natAbs ≤ 2 ^ 32) (hpos : 0 < d)
    (hd : d ≤ maxDenominator) :
    denominator? (.ofInt p / .ofNat d) = some (p / d : ℚ).den ∧
      ofBinary64? (.ofInt p / .ofNat d) = some (p / d : ℚ) := by
  obtain ⟨n, q, hcoprime, hn, hq⟩ := Nat.exists_coprime p.natAbs d
  have hfactor : 0 < p.natAbs.gcd d := Nat.gcd_pos_of_pos_right _ hpos
  generalize p.natAbs.gcd d = factor at hn hq hfactor
  have hqPos : 0 < q := Nat.pos_of_mul_pos_right (hq ▸ hpos)
  have hnMax : n ≤ 2 ^ 32 := Nat.le_trans (hn ▸ Nat.le_mul_of_pos_right n hfactor) hp
  have hqMax : q ≤ maxDenominator := Nat.le_trans (hq ▸ Nat.le_mul_of_pos_right q hfactor) hd
  have hvalue : ofInt p / ofNat d = round (p < 0) (n * one) q := by
    rw [ofInt, ofWhole_div_ofNat (Nat.lt_of_le_of_lt hp (by decide)) hpos
      (Nat.lt_of_le_of_lt hd (by decide)), hn, hq, Nat.mul_comm n, Nat.mul_comm q,
      round_reduced hfactor]
  have hsigned : signed (p < 0) n * factor = p := by
    rw [← signed_mul, ← hn, signed_natAbs]
  have hfraction : (p / d : ℚ) = (signed (p < 0) n : Int) / (q : Int) := by
    have hfactor' : (factor : ℚ) ≠ 0 := Nat.cast_ne_zero.2 hfactor.ne'
    rw [← mul_div_mul_right ((signed (p < 0) n : Int) : ℚ) ((q : Int) : ℚ) hfactor',
      Int.cast_natCast, ← Nat.cast_mul, ← hq]
    congr 1
    exact_mod_cast hsigned.symm
  have hden : (p / d : ℚ).den = q := by
    have hcoprime' : (signed (p < 0) n).natAbs.Coprime (q : Int).natAbs := by
      rwa [natAbs_signed, Int.natAbs_natCast]
    rw [hfraction]
    exact_mod_cast Rat.den_div_eq_of_coprime (Int.natCast_pos.2 hqPos) hcoprime'
  obtain ⟨hdenominator, hfound⟩ := ofBinary64?_round hnMax hqPos hqMax hcoprime (p < 0)
  rw [hvalue, hden, hfraction, Int.cast_natCast, ← Rat.mkRat_eq_div]
  exact ⟨hdenominator, hfound⟩

/-- The search passes all smaller denominators, also those of fractions nearby. -/
theorem ofBinary64?_quotient_negative :
    (-4294967294 : Int).natAbs ≤ 2 ^ 32 ∧ 0 < 192 ∧ 192 ≤ maxDenominator ∧
      denominator? (.ofInt (-4294967294) / .ofNat 192) = some 96 ∧
      ofBinary64? (.ofInt (-4294967294) / .ofNat 192) = some (-2147483647 / 96) := by
  have hp : (-4294967294 : Int).natAbs ≤ 2 ^ 32 := by decide
  obtain ⟨hdenominator, hfound⟩ :=
    ofBinary64?_quotient hp (by decide : 0 < 192) (by decide : 192 ≤ maxDenominator)
  have hfraction : ((-4294967294 : Int) / (192 : Nat) : ℚ) = -2147483647 / 96 := by norm_num
  have hden : (-2147483647 / 96 : ℚ).den = 96 := by decide +kernel
  rw [hfraction] at hdenominator hfound
  rw [hden] at hdenominator
  exact ⟨hp, by decide, by decide, hdenominator, hfound⟩

end Fraction
end Espressivo
