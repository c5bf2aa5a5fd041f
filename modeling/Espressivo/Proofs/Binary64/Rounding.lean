import Mathlib.Tactic.Ring
import Espressivo.Proofs.Binary64.Whole

/-!
# Bounds of rounding

Rounding to nearest does not pass an amount that is representable, so that it is monotone there, and
it is off by half of the spacing at most. An amount of whole units is off by one part in `2 ^ 53` at
most, since below `2 ^ 53` units every amount is representable.
-/

namespace Espressivo
namespace Binary64

/-! ## Significands -/

theorem hasSignificand_mul_two_pow {n : Nat} (hn : n ≤ 2 ^ 53) (exponent : Nat) :
    HasSignificand (n * 2 ^ exponent) := by
  by_cases htop : n = 2 ^ 53
  · refine ⟨2 ^ 52, exponent + 1, by decide, ?_⟩
    show n * 2 ^ exponent = 2 ^ 52 * 2 ^ (exponent + 1)
    rw [htop, Nat.pow_succ 2 exponent]
    ring
  · exact ⟨n, exponent, Nat.lt_of_le_of_ne hn htop, rfl⟩

theorem hasSignificand_of_le {n : Nat} (hn : n ≤ 2 ^ 53) : HasSignificand n := by
  have hpow := hasSignificand_mul_two_pow hn 0
  rwa [Nat.pow_zero, Nat.mul_one] at hpow

theorem hasSignificand_two_pow_mul {units : Nat} (hunits : HasSignificand units) (exponent : Nat) :
    HasSignificand (2 ^ exponent * units) := by
  obtain ⟨significand, scale, hsignificand, rfl⟩ := hunits
  refine ⟨significand, exponent + scale, hsignificand, ?_⟩
  show 2 ^ exponent * (significand * 2 ^ scale) = significand * 2 ^ (exponent + scale)
  rw [Nat.pow_add, Nat.mul_left_comm]

theorem hasSignificand_of_mul_two_pow {n exponent : Nat}
    (hproduct : HasSignificand (n * 2 ^ exponent)) : HasSignificand n := by
  obtain ⟨significand, scale, hsignificand, heq⟩ := hproduct
  change n * 2 ^ exponent = significand * 2 ^ scale at heq
  rcases Nat.le_total exponent scale with hle | hle
  · obtain ⟨rest, rfl⟩ := Nat.exists_eq_add_of_le hle
    refine ⟨significand, rest, hsignificand,
      Nat.eq_of_mul_eq_mul_right (Nat.two_pow_pos exponent) ?_⟩
    show n * 2 ^ exponent = significand * 2 ^ rest * 2 ^ exponent
    rw [heq, Nat.pow_add]
    ring
  · obtain ⟨rest, rfl⟩ := Nat.exists_eq_add_of_le hle
    have hscaled : n * 2 ^ rest = significand := by
      refine Nat.eq_of_mul_eq_mul_right (Nat.two_pow_pos scale) ?_
      rw [← heq, Nat.pow_add]
      ring
    have hn : n ≤ significand := by
      rw [← hscaled]
      exact Nat.le_mul_of_pos_right n (Nat.two_pow_pos rest)
    exact hasSignificand_of_le (Nat.le_trans hn (Nat.le_of_lt hsignificand))

theorem hasSignificand_mul_one_iff {n : Nat} : HasSignificand (n * one) ↔ HasSignificand n := by
  obtain ⟨exponent, hone⟩ := one_eq_two_pow
  rw [hone]
  constructor
  · exact hasSignificand_of_mul_two_pow
  · intro hn
    have hproduct := hasSignificand_two_pow_mul hn exponent
    rw [Nat.mul_comm] at hproduct
    exact hproduct

theorem hasSignificand_iff_spacing_dvd {units : Nat} :
    HasSignificand units ↔ spacing units ∣ units := by
  constructor
  · exact spacing_dvd
  · intro hdvd
    exact ⟨units / spacing units, units.log2 - 52, div_spacing_lt units,
      (Nat.div_mul_cancel hdvd).symm⟩

instance : DecidablePred HasSignificand := fun _ =>
  decidable_of_iff _ hasSignificand_iff_spacing_dvd.symm

theorem log2_le_log2 {m n : Nat} (hm : m ≠ 0) (hle : m ≤ n) : m.log2 ≤ n.log2 :=
  (Nat.le_log2 (by omega)).2 (Nat.le_trans (Nat.log2_self_le hm) hle)

theorem spacing_dvd_spacing {m n : Nat} (hle : m ≤ n) : spacing m ∣ spacing n := by
  by_cases hm : m = 0
  · have hone : spacing m = 1 := by rw [hm]; rfl
    rw [hone]
    exact Nat.one_dvd _
  · have hlog := log2_le_log2 hm hle
    exact Nat.pow_dvd_pow 2 (by omega)

/-- A representable amount is not above the last multiple of the spacing at a larger one. -/
theorem le_div_spacing_mul {bound units : Nat} (hbound : HasSignificand bound)
    (hle : bound ≤ units) : bound ≤ units / spacing units * spacing units := by
  have hmultiple : ∀ amount, spacing units ∣ amount → amount ≤ units →
      amount ≤ units / spacing units * spacing units := by
    intro amount hdvd hamount
    obtain ⟨steps, rfl⟩ := hdvd
    rw [Nat.mul_comm] at hamount ⊢
    have hsteps := (Nat.le_div_iff_mul_le (spacing_pos units)).2 hamount
    exact Nat.mul_le_mul_right _ hsteps
  by_cases hzero : bound = 0
  · omega
  · have hunits : units ≠ 0 := by omega
    have hlog := log2_le_log2 hzero hle
    by_cases heq : bound.log2 = units.log2
    · refine hmultiple bound ?_ hle
      have hspacing : spacing bound = spacing units := by rw [spacing, spacing, heq]
      rw [← hspacing]
      exact spacing_dvd hbound
    · -- Then a power of two lies between the two amounts, which is a multiple of the spacing.
      have hpow : spacing units ∣ 2 ^ units.log2 := Nat.pow_dvd_pow 2 (Nat.sub_le _ _)
      have hbelow : bound < 2 ^ units.log2 := (Nat.log2_lt hzero).1 (by omega)
      exact Nat.le_trans (Nat.le_of_lt hbelow) (hmultiple _ hpow (Nat.log2_self_le hunits))

/-! ## Rounding to whole numbers -/

section

variable {num den : Nat}

theorem roundHalfEven_cases (num den : Nat) :
    (roundHalfEven num den = num / den ∧ 2 * (num % den) ≤ den) ∨
      (roundHalfEven num den = num / den + 1 ∧ den ≤ 2 * (num % den)) := by
  unfold roundHalfEven
  dsimp only
  split
  · exact Or.inl ⟨rfl, by omega⟩
  · exact Or.inr ⟨rfl, by omega⟩

theorem two_mul_roundHalfEven_le (num den : Nat) :
    2 * (roundHalfEven num den * den) ≤ 2 * num + den := by
  have hdivision := Nat.div_add_mod' num den
  rcases roundHalfEven_cases num den with ⟨hround, hremainder⟩ | ⟨hround, hremainder⟩
  · rw [hround]
    omega
  · have hsucc : (num / den + 1) * den = num / den * den + den := Nat.succ_mul _ _
    rw [hround, hsucc]
    omega

theorem two_mul_le_roundHalfEven (hden : 0 < den) (num : Nat) :
    2 * num ≤ 2 * (roundHalfEven num den * den) + den := by
  have hdivision := Nat.div_add_mod' num den
  rcases roundHalfEven_cases num den with ⟨hround, hremainder⟩ | ⟨hround, -⟩
  · rw [hround]
    omega
  · have hsucc : (num / den + 1) * den = num / den * den + den := Nat.succ_mul _ _
    have hremainder := Nat.mod_lt num hden
    rw [hround, hsucc]
    omega

theorem roundHalfEven_le_of_le {n : Nat} (hden : 0 < den) (hle : num ≤ n * den) :
    roundHalfEven num den ≤ n := by
  have hround := two_mul_roundHalfEven_le num den
  refine Nat.le_of_not_lt fun hlt => ?_
  have hsucc : (n + 1) * den ≤ roundHalfEven num den * den :=
    Nat.mul_le_mul_right den hlt
  rw [Nat.succ_mul] at hsucc
  omega

theorem roundHalfEven_mul_right {factor : Nat} (hfactor : 0 < factor) (num den : Nat) :
    roundHalfEven (num * factor) (den * factor) = roundHalfEven num den := by
  have hless : 2 * (num % den * factor) < den * factor ↔ 2 * (num % den) < den := by
    rw [← Nat.mul_assoc]
    exact Nat.mul_lt_mul_right hfactor
  have htie : 2 * (num % den * factor) = den * factor ↔ 2 * (num % den) = den := by
    rw [← Nat.mul_assoc]
    exact Nat.mul_left_inj (Nat.ne_of_gt hfactor)
  simp only [roundHalfEven, Nat.mul_div_mul_right num den hfactor, Nat.mul_mod_mul_right, hless,
    htie]

end

/-! ## Rounding to units -/

section

variable {num den bound : Nat}

theorem nearest_mul_right {factor : Nat} (hfactor : 0 < factor) (num den : Nat) :
    nearest (num * factor) (den * factor) = nearest num den := by
  simp only [nearest, Nat.mul_div_mul_right num den hfactor, Nat.mul_right_comm den factor,
    roundHalfEven_mul_right hfactor]

theorem nearest_le (hden : 0 < den) (hbound : HasSignificand bound) (hle : num ≤ bound * den) :
    nearest num den ≤ bound := by
  have hquotient : num / den ≤ bound := Nat.div_le_of_le_mul (by rwa [Nat.mul_comm])
  have hdvd := Nat.dvd_trans (spacing_dvd_spacing hquotient) (spacing_dvd hbound)
  have hstep := spacing_pos (num / den)
  unfold nearest
  dsimp only
  generalize spacing (num / den) = step at hdvd hstep
  obtain ⟨steps, rfl⟩ := hdvd
  rw [Nat.mul_comm step steps]
  refine Nat.mul_le_mul_right step (roundHalfEven_le_of_le (Nat.mul_pos hden hstep) ?_)
  calc num ≤ step * steps * den := hle
    _ = steps * (den * step) := by ring

theorem le_nearest (hden : 0 < den) (hbound : HasSignificand bound) (hle : bound * den ≤ num) :
    bound ≤ nearest num den := by
  have hquotient : bound ≤ num / den := (Nat.le_div_iff_mul_le hden).2 hle
  calc bound ≤ num / den / spacing (num / den) * spacing (num / den) :=
        le_div_spacing_mul hbound hquotient
    _ = num / (den * spacing (num / den)) * spacing (num / den) := by
        rw [Nat.div_div_eq_div_mul]
    _ ≤ nearest num den := Nat.mul_le_mul_right _ (le_roundHalfEven _ _)

/-- Twice the rounded amount is at most one spacing above twice the exact one. -/
theorem two_mul_nearest_le (num den : Nat) :
    2 * (nearest num den * den) ≤ 2 * num + den * spacing (num / den) := by
  have hround := two_mul_roundHalfEven_le num (den * spacing (num / den))
  calc 2 * (nearest num den * den)
      = 2 * (roundHalfEven num (den * spacing (num / den)) * (den * spacing (num / den))) := by
        unfold nearest
        ring
    _ ≤ 2 * num + den * spacing (num / den) := hround

theorem two_mul_le_nearest (hden : 0 < den) (num : Nat) :
    2 * num ≤ 2 * (nearest num den * den) + den * spacing (num / den) := by
  have hround := two_mul_le_roundHalfEven (Nat.mul_pos hden (spacing_pos (num / den))) num
  calc 2 * num
      ≤ 2 * (roundHalfEven num (den * spacing (num / den)) * (den * spacing (num / den))) +
          den * spacing (num / den) := hround
    _ = 2 * (nearest num den * den) + den * spacing (num / den) := by
        unfold nearest
        ring

/-! ## Whole units -/

/-- Beyond 53 bits the spacing is a small part of the amount. -/
theorem spacing_mul_le {units : Nat} (hlarge : 2 ^ 53 ≤ units) :
    spacing units * 2 ^ 52 ≤ units := by
  have hzero : units ≠ 0 := by omega
  have hlog : 53 ≤ units.log2 := (Nat.le_log2 hzero).2 hlarge
  calc spacing units * 2 ^ 52 = 2 ^ (units.log2 - 52 + 52) := by rw [Nat.pow_add]; rfl
    _ = 2 ^ units.log2 := by rw [Nat.sub_add_cancel (by omega)]
    _ ≤ units := Nat.log2_self_le hzero

theorem nearest_mul_le_add (units : Nat) : nearest units 1 * 2 ^ 53 ≤ units * 2 ^ 53 + units := by
  by_cases hsmall : units ≤ 2 ^ 53
  · rw [nearest_of_hasSignificand (hasSignificand_of_le hsmall)]
    exact Nat.le_add_right _ _
  · have hspacing := spacing_mul_le (Nat.le_of_not_le hsmall)
    have hround := two_mul_nearest_le units 1
    rw [Nat.div_one, Nat.mul_one, Nat.one_mul] at hround
    calc nearest units 1 * 2 ^ 53 = 2 * nearest units 1 * 2 ^ 52 := by ring
      _ ≤ (2 * units + spacing units) * 2 ^ 52 := Nat.mul_le_mul_right _ hround
      _ = units * 2 ^ 53 + spacing units * 2 ^ 52 := by ring
      _ ≤ units * 2 ^ 53 + units := Nat.add_le_add_left hspacing _

theorem mul_le_nearest_mul_add (units : Nat) :
    units * 2 ^ 53 ≤ nearest units 1 * 2 ^ 53 + units := by
  by_cases hsmall : units ≤ 2 ^ 53
  · rw [nearest_of_hasSignificand (hasSignificand_of_le hsmall)]
    exact Nat.le_add_right _ _
  · have hspacing := spacing_mul_le (Nat.le_of_not_le hsmall)
    have hround := two_mul_le_nearest Nat.one_pos units
    rw [Nat.div_one, Nat.mul_one, Nat.one_mul] at hround
    calc units * 2 ^ 53 = 2 * units * 2 ^ 52 := by ring
      _ ≤ (2 * nearest units 1 + spacing units) * 2 ^ 52 := Nat.mul_le_mul_right _ hround
      _ = nearest units 1 * 2 ^ 53 + spacing units * 2 ^ 52 := by ring
      _ ≤ nearest units 1 * 2 ^ 53 + units := Nat.add_le_add_left hspacing _

end

/-! ## Values -/

theorem round_mul_right {factor : Nat} (hfactor : 0 < factor) (negative : Bool) (num den : Nat) :
    round negative (num * factor) (den * factor) = round negative num den := by
  unfold round
  simp only [nearest_mul_right hfactor]

theorem representable_two_pow {exponent : Nat} (hlimit : 2 ^ exponent < limit) :
    Representable (2 ^ exponent) :=
  ⟨hlimit, 1, exponent, by decide, (Nat.one_mul _).symm⟩

theorem representable_whole {n : Nat} (hn : n ≤ 2 ^ 53) : Representable (n * one) := by
  obtain ⟨exponent, hone⟩ := one_eq_two_pow
  constructor
  · calc n * one ≤ 2 ^ 53 * one := Nat.mul_le_mul_right one hn
      _ < limit := by decide +kernel
  · rw [hone]
    exact hasSignificand_mul_two_pow hn exponent

theorem representable_power {n : Nat} (hn : n ≤ 1023) : Representable (2 ^ n * one) := by
  constructor
  · calc 2 ^ n * one ≤ 2 ^ 1023 * one :=
          Nat.mul_le_mul_right one (Nat.pow_le_pow_right Nat.two_pos hn)
      _ < limit := by decide +kernel
  · have hone : HasSignificand (1 * one) := (representable_whole (by decide)).2
    rw [Nat.one_mul] at hone
    exact hasSignificand_two_pow_mul hone n

/-- An integer of 63 bits is a value itself if its significand is short enough. -/
theorem exists_ofInt_eq_finite {n : Int} (hrange : n.natAbs < Nat.pow 2 63)
    (hn : HasSignificand n.natAbs) : ∃ x, ofInt n = finite x ∧ x.IsWhole ∧ x.truncate = n := by
  have hrepresentable : Representable (n.natAbs * one) := by
    constructor
    · calc n.natAbs * one < Nat.pow 2 63 * one := Nat.mul_lt_mul_of_pos_right hrange one_pos
        _ ≤ limit := by decide +kernel
    · exact hasSignificand_mul_one_iff.2 hn
  refine ⟨_, round_of_representable _ hrepresentable, Nat.mul_mod_left _ _, ?_⟩
  have hwhole : n.natAbs * one / one = n.natAbs := Nat.mul_div_cancel _ one_pos
  simp only [Finite.truncate, Finite.whole, hwhole, decide_eq_true_eq]
  omega

/-! ## Bounded values -/

/-- The value is finite, and at most some units away from zero. -/
def Within (bound : Nat) (x : Binary64) : Prop := ∃ q : Finite, x = finite q ∧ q.units ≤ bound

theorem Within.isFinite {bound : Nat} {x : Binary64} (hx : x.Within bound) : x.isFinite := by
  obtain ⟨q, rfl, -⟩ := hx
  rfl

theorem Within.abs_le {bound : Finite} {x : Binary64} (hx : x.Within bound.units)
    (hbound : bound.negative = false) : x.abs ≤ finite bound := by
  obtain ⟨q, rfl, hunits⟩ := hx
  have hposition : bound.position = bound.units := by simp [Finite.position, hbound]
  exact le_iff.2 ⟨q.units, bound.units, rfl, congrArg some hposition, Int.ofNat_le.2 hunits⟩

/-- Rounding does not pass a representable amount. -/
theorem within_round {negative : Bool} {num den bound : Nat} (hden : 0 < den)
    (hbound : Representable bound) (hle : num ≤ bound * den) :
    (round negative num den).Within bound := by
  have hnearest := nearest_le hden hbound.2 hle
  have hlimit := Nat.lt_of_le_of_lt hnearest hbound.1
  unfold round
  rw [dif_pos hlimit]
  exact ⟨_, rfl, hnearest⟩

theorem within_add {x y : Finite} {bound : Nat} (hbound : Representable bound)
    (hsum : (x.position + y.position).natAbs ≤ bound) : (finite x + finite y).Within bound := by
  show (x.add y).Within bound
  unfold Finite.add
  dsimp only
  split
  · exact ⟨_, rfl, Nat.zero_le _⟩
  · exact within_round Nat.one_pos hbound (by rwa [Nat.mul_one])

/-- The distance of values on the same side of zero, rounded, does not pass a bound. -/
theorem within_sub {x y : Finite} {bound : Nat} (hbound : Representable bound)
    (hsign : x.negative = y.negative) (hup : x.units ≤ y.units + bound)
    (hdown : y.units ≤ x.units + bound) : (finite x - finite y).Within bound := by
  refine within_add hbound ?_
  simp only [Finite.position, hsign]
  cases y.negative with
  | false => simp; omega
  | true => simp; omega

end Binary64
end Espressivo
