import Mathlib.Data.Nat.Fib.Basic
import Espressivo.Timing.Fraction
import Espressivo.Proofs.Binary64.Rational

/-!
# Accuracy of the continued fraction

The expansion of a value keeps its last two convergents and the rest that is still to be expanded,
which together give the value back. Taking the whole part of the rest away is exact, so that a step
adds the rounding error of one reciprocal and no more. However the expansion ends, the last
convergent is then close to the value: its denominator is at least a Fibonacci number.
-/

namespace Espressivo
namespace Fraction
namespace Convergent

open Binary64 (Finite finite one)

/-- The convergent as a number. -/
def value (c : Convergent) : ℚ := c.num / c.den

/-- The convergent that follows for a partial quotient. -/
def advance (previous current : Convergent) (a : Nat) : Convergent :=
  ⟨a * current.num + previous.num, a * current.den + previous.den⟩

/-- The number whose expansion continues two convergents with a rest. -/
def resume (previous current : Convergent) (rest : ℚ) : ℚ :=
  (rest * current.num + previous.num) / (rest * current.den + previous.den)

/-- Neighbouring convergents: their terms have the determinant one or minus one. -/
def Adjacent (previous current : Convergent) : Prop :=
  |(current.num * previous.den - previous.num * current.den : ℤ)| = 1

section

variable {previous current : Convergent} {a : Nat} {s t : ℚ}

theorem adjacent_advance (hadjacent : Adjacent previous current) (a : Nat) :
    Adjacent current (advance previous current a) := by
  have hdet : ((advance previous current a).num * current.den -
      current.num * (advance previous current a).den : ℤ) =
      -(current.num * previous.den - previous.num * current.den) := by
    simp only [advance]
    push_cast
    ring
  rw [Adjacent, hdet, abs_neg]
  exact hadjacent

theorem Adjacent.reduce_eq (hadjacent : Adjacent previous current) : current.reduce = current := by
  have hdvd : (current.num.gcd current.den : ℤ) ∣ 1 := by
    rw [← hadjacent, dvd_abs]
    exact dvd_sub (Dvd.dvd.mul_right (Int.natCast_dvd_natCast.2 (Nat.gcd_dvd_left ..)) _)
      (Dvd.dvd.mul_left (Int.natCast_dvd_natCast.2 (Nat.gcd_dvd_right ..)) _)
  have hgcd : current.num.gcd current.den = 1 :=
    Nat.eq_one_of_dvd_one (Int.natCast_dvd_natCast.1 hdvd)
  simp [reduce, hgcd]

theorem Adjacent.abs_det (hadjacent : Adjacent previous current) :
    |(current.num * previous.den - previous.num * current.den : ℚ)| = 1 := by
  exact_mod_cast congrArg (Int.cast : ℤ → ℚ) hadjacent

theorem value_advance (previous current : Convergent) (a : Nat) :
    (advance previous current a).value = resume previous current a := by
  simp [value, advance, resume]

/-- Two rests that continue the same convergents. -/
theorem Adjacent.abs_resume_sub (hadjacent : Adjacent previous current)
    (hs : 0 < s * current.den + previous.den) (ht : 0 < t * current.den + previous.den) :
    |resume previous current s - resume previous current t| =
      |s - t| / ((s * current.den + previous.den) * (t * current.den + previous.den)) := by
  have hdifference : resume previous current s - resume previous current t =
      (s - t) * (current.num * previous.den - previous.num * current.den) /
        ((s * current.den + previous.den) * (t * current.den + previous.den)) := by
    unfold resume
    rw [div_sub_div _ _ hs.ne' ht.ne']
    ring
  rw [hdifference, abs_div, abs_mul, hadjacent.abs_det, mul_one, abs_of_pos (mul_pos hs ht)]

/-- The distance to the last convergent. -/
theorem Adjacent.abs_resume_sub_value (hadjacent : Adjacent previous current)
    (hcurrent : 0 < current.den) (hs : 0 < s * current.den + previous.den) :
    |resume previous current s - current.value| =
      1 / (current.den * (s * current.den + previous.den)) := by
  have hden : (0 : ℚ) < current.den := Nat.cast_pos.2 hcurrent
  have hdifference : resume previous current s - current.value =
      -(current.num * previous.den - previous.num * current.den) /
        (current.den * (s * current.den + previous.den)) := by
    unfold resume value
    rw [div_sub_div _ _ hs.ne' hden.ne']
    ring
  rw [hdifference, abs_div, abs_neg, hadjacent.abs_det, abs_of_pos (mul_pos hden hs)]

/-- Expanding a rest by its whole part continues with the reciprocal of what is left. -/
theorem resume_advance (previous current : Convergent) (a : Nat) {fraction : ℚ}
    (hfraction : 0 < fraction) :
    resume current (advance previous current a) (1 / fraction) =
      resume previous current (a + fraction) := by
  have hne := hfraction.ne'
  have hterm : ∀ x y : ℚ, 1 / fraction * (a * x + y) + x = ((a + fraction) * x + y) / fraction := by
    intro x y
    field_simp
    ring
  simp only [resume, advance, Nat.cast_add, Nat.cast_mul, hterm]
  exact div_div_div_cancel_right₀ hne _ _

end

/-! ## Steps of the expansion -/

/-- An expansion after some steps: the rest continues the last two convergents with the number that
is expanded, but for one rounding error in each step. -/
structure Expands (exact : ℚ) (steps : Nat) (rest : ℚ) (previous current : Convergent) : Prop where
  adjacent : Adjacent previous current
  rest_nonneg : 0 ≤ rest
  one_le_rest : 1 ≤ rest ∨ current.den = 0
  fib_le : steps.fib ≤ current.den
  fib_succ_le : (steps + 1).fib ≤ current.den + previous.den
  near : |resume previous current rest - exact| ≤ steps / 2 ^ 53

section

variable {exact rest fraction next : ℚ} {steps a : Nat} {previous current : Convergent}

theorem expands_start (hexact : 0 ≤ exact) : Expands exact 0 exact ⟨0, 1⟩ ⟨1, 0⟩ where
  adjacent := by simp [Adjacent]
  rest_nonneg := hexact
  one_le_rest := Or.inr rfl
  fib_le := Nat.le_refl 0
  fib_succ_le := Nat.le_refl 1
  near := by simp [resume]

theorem Expands.one_le_den (hexpands : Expands exact steps rest previous current) :
    (1 : ℚ) ≤ rest * current.den + previous.den := by
  have hfib : 1 ≤ current.den + previous.den :=
    Nat.le_trans (Nat.fib_pos.2 (Nat.succ_pos steps)) hexpands.fib_succ_le
  have hfib' : (1 : ℚ) ≤ current.den + previous.den := by exact_mod_cast hfib
  rcases hexpands.one_le_rest with hrest | hden
  · have hmul : (current.den : ℚ) ≤ rest * current.den :=
      le_mul_of_one_le_left (Nat.cast_nonneg _) hrest
    linarith
  · rw [hden, Nat.cast_zero] at hfib' ⊢
    linarith

/-- The whole part of the rest is positive, except in the first step. -/
theorem Expands.den_le_advance (hexpands : Expands exact steps (a + fraction) previous current)
    (hfraction : fraction < 1) :
    current.den + previous.den ≤ (advance previous current a).den := by
  rcases hexpands.one_le_rest with hrest | hden
  · have ha : 0 < a := by
      have hpos : (0 : ℚ) < a := by linarith
      exact_mod_cast hpos
    exact Nat.add_le_add_right (Nat.le_mul_of_pos_left _ ha) _
  · simp [advance, hden]

theorem Expands.den_advance_pos (hexpands : Expands exact steps (a + fraction) previous current)
    (hfraction : fraction < 1) : 0 < (advance previous current a).den :=
  Nat.lt_of_lt_of_le (Nat.fib_pos.2 (Nat.succ_pos steps))
    (Nat.le_trans hexpands.fib_succ_le (hexpands.den_le_advance hfraction))

theorem Expands.step (hexpands : Expands exact steps (a + fraction) previous current)
    (hpos : 0 < fraction) (hfraction : fraction < 1) (hone : 1 ≤ next)
    (hnext : |next - 1 / fraction| ≤ 1 / fraction / 2 ^ 53) :
    Expands exact (steps + 1) next current (advance previous current a) := by
  have hden := hexpands.den_le_advance hfraction
  have hadjacent := adjacent_advance hexpands.adjacent a
  have hfib := Nat.le_trans hexpands.fib_succ_le hden
  have hdenOne : (1 : ℚ) ≤ (advance previous current a).den := by
    exact_mod_cast hexpands.den_advance_pos hfraction
  refine ⟨hadjacent, zero_le_one.trans hone, Or.inl hone, hfib, ?_, ?_⟩
  · rw [Nat.fib_add_two, Nat.add_comm]
    exact Nat.add_le_add hfib hexpands.fib_le
  · have hinverse : 0 < 1 / fraction := one_div_pos.2 hpos
    have hcurrent : (0 : ℚ) ≤ current.den := Nat.cast_nonneg _
    -- The reciprocal is off by a small part of itself, and it is divided by as much again.
    have hleft : 1 ≤ next * (advance previous current a).den + current.den := by nlinarith
    have hright : 1 / fraction ≤ 1 / fraction * (advance previous current a).den + current.den := by
      nlinarith
    have hround : |resume current (advance previous current a) next -
        resume current (advance previous current a) (1 / fraction)| ≤ 1 / 2 ^ 53 := by
      rw [hadjacent.abs_resume_sub (zero_lt_one.trans_le hleft) (hinverse.trans_le hright),
        div_le_iff₀ (mul_pos (zero_lt_one.trans_le hleft) (hinverse.trans_le hright))]
      have hproduct := mul_le_mul hleft hright hinverse.le (zero_le_one.trans hleft)
      linarith
    rw [resume_advance _ _ _ hpos] at hround
    have htriangle := abs_sub_le (resume current (advance previous current a) next)
      (resume previous current (a + fraction)) exact
    have hnear := hexpands.near
    push_cast
    rw [add_div]
    linarith

end

/-! ## Ends of the expansion -/

/-- The convergent is a number that is close to the exact one, but for the steps that are left out
and for the error in comparing a rounded quotient. -/
def Accurate (exact : ℚ) (c : Convergent) : Prop :=
  0 < c.den ∧ |c.value - exact| ≤ 1 / 2 ^ 38 + exact / 2 ^ 51

/-- The rest, or a term of what follows, is too large for 64 bits. -/
def Outgrows (previous current : Convergent) (rest : ℚ) : Prop :=
  2 ^ 63 ≤ rest ∨ 2 ^ 63 ≤ rest * current.num + previous.num ∨
    2 ^ 63 ≤ rest * current.den + previous.den

section

variable {exact rest fraction : ℚ} {steps a : Nat} {previous current c : Convergent}

theorem Expands.near_of_le (hexpands : Expands exact steps rest previous current)
    (hsteps : steps ≤ 30) : |resume previous current rest - exact| ≤ 30 / 2 ^ 53 := by
  have hsteps' : (steps : ℚ) ≤ 30 := by exact_mod_cast hsteps
  exact hexpands.near.trans (by gcongr)

theorem Expands.accurate (hexpands : Expands exact steps rest previous current)
    (hsteps : steps ≤ 30) (hden : 0 < c.den)
    (hclose : |c.value - resume previous current rest| ≤ 1 / 2 ^ 39 + exact / 2 ^ 51) :
    Accurate exact c := by
  have htriangle := abs_sub_le c.value (resume previous current rest) exact
  have hnear := hexpands.near_of_le hsteps
  refine ⟨hden, ?_⟩
  linarith

/-- The last convergent after all steps. -/
theorem Expands.accurate_of_exhausted (hexpands : Expands exact 30 rest previous current)
    (hexact : 0 ≤ exact) : Accurate exact current := by
  have hfib : 832040 ≤ current.den := hexpands.fib_le
  have hden : 0 < current.den := Nat.lt_of_lt_of_le (by decide) hfib
  have hfib' : (832040 : ℚ) ≤ current.den := by exact_mod_cast hfib
  have hrest : 1 ≤ rest := hexpands.one_le_rest.resolve_right hden.ne'
  have hresumed : (832040 : ℚ) ≤ rest * current.den + previous.den := by
    have hprevious : (0 : ℚ) ≤ previous.den := Nat.cast_nonneg _
    nlinarith
  refine hexpands.accurate (Nat.le_refl 30) hden ?_
  rw [abs_sub_comm, hexpands.adjacent.abs_resume_sub_value hden (by linarith)]
  calc 1 / (current.den * (rest * current.den + previous.den))
      ≤ (1 : ℚ) / (832040 * 832040) := by gcongr
    _ ≤ 1 / 2 ^ 39 + 0 := by norm_num
    _ ≤ 1 / 2 ^ 39 + exact / 2 ^ 51 := by gcongr; positivity

/-- The last convergent before the terms grow too large. -/
theorem Expands.accurate_of_outgrows (hexpands : Expands exact steps rest previous current)
    (hsteps : steps ≤ 30) (hexact : 0 ≤ exact) (hden : 0 < current.den)
    (hlarge : Outgrows previous current rest) : Accurate exact current := by
  have hone := hexpands.one_le_den
  have hden' : (1 : ℚ) ≤ current.den := by exact_mod_cast hden
  have hrest := hexpands.rest_nonneg
  have hpos : 0 < rest * current.den + previous.den := zero_lt_one.trans_le hone
  -- A large numerator comes with a large denominator, since their quotient is near the number.
  have hdistance : 1 / (rest * current.den + previous.den) ≤ (exact + 1) / 2 ^ 63 := by
    rw [div_le_div_iff₀ hpos (by norm_num), one_mul]
    have hresumed : 2 ^ 63 ≤ rest * current.num + previous.num →
        2 ^ 63 ≤ resume previous current rest * (rest * current.den + previous.den) := by
      intro hnum
      rwa [resume, div_mul_cancel₀ _ hpos.ne']
    have hup : resume previous current rest ≤ exact + 1 := by
      have hle := (abs_le.1 (hexpands.near_of_le hsteps)).2
      linarith
    have hprevious : (0 : ℚ) ≤ previous.den := Nat.cast_nonneg _
    rcases hlarge with hlarge | hlarge | hlarge
    · nlinarith
    · have hmul := mul_le_mul_of_nonneg_right hup hpos.le
      exact (hresumed hlarge).trans hmul
    · nlinarith
  refine hexpands.accurate hsteps hden ?_
  rw [abs_sub_comm, hexpands.adjacent.abs_resume_sub_value hden hpos]
  calc 1 / (current.den * (rest * current.den + previous.den))
      ≤ 1 / (1 * (rest * current.den + previous.den)) := by gcongr
    _ ≤ (exact + 1) / 2 ^ 63 := by rwa [one_mul]
    _ ≤ 1 / 2 ^ 39 + exact / 2 ^ 51 := by linarith

/-- The convergent after a rest that is all but whole. -/
theorem Expands.accurate_of_fraction
    (hexpands : Expands exact steps (a + fraction) previous current) (hsteps : steps ≤ 30)
    (hexact : 0 ≤ exact) (hnonneg : 0 ≤ fraction) (hsmall : fraction < 1 / 2 ^ 63) :
    Accurate exact (advance previous current a) := by
  have hlt : fraction < 1 := hsmall.trans (by norm_num)
  have hden := hexpands.den_advance_pos hlt
  have hnext : (1 : ℚ) ≤ a * current.den + previous.den := by exact_mod_cast hden
  have hone := hexpands.one_le_den
  refine hexpands.accurate hsteps hden ?_
  rw [value_advance, hexpands.adjacent.abs_resume_sub (zero_lt_one.trans_le hnext)
    (zero_lt_one.trans_le hone), sub_add_cancel_left, abs_neg, abs_of_nonneg hnonneg]
  calc fraction / ((a * current.den + previous.den) * ((a + fraction) * current.den + previous.den))
      ≤ fraction / (1 * 1) := by gcongr
    _ ≤ 1 / 2 ^ 63 := by rw [one_mul, div_one]; exact hsmall.le
    _ ≤ 1 / 2 ^ 39 + 0 := by norm_num
    _ ≤ 1 / 2 ^ 39 + exact / 2 ^ 51 := by gcongr; positivity

end

/-! ## Terms of 64 bits -/

/-- The terms of the convergent are signed 64-bit integers. -/
def Fits (c : Convergent) : Prop := c.num ≤ maxTerm ∧ c.den ≤ maxTerm

instance (c : Convergent) : Decidable c.Fits := inferInstanceAs (Decidable (_ ∧ _))

/-- The checks before a step say whether the next convergent fits. -/
theorem next?_eq {previous : Convergent} (hprevious : previous.Fits) (current : Convergent)
    (a : Nat) : next? previous current a =
      if (advance previous current a).Fits then some (advance previous current a) else none := by
  obtain ⟨hnum, hden⟩ := hprevious
  unfold next?
  by_cases ha : a = 0
  · have hfits : (advance previous current a).Fits := by
      simpa [advance, Fits, ha] using ⟨hnum, hden⟩
    rw [if_neg (fun hlarge => hlarge.1 ha), if_pos hfits]
    rfl
  · have hdiv : ∀ n, maxTerm / a < n → maxTerm < a * n := by
      intro n hn
      rwa [Nat.div_lt_iff_lt_mul (Nat.pos_of_ne_zero ha), Nat.mul_comm] at hn
    have hdivNum := hdiv current.num
    have hdivDen := hdiv current.den
    have hchecks : (a ≠ 0 ∧ (maxTerm / a < current.num ∨ maxTerm / a < current.den ∨
        maxTerm - previous.num < a * current.num ∨ maxTerm - previous.den < a * current.den)) ↔
        ¬ (advance previous current a).Fits := by
      simp only [Fits, advance]
      omega
    simp only [hchecks, ite_not]
    rfl

/-! ## Values of convergents -/

theorem le_two_pow_of_le_maxTerm {n : Nat} (hn : n ≤ maxTerm) : (n : ℚ) < 2 ^ 63 := by
  have hlt : n < 2 ^ 63 := Nat.lt_of_le_of_lt hn (by decide)
  exact_mod_cast hlt

/-- The quotient of the terms, each rounded to a value first. -/
theorem Fits.exists_div_eq {c : Convergent} (hfits : c.Fits) (hden : 0 < c.den) :
    ∃ z : Finite, Binary64.ofNat c.num / .ofNat c.den = finite z ∧ z.negative = false ∧
      |c.value - z.toRat| ≤ z.toRat / 2 ^ 51 := by
  have hwide : maxTerm ≤ 2 ^ 63 := by decide
  obtain ⟨n, hn, hnNegative, hnRounds⟩ :=
    Binary64.rounds_ofNat (by decide) (Nat.le_trans hfits.1 hwide)
  obtain ⟨d, hd, hdNegative, hdRounds⟩ :=
    Binary64.rounds_ofNat (by decide) (Nat.le_trans hfits.2 hwide)
  have hnum := le_two_pow_of_le_maxTerm hfits.1
  have hden' := le_two_pow_of_le_maxTerm hfits.2
  have hone : (1 : ℚ) ≤ c.den := by exact_mod_cast hden
  have hdenPos : (0 : ℚ) < c.den := zero_lt_one.trans_le hone
  have hnUp := hnRounds.le
  have hnDown := hnRounds.ge
  have hdUp := hdRounds.le
  have hdDown := hdRounds.ge
  have hdPos : 0 < d.toRat := by linarith
  have hunits := Binary64.units_pos_of_toRat_pos hdNegative hdPos
  rw [hn, hd]
  have hlow : n.units = 0 ∨ d.toRat ≤ 2 ^ 65 * n.toRat := by
    rcases Nat.eq_zero_or_pos n.units with hzero | hpos
    · exact Or.inl hzero
    · have hnPos := Binary64.toRat_pos hnNegative hpos
      have hnum' : 0 < c.num := Nat.pos_of_ne_zero fun hzero => by
        rw [hzero, Nat.cast_zero, zero_mul] at hnUp
        linarith
      have hone' : (1 : ℚ) ≤ c.num := by exact_mod_cast hnum'
      exact Or.inr (by linarith)
  obtain ⟨z, hz, hzNegative, hzRounds⟩ :=
    Binary64.rounds_div hnNegative hdNegative hunits hlow (by linarith)
  refine ⟨z, hz, hzNegative, ?_⟩
  obtain ⟨hlow, hhigh⟩ := hnRounds.div hdRounds (Nat.cast_nonneg _) hdenPos
  have hzUp := hzRounds.le
  have hzDown := hzRounds.ge
  unfold value
  rw [abs_le]
  constructor <;> linarith

/-! ## Comparisons of values -/

/-- A quotient that compares equal to a value is close to it. -/
theorem accurate_of_match {x : Finite} {c : Convergent} (hx : x.negative = false)
    (hfits : c.Fits) (hden : 0 < c.den)
    (hmatch : (Binary64.ofNat c.num / .ofNat c.den - finite x).abs < 1e-19) :
    Accurate x.toRat c := by
  obtain ⟨bound, hbound, hnegative, hunits⟩ := Binary64.exists_finite_of_units 1e-19
    (fun units => units * 2 ^ 63 ≤ one) (by decide +kernel)
  have hsmall := Binary64.toRat_le_of_units_le hnegative (by decide) hunits
  obtain ⟨z, hz, -, hrounds⟩ := hfits.exists_div_eq hden
  rw [hbound, hz] at hmatch
  have hlt := Binary64.abs_sub_lt_of_lt hnegative hmatch
  have hnonneg := Binary64.toRat_nonneg hx
  have hz' : z.toRat ≤ x.toRat + bound.toRat := by linarith [(abs_lt.1 hlt).2]
  have htriangle := abs_sub_le c.value z.toRat x.toRat
  refine ⟨hden, ?_⟩
  push_cast at hsmall
  linarith

/-- The reciprocal of a fraction, rounded. -/
theorem exists_reciprocal {fraction : Finite} (hnegative : fraction.negative = false)
    (hlt : fraction.toRat < 1) (hle : 1 / 2 ^ 63 ≤ fraction.toRat) :
    ∃ next : Finite, (1 : Binary64) / finite fraction = finite next ∧ next.negative = false ∧
      1 ≤ next.toRat ∧ next.Rounds (1 / fraction.toRat) := by
  obtain ⟨unit, hunit, hunitNegative, hunitUnits⟩ := Binary64.exists_ofNat_eq (n := 1) (by decide)
  have hunitRat : unit.toRat = 1 := by
    rw [Binary64.toRat_of_whole hunitNegative hunitUnits, Nat.cast_one]
  have hpos : 0 < fraction.toRat := lt_of_lt_of_le (by norm_num) hle
  have hunits := Binary64.units_pos_of_toRat_pos hnegative hpos
  have hlow : 1 ≤ 2 ^ 65 * fraction.toRat := by linarith
  obtain ⟨next, hnext, hnextNegative, hrounds⟩ := Binary64.rounds_div hunitNegative hnegative hunits
    (Or.inr (by rw [hunitRat]; linarith)) (by rw [hunitRat]; exact hlow)
  rw [hunitRat] at hrounds
  have hle' : fraction.units ≤ 1 * unit.units :=
    Binary64.units_le_of_toRat_le hnegative hunitNegative (by rw [hunitRat, Nat.cast_one]; linarith)
  rw [Nat.one_mul] at hle'
  have hone := Binary64.one_le_toRat_div hunitNegative hnegative hunits hle' hnext
  rw [← hunit] at hnext
  exact ⟨next, hnext, hnextNegative, hone, hrounds⟩

theorem fraction_lt_iff {fraction : Finite} :
    (finite fraction < (1 : Binary64) / 9223372036854775808) ↔ fraction.toRat < 1 / 2 ^ 63 := by
  obtain ⟨bound, hbound, hnegative, hunits⟩ := Binary64.exists_finite_of_units
    (1 / 9223372036854775808) (fun units => units * 2 ^ 63 = one) (by decide +kernel)
  have hexact : bound.toRat = 1 / 2 ^ 63 := by
    rw [Binary64.toRat_of_not_negative hnegative, div_eq_div_iff Binary64.one_pos_rat.ne'
      (by norm_num), one_mul]
    exact_mod_cast hunits
  rw [hbound, ← Binary64.toRat_lt_toRat_iff, hexact]

/-- One step takes the whole part of the rest, if it and the terms of the next convergent fit. -/
theorem last_succ {x rest : Finite} {previous : Convergent} (hrest : rest.negative = false)
    (hprevious : previous.Fits) (current : Convergent) (steps : Nat) :
    last (finite x) (steps + 1) (finite rest) previous current =
      let next := advance previous current rest.whole
      if rest.whole < 2 ^ 63 ∧ next.Fits then
        if (Binary64.ofNat next.num / .ofNat next.den - finite x).abs < 1e-19 ∨
            rest.fraction.toRat < 1 / 2 ^ 63 then next.reduce
        else last (finite x) steps (1 / finite rest.fraction) current next.reduce
      else current := by
  rw [last, Binary64.toInt64?_of_not_negative hrest]
  by_cases hwhole : rest.whole < 2 ^ 63
  · rw [if_pos hwhole]
    dsimp only
    rw [Int.toNat_natCast, next?_eq hprevious]
    by_cases hfits : (advance previous current rest.whole).Fits
    · rw [if_pos hfits, if_pos ⟨hwhole, hfits⟩]
      simp only [Binary64.sub_whole hrest, fraction_lt_iff, ite_or]
    · rw [if_neg hfits, if_neg fun hnext => hfits hnext.2]
  · rw [if_neg hwhole, if_neg fun hnext => hwhole hnext.1]

theorem outgrows_of_not_fits {rest : Finite} {previous current : Convergent}
    (hrest : rest.negative = false)
    (hlarge : ¬ (rest.whole < 2 ^ 63 ∧ (advance previous current rest.whole).Fits)) :
    Outgrows previous current rest.toRat := by
  have hwhole : (rest.whole : ℚ) ≤ rest.toRat := by
    have hnonneg : 0 ≤ rest.fraction.toRat := Binary64.toRat_nonneg rfl
    rw [Binary64.toRat_fraction hrest] at hnonneg
    linarith
  have hterm : ∀ m n : Nat, maxTerm < rest.whole * m + n → 2 ^ 63 ≤ rest.toRat * m + n := by
    intro m n hterm
    have hlarge : 2 ^ 63 ≤ rest.whole * m + n := hterm
    have hlarge' : (2 ^ 63 : ℚ) ≤ rest.whole * m + n := by exact_mod_cast hlarge
    have hmul := mul_le_mul_of_nonneg_right hwhole (Nat.cast_nonneg m)
    linarith
  by_cases hrange : rest.whole < 2 ^ 63
  · have hfits := not_and_or.1 fun hfits => hlarge ⟨hrange, hfits⟩
    exact Or.inr (hfits.imp (fun hnum => hterm _ _ (Nat.lt_of_not_le hnum))
      fun hden => hterm _ _ (Nat.lt_of_not_le hden))
  · have hrange' : (2 ^ 63 : ℚ) ≤ rest.whole := by exact_mod_cast Nat.le_of_not_lt hrange
    exact Or.inl (hrange'.trans hwhole)

/-- The last convergent is accurate wherever the expansion ends. -/
theorem accurate_last {x : Finite} (hx : x.negative = false) {done steps : Nat}
    {rest : Finite} {previous current : Convergent} (hrest : rest.negative = false)
    (hsteps : done + steps = 30)
    (hexpands : Expands x.toRat done rest.toRat previous current)
    (hprevious : previous.Fits) (hcurrent : current.Fits)
    (hden : Outgrows previous current rest.toRat → 0 < current.den) :
    Accurate x.toRat (last (finite x) steps (finite rest) previous current) := by
  have hexact := Binary64.toRat_nonneg hx
  -- On the steps that are left, with those that are done counted up along with them.
  induction steps generalizing done rest previous current with
  | zero =>
    obtain rfl : done = 30 := hsteps
    exact hexpands.accurate_of_exhausted hexact
  | succ steps ih =>
    have hsplit : rest.toRat = rest.whole + rest.fraction.toRat := by
      rw [Binary64.toRat_fraction hrest]
      ring
    have hnonneg : 0 ≤ rest.fraction.toRat := Binary64.toRat_nonneg rfl
    have hlt := Binary64.toRat_fraction_lt rest
    have hdone : done ≤ 30 := by omega
    rw [last_succ hrest hprevious]
    dsimp only
    split
    · rename_i hfits
      have hadjacent := adjacent_advance hexpands.adjacent rest.whole
      rw [hsplit] at hexpands
      have hpos := hexpands.den_advance_pos hlt
      rw [hadjacent.reduce_eq]
      split
      · rename_i hstop
        rcases hstop with hmatch | hsmall
        · exact accurate_of_match hx hfits.2 hpos hmatch
        · exact hexpands.accurate_of_fraction hdone hexact hnonneg hsmall
      · rename_i hcontinue
        have hlarge : 1 / 2 ^ 63 ≤ rest.fraction.toRat :=
          le_of_not_gt fun hsmall => hcontinue (Or.inr hsmall)
        obtain ⟨next, hnext, hnegative, hone, hrounds⟩ := exists_reciprocal rfl hlt hlarge
        have hstep := hexpands.step (lt_of_lt_of_le (by norm_num) hlarge) hlt hone hrounds
        rw [hnext]
        exact ih hnegative (by omega) hstep hcurrent hfits.2 fun _ => hpos
    · rename_i hlarge
      have houtgrows := outgrows_of_not_fits hrest hlarge
      exact hexpands.accurate_of_outgrows hdone hexact (hden houtgrows) houtgrows

end Convergent

open Convergent Binary64

theorem exists_two_pow_eq : ∃ w : Finite, (9223372036854775808 : Binary64) = finite w ∧
    w.toRat = 2 ^ 63 := by
  obtain ⟨w, hw, hnegative, hunits⟩ := exists_finite_of_units 9223372036854775808
    (fun units => units = 2 ^ 63 * one) (by decide +kernel)
  refine ⟨w, hw, ?_⟩
  rw [toRat_of_whole hnegative hunits, Nat.cast_pow, Nat.cast_ofNat]

/-- Below `2 ^ 63` every value has a fraction by its expansion, and it is close. -/
theorem exists_expand?_eq {x : Finite} (hx : x.negative = false) (hlt : x.toRat < 2 ^ 63) :
    ∃ fraction, expand? x = some fraction ∧
      |fraction - x.toRat| ≤ 1 / 2 ^ 38 + x.toRat / 2 ^ 51 := by
  obtain ⟨limit, hlimit, hlimitRat⟩ := exists_two_pow_eq
  have habs : Binary64.abs x = finite x := by
    cases x
    cases hx
    rfl
  have hrange : ¬ (9223372036854775808 : Binary64) < finite x := by
    rw [hlimit, ← toRat_lt_toRat_iff, hlimitRat]
    exact not_lt.2 hlt.le
  -- The first step always fits, so that the start is not what the expansion ends with.
  have hstart : Outgrows ⟨0, 1⟩ ⟨1, 0⟩ x.toRat → 0 < (⟨1, 0⟩ : Convergent).den := by
    intro hlarge
    simp only [Outgrows, Nat.cast_one, Nat.cast_zero, mul_one, mul_zero, add_zero, zero_add]
      at hlarge
    rcases hlarge with hlarge | hlarge | hlarge <;> linarith
  obtain ⟨hden, hnear⟩ := accurate_last hx hx (Nat.zero_add 30) (expands_start (toRat_nonneg hx))
    (by decide) (by decide) hstart
  rw [expand?, habs, if_neg hrange, hx]
  generalize last (finite x) 30 (finite x) ⟨0, 1⟩ ⟨1, 0⟩ = c at hden hnear ⊢
  refine ⟨_, if_neg hden.ne', ?_⟩
  have hvalue : mkRat c.num c.den = c.value := by
    rw [Rat.mkRat_eq_div, Int.cast_natCast]
    rfl
  rw [← hvalue] at hnear
  exact hnear

end Fraction
end Espressivo
