import Espressivo.Proofs.Binary64.Integral
import Espressivo.Proofs.Binary64.Nonnegative
import Espressivo.Proofs.Binary64.Rounding

/-!
# Monotone arithmetic

Rounding to nearest keeps the order of amounts, also across a power of two, where the spacing
changes, and up to the overflow limit. So does dividing by a positive value and multiplying with it.
A quotient that overflows belongs to a value that no product with the divisor passes.
-/

namespace Espressivo
namespace Binary64

/-! ## Amounts -/

section

variable {a b den : Nat}

theorem roundHalfEven_mono (hle : a ≤ b) : roundHalfEven a den ≤ roundHalfEven b den := by
  have hquotient : a / den ≤ b / den := Nat.div_le_div_right hle
  by_cases heq : a / den = b / den
  · have hremainder : a % den ≤ b % den := by
      have ha := Nat.div_add_mod' a den
      have hb := Nat.div_add_mod' b den
      rw [heq] at ha
      omega
    unfold roundHalfEven
    dsimp only
    rw [heq]
    split <;> split <;> omega
  · have hup := roundHalfEven_le a den
    have hdown := le_roundHalfEven b den
    omega

theorem log2_mono (hle : a ≤ b) : a.log2 ≤ b.log2 := by
  by_cases ha : a = 0
  · rw [ha, Nat.log2_zero]
    exact Nat.zero_le _
  · exact log2_le_log2 ha hle

theorem nearest_mono (hden : 0 < den) (hle : a ≤ b) : nearest a den ≤ nearest b den := by
  have hquotient : a / den ≤ b / den := Nat.div_le_div_right hle
  by_cases hlog : (a / den).log2 = (b / den).log2
  · unfold nearest spacing
    dsimp only
    rw [hlog]
    exact Nat.mul_le_mul_right _ (roundHalfEven_mono hle)
  · -- The spacing may change, but at a power of two in between, which no rounding passes.
    have hlt : (a / den).log2 < (b / den).log2 := Nat.lt_of_le_of_ne (log2_mono hquotient) hlog
    have hbelow : a / den < 2 ^ (b / den).log2 := by
      by_cases ha : a / den = 0
      · rw [ha]
        exact Nat.two_pow_pos _
      · exact (Nat.log2_lt ha).1 hlt
    have habove : 2 ^ (b / den).log2 ≤ b / den := by
      apply Nat.log2_self_le
      intro hb
      rw [hb, Nat.log2_zero] at hlt
      exact Nat.not_lt_zero _ hlt
    have hpower : HasSignificand (2 ^ (b / den).log2) := by
      have hone := hasSignificand_mul_two_pow (n := 1) (by decide) (b / den).log2
      rwa [Nat.one_mul] at hone
    calc nearest a den ≤ 2 ^ (b / den).log2 :=
          nearest_le hden hpower (Nat.le_of_lt ((Nat.div_lt_iff_lt_mul hden).1 hbelow))
      _ ≤ nearest b den := le_nearest hden hpower ((Nat.le_div_iff_mul_le hden).1 habove)

end

/-! ## Signed amounts -/

/-- The amount with a sign. -/
def signed (negative : Bool) (units : Nat) : Int := if negative then -units else units

section

variable {negA negB : Bool} {a b : Nat}

theorem signed_false (n : Nat) : signed false n = n := rfl

theorem signed_true (n : Nat) : signed true n = -n := rfl

theorem signed_zero (negative : Bool) : signed negative 0 = 0 := by cases negative <;> rfl

theorem signed_natAbs (n : Int) : signed (n < 0) n.natAbs = n := by
  unfold signed
  split <;> rename_i hsign <;> simp only [decide_eq_true_eq] at hsign <;> omega

theorem decide_signed_neg (negative : Bool) {n : Nat} (hn : n ≠ 0) :
    decide (signed negative n < 0) = negative := by
  cases negative with
  | false => exact decide_eq_false (by rw [signed_false]; omega)
  | true => exact decide_eq_true (by rw [signed_true]; omega)

theorem signed_mul (negative : Bool) (m n : Nat) :
    signed negative (m * n) = signed negative m * n := by
  cases negative with
  | false => exact Int.natCast_mul m n
  | true => rw [signed_true, signed_true, Int.natCast_mul, Int.neg_mul]

/-- Amounts that keep the order of others, and their zeros, keep it with the signs of these. -/
theorem signed_le_signed {m n : Nat} (hle : signed negA a ≤ signed negB b) (hup : a ≤ b → m ≤ n)
    (hdown : b ≤ a → n ≤ m) (hzeroA : a = 0 → m = 0) (hzeroB : b = 0 → n = 0) :
    signed negA m ≤ signed negB n := by
  cases negA <;> cases negB <;> simp only [signed_false, signed_true] at hle ⊢ <;> omega

theorem position?_round (negative : Bool) (num den : Nat) :
    (round negative num den).position? = some (signed negative (min (nearest num den) limit)) := by
  unfold round
  split
  · rename_i hlimit
    rw [Nat.min_eq_left (Nat.le_of_lt hlimit)]
    rfl
  · rename_i hlimit
    rw [Nat.min_eq_right (Nat.le_of_not_lt hlimit)]
    rfl

theorem sign_of_round_eq_infinite {negative sign : Bool} {num den : Nat}
    (hround : round negative num den = infinite sign) : negative = sign := by
  unfold round at hround
  split at hround
  · cases hround
  · cases hround
    rfl

theorem round_le_round {den : Nat} (hden : 0 < den) (hle : signed negA a ≤ signed negB b) :
    round negA a den ≤ round negB b den := by
  refine le_iff.2 ⟨_, _, position?_round negA a den, position?_round negB b den, ?_⟩
  have hzero : nearest 0 den = 0 := nearest_zero den
  refine signed_le_signed hle (fun hab => ?_) (fun hba => ?_) (fun ha => ?_) fun hb => ?_
  · have hnearest := nearest_mono hden hab
    omega
  · have hnearest := nearest_mono hden hba
    omega
  · rw [ha, hzero, Nat.zero_min]
  · rw [hb, hzero, Nat.zero_min]

end

/-! ## Order -/

theorem finite_le_finite_iff {x y : Finite} : finite x ≤ finite y ↔ x.position ≤ y.position :=
  Iff.rfl

theorem Finite.position_bounds (x : Finite) :
    -(x.units : Int) ≤ x.position ∧ x.position ≤ x.units := by
  unfold Finite.position
  split <;> omega

theorem position_eq_signed (x : Finite) : x.position = signed x.negative x.units := rfl

theorem le_infinite {x : Binary64} (hx : x ≠ nan) : x ≤ infinite false := by
  cases x with
  | nan => exact absurd rfl hx
  | infinite negative =>
    refine le_iff.2 ⟨_, limit, rfl, rfl, ?_⟩
    split <;> omega
  | finite x =>
    refine le_iff.2 ⟨x.position, limit, rfl, rfl, ?_⟩
    have hlimit := x.representable.1
    unfold Finite.position
    split <;> omega

theorem infinite_le {x : Binary64} (hx : x ≠ nan) : infinite true ≤ x := by
  cases x with
  | nan => exact absurd rfl hx
  | infinite negative =>
    refine le_iff.2 ⟨-limit, _, rfl, rfl, ?_⟩
    split <;> omega
  | finite x =>
    refine le_iff.2 ⟨-limit, x.position, rfl, rfl, ?_⟩
    have hlimit := x.representable.1
    unfold Finite.position
    split <;> omega

theorem not_infinite_le {x : Finite} : ¬ infinite false ≤ finite x := by
  intro hle
  have hlimit := x.representable.1
  have hposition : (limit : Int) ≤ x.position := hle
  unfold Finite.position at hposition
  split at hposition <;> omega

theorem not_le_infinite {x : Finite} : ¬ finite x ≤ infinite true := by
  intro hle
  have hlimit := x.representable.1
  have hposition : x.position ≤ -(limit : Int) := hle
  unfold Finite.position at hposition
  split at hposition <;> omega

theorem eq_infinite_of_infinite_le {x : Binary64} (hle : infinite false ≤ x) :
    x = infinite false := by
  cases x with
  | nan => exact absurd rfl (ne_nan_of_le_right hle)
  | infinite negative =>
    cases negative with
    | false => rfl
    | true =>
      have hlimit : (limit : Int) ≤ -(limit : Int) := hle
      have hpos := limit_pos
      omega
  | finite x => exact absurd hle not_infinite_le

theorem position?_add_zero (x : Binary64) : (x + 0).position? = x.position? := by
  by_cases hzero : x = zero true
  · rw [hzero, zero_add_zero, zero_eq]
    rfl
  · rw [add_zero_eq hzero]

theorem add_zero_le_iff {x y : Binary64} : x + 0 ≤ y ↔ x ≤ y := by
  rw [le_iff, le_iff, position?_add_zero]

theorem le_add_zero_iff {x y : Binary64} : x ≤ y + 0 ↔ x ≤ y := by
  rw [le_iff, le_iff, position?_add_zero]

/-- An operation that keeps the infinities and the order of finite values keeps the order. -/
theorem le_of_le_finite {f : Binary64 → Binary64}
    (hinfinite : ∀ negative, f (infinite negative) = infinite negative)
    (hfinite : ∀ x y, finite x ≤ finite y → f (finite x) ≤ f (finite y)) {x y : Binary64}
    (hle : x ≤ y) : f x ≤ f y := by
  have hnumber : ∀ q, f (finite q) ≠ nan := fun q =>
    ne_nan_of_le_left (hfinite q q (le_self_iff.2 nofun))
  cases x with
  | nan => exact absurd rfl (ne_nan_of_le_left hle)
  | infinite negX =>
    cases negX with
    | true =>
      rw [hinfinite]
      apply infinite_le
      cases y with
      | nan => exact absurd rfl (ne_nan_of_le_right hle)
      | infinite negY => rw [hinfinite]; exact nofun
      | finite y => exact hnumber y
    | false =>
      rw [eq_infinite_of_infinite_le hle, hinfinite]
      exact le_self_iff.2 nofun
  | finite x =>
    cases y with
    | nan => exact absurd rfl (ne_nan_of_le_right hle)
    | infinite negY =>
      cases negY with
      | true => exact absurd hle not_le_infinite
      | false =>
        rw [hinfinite]
        exact le_infinite (hnumber x)
    | finite y => exact hfinite x y hle

/-! ## Quotients and products -/

section

variable {q : Finite} (hnegative : q.negative = false) (hq : 0 < q.units)

include hnegative

theorem infinite_div (negative : Bool) : infinite negative / finite q = infinite negative := by
  show infinite (negative != q.negative) = _
  rw [hnegative, Bool.bne_false]

theorem mul_eq_round (x : Finite) :
    finite x * finite q = round x.negative (x.units * q.units) one := by
  show round (x.negative != q.negative) _ _ = _
  rw [hnegative, Bool.bne_false]

theorem mul_ne_nan (x : Finite) : finite x * finite q ≠ nan := by
  rw [mul_eq_round hnegative, ne_eq, ← position?_eq_none_iff, position?_round]
  exact nofun

theorem mul_le_mul {x y : Finite} (hle : finite x ≤ finite y) :
    finite x * finite q ≤ finite y * finite q := by
  rw [mul_eq_round hnegative, mul_eq_round hnegative]
  apply round_le_round one_pos
  rw [signed_mul, signed_mul]
  exact Int.mul_le_mul_of_nonneg_right hle (Int.natCast_nonneg _)

include hq

theorem div_eq_round (x : Finite) :
    finite x / finite q = round x.negative (x.units * one) q.units := by
  rw [finite_div_finite (Nat.ne_of_gt hq), hnegative, Bool.bne_false]

theorem div_ne_nan {x : Binary64} (hx : x ≠ nan) : x / finite q ≠ nan := by
  cases x with
  | nan => exact absurd rfl hx
  | infinite negative =>
    rw [infinite_div hnegative]
    exact nofun
  | finite x =>
    rw [div_eq_round hnegative hq, ne_eq, ← position?_eq_none_iff, position?_round]
    exact nofun

theorem div_le_div {x y : Binary64} (hle : x ≤ y) : x / finite q ≤ y / finite q := by
  refine le_of_le_finite (f := (· / finite q)) (infinite_div hnegative) (fun x y hle => ?_) hle
  show finite x / finite q ≤ finite y / finite q
  rw [div_eq_round hnegative hq, div_eq_round hnegative hq]
  apply round_le_round hq
  rw [signed_mul, signed_mul]
  exact Int.mul_le_mul_of_nonneg_right hle (Int.natCast_nonneg _)

/-- No product with the divisor is farther from zero than a value whose quotient overflows. -/
theorem mul_within_of_overflow {x : Finite} (w : Finite)
    (hover : ¬ (finite x / finite q).isFinite) : (finite w * finite q).Within x.units := by
  rw [div_eq_round hnegative hq, isFinite_round_iff, Nat.not_lt] at hover
  have hle : w.units * q.units ≤ x.units * one := by
    refine Nat.le_of_not_lt fun hlt => ?_
    have hnearest := nearest_le hq w.representable.2 (Nat.le_of_lt hlt)
    exact Nat.not_lt.2 (Nat.le_trans hover hnearest) w.representable.1
  rw [mul_eq_round hnegative]
  exact within_round one_pos x.representable hle

theorem mul_le_of_div_eq_infinite {x : Binary64} (w : Finite)
    (hover : x / finite q = infinite false) : finite w * finite q ≤ x := by
  cases x with
  | nan => cases hover
  | infinite negative =>
    rw [infinite_div hnegative] at hover
    rw [hover]
    exact le_infinite (mul_ne_nan hnegative w)
  | finite x =>
    have hfinite : ¬ (finite x / finite q).isFinite := by rw [hover]; exact nofun
    obtain ⟨p, hp, hunits⟩ := mul_within_of_overflow hnegative hq w hfinite
    rw [div_eq_round hnegative hq] at hover
    have hposition := p.position_bounds
    rw [hp, finite_le_finite_iff, position_eq_signed x, sign_of_round_eq_infinite hover,
      signed_false]
    omega

theorem le_mul_of_div_eq_infinite {x : Binary64} (w : Finite)
    (hover : x / finite q = infinite true) : x ≤ finite w * finite q := by
  cases x with
  | nan => cases hover
  | infinite negative =>
    rw [infinite_div hnegative] at hover
    rw [hover]
    exact infinite_le (mul_ne_nan hnegative w)
  | finite x =>
    have hfinite : ¬ (finite x / finite q).isFinite := by rw [hover]; exact nofun
    obtain ⟨p, hp, hunits⟩ := mul_within_of_overflow hnegative hq w hfinite
    rw [div_eq_round hnegative hq] at hover
    have hposition := p.position_bounds
    rw [hp, finite_le_finite_iff, position_eq_signed x, sign_of_round_eq_infinite hover,
      signed_true]
    omega

end

/-! ## Distances -/

theorem natAbs_signed (negative : Bool) (n : Nat) : (signed negative n).natAbs = n := by
  cases negative with
  | false => exact Int.natAbs_natCast n
  | true => rw [signed_true, Int.natAbs_neg, Int.natAbs_natCast]

theorem position?_abs (x : Binary64) :
    x.abs.position? = x.position?.map fun a => (a.natAbs : Int) := by
  cases x with
  | nan => rfl
  | infinite negative => exact congrArg (some ∘ Nat.cast) (natAbs_signed negative limit).symm
  | finite x => exact congrArg (some ∘ Nat.cast) (natAbs_signed x.negative x.units).symm

theorem position_neg (x : Finite) :
    Finite.position { x with negative := !x.negative } = -x.position := by
  unfold Finite.position
  cases x.negative with
  | false => rfl
  | true => exact (Int.neg_neg _).symm

/-- A sum lies where its exact amount is rounded to. -/
theorem position?_add (x y : Finite) : (finite x + finite y).position? =
    (round (x.position + y.position < 0) (x.position + y.position).natAbs 1).position? := by
  show (x.add y).position? = _
  unfold Finite.add
  dsimp only
  split
  · rename_i hzero
    rw [hzero, Int.natAbs_zero, round_zero]
    generalize (x.negative && y.negative) = sign
    cases sign <;> rfl
  · rfl

theorem position?_sub (x y : Finite) : (finite x - finite y).position? =
    some (signed (x.position - y.position < 0)
      (min (nearest (x.position - y.position).natAbs 1) limit)) := by
  have hadd := position?_add x { y with negative := !y.negative }
  rw [position_neg, ← Int.sub_eq_add_neg, position?_round] at hadd
  exact hadd

/-- Of two values the one that is closer to its mark has the smaller distance. -/
theorem abs_sub_le_abs_sub {x y m n : Finite}
    (hle : (x.position - m.position).natAbs ≤ (y.position - n.position).natAbs) :
    (finite x - finite m).abs ≤ (finite y - finite n).abs := by
  have hnearest := nearest_mono Nat.one_pos hle
  rw [le_iff, position?_abs, position?_abs, position?_sub, position?_sub]
  refine ⟨_, _, rfl, rfl, ?_⟩
  dsimp only
  rw [natAbs_signed, natAbs_signed]
  omega

/-! ## Whole numbers -/

namespace Finite

/-- The greatest whole number that is not above the value. -/
def down (x : Finite) : Int := signed x.negative (if x.negative then x.wholeUp else x.whole)

/-- The least whole number that is not below the value. -/
def up (x : Finite) : Int := signed x.negative (if x.negative then x.whole else x.wholeUp)

/-- The nearest whole number. -/
def middle (x : Finite) : Int := signed x.negative x.wholeNearest

variable (x : Finite) {y : Finite}

theorem down_le_middle : x.down ≤ x.middle := by
  have hdown := whole_le_wholeNearest x
  have hup := wholeNearest_le_wholeUp x
  unfold down middle signed
  split <;> omega

theorem middle_le_up : x.middle ≤ x.up := by
  have hdown := whole_le_wholeNearest x
  have hup := wholeNearest_le_wholeUp x
  unfold middle up signed
  split <;> omega

theorem up_le_down_add_one : x.up ≤ x.down + 1 := by
  have hup := wholeUp_le_whole_add_one x
  unfold up down signed
  split <;> omega

theorem down_bounds : x.down * one ≤ x.position ∧ x.position < x.down * one + one := by
  have hwhole := whole_mul_one_le x
  have hwhole' := units_lt_whole_mul_one x
  have hup := units_le_wholeUp_mul_one x
  have hup' := wholeUp_mul_one_lt x
  rw [down, ← signed_mul, position_eq_signed]
  -- The bounds hold for a unit of any size, and no step should compute with this one.
  generalize one = unit at hwhole hwhole' hup hup' ⊢
  cases x.negative <;> simp [signed] <;> omega

theorem up_bounds : x.position ≤ x.up * one ∧ x.up * one < x.position + one := by
  have hwhole := whole_mul_one_le x
  have hwhole' := units_lt_whole_mul_one x
  have hup := units_le_wholeUp_mul_one x
  have hup' := wholeUp_mul_one_lt x
  rw [up, ← signed_mul, position_eq_signed]
  generalize one = unit at hwhole hwhole' hup hup' ⊢
  cases x.negative <;> simp [signed] <;> omega

variable {x}

theorem wholeNearest_mono (hle : x.units ≤ y.units) : x.wholeNearest ≤ y.wholeNearest := by
  unfold wholeNearest
  exact Nat.div_le_div_right (by omega)

theorem middle_mono (hle : x.position ≤ y.position) : x.middle ≤ y.middle :=
  signed_le_signed hle wholeNearest_mono wholeNearest_mono wholeNearest_eq_zero wholeNearest_eq_zero

theorem le_of_mul_one_lt {m n : Int} (hlt : m * one < n * one + one) : m ≤ n := by
  have hone : (0 : Int) < one := Int.natCast_pos.2 one_pos
  have hsucc : m * one < (n + 1) * one := by
    rw [Int.add_mul, Int.one_mul]
    exact hlt
  exact Int.le_of_lt_add_one (Int.lt_of_mul_lt_mul_right hsucc (Int.le_of_lt hone))

theorem up_mono (hle : x.position ≤ y.position) : x.up ≤ y.up := by
  have hx := up_bounds x
  have hy := up_bounds y
  exact le_of_mul_one_lt (by omega)

theorem down_mono (hle : x.position ≤ y.position) : x.down ≤ y.down := by
  have hx := down_bounds x
  have hy := down_bounds y
  exact le_of_mul_one_lt (by omega)

end Finite

theorem position_ofWhole {x : Finite} {n : Nat} (hdown : x.whole ≤ n) (hup : n ≤ x.wholeUp) :
    ∃ w : Finite, ofWhole x.negative n = finite w ∧ w.position = signed x.negative n * one := by
  obtain ⟨w, hw, hnegative, hunits⟩ := ofWhole_eq_finite hdown hup
  refine ⟨w, hw, ?_⟩
  rw [position_eq_signed, hnegative, hunits, signed_mul]

theorem roundToWhole_finite (x : Finite) :
    ∃ w : Finite, roundToWhole (finite x) = finite w ∧ w.position = x.middle * one :=
  position_ofWhole (whole_le_wholeNearest x) (wholeNearest_le_wholeUp x)

theorem floor_finite (x : Finite) :
    ∃ w : Finite, floor (finite x) = finite w ∧ w.position = x.down * one := by
  have hle := whole_le_wholeUp x
  refine position_ofWhole ?_ ?_ <;> dsimp only <;> split <;> omega

theorem ceil_finite (x : Finite) :
    ∃ w : Finite, ceil (finite x) = finite w ∧ w.position = x.up * one := by
  have hle := whole_le_wholeUp x
  refine position_ofWhole ?_ ?_ <;> dsimp only <;> split <;> omega

end Binary64
end Espressivo
