import Espressivo.Proofs.Binary64.NearestWhole
import Espressivo.Proofs.Binary64.Rational

/-!
# Sums and products

Adding to a finite value, and multiplying with one that is not negative, keeps the order, also where
an infinity takes part, as long as there are results. A finite sum is off the exact one by one part
in `2 ^ 53` at most, and so is a product with a whole number: nothing is lost below one unit.
-/

namespace Espressivo
namespace Binary64

/-! ## Order -/

section

variable {x y : Binary64}

theorem neg_le_neg_iff : -x ≤ -y ↔ y ≤ x := by
  rw [le_iff, le_iff, position?_neg, position?_neg]
  cases x.position? <;> cases y.position? <;> simp

theorem ofNat_le_ofNat {m n : Nat} (hle : m ≤ n) : ofNat m ≤ ofNat n :=
  round_le_round Nat.one_pos (Int.ofNat_le.2 (Nat.mul_le_mul_right one hle))

theorem add_le_add_left (q : Finite) (hle : x ≤ y) : finite q + x ≤ finite q + y := by
  refine le_of_le_finite (f := (finite q + ·)) (fun _ => rfl) (fun x y hle => ?_) hle
  have hpositions : x.position ≤ y.position := hle
  have hsum : signed (q.position + x.position < 0) (q.position + x.position).natAbs ≤
      signed (q.position + y.position < 0) (q.position + y.position).natAbs := by
    rw [signed_natAbs, signed_natAbs]
    omega
  have hround := round_le_round Nat.one_pos hsum
  rw [le_iff] at hround ⊢
  rwa [position?_add, position?_add]

theorem finite_mul_comm (x y : Finite) : finite x * finite y = finite y * finite x := by
  show round (x.negative != y.negative) (x.units * y.units) one =
    round (y.negative != x.negative) (y.units * x.units) one
  rw [bne_comm, Nat.mul_comm]

/-- The sign of an infinite product is that of the other factor. -/
theorem infinite_mul (hproduct : infinite false * x ≠ nan) :
    ∃ a, x.position? = some a ∧ infinite false * x = infinite (a < 0) := by
  cases x with
  | nan => exact absurd rfl hproduct
  | infinite negative =>
    refine ⟨signed negative limit, rfl, ?_⟩
    rw [decide_signed_neg negative (Nat.ne_of_gt limit_pos)]
    exact congrArg infinite (Bool.false_bne negative)
  | finite x =>
    have hunits : x.units ≠ 0 := fun hzero => hproduct (if_pos hzero)
    refine ⟨x.position, rfl, (if_neg hunits).trans ?_⟩
    rw [position_eq_signed, decide_signed_neg x.negative hunits, Bool.false_bne]

theorem infinite_mul_le_infinite_mul (hle : x ≤ y) (hx : infinite false * x ≠ nan)
    (hy : infinite false * y ≠ nan) : infinite false * x ≤ infinite false * y := by
  obtain ⟨a, ha, hproductX⟩ := infinite_mul hx
  obtain ⟨b, hb, hproductY⟩ := infinite_mul hy
  obtain ⟨a', b', ha', hb', hab⟩ := le_iff.1 hle
  cases ha.symm.trans ha'
  cases hb.symm.trans hb'
  by_cases hnegative : a < 0
  · rw [hproductX, decide_eq_true hnegative]
    exact infinite_le hy
  · have hnonneg : ¬ b < 0 := by omega
    rw [hproductY, decide_eq_false hnonneg]
    exact le_infinite hx

theorem zero_le_zero (a b : Bool) : zero a ≤ zero b := by
  refine le_iff.2 ⟨0, 0, ?_, ?_, Int.le_refl 0⟩
  · cases a <;> rfl
  · cases b <;> rfl

/-- A zero has products with finite values only, and they are zeros. -/
theorem exists_zero_mul (negative : Bool) (hproduct : zero negative * x ≠ nan) :
    ∃ sign, zero negative * x = zero sign := by
  cases x with
  | finite x => exact ⟨_, zero_mul negative x⟩
  | _ => exact absurd rfl hproduct

theorem finite_mul_ne_nan {q : Finite} (hunits : q.units ≠ 0) (hx : x ≠ nan) :
    finite q * x ≠ nan := by
  cases x with
  | nan => exact absurd rfl hx
  | infinite negative =>
    have hproduct : finite q * infinite negative = infinite (q.negative != negative) :=
      if_neg hunits
    rw [hproduct]
    exact nofun
  | finite x =>
    have hround : finite q * finite x = round (q.negative != x.negative) (q.units * x.units) one :=
      rfl
    rw [hround, ne_eq, ← position?_eq_none_iff, position?_round]
    exact nofun

theorem mul_le_mul_left {base : Binary64} (hbase : 0 ≤ base) (hle : x ≤ y)
    (hx : base * x ≠ nan) (hy : base * y ≠ nan) : base * x ≤ base * y := by
  by_cases hfinite : base.isFinite
  · obtain ⟨q, rfl⟩ := exists_finite hfinite
    by_cases hunits : q.units = 0
    · rw [eq_zero_of_units_eq_zero hunits] at hx hy ⊢
      obtain ⟨a, ha⟩ := exists_zero_mul q.negative hx
      obtain ⟨b, hb⟩ := exists_zero_mul q.negative hy
      rw [ha, hb]
      exact zero_le_zero a b
    · have hnegative : q.negative = false :=
        Bool.eq_false_iff.2 fun hsign => hunits (zero_le_finite_iff.1 hbase hsign)
      refine le_of_le_finite (f := (finite q * ·)) (fun negative => ?_) (fun x y hle => ?_) hle
      · show (if q.units = 0 then nan else infinite (q.negative != negative)) = infinite negative
        rw [if_neg hunits, hnegative, Bool.false_bne]
      · show finite q * finite x ≤ finite q * finite y
        rw [finite_mul_comm, finite_mul_comm q]
        exact mul_le_mul hnegative hle
  · rw [eq_infinite_of_not_isFinite hbase hfinite] at hx hy ⊢
    exact infinite_mul_le_infinite_mul hle hx hy

end

/-! ## Rounded results -/

section

variable {x y : Finite}

theorem finite_eq_neg_opposite (x : Finite) : finite x = -finite x.opposite := by
  rw [neg_finite, Finite.opposite, negative_opposite, Bool.not_not]
  rfl

theorem toRat_opposite (x : Finite) : x.opposite.toRat = -x.toRat := by
  rw [Finite.toRat, Finite.toRat, position_opposite, Int.cast_neg]
  ring

theorem abs_middle_sub_toRat_le (x : Finite) : |(x.middle : ℚ) - x.toRat| ≤ 1 / 2 := by
  have hhalf := ((x.roundsTo_iff x.middle).2 rfl).1
  have hdistance : (x.middle : ℚ) - x.toRat = (x.middle * one - x.position : Int) / one := by
    rw [Finite.toRat, Int.cast_sub, Int.cast_mul, Int.cast_natCast, sub_div,
      mul_div_cancel_right₀ _ one_pos_rat.ne']
  rw [hdistance, abs_div, abs_of_pos one_pos_rat, div_le_div_iff₀ one_pos_rat two_pos, one_mul,
    mul_comm, ← Int.cast_abs, Int.abs_eq_natAbs, ← Int.natAbs_neg, Int.neg_sub]
  exact_mod_cast hhalf

/-- A value less than a half away from a whole number is rounded to it. -/
theorem wholeNearest_of_near {n : Nat} (hx : x.negative = false) (hnear : |x.toRat - n| < 1 / 2) :
    x.wholeNearest = n := by
  obtain ⟨hdown, hup⟩ := abs_lt.1 hnear
  obtain ⟨hroundDown, hroundUp⟩ := abs_le.1 (abs_middle_sub_toRat_le x)
  have hmiddle : x.middle = x.wholeNearest := by rw [Finite.middle, hx, signed_false]
  have hone : |(x.middle : ℚ) - n| < 1 := by
    rw [abs_lt]
    constructor <;> linarith
  have hint : |x.middle - n| < 1 := by exact_mod_cast hone
  rw [Int.abs_lt_one_iff] at hint
  omega

/-- A multiple of a rounded number that is rounded again. -/
theorem Finite.Rounds.scale {factor exact : ℚ} (hfactor : 0 ≤ factor) (hexact : 0 ≤ exact)
    (hx : x.Rounds exact) (hy : y.Rounds (factor * x.toRat)) :
    |y.toRat - factor * exact| ≤ factor * exact / 2 ^ 51 := by
  have hup := mul_le_mul_of_nonneg_left hx.le hfactor
  have hdown := mul_le_mul_of_nonneg_left hx.ge hfactor
  have hnonneg := mul_nonneg hfactor hexact
  have hyUp := hy.le
  have hyDown := hy.ge
  rw [abs_le]
  constructor <;> linarith

/-- What is near a whole number is zero or not small. -/
theorem units_eq_zero_or_le {n : Nat} (hx : x.negative = false)
    (hnear : |x.toRat - n| ≤ n / 2 ^ 51) : x.units = 0 ∨ 3 / 4 ≤ x.toRat := by
  obtain ⟨hdown, hup⟩ := abs_le.1 hnear
  rcases Nat.eq_zero_or_pos n with rfl | hpos
  · rw [Nat.cast_zero] at hup
    refine Or.inl (Nat.eq_zero_of_not_pos fun hunits => ?_)
    exact absurd (toRat_pos hx hunits) (by linarith)
  · have hone : (1 : ℚ) ≤ n := by exact_mod_cast hpos
    exact Or.inr (by linarith)

/-! ## Whole positions -/

theorem units_of_position {n : Int} (hposition : x.position = n * one) :
    x.units = n.natAbs * one := by
  rw [← natAbs_signed x.negative x.units, ← position_eq_signed, hposition, Int.natAbs_mul,
    Int.natAbs_natCast]

theorem signed_of_position {n : Int} (hposition : x.position = n * one) :
    signed x.negative n.natAbs = n := by
  have hone : (one : Int) ≠ 0 := Int.natCast_ne_zero.2 (Nat.ne_of_gt Binary64.one_pos)
  rw [position_eq_signed, units_of_position hposition, signed_mul] at hposition
  exact Int.eq_of_mul_eq_mul_right hone hposition

/-- A product with a whole number is an amount of whole units before it is rounded. -/
theorem rounds_mul_of_whole {n bound : Nat} (hx : x.negative = false) (hy : y.negative = false)
    (hunits : x.units = n * one) (hbound : Representable bound) (hle : n * y.units ≤ bound) :
    ∃ z : Finite, finite x * finite y = finite z ∧ z.negative = false ∧
      z.Rounds (n * y.toRat) := by
  obtain ⟨z, hz, hnegative, hrounds⟩ := rounds_units hbound hle
  refine ⟨z, ?_, hnegative, ?_⟩
  · have hround := round_mul_right Binary64.one_pos x.negative (n * y.units) 1
    rw [mul_eq_round hy, hunits, Nat.mul_right_comm]
    rw [Nat.one_mul] at hround
    rw [hround, hx, hz]
  · rwa [Nat.cast_mul, mul_div_assoc, ← toRat_of_not_negative hy] at hrounds

/-- A sum that is representable is not rounded at all. -/
theorem exists_add_eq_exact (hsum : Representable (x.position + y.position).natAbs) :
    ∃ z : Finite, finite x + finite y = finite z ∧ z.position = x.position + y.position := by
  show ∃ z, x.add y = finite z ∧ _
  unfold Finite.add
  dsimp only
  split
  · rename_i hzero
    exact ⟨_, rfl, (signed_zero _).trans hzero.symm⟩
  · exact ⟨_, round_of_representable _ hsum, signed_natAbs _⟩

theorem exists_round_eq {exact : Int} {bound : Nat} (hbound : Representable bound)
    (hle : exact.natAbs ≤ bound) :
    ∃ z : Finite, round (exact < 0) exact.natAbs 1 = finite z ∧
      |z.toRat - exact / one| ≤ |(exact : ℚ) / one| / 2 ^ 53 := by
  obtain ⟨z, hz, -, hrounds⟩ := rounds_units hbound hle
  have hsize : (exact.natAbs : ℚ) / one = |(exact : ℚ) / one| := by
    rw [abs_div, abs_of_pos one_pos_rat, ← Int.cast_abs, Int.abs_eq_natAbs, Int.cast_natCast]
  rw [Finite.Rounds, hsize] at hrounds
  by_cases hsign : exact < 0
  · have hexact : (exact : ℚ) / one ≤ 0 :=
      div_nonpos_of_nonpos_of_nonneg (Int.cast_nonpos.2 hsign.le) one_pos_rat.le
    refine ⟨z.opposite, ?_, ?_⟩
    · rw [decide_eq_true hsign, ← Bool.not_false, ← neg_round, hz, neg_finite]
    · rw [abs_of_nonpos hexact] at hrounds ⊢
      rwa [toRat_opposite, ← abs_neg, neg_sub, sub_neg_eq_add, add_comm, ← sub_neg_eq_add]
  · have hexact : 0 ≤ (exact : ℚ) / one :=
      div_nonneg (Int.cast_nonneg (not_lt.1 hsign)) one_pos_rat.le
    refine ⟨z, ?_, ?_⟩
    · rw [decide_eq_false hsign, hz]
    · rwa [abs_of_nonneg hexact] at hrounds ⊢

/-- A sum that is not too large is rounded to a value near it. -/
theorem exists_add_eq (hbound : |x.toRat + y.toRat| ≤ 2 ^ 64) :
    ∃ z : Finite, finite x + finite y = finite z ∧
      |z.toRat - (x.toRat + y.toRat)| ≤ |x.toRat + y.toRat| / 2 ^ 53 := by
  have hsum : x.toRat + y.toRat = (x.position + y.position : Int) / one := by
    rw [Finite.toRat, Finite.toRat, ← add_div, Int.cast_add]
  rw [hsum] at hbound ⊢
  have hle : (x.position + y.position).natAbs ≤ 2 ^ 64 * one := by
    rw [abs_div, abs_of_pos one_pos_rat, div_le_iff₀ one_pos_rat, ← Int.cast_abs,
      Int.abs_eq_natAbs] at hbound
    exact_mod_cast hbound
  show ∃ z, x.add y = finite z ∧ _
  unfold Finite.add
  dsimp only
  split
  · rename_i hzero
    have hnothing : ((0 : Int) / one : ℚ) = 0 := div_eq_zero_iff.2 (Or.inl Int.cast_zero)
    refine ⟨_, rfl, ?_⟩
    rw [hzero, toRat_of_units_eq_zero rfl, hnothing, sub_self, abs_zero]
    exact div_nonneg le_rfl (by norm_num)
  · exact exists_round_eq (representable_power (by decide)) hle

end

end Binary64
end Espressivo
