import Espressivo.Proofs.Timing.Order
import Espressivo.Proofs.Timing.Validity

/-!
# The shortest snapped duration

A positive multiple of the grid is one step at least, and so is a positive value that is kept since
it has too many steps. So a duration, for which one step takes the place of what is not positive, is
never shorter than one step.
-/

namespace Espressivo

open Binary64

variable {grid : Grid} {mode : SnapMode} {value : Binary64}

/-! ## Multiples -/

namespace Binary64

variable {q w : Finite} (hnegative : q.negative = false)

include hnegative

theorem zero_mul_finite : zero false * finite q = 0 := by
  rw [zero_mul, hnegative, Bool.bne_false, zero_eq]

theorem mul_le_zero (hw : w.position ≤ 0) : finite w * finite q ≤ 0 := by
  rw [← zero_mul_finite hnegative]
  exact mul_le_mul hnegative hw

/-- The rounded product of a value and a factor of one or more is not below the value. -/
theorem le_finite_mul (hw : (one : Int) ≤ w.position) : finite q ≤ finite w * finite q := by
  have hpositive : w.negative = false ∧ one ≤ w.units := by
    rw [position_eq_signed] at hw
    cases hsign : w.negative with
    | true =>
      rw [hsign, signed_true] at hw
      have hone := one_pos
      omega
    | false =>
      rw [hsign, signed_false] at hw
      exact ⟨rfl, Int.ofNat_le.1 hw⟩
  have hmul : q.units * one ≤ w.units * q.units := by
    rw [Nat.mul_comm]
    exact Nat.mul_le_mul_right _ hpositive.2
  have hnearest : q.units ≤ nearest (w.units * q.units) one :=
    le_nearest one_pos q.representable.2 hmul
  have hlimit : q.units ≤ limit := Nat.le_of_lt q.representable.1
  rw [mul_eq_round hnegative, le_iff]
  refine ⟨_, _, rfl, position?_round _ _ _, ?_⟩
  rw [position_eq_signed, hnegative, hpositive.1, signed_false, signed_false]
  exact Int.ofNat_le.2 (Nat.le_min.2 ⟨hnearest, hlimit⟩)

/-- A positive product with a whole number is not below the other factor. -/
theorem le_whole_mul {n : Int} (hw : w.position = n * one) (hpos : ¬ finite w * finite q ≤ 0) :
    finite q ≤ finite w * finite q := by
  have hone : (0 : Int) ≤ one := Int.natCast_nonneg _
  rcases Int.lt_or_le 0 n with hn | hn
  · have hmul : 1 * (one : Int) ≤ n * one := Int.mul_le_mul_of_nonneg_right hn hone
    rw [Int.one_mul, ← hw] at hmul
    exact le_finite_mul hnegative hmul
  · refine absurd (mul_le_zero hnegative ?_) hpos
    rw [hw]
    exact Int.mul_nonpos_of_nonpos_of_nonneg hn hone

/-- A positive value with a quotient that is too large is not below the divisor. -/
theorem le_of_div_eq_infinite (hq : 0 < q.units) {x : Binary64} {negative : Bool}
    (hdiv : x / finite q = infinite negative) (hpos : ¬ x ≤ 0) : finite q ≤ x := by
  cases negative with
  | false =>
    let single : Finite := ⟨false, 1 * one, representable_mul_one (by decide)⟩
    have hsingle : (one : Int) ≤ single.position :=
      Int.ofNat_le.2 (Nat.le_of_eq (Nat.one_mul one).symm)
    exact le_trans (le_finite_mul hnegative hsingle)
      (mul_le_of_div_eq_infinite hnegative hq single hdiv)
  | true =>
    have hle : x ≤ zero false * finite q := le_mul_of_div_eq_infinite hnegative hq _ hdiv
    rw [zero_mul_finite hnegative] at hle
    exact absurd hle hpos

end Binary64

/-! ## Snapped durations -/

theorem ne_nan_of_isFinite_snap (hfinite : (snap grid mode value).isFinite) : value ≠ nan := by
  rintro rfl
  rcases snap_cases grid mode nan with hkept | ⟨hnan, -⟩
  · rw [hkept] at hfinite
    cases hfinite
  · cases hnan

/-- A positive result of snapping is one step at least. -/
theorem quarters_le_snap (husable : grid.IsUsable) (hvalue : value ≠ nan)
    (hpos : 0 < snap grid mode value) : grid.quarters ≤ snap grid mode value := by
  obtain ⟨q, hquarters, hnegative, hq⟩ := exists_finite_of_pos husable.1 husable.2
  have hnot : ¬ snap grid mode value ≤ 0 := fun hle => not_lt_of_le hle hpos
  rcases snap_of_isUsable hquarters husable hvalue mode with
    ⟨x, w, -, hw, hsnap⟩ | ⟨negative, hsteps, hsnap⟩
  · rw [hsnap, add_zero_le_iff] at hnot
    rw [hsnap, hquarters, le_add_zero_iff]
    exact le_whole_mul hnegative hw hnot
  · rw [hsnap] at hnot ⊢
    rw [hquarters]
    exact le_of_div_eq_infinite hnegative hq hsteps hnot

theorem snapDuration_of_pos (hpos : 0 < snap grid mode value) :
    snapDuration grid mode value = snap grid mode value := by
  rw [snapDuration, if_neg fun hstep => not_lt_of_le hstep.2.2 hpos]

theorem snapDuration_of_not_pos (husable : grid.IsUsable)
    (hfinite : (snap grid mode value).isFinite) (hpos : ¬ 0 < snap grid mode value) :
    snapDuration grid mode value = grid.quarters := by
  rw [← not_le_zero_iff hfinite, not_not] at hpos
  rw [snapDuration, if_pos ⟨hfinite, husable, hpos⟩]

theorem quarters_le_of_isFinite_snap (husable : grid.IsUsable)
    (hfinite : (snap grid mode value).isFinite) :
    grid.quarters ≤ snapDuration grid mode value := by
  by_cases hpos : 0 < snap grid mode value
  · rw [snapDuration_of_pos hpos]
    exact quarters_le_snap husable (ne_nan_of_isFinite_snap hfinite) hpos
  · rw [snapDuration_of_not_pos husable hfinite hpos, le_self_iff]
    exact ne_nan_of_isFinite husable.1

/-- Where durations have finite multiples on a usable grid, they are snapped to one step or more,
and to exactly one step if the multiple is not positive. Their order is kept. -/
theorem quarters_le_snapDuration (husable : grid.IsUsable) (mode : SnapMode) :
    (∀ duration, (snap grid mode duration).isFinite →
      grid.quarters ≤ snapDuration grid mode duration ∧
      snapDuration grid mode duration =
        if 0 < snap grid mode duration then snap grid mode duration else grid.quarters) ∧
    ∀ a b, a ≤ b → (snap grid mode a).isFinite → (snap grid mode b).isFinite →
      snapDuration grid mode a ≤ snapDuration grid mode b := by
  refine ⟨fun duration hfinite => ⟨quarters_le_of_isFinite_snap husable hfinite, ?_⟩,
    fun a b hle ha hb => ?_⟩
  · by_cases hpos : 0 < snap grid mode duration
    · rw [if_pos hpos, snapDuration_of_pos hpos]
    · rw [if_neg hpos, snapDuration_of_not_pos husable hfinite hpos]
  · by_cases hpos : 0 < snap grid mode a
    · have hsnap : snap grid mode a ≤ snap grid mode b :=
        snap_le_snap_of_steps (fun x y => steps_le_steps mode) hle
      rw [snapDuration_of_pos hpos, snapDuration_of_pos (lt_of_lt_of_le hpos hsnap)]
      exact hsnap
    · rw [snapDuration_of_not_pos husable ha hpos]
      exact quarters_le_of_isFinite_snap husable hb

/-- A duration with too many steps is kept if it is positive, and is one step if it is negative. -/
theorem quarters_le_snapDuration_fine :
    let grid : Grid := ⟨1e-10⟩
    grid.IsUsable ∧ (snap grid .floor (-1e300)).isFinite ∧ (snap grid .floor 1e300).isFinite ∧
      snapDuration grid .floor (-1e300) = 1e-10 ∧ snapDuration grid .floor 1e300 = 1e300 ∧
      snapDuration grid .floor (-1e300) ≤ snapDuration grid .floor 1e300 := by
  intro grid
  have husable : grid.IsUsable := by decide +kernel
  have hlow : (snap grid .floor (-1e300)).isFinite := by decide +kernel
  have hhigh : (snap grid .floor 1e300).isFinite := by decide +kernel
  obtain ⟨hduration, hmono⟩ := quarters_le_snapDuration husable .floor
  refine ⟨husable, hlow, hhigh, (hduration _ hlow).2.trans (if_neg (by decide +kernel)),
    (hduration _ hhigh).2.trans ((if_pos (by decide +kernel)).trans (by decide +kernel)),
    hmono _ _ (by decide +kernel) hlow hhigh⟩

end Espressivo
