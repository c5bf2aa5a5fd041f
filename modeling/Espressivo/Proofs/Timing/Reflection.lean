import Espressivo.Proofs.Binary64.Negation
import Espressivo.Proofs.Timing.Order

/-!
# Reflected values

Snapping treats both signs alike: the negation of a value is snapped to the negation of its
multiple, where rounding down and rounding up change places. The tolerance and the values that are
kept are symmetric as well. The results are the same number, though not always the same zero, since
none of them is a negative zero.
-/

namespace Espressivo

open Binary64

/-- The mode that does to negated values what the mode does to values. -/
def SnapMode.reflect : SnapMode → SnapMode
  | nearest => nearest
  | floor => ceil
  | ceil => floor

variable {grid : Grid} {mode : SnapMode} {value : Binary64}

theorem wholeSteps_neg (mode : SnapMode) (steps : Binary64) :
    wholeSteps mode.reflect (-steps) = -wholeSteps mode steps := by
  unfold wholeSteps
  dsimp only
  rw [roundToWhole_neg, abs_neg_sub_neg]
  split
  · rfl
  · cases mode with
    | nearest => rfl
    | floor => exact ceil_neg steps
    | ceil => exact floor_neg steps

theorem position?_snap_neg (grid : Grid) (mode : SnapMode) (value : Binary64) :
    (snap grid mode.reflect (-value)).position? = (-snap grid mode value).position? := by
  by_cases hvalue : value.isFinite
  · by_cases husable : grid.IsUsable
    · by_cases hsteps : (value / grid.quarters).isFinite
      · have hvalue' : (-value).isFinite := by rwa [isFinite_neg]
        have hsteps' : (-value / grid.quarters).isFinite := by rwa [neg_div, isFinite_neg]
        rw [snap_of_isFinite hvalue' husable hsteps', snap_of_isFinite hvalue husable hsteps,
          position?_add_zero, position?_neg, position?_add_zero, neg_div, wholeSteps_neg, neg_mul,
          position?_neg]
      · have hsteps' : ¬ (-value / grid.quarters).isFinite := by rwa [neg_div, isFinite_neg]
        rw [snap_of_not_isFinite hsteps, snap_of_not_isFinite hsteps']
    · rw [snap_of_not_isUsable husable, snap_of_not_isUsable husable]
  · have hkept : ∀ mode (x : Binary64), ¬ x.isFinite → snap grid mode x = x := fun _ _ hx =>
      if_pos (Or.inl hx)
    rw [hkept _ _ hvalue, hkept _ _ (by rwa [isFinite_neg])]

theorem snap_ne_nan (hvalue : value ≠ nan) : snap grid mode value ≠ nan := by
  by_cases husable : grid.IsUsable
  · obtain ⟨q, hquarters, hnegative, -⟩ := exists_finite_of_pos husable.1 husable.2
    rcases snap_of_isUsable hquarters husable hvalue mode with
      ⟨x, w, -, -, hsnap⟩ | ⟨negative, -, hsnap⟩
    · rw [hsnap, ne_eq, ← position?_eq_none_iff, position?_add_zero, position?_eq_none_iff]
      exact mul_ne_nan hnegative w
    · rwa [hsnap]
  · rwa [snap_of_not_isUsable husable]

theorem sameNumber_of_position?_eq {x y : Binary64} (hy : y ≠ nan)
    (hposition : x.position? = y.position?) : x.SameNumber y := by
  rw [ne_eq, ← position?_eq_none_iff] at hy
  obtain ⟨a, ha⟩ := Option.ne_none_iff_exists'.1 hy
  exact compares_iff.2 ⟨a, a, hposition.trans ha, ha, rfl⟩

theorem sameNumber_snap_neg (mode : SnapMode) (hvalue : value ≠ nan) :
    (snap grid mode.reflect (-value)).SameNumber (-snap grid mode value) := by
  refine sameNumber_of_position?_eq ?_ (position?_snap_neg grid mode value)
  have hsnap : snap grid mode value ≠ nan := snap_ne_nan hvalue
  rw [ne_eq, ← position?_eq_none_iff, position?_neg, Option.map_eq_none_iff, position?_eq_none_iff]
  exact hsnap

/-- On any grid a negated value is snapped to the negated multiple: to nearest in the same mode, and
down where the value goes up. -/
theorem snap_neg (grid : Grid) {value : Binary64} (hvalue : value ≠ nan) :
    (snap grid .nearest (-value)).SameNumber (-snap grid .nearest value) ∧
    (snap grid .floor (-value)).SameNumber (-snap grid .ceil value) ∧
    (snap grid .ceil (-value)).SameNumber (-snap grid .floor value) :=
  ⟨sameNumber_snap_neg .nearest hvalue, sameNumber_snap_neg .ceil hvalue,
    sameNumber_snap_neg .floor hvalue⟩

/-- Three eighths lie halfway between two multiples, and both signs go away from zero. -/
theorem snap_neg_half :
    let grid : Grid := ⟨0.25⟩
    (0.375 : Binary64) ≠ nan ∧ snap grid .nearest 0.375 = 0.5 ∧
      snap grid .nearest (-0.375) = -0.5 ∧
      (snap grid .nearest (-0.375)).SameNumber (-snap grid .nearest 0.375) ∧
      (snap grid .floor (-0.375)).SameNumber (-snap grid .ceil 0.375) ∧
      (snap grid .ceil (-0.375)).SameNumber (-snap grid .floor 0.375) := by
  intro grid
  have hvalue : (0.375 : Binary64) ≠ nan := by decide +kernel
  exact ⟨hvalue, by decide +kernel, by decide +kernel, snap_neg grid hvalue⟩

/-- The two zeros are told apart by their signs only. -/
example : snap ⟨1⟩ .nearest (-0.1) = 0 ∧ -snap ⟨1⟩ .nearest 0.1 ≠ 0 := by decide +kernel

end Espressivo
