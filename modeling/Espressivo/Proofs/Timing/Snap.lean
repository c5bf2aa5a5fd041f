import Espressivo.Proofs.Binary64.Integral
import Espressivo.Timing.Snap

/-!
# Snapped values

A value stays as it is, or it is taken to a multiple of the grid. Zero is always a multiple, and no
snapping makes a negative zero.
-/

namespace Espressivo

open Binary64

variable {grid : Grid} {mode : SnapMode} {value : Binary64}

theorem snap_cases (grid : Grid) (mode : SnapMode) (value : Binary64) :
    snap grid mode value = value ∨
      value.isFinite ∧ grid.IsUsable ∧ (value / grid.quarters).isFinite ∧
        snap grid mode value = wholeSteps mode (value / grid.quarters) * grid.quarters + 0 := by
  rw [snap]
  by_cases hkept : ¬ value.isFinite ∨ ¬ grid.IsUsable
  · exact Or.inl (if_pos hkept)
  · rw [if_neg hkept]
    obtain ⟨hvalue, husable⟩ := not_or.1 hkept
    by_cases hsteps : (value / grid.quarters).isFinite
    · exact Or.inr ⟨Decidable.not_not.1 hvalue, Decidable.not_not.1 husable, hsteps,
        if_neg (Decidable.not_not.2 hsteps)⟩
    · exact Or.inl (if_pos hsteps)

theorem snap_of_not_isUsable (husable : ¬ grid.IsUsable) : snap grid mode value = value := by
  rw [snap, if_pos (Or.inr husable)]

theorem snap_of_not_isFinite (hsteps : ¬ (value / grid.quarters).isFinite) :
    snap grid mode value = value := by
  rcases snap_cases grid mode value with hkept | ⟨-, -, hfinite, -⟩
  · exact hkept
  · exact absurd hfinite hsteps

theorem snap_of_isFinite (hvalue : value.isFinite) (husable : grid.IsUsable)
    (hsteps : (value / grid.quarters).isFinite) :
    snap grid mode value = wholeSteps mode (value / grid.quarters) * grid.quarters + 0 := by
  rw [snap, if_neg fun hkept => hkept.elim (absurd hvalue) (absurd husable)]
  exact if_neg (Decidable.not_not.2 hsteps)

theorem wholeSteps_zero (mode : SnapMode) (sign : Bool) :
    wholeSteps mode (zero sign) = zero sign := by
  unfold wholeSteps
  rw [roundToWhole_zero]
  dsimp only
  split
  · rfl
  · cases mode with
    | nearest => rfl
    | floor => exact floor_zero sign
    | ceil => exact ceil_zero sign

/-- Steps are made whole by going to one of the two whole numbers next to them. -/
theorem wholeSteps_eq_ofWhole (mode : SnapMode) (x : Finite) :
    ∃ n, wholeSteps mode (finite x) = ofWhole x.negative n ∧ x.whole ≤ n ∧ n ≤ x.wholeUp := by
  have hnearest := And.intro (whole_le_wholeNearest x) (wholeNearest_le_wholeUp x)
  have hdown := And.intro (Nat.le_refl x.whole) (whole_le_wholeUp x)
  have hup := And.intro (whole_le_wholeUp x) (Nat.le_refl x.wholeUp)
  unfold wholeSteps
  dsimp only
  split
  · exact ⟨x.wholeNearest, rfl, hnearest⟩
  · cases mode with
    | nearest => exact ⟨x.wholeNearest, rfl, hnearest⟩
    | floor =>
      refine ⟨if x.negative then x.wholeUp else x.whole, rfl, ?_⟩
      split
      · exact hup
      · exact hdown
    | ceil =>
      refine ⟨if x.negative then x.whole else x.wholeUp, rfl, ?_⟩
      split
      · exact hdown
      · exact hup

theorem wholeSteps_finite (mode : SnapMode) (x : Finite) :
    ∃ (w : Finite) (n : Nat), wholeSteps mode (finite x) = finite w ∧ w.negative = x.negative ∧
      w.units = n * one ∧ x.whole ≤ n ∧ n ≤ x.wholeUp := by
  obtain ⟨n, hsteps, hdown, hup⟩ := wholeSteps_eq_ofWhole mode x
  obtain ⟨w, hwhole, hnegative, hunits⟩ := ofWhole_eq_finite hdown hup
  exact ⟨w, n, hsteps.trans hwhole, hnegative, hunits, hdown, hup⟩

theorem snap_zero (grid : Grid) (mode : SnapMode) : snap grid mode 0 = 0 := by
  rcases snap_cases grid mode 0 with hkept | ⟨-, ⟨hfinite, hpos⟩, -, hsnap⟩
  · exact hkept
  · cases hquarters : grid.quarters with
    | nan => simp [hquarters, isFinite] at hfinite
    | infinite negative => simp [hquarters, isFinite] at hfinite
    | finite q =>
      have hunits : q.units ≠ 0 := by
        intro hzero
        rw [hquarters, eq_zero_of_units_eq_zero hzero] at hpos
        exact absurd hpos (by cases q.negative <;> decide +kernel)
      rw [hsnap, hquarters, zero_eq, zero_div hunits, wholeSteps_zero, zero_mul]
      rw [← zero_eq]
      exact zero_add_zero _

/-- No result of snapping is a negative zero, unless the value was one. -/
theorem eq_of_snap_eq_zero_true (hsnap : snap grid mode value = zero true) : value = zero true := by
  rcases snap_cases grid mode value with hkept | ⟨-, -, -, hmultiple⟩
  · rw [← hkept, hsnap]
  · rw [hmultiple] at hsnap
    exact absurd hsnap (add_zero_ne_zero_true _)

theorem eq_of_snapDuration_eq_zero_true (hsnap : snapDuration grid mode value = zero true) :
    value = zero true := by
  rw [snapDuration] at hsnap
  split at hsnap
  · rename_i hstep
    exact absurd hsnap (ne_zero_true_of_pos hstep.2.1.2)
  · exact eq_of_snap_eq_zero_true hsnap

end Espressivo
