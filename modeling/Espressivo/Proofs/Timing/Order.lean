import Espressivo.Proofs.Binary64.Monotone
import Espressivo.Proofs.Performance.Faults
import Espressivo.Proofs.Timing.Snap

/-!
# The order of snapped values

Snapping is monotone. Within one step the tolerance overrides the mode on both sides, but the closer
of two values to a whole number of steps is taken there first; from one step to the next, and where
values become too large for the grid, rounding keeps the order. Of the three modes the floor is the
least and the ceiling the greatest.
-/

namespace Espressivo

open Binary64

/-! ## Whole steps -/

/-- The steps are within the tolerance of a whole number. -/
def IsClose (x : Finite) : Prop :=
  (finite x - roundToWhole (finite x)).abs < snapTolerance

instance (x : Finite) : Decidable (IsClose x) := inferInstanceAs (Decidable (_ < _))

/-- The whole number that steps are taken to. -/
def SnapMode.steps (mode : SnapMode) (x : Finite) : Int :=
  if IsClose x then x.middle
  else
    match mode with
    | .nearest => x.middle
    | .floor => x.down
    | .ceil => x.up

variable {x y : Finite}

theorem wholeSteps_eq_ite (mode : SnapMode) (x : Finite) :
    wholeSteps mode (finite x) =
      if IsClose x then (finite x).roundToWhole
      else
        match mode with
        | .nearest => (finite x).roundToWhole
        | .floor => (finite x).floor
        | .ceil => (finite x).ceil :=
  rfl

theorem wholeSteps_eq_steps (mode : SnapMode) (x : Finite) :
    ∃ w : Finite, wholeSteps mode (finite x) = finite w ∧ w.position = mode.steps x * one := by
  rw [wholeSteps_eq_ite]
  unfold SnapMode.steps
  by_cases hclose : IsClose x
  · rw [if_pos hclose, if_pos hclose]
    exact roundToWhole_finite x
  · rw [if_neg hclose, if_neg hclose]
    cases mode with
    | nearest => exact roundToWhole_finite x
    | floor => exact floor_finite x
    | ceil => exact ceil_finite x

theorem IsClose.of_closer (hy : IsClose y)
    (hcloser : (x.position - x.middle * one).natAbs ≤ (y.position - y.middle * one).natAbs) :
    IsClose x := by
  obtain ⟨m, hm, hpositionM⟩ := roundToWhole_finite x
  obtain ⟨n, hn, hpositionN⟩ := roundToWhole_finite y
  rw [IsClose, hn] at hy
  rw [IsClose, hm]
  rw [← hpositionM, ← hpositionN] at hcloser
  exact lt_of_le_of_lt (abs_sub_le_abs_sub hcloser) hy

/-- A value above a close one is close as well, unless it reaches the same whole number. -/
theorem IsClose.of_le (hx : IsClose x) (hle : x.position ≤ y.position)
    (hbelow : y.down < x.middle) : IsClose y := by
  have hup : x.up ≤ y.up := Finite.up_mono hle
  have hmiddle : x.middle ≤ y.middle := Finite.middle_mono hle
  have hx' := x.middle_le_up
  have hy' := y.middle_le_up
  have hnext := y.up_le_down_add_one
  -- Both values lie in the step that ends at the whole number.
  have hsame : y.middle = x.middle := by omega
  have hend : y.up = x.middle := by omega
  have habove := y.up_bounds.1
  rw [hend] at habove
  apply hx.of_closer
  rw [hsame]
  omega

/-- A value below a close one is close as well, unless the whole number is below it. -/
theorem IsClose.of_ge (hy : IsClose y) (hle : x.position ≤ y.position)
    (habove : y.middle < x.up) : IsClose x := by
  have hdown : x.down ≤ y.down := Finite.down_mono hle
  have hmiddle : x.middle ≤ y.middle := Finite.middle_mono hle
  have hx' := x.down_le_middle
  have hy' := y.down_le_middle
  have hnext := x.up_le_down_add_one
  have hsame : x.middle = y.middle := by omega
  have hstart : x.down = y.middle := by omega
  have hbelow := x.down_bounds.1
  rw [hstart] at hbelow
  apply hy.of_closer
  rw [hsame]
  omega

theorem steps_le_steps (mode : SnapMode) (hle : x.position ≤ y.position) :
    mode.steps x ≤ mode.steps y := by
  have hmiddle : x.middle ≤ y.middle := Finite.middle_mono hle
  unfold SnapMode.steps
  by_cases hx : IsClose x
  · by_cases hy : IsClose y
    · rw [if_pos hx, if_pos hy]
      exact hmiddle
    · rw [if_pos hx, if_neg hy]
      cases mode with
      | nearest => exact hmiddle
      | floor => exact Int.not_lt.1 fun hbelow => hy (hx.of_le hle hbelow)
      | ceil => exact Int.le_trans hmiddle y.middle_le_up
  · by_cases hy : IsClose y
    · rw [if_neg hx, if_pos hy]
      cases mode with
      | nearest => exact hmiddle
      | floor => exact Int.le_trans x.down_le_middle hmiddle
      | ceil => exact Int.not_lt.1 fun habove => hx (hy.of_ge hle habove)
    · rw [if_neg hx, if_neg hy]
      cases mode with
      | nearest => exact hmiddle
      | floor => exact Finite.down_mono hle
      | ceil => exact Finite.up_mono hle

theorem floor_steps_le (x : Finite) : SnapMode.floor.steps x ≤ SnapMode.nearest.steps x := by
  unfold SnapMode.steps
  split
  · exact Int.le_refl _
  · exact x.down_le_middle

theorem le_ceil_steps (x : Finite) : SnapMode.nearest.steps x ≤ SnapMode.ceil.steps x := by
  unfold SnapMode.steps
  split
  · exact Int.le_refl _
  · exact x.middle_le_up

/-! ## Snapped values -/

variable {grid : Grid} {mode : SnapMode} {value : Binary64}

/-- On a usable grid a value is taken to a multiple, unless it has no finite number of steps. -/
theorem snap_of_isUsable {q : Finite} (hquarters : grid.quarters = finite q)
    (husable : grid.IsUsable) (hvalue : value ≠ nan) (mode : SnapMode) :
    (∃ x w : Finite, value / finite q = finite x ∧ w.position = mode.steps x * one ∧
        snap grid mode value = finite w * finite q + 0) ∨
      ∃ negative, value / finite q = infinite negative ∧ snap grid mode value = value := by
  obtain ⟨p, hp, hnegative, hq⟩ := exists_finite_of_pos husable.1 husable.2
  obtain rfl : p = q := by
    rw [hquarters] at hp
    exact (Binary64.finite.inj hp).symm
  have hne := div_ne_nan hnegative hq hvalue
  cases hsteps : value / finite p with
  | nan => exact absurd hsteps hne
  | infinite negative =>
    refine Or.inr ⟨negative, rfl, snap_of_not_isFinite ?_⟩
    rw [hquarters, hsteps]
    exact nofun
  | finite x =>
    obtain ⟨w, hw, hposition⟩ := wholeSteps_eq_steps mode x
    have hfinite : value.isFinite := by
      cases value with
      | nan => exact absurd rfl hvalue
      | infinite negative =>
        rw [infinite_div hnegative] at hsteps
        cases hsteps
      | finite v => rfl
    refine Or.inl ⟨x, w, rfl, hposition, ?_⟩
    rw [snap_of_isFinite hfinite husable (by rw [hquarters, hsteps]; rfl), hquarters, hsteps, hw]

/-- Snapping keeps the order of two values if making their steps whole does. -/
theorem snap_le_snap_of_steps {low high : SnapMode} {a b : Binary64}
    (hsteps : ∀ x y : Finite, x.position ≤ y.position → low.steps x ≤ high.steps y)
    (hle : a ≤ b) : snap grid low a ≤ snap grid high b := by
  by_cases husable : grid.IsUsable
  · obtain ⟨q, hquarters, hnegative, hq⟩ := exists_finite_of_pos husable.1 husable.2
    have hdiv := div_le_div hnegative hq hle
    have hsnapA := snap_of_isUsable hquarters husable (ne_nan_of_le_left hle) low
    have hsnapB := snap_of_isUsable hquarters husable (ne_nan_of_le_right hle) high
    rcases hsnapA with ⟨x, v, hx, hv, hsnapA⟩ | ⟨signA, hx, hsnapA⟩ <;>
      rcases hsnapB with ⟨y, w, hy, hw, hsnapB⟩ | ⟨signB, hy, hsnapB⟩ <;>
        rw [hx, hy] at hdiv <;> rw [hsnapA, hsnapB]
    · have hwhole : finite v ≤ finite w := by
        rw [finite_le_finite_iff, hv, hw]
        exact Int.mul_le_mul_of_nonneg_right (hsteps x y hdiv) (Int.natCast_nonneg _)
      rw [add_zero_le_iff, le_add_zero_iff]
      exact mul_le_mul hnegative hwhole
    · rw [add_zero_le_iff]
      cases signB with
      | true => exact absurd hdiv not_le_infinite
      | false => exact mul_le_of_div_eq_infinite hnegative hq v hy
    · rw [le_add_zero_iff]
      cases signA with
      | false => exact absurd hdiv not_infinite_le
      | true => exact le_mul_of_div_eq_infinite hnegative hq w hx
    · exact hle
  · rw [snap_of_not_isUsable husable, snap_of_not_isUsable husable]
    exact hle

theorem getElem?_notes_snap (track : Track) (index : Nat) :
    (track.snap grid mode).notes[index]? = track.notes[index]?.map (Note.snap grid mode) :=
  List.getElem?_map

/-- On any grid snapping keeps the order of values in each mode, and that of the modes for each
value. So no two notes of a track change places when it is snapped. -/
theorem snap_le_snap (grid : Grid) :
    (∀ mode a b, a ≤ b → snap grid mode a ≤ snap grid mode b) ∧
    (∀ value, value ≠ nan →
      snap grid .floor value ≤ snap grid .nearest value ∧
        snap grid .nearest value ≤ snap grid .ceil value) ∧
    ∀ mode (track : Track) (i j : Nat) (a b : Note), track.notes[i]? = some a →
      track.notes[j]? = some b → a.time ≤ b.time →
        ∃ snappedA snappedB, (track.snap grid mode).notes[i]? = some snappedA ∧
          (track.snap grid mode).notes[j]? = some snappedB ∧ snappedA.time ≤ snappedB.time := by
  have hmono : ∀ mode a b, a ≤ b → snap grid mode a ≤ snap grid mode b := fun mode a b =>
    snap_le_snap_of_steps fun x y => steps_le_steps mode
  refine ⟨hmono, fun value hvalue => ⟨?floor, ?ceil⟩, fun mode track i j a b ha hb hle => ?notes⟩
  case floor =>
    apply snap_le_snap_of_steps _ (le_self_iff.2 hvalue)
    intro x y hxy
    exact Int.le_trans (floor_steps_le x) (steps_le_steps .nearest hxy)
  case ceil =>
    apply snap_le_snap_of_steps _ (le_self_iff.2 hvalue)
    intro x y hxy
    exact Int.le_trans (steps_le_steps .nearest hxy) (le_ceil_steps y)
  case notes =>
    refine ⟨a.snap grid mode, b.snap grid mode, ?_, ?_, hmono mode _ _ hle⟩
    · rw [getElem?_notes_snap, ha]
      rfl
    · rw [getElem?_notes_snap, hb]
      rfl

/-- The second value is close to eight steps, and the last has too many of them. -/
theorem snap_le_snap_tenth :
    let early : Note := { Note.plain none 1 none with time := 0.79 }
    let late : Note := { Note.plain none 1 none with time := 0.7999999999999999 }
    let snapped := (Track.mk [late, early] []).snap ⟨0.1⟩ .floor
    snap ⟨0.1⟩ .floor 0.79 = 0.7000000000000001 ∧
      snap ⟨0.1⟩ .floor 0.7999999999999999 = 0.8 ∧
      (∃ a b, snapped.notes[1]? = some a ∧ snapped.notes[0]? = some b ∧ a.time ≤ b.time) ∧
      snap ⟨0.1⟩ .floor 0.79 ≤ snap ⟨0.1⟩ .nearest 0.79 ∧
      snap ⟨1e-10⟩ .ceil 1e300 = 1e300 ∧
      snap ⟨1e-10⟩ .ceil 1e297 ≤ snap ⟨1e-10⟩ .ceil 1e300 := by
  intro early late snapped
  obtain ⟨-, hmodes, hnotes⟩ := snap_le_snap ⟨0.1⟩
  refine ⟨by decide +kernel, by decide +kernel, ?_, ?_, by decide +kernel, ?_⟩
  · exact hnotes .floor _ 1 0 early late rfl rfl (by decide +kernel)
  · exact (hmodes 0.79 (by decide +kernel)).1
  · exact (snap_le_snap ⟨1e-10⟩).1 .ceil _ _ (by decide +kernel)

end Espressivo
