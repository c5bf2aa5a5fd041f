import Espressivo.Proofs.Binary64.Nonnegative
import Espressivo.Proofs.Binary64.Rounding
import Espressivo.Proofs.Performance.Independence
import Espressivo.Proofs.Timing.Snap

/-!
# Faults of snapped notes

A note without a fault keeps none when it is snapped, unless the multiple of the grid next to its
time or its duration is too large to be finite. Quotients that are too large are guarded against,
but products are not; far below the greatest value there are none.
-/

namespace Espressivo

open Binary64

variable {grid : Grid} {mode : SnapMode} {value : Binary64}

/-- The value has a finite number of steps, and the multiple of the grid next to it is infinite. -/
def Grid.Overflows (grid : Grid) (mode : SnapMode) (value : Binary64) : Prop :=
  grid.IsUsable ∧ (value / grid.quarters).isFinite ∧
    ¬ (wholeSteps mode (value / grid.quarters) * grid.quarters).isFinite

instance (grid : Grid) (mode : SnapMode) (value : Binary64) :
    Decidable (grid.Overflows mode value) :=
  inferInstanceAs (Decidable (_ ∧ _ ∧ ¬ _))

/-! ## Snapped values -/

theorem isFinite_snap_iff (hvalue : value.isFinite) :
    (snap grid mode value).isFinite ↔ ¬ grid.Overflows mode value := by
  by_cases husable : grid.IsUsable
  · by_cases hsteps : (value / grid.quarters).isFinite
    · rw [snap_of_isFinite hvalue husable hsteps, isFinite_add_zero, Grid.Overflows]
      simp [husable, hsteps]
    · rw [snap_of_not_isFinite hsteps]
      exact iff_of_true hvalue fun hover => hsteps hover.2.1
  · rw [snap_of_not_isUsable husable]
    exact iff_of_true hvalue fun hover => husable hover.1

theorem zero_le_wholeSteps {steps : Binary64} (hsteps : 0 ≤ steps) :
    0 ≤ wholeSteps mode steps := by
  unfold wholeSteps
  dsimp only
  split
  · exact zero_le_roundToWhole hsteps
  · cases mode with
    | nearest => exact zero_le_roundToWhole hsteps
    | floor => exact zero_le_floor hsteps
    | ceil => exact zero_le_ceil hsteps

theorem zero_le_snap (hvalue : 0 ≤ value) : 0 ≤ snap grid mode value := by
  rcases snap_cases grid mode value with hkept | ⟨hfinite, husable, -, hsnap⟩
  · rwa [hkept]
  · obtain ⟨q, hquarters, hnegative, hunits⟩ := exists_finite_of_pos husable.1 husable.2
    obtain ⟨x, rfl⟩ := exists_finite hfinite
    have hsteps := zero_le_div hvalue hnegative hunits
    rw [hsnap, hquarters]
    exact zero_le_add_zero (zero_le_mul (zero_le_wholeSteps hsteps) hnegative hunits)

theorem snapDuration_eq_snap (hinfinite : ¬ (snap grid mode value).isFinite) :
    snapDuration grid mode value = snap grid mode value := by
  rw [snapDuration, if_neg fun hstep => hinfinite hstep.1]

theorem isFinite_snapDuration_iff (hvalue : value.isFinite) :
    (snapDuration grid mode value).isFinite ↔ ¬ grid.Overflows mode value := by
  rw [← isFinite_snap_iff hvalue]
  by_cases hsnap : (snap grid mode value).isFinite
  · refine iff_of_true ?_ hsnap
    rw [snapDuration]
    split
    · rename_i hstep
      exact hstep.2.1.1
    · exact hsnap
  · rw [snapDuration_eq_snap hsnap]

/-- One step of the grid takes the place of a duration that would vanish. -/
theorem zero_lt_snapDuration (hvalue : 0 < value) (hsnap : (snap grid mode value).isFinite) :
    0 < snapDuration grid mode value := by
  rw [snapDuration]
  by_cases husable : grid.IsUsable
  · by_cases hle : snap grid mode value ≤ 0
    · rw [if_pos ⟨hsnap, husable, hle⟩]
      exact husable.2
    · rw [if_neg fun hstep => hle hstep.2.2]
      exact (not_le_zero_iff hsnap).1 hle
  · rw [if_neg fun hstep => husable hstep.2.1, snap_of_not_isUsable husable]
    exact hvalue

/-! ## Multiples that stay finite -/

theorem two_mul_nearest_mul_le (num den : Nat) :
    2 * (nearest num den * den) ≤ 3 * num + den := by
  have hround := two_mul_nearest_le num den
  have hspacing : den * spacing (num / den) ≤ num + den := by
    by_cases hzero : num / den = 0
    · rw [hzero]
      exact Nat.le_trans (Nat.le_of_eq (Nat.mul_one den)) (Nat.le_add_left _ _)
    · calc den * spacing (num / den) ≤ den * (num / den) :=
            Nat.mul_le_mul_left _ (spacing_le hzero)
        _ ≤ num := Nat.mul_div_le num den
        _ ≤ num + den := Nat.le_add_right _ _
  omega

/-- A quarter of the greatest finite value, in units. -/
def quarterLimit : Nat := (Nat.pow 2 53 - 1) * Nat.pow 2 2043

theorem representable_quarterLimit : Representable quarterLimit :=
  ⟨by decide +kernel, Nat.pow 2 53 - 1, 2043, by decide +kernel, by decide +kernel⟩

theorem units_le_quarterLimit {x : Finite} (hx : (0 : Binary64) ≤ finite x)
    (hle : finite x ≤ 4e307) : x.units ≤ quarterLimit := by
  have hquarter :
      (4e307 : Binary64) ≤ finite ⟨false, quarterLimit, representable_quarterLimit⟩ := by
    decide +kernel
  exact units_le_of_le hx (le_trans hle hquarter)

/-- One step more than a quotient, taken times its divisor, is below the limit if the terms are far
from it. -/
theorem nearest_mul_lt_limit {num den steps : Nat} (hnum : num ≤ quarterLimit)
    (hden : den ≤ quarterLimit) (hsteps : steps ≤ nearest (num * one) den + one) :
    nearest (steps * den) one < limit := by
  have hquotient := two_mul_nearest_mul_le (num * one) den
  have hmul : steps * den ≤ nearest (num * one) den * den + one * den := by
    rw [← Nat.add_mul]
    exact Nat.mul_le_mul_right den hsteps
  have hnumOne := Nat.mul_le_mul_right one hnum
  have hdenOne := Nat.mul_le_mul_right one hden
  have hone : den * 1 ≤ den * one := Nat.mul_le_mul_left den Binary64.one_pos
  rw [Nat.mul_comm one den] at hmul
  have hbound : steps * den ≤ 2 ^ 2 * quarterLimit * one := by
    rw [Nat.mul_assoc]
    omega
  have hsignificand : HasSignificand (2 ^ 2 * quarterLimit) :=
    hasSignificand_two_pow_mul representable_quarterLimit.2 2
  calc nearest (steps * den) one ≤ 2 ^ 2 * quarterLimit :=
        nearest_le Binary64.one_pos hsignificand hbound
    _ < limit := by decide +kernel

/-- Nothing overflows as long as neither the value nor the grid comes near the greatest value. -/
theorem Grid.not_overflows (hvalue : 0 ≤ value) (hbound : value ≤ 4e307)
    (hquarters : grid.quarters ≤ 4e307) : ¬ grid.Overflows mode value := by
  rintro ⟨husable, hsteps, hover⟩
  obtain ⟨q, hq, hnegative, hpositive⟩ := exists_finite_of_pos husable.1 husable.2
  have hfinite : value.isFinite := by
    refine Decidable.not_not.1 fun hinfinite => ?_
    rw [eq_infinite_of_not_isFinite hvalue hinfinite, hq] at hsteps
    cases hsteps
  obtain ⟨x, rfl⟩ := exists_finite hfinite
  rw [hq] at hsteps hover hquarters
  obtain ⟨s, hquotient⟩ := exists_finite hsteps
  obtain ⟨w, n, hwhole, -, hunits, -, hup⟩ := wholeSteps_finite mode s
  have hx := units_le_quarterLimit hvalue hbound
  have hgrid := units_le_quarterLimit (zero_le_finite_iff.2 (by simp [hnegative])) hquarters
  rw [hquotient, hwhole] at hover
  rw [finite_div_finite (Nat.ne_of_gt hpositive)] at hquotient
  have hs := (round_eq_finite_iff.1 hquotient).2
  refine hover (isFinite_round_iff.2 ?_)
  have hnext : w.units ≤ s.units + one := by
    have hwholeUp := wholeUp_mul_one_lt s
    have hmul := Nat.mul_le_mul_right one hup
    omega
  exact nearest_mul_lt_limit hx hgrid (hs ▸ hnext)

/-! ## Notes -/

namespace Note

variable {note : Note}

theorem fault?_of_pitches (note : Note)
    (hpitches : note.pitches.find? (maxPitch < ·) = none) :
    note.fault? =
      if ¬ note.duration.isFinite ∨ note.duration ≤ 0 then some (.badDuration note.duration)
      else if ¬ note.time.isFinite ∨ note.time < 0 then some (.badTime note.time) else none := by
  simp only [fault?, hpitches]

theorem fault?_eq_none_iff :
    note.fault? = none ↔
      note.pitches.find? (maxPitch < ·) = none ∧
        (note.duration.isFinite ∧ 0 < note.duration) ∧ note.time.isFinite ∧ 0 ≤ note.time := by
  have hduration : ¬ (¬ note.duration.isFinite ∨ note.duration ≤ 0) ↔
      note.duration.isFinite ∧ 0 < note.duration := by
    rw [not_or, not_not]
    exact and_congr_right not_le_zero_iff
  have htime : ¬ (¬ note.time.isFinite ∨ note.time < 0) ↔ note.time.isFinite ∧ 0 ≤ note.time := by
    rw [not_or, not_not]
    exact and_congr_right not_lt_zero_iff
  rw [← hduration, ← htime, fault?]
  cases note.pitches.find? (maxPitch < ·) with
  | some pitch => exact iff_of_false nofun nofun
  | none =>
    dsimp only
    by_cases hbad : ¬ note.duration.isFinite ∨ note.duration ≤ 0
    · rw [if_pos hbad]
      exact iff_of_false nofun fun hsound => hsound.2.1 hbad
    · rw [if_neg hbad]
      by_cases hlate : ¬ note.time.isFinite ∨ note.time < 0
      · rw [if_pos hlate]
        exact iff_of_false nofun fun hsound => hsound.2.2 hlate
      · rw [if_neg hlate]
        exact iff_of_true rfl ⟨rfl, hbad, hlate⟩

/-- The only fault of a note that had none is an infinite duration or time. -/
theorem fault?_snap (hsound : note.fault? = none) :
    (note.snap grid mode).fault? =
      if grid.Overflows mode note.duration then some (.badDuration (infinite false))
      else if grid.Overflows mode note.time then some (.badTime (infinite false)) else none := by
  obtain ⟨hpitches, ⟨hduration, hpositive⟩, htime, hnonneg⟩ := fault?_eq_none_iff.1 hsound
  have hfault : (note.snap grid mode).fault? =
      if ¬ (snapDuration grid mode note.duration).isFinite ∨
          snapDuration grid mode note.duration ≤ 0
      then some (.badDuration (snapDuration grid mode note.duration))
      else if ¬ (Espressivo.snap grid mode note.time).isFinite ∨
          Espressivo.snap grid mode note.time < 0
      then some (.badTime (Espressivo.snap grid mode note.time)) else none :=
    fault?_of_pitches (note.snap grid mode) hpitches
  rw [hfault]
  by_cases hover : grid.Overflows mode note.duration
  · have hinfinite : ¬ (Espressivo.snap grid mode note.duration).isFinite := fun hfinite =>
      (isFinite_snap_iff hduration).1 hfinite hover
    have heq := eq_infinite_of_not_isFinite (zero_le_snap (le_of_lt hpositive)) hinfinite
    rw [snapDuration_eq_snap hinfinite, heq, if_pos hover, if_pos (Or.inl nofun)]
  · have hfinite := (isFinite_snap_iff hduration).2 hover
    have hsnapped : ¬ (¬ (snapDuration grid mode note.duration).isFinite ∨
        snapDuration grid mode note.duration ≤ 0) := by
      rintro (hinfinite | hle)
      · exact hinfinite ((isFinite_snapDuration_iff hduration).2 hover)
      · exact not_lt_of_le hle (zero_lt_snapDuration hpositive hfinite)
    have hlate : 0 ≤ Espressivo.snap grid mode note.time := zero_le_snap hnonneg
    rw [if_neg hsnapped, if_neg hover]
    by_cases hoverTime : grid.Overflows mode note.time
    · have hinfinite : ¬ (Espressivo.snap grid mode note.time).isFinite := fun hfinite =>
        (isFinite_snap_iff htime).1 hfinite hoverTime
      rw [eq_infinite_of_not_isFinite hlate hinfinite, if_pos hoverTime, if_pos (Or.inl nofun)]
    · have hsnapTime : ¬ (¬ (Espressivo.snap grid mode note.time).isFinite ∨
          Espressivo.snap grid mode note.time < 0) := by
        rintro (hinfinite | hlt)
        · exact hinfinite ((isFinite_snap_iff htime).2 hoverTime)
        · exact not_lt_of_le hlate hlt
      rw [if_neg hsnapTime, if_neg hoverTime]

theorem fault?_snap_eq_none_iff (hsound : note.fault? = none) :
    (note.snap grid mode).fault? = none ↔
      ¬ grid.Overflows mode note.duration ∧ ¬ grid.Overflows mode note.time := by
  rw [fault?_snap hsound]
  by_cases hduration : grid.Overflows mode note.duration
  · rw [if_pos hduration]
    exact iff_of_false nofun fun hfinite => hfinite.1 hduration
  · by_cases htime : grid.Overflows mode note.time
    · rw [if_neg hduration, if_pos htime]
      exact iff_of_false nofun fun hfinite => hfinite.2 htime
    · rw [if_neg hduration, if_neg htime]
      exact iff_of_true rfl ⟨hduration, htime⟩

end Note

/-! ## Tracks -/

theorem performFrom_snap (settings : Settings) (start : Nat) (notes : List Note) :
    performFrom settings start {} (notes.map (Note.snap grid mode)) =
      performFrom settings start {} notes := by
  refine performFrom_congr ?_ ?_ start
  · rw [List.forall₂_map_left_iff]
    exact List.forall₂_same.2 fun note _ => ⟨rfl, rfl⟩
  · rw [List.forall₂_map_left_iff]
    exact List.forall₂_same.2 fun note _ => rfl

/-- The notes of a track without faults keep their pitches when they are snapped. A note gets a
fault only where its duration or its time overflows, which none does that is far below the greatest
value on a grid that is, and unless one does the track is compiled to the same performance. -/
theorem Track.faults_snap {track : Track} (hsound : ∀ note ∈ track.notes, note.fault? = none) :
    (track.snap grid mode).notes.map (·.pitch?) = track.notes.map (·.pitch?) ∧
    (track.snap grid mode).notes.map Note.fault? = track.notes.map (fun note =>
      if grid.Overflows mode note.duration then some (.badDuration (infinite false))
      else if grid.Overflows mode note.time then some (.badTime (infinite false)) else none) ∧
    (grid.quarters ≤ 4e307 → (∀ note ∈ track.notes, note.duration ≤ 4e307 ∧ note.time ≤ 4e307) →
      ∀ note ∈ (track.snap grid mode).notes, note.fault? = none) ∧
    ∀ settings context performance, compileTrack settings context track = .ok performance →
      (compileTrack settings context (track.snap grid mode) = .ok performance ↔
        ∀ note ∈ track.notes,
          ¬ grid.Overflows mode note.duration ∧ ¬ grid.Overflows mode note.time) := by
  refine ⟨?pitches, ?faults, fun hgrid hbound => ?bounded, fun settings context performance
    hcompiled => ?compiled⟩
  case pitches => rw [Track.snap, List.map_map]; rfl
  case faults =>
    rw [Track.snap, List.map_map]
    exact List.map_congr_left fun note hnote => Note.fault?_snap (hsound note hnote)
  case bounded =>
    refine List.forall_mem_map.2 fun note hnote => ?_
    obtain ⟨-, ⟨-, hduration⟩, -, htime⟩ := Note.fault?_eq_none_iff.1 (hsound note hnote)
    obtain ⟨hlength, hstart⟩ := hbound note hnote
    exact (Note.fault?_snap_eq_none_iff (hsound note hnote)).2
      ⟨Grid.not_overflows (le_of_lt hduration) hlength hgrid,
        Grid.not_overflows htime hstart hgrid⟩
  case compiled =>
    obtain ⟨-, hperformed⟩ := compileNotes_eq_ok_iff.1 hcompiled
    rw [compileTrack, compileNotes_eq_ok_iff, Track.snap, performFrom_snap, and_iff_left hperformed,
      List.forall_mem_map]
    exact forall₂_congr fun note hnote => Note.fault?_snap_eq_none_iff (hsound note hnote)

/-- The multiple next to the second time is twice the grid, which is no finite value. -/
theorem Track.faults_snap_overflow :
    let grid : Grid := ⟨1e308⟩
    let early : Note := { Note.plain (some (.single 60)) 0.05 none with time := 0.3 }
    let late : Note := { Note.plain none 1 none with time := 1.7e308 }
    let track : Track := ⟨[early, late], []⟩
    let snapped := track.snap grid .nearest
    (∀ note ∈ track.notes, note.fault? = none) ∧
      snapped.notes.map Note.fault? = [none, some (.badTime (infinite false))] ∧
      ∃ performance, compileTrack .standard .standard track = .ok performance ∧
        compileTrack .standard .standard snapped ≠ .ok performance := by
  intro grid early late track snapped
  have hsound : ∀ note ∈ track.notes, note.fault? = none := by decide +kernel
  have hover : ¬ ∀ note ∈ track.notes,
      ¬ grid.Overflows .nearest note.duration ∧ ¬ grid.Overflows .nearest note.time := by
    decide +kernel
  have hcompiled : compileTrack .standard .standard track =
      .ok (performFrom .standard 0 {} track.notes) :=
    compileNotes_eq_ok_iff.2 ⟨hsound, rfl⟩
  obtain ⟨-, hfaults, -, hperformance⟩ := @Track.faults_snap grid .nearest track hsound
  refine ⟨hsound, hfaults.trans (by decide +kernel), _, hcompiled, fun hsame => ?_⟩
  exact hover ((hperformance _ _ _ hcompiled).1 hsame)

/-- A note without faults may be snapped to one that has a fault. -/
theorem Track.exists_fault_snap :
    ¬ ∀ (track : Track) (grid : Grid) (mode : SnapMode),
      (∀ note ∈ track.notes, note.fault? = none) →
        ∀ note ∈ (track.snap grid mode).notes, note.fault? = none := by
  intro hclaim
  let late : Note := { Note.plain none 1 none with time := 1.7e308 }
  have hsnapped := hclaim ⟨[late], []⟩ ⟨1e308⟩ .nearest (by decide +kernel)
  revert hsnapped
  decide +kernel

end Espressivo
