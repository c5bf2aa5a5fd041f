import Espressivo.Proofs.Binary64.Nonnegative
import Espressivo.Proofs.Binary64.Rounding
import Espressivo.Proofs.Timing.Snap

/-!
# Snapping twice

A multiple of the grid is rounded, and so is the number of steps that it is taken back to. Both
roundings are off by one part in `2 ^ 53` at most. As long as the steps are few, this is within the
tolerance, so that a snapped value stays when it is snapped again. On a grid that is a power of two
there is nothing to round.
-/

namespace Espressivo

open Binary64

variable {grid : Grid} {mode : SnapMode} {value : Binary64}

/-! ## Steps back -/

section

variable {n units : Nat}

/-- Where the steps lie, in units, that the multiple of a grid of some units is taken back to. -/
def stepsBack (n units : Nat) : Nat := Binary64.nearest (Binary64.nearest (n * units) 1 * one) units

theorem stepsBack_of_hasSignificand (hunits : 0 < units) (hn : HasSignificand (n * one))
    (hproduct : HasSignificand (n * units)) : stepsBack n units = n * one := by
  have hquotient := nearest_mul_right hunits (n * one) 1
  rw [Nat.one_mul, nearest_of_hasSignificand hn] at hquotient
  rw [stepsBack, nearest_of_hasSignificand hproduct, Nat.mul_right_comm, hquotient]

theorem nearest_mul_two_pow_le {bits : Nat} (hn : n * 2 ^ bits ≤ 2 ^ 53) :
    Binary64.nearest (n * units) 1 * 2 ^ bits ≤ (n * 2 ^ bits + 1) * units := by
  refine Nat.le_of_mul_le_mul_right ?_ (Nat.two_pow_pos 53)
  calc Binary64.nearest (n * units) 1 * 2 ^ bits * 2 ^ 53
      = Binary64.nearest (n * units) 1 * 2 ^ 53 * 2 ^ bits := by ring
    _ ≤ (n * units * 2 ^ 53 + n * units) * 2 ^ bits :=
        Nat.mul_le_mul_right _ (nearest_mul_le_add _)
    _ = n * 2 ^ bits * units * 2 ^ 53 + n * 2 ^ bits * units := by ring
    _ ≤ n * 2 ^ bits * units * 2 ^ 53 + 2 ^ 53 * units :=
        Nat.add_le_add_left (Nat.mul_le_mul_right _ hn) _
    _ = (n * 2 ^ bits + 1) * units * 2 ^ 53 := by ring

theorem le_nearest_mul_two_pow {bits : Nat} (hn : n * 2 ^ bits ≤ 2 ^ 53) :
    n * 2 ^ bits * units ≤ Binary64.nearest (n * units) 1 * 2 ^ bits + units := by
  refine Nat.le_of_mul_le_mul_right ?_ (Nat.two_pow_pos 53)
  calc n * 2 ^ bits * units * 2 ^ 53
      = n * units * 2 ^ 53 * 2 ^ bits := by ring
    _ ≤ (Binary64.nearest (n * units) 1 * 2 ^ 53 + n * units) * 2 ^ bits :=
        Nat.mul_le_mul_right _ (mul_le_nearest_mul_add _)
    _ = Binary64.nearest (n * units) 1 * 2 ^ bits * 2 ^ 53 + n * 2 ^ bits * units := by ring
    _ ≤ Binary64.nearest (n * units) 1 * 2 ^ bits * 2 ^ 53 + 2 ^ 53 * units :=
        Nat.add_le_add_left (Nat.mul_le_mul_right _ hn) _
    _ = (Binary64.nearest (n * units) 1 * 2 ^ bits + units) * 2 ^ 53 := by ring

/-- Steps that leave some bits of a significand free are off by the last of these bits at most. -/
theorem stepsBack_le {bits scale : Nat} (hone : one = 2 ^ scale * 2 ^ bits) (hunits : 0 < units)
    (hn : n * 2 ^ bits < 2 ^ 53) : stepsBack n units ≤ n * one + 2 ^ scale := by
  have hbound : Binary64.nearest (n * units) 1 * one ≤ (n * 2 ^ bits + 1) * 2 ^ scale * units := by
    calc Binary64.nearest (n * units) 1 * one
        = Binary64.nearest (n * units) 1 * 2 ^ bits * 2 ^ scale := by rw [hone]; ring
      _ ≤ (n * 2 ^ bits + 1) * units * 2 ^ scale :=
          Nat.mul_le_mul_right _ (nearest_mul_two_pow_le (Nat.le_of_lt hn))
      _ = (n * 2 ^ bits + 1) * 2 ^ scale * units := by ring
  calc stepsBack n units ≤ (n * 2 ^ bits + 1) * 2 ^ scale :=
        nearest_le hunits (hasSignificand_mul_two_pow hn scale) hbound
    _ = n * one + 2 ^ scale := by rw [hone]; ring

theorem le_stepsBack {bits scale : Nat} (hone : one = 2 ^ scale * 2 ^ bits) (hunits : 0 < units)
    (hpos : 0 < n) (hn : n * 2 ^ bits < 2 ^ 53) : n * one ≤ stepsBack n units + 2 ^ scale := by
  obtain ⟨m, hm⟩ := Nat.exists_eq_succ_of_ne_zero
    (Nat.ne_of_gt (Nat.mul_pos hpos (Nat.two_pow_pos bits)))
  have hproduct : n * 2 ^ bits * units ≤ Binary64.nearest (n * units) 1 * 2 ^ bits + units :=
    le_nearest_mul_two_pow (Nat.le_of_lt hn)
  have hbelow : m * units ≤ Binary64.nearest (n * units) 1 * 2 ^ bits := by
    rw [hm, Nat.succ_mul] at hproduct
    exact Nat.le_of_add_le_add_right hproduct
  have hbound : m * 2 ^ scale * units ≤ Binary64.nearest (n * units) 1 * one := by
    calc m * 2 ^ scale * units = m * units * 2 ^ scale := by ring
      _ ≤ Binary64.nearest (n * units) 1 * 2 ^ bits * 2 ^ scale := Nat.mul_le_mul_right _ hbelow
      _ = Binary64.nearest (n * units) 1 * one := by rw [hone]; ring
  have hm' : m ≤ 2 ^ 53 := by omega
  have hnearest := le_nearest hunits (hasSignificand_mul_two_pow hm' scale) hbound
  calc n * one = m * 2 ^ scale + 2 ^ scale := by
        rw [hone, Nat.mul_left_comm, Nat.mul_comm, hm, Nat.succ_mul]
    _ ≤ stepsBack n units + 2 ^ scale := Nat.add_le_add_right hnearest _

end

/-! ## Whole steps -/

/-- Whole steps stay. -/
theorem wholeSteps_of_units {w : Finite} {n : Nat} (hunits : w.units = n * one) :
    wholeSteps mode (finite w) = finite w := by
  have hwhole : w.IsWhole := by rw [Finite.IsWhole, hunits, Nat.mul_mod_left]
  obtain ⟨m, hsteps, hdown, hup⟩ := wholeSteps_eq_ofWhole mode w
  rw [wholeUp_of_isWhole hwhole] at hup
  rw [hsteps, Nat.le_antisymm hup hdown, ofWhole_whole hwhole]

theorem roundToWhole_eq {x w : Finite} {n distance : Nat} (hunits : w.units = n * one)
    (hsign : x.negative = w.negative) (hup : x.units ≤ n * one + distance)
    (hdown : n * one ≤ x.units + distance) (hdistance : 2 * distance < one) :
    roundToWhole (finite x) = finite w := by
  show ofWhole x.negative x.wholeNearest = finite w
  rw [wholeNearest_eq hup hdown hdistance, hsign, ofWhole, ← hunits,
    round_of_representable w.negative w.representable]

/-- Steps within the tolerance of a whole number are taken there. -/
theorem wholeSteps_of_near {x w bound : Finite} {n : Nat} (hunits : w.units = n * one)
    (hsign : x.negative = w.negative) (hbound : bound.negative = false)
    (hup : x.units ≤ n * one + bound.units) (hdown : n * one ≤ x.units + bound.units)
    (hhalf : 2 * bound.units < one) (htolerance : mode = .nearest ∨ finite bound < snapTolerance) :
    wholeSteps mode (finite x) = finite w := by
  have hround := roundToWhole_eq hunits hsign hup hdown hhalf
  unfold wholeSteps
  dsimp only
  rw [hround]
  split
  · rfl
  · rename_i hfar
    rcases htolerance with rfl | htolerance
    · rfl
    · rw [← hunits] at hup hdown
      have hnear := within_sub bound.representable hsign hup hdown
      exact absurd (lt_of_le_of_lt (hnear.abs_le hbound) htolerance) hfar

/-- The number of bits for whole steps that leave enough of a significand for the tolerance. -/
def SnapMode.steadyBits : SnapMode → Nat
  | .nearest => 51
  | .floor => 23
  | .ceil => 23

/-- The last bit of a significand whose whole steps are steady. -/
def SnapMode.lastBit (mode : SnapMode) : Finite :=
  ⟨false, 2 ^ (1021 + mode.steadyBits), representable_two_pow (by cases mode <;> decide +kernel)⟩

theorem one_eq_lastBit (mode : SnapMode) :
    one = 2 ^ (1021 + mode.steadyBits) * 2 ^ (53 - mode.steadyBits) := by
  cases mode <;> decide +kernel

theorem two_mul_lastBit_lt (mode : SnapMode) : 2 * mode.lastBit.units < one := by
  cases mode <;> decide +kernel

theorem lastBit_lt_snapTolerance (mode : SnapMode) :
    mode = .nearest ∨ finite mode.lastBit < snapTolerance := by
  cases mode <;> decide +kernel

/-- A multiple of the grid is taken back to its own steps. -/
theorem wholeSteps_stepsBack {x w : Finite} {n units : Nat} (hunits : 0 < units) (hpos : 0 < n)
    (hw : w.units = n * one) (hsign : x.negative = w.negative) (hx : x.units = stepsBack n units)
    (hsteady : HasSignificand (n * units) ∨ n < 2 ^ mode.steadyBits) :
    wholeSteps mode (finite x) = finite w := by
  rcases hsteady with hproduct | hfew
  · have hn : HasSignificand (n * one) := hw ▸ w.representable.2
    rw [stepsBack_of_hasSignificand hunits hn hproduct] at hx
    have heq : finite x = finite w := by
      cases x
      cases w
      simp_all
    rw [heq, wholeSteps_of_units hw]
  · have hbits : n * 2 ^ (53 - mode.steadyBits) < 2 ^ 53 := by
      have hsum : 2 ^ mode.steadyBits * 2 ^ (53 - mode.steadyBits) = 2 ^ 53 := by
        cases mode <;> decide
      rw [← hsum]
      exact Nat.mul_lt_mul_of_pos_right hfew (Nat.two_pow_pos _)
    have hone := one_eq_lastBit mode
    exact wholeSteps_of_near hw hsign rfl (hx ▸ stepsBack_le hone hunits hbits)
      (hx ▸ le_stepsBack hone hunits hpos hbits) (two_mul_lastBit_lt mode)
      (lastBit_lt_snapTolerance mode)

/-! ## Snapped values -/

theorem finite_mul_eq_round {w q : Finite} {n : Nat} (hunits : w.units = n * one) :
    finite w * finite q = round (w.negative != q.negative) (n * q.units) 1 := by
  have hround := round_mul_right Binary64.one_pos (w.negative != q.negative) (n * q.units) 1
  rw [Nat.one_mul, Nat.mul_right_comm, ← hunits] at hround
  exact hround

/-- A multiple of the grid, rounded, has its own steps, if it has finitely many. -/
theorem wholeSteps_multiple {q w : Finite} {n : Nat} (hpositive : q.negative = false)
    (hq : 0 < q.units) (hpos : 0 < n) (hunits : w.units = n * one)
    (hsteady : HasSignificand (n * q.units) ∨ n < 2 ^ mode.steadyBits)
    (hmultiple : (finite w * finite q).isFinite)
    (hback : (finite w * finite q / finite q).isFinite) :
    wholeSteps mode (finite w * finite q / finite q) = finite w := by
  obtain ⟨p, hp⟩ := exists_finite hmultiple
  rw [hp] at hback ⊢
  obtain ⟨x, hx⟩ := exists_finite hback
  rw [hx]
  rw [finite_mul_eq_round hunits] at hp
  rw [finite_div_finite (Nat.ne_of_gt hq)] at hx
  obtain ⟨hsignMultiple, hunitsMultiple⟩ := round_eq_finite_iff.1 hp
  obtain ⟨hsignBack, hunitsBack⟩ := round_eq_finite_iff.1 hx
  rw [hpositive, Bool.bne_false] at hsignMultiple hsignBack
  rw [hunitsMultiple] at hunitsBack
  exact wholeSteps_stepsBack hq hpos hunits (hsignBack.trans hsignMultiple) hunitsBack hsteady

theorem snap_multiple {q w : Finite} {n : Nat} (hquarters : grid.quarters = finite q)
    (husable : grid.IsUsable) (hunits : w.units = n * one)
    (hsteady : HasSignificand (n * q.units) ∨ n < 2 ^ mode.steadyBits) :
    snap grid mode (finite w * finite q + 0) = finite w * finite q + 0 := by
  obtain ⟨q', hq', hpositive, hq⟩ := exists_finite_of_pos husable.1 husable.2
  rw [hquarters] at hq'
  cases hq'
  by_cases hzero : n = 0
  · rw [finite_mul_eq_round hunits, hzero, Nat.zero_mul, round_zero, zero_add_zero, snap_zero]
  · have hpos := Nat.pos_of_ne_zero hzero
    have hnonzero : finite w * finite q ≠ zero true := by
      rw [finite_mul_eq_round hunits]
      refine round_ne_zero _ true ?_
      rw [Nat.div_one]
      exact Nat.ne_of_gt (Nat.mul_pos hpos hq)
    have hadd := add_zero_eq hnonzero
    rcases snap_cases grid mode (finite w * finite q) with hkept | ⟨hmultiple, -, hback, hsnap⟩
    · rw [hadd, hkept]
    · rw [hquarters] at hback hsnap
      rw [wholeSteps_multiple hpositive hq hpos hunits hsteady hmultiple hback] at hsnap
      rw [hadd, hsnap, hadd]

/-- What is snapped to steady steps stays when it is snapped again. -/
theorem snap_snap_of_steady
    (hsteady : ∀ (q x : Finite) (n : Nat), grid.quarters = finite q → value / finite q = finite x →
      HasSignificand (n * one) → n ≤ x.wholeUp →
        HasSignificand (n * q.units) ∨ n < 2 ^ mode.steadyBits) :
    snap grid mode (snap grid mode value) = snap grid mode value := by
  rcases snap_cases grid mode value with hkept | ⟨-, husable, hfinite, hsnap⟩
  · rw [hkept, hkept]
  · obtain ⟨q, hquarters, -, -⟩ := exists_finite_of_pos husable.1 husable.2
    rw [hquarters] at hfinite hsnap
    obtain ⟨x, hsteps⟩ := exists_finite hfinite
    obtain ⟨w, n, hwhole, -, hunits, -, hup⟩ := wholeSteps_finite mode x
    have hn : HasSignificand (n * one) := hunits ▸ w.representable.2
    rw [hsteps, hwhole] at hsnap
    rw [hsnap, snap_multiple hquarters husable hunits (hsteady q x n hquarters hsteps hn hup)]

/-- The resolution of the grid is a power of two, as those of the note values are. -/
def Grid.IsPowerOfTwo (grid : Grid) : Prop :=
  ∃ (q : Finite) (exponent : Nat), grid.quarters = finite q ∧ q.units = 2 ^ exponent

theorem isPowerOfTwo_ofNoteValue (value : NoteValue) : (Grid.ofNoteValue value).IsPowerOfTwo := by
  obtain ⟨exponent, hlimit, hquarters⟩ : ∃ exponent, ∃ hlimit : 2 ^ exponent < limit,
      value.quarters = finite ⟨false, 2 ^ exponent, representable_two_pow hlimit⟩ := by
    cases value with
    | whole => exact ⟨1076, by decide +kernel, by decide +kernel⟩
    | half => exact ⟨1075, by decide +kernel, by decide +kernel⟩
    | quarter => exact ⟨1074, by decide +kernel, by decide +kernel⟩
    | eighth => exact ⟨1073, by decide +kernel, by decide +kernel⟩
    | sixteenth => exact ⟨1072, by decide +kernel, by decide +kernel⟩
    | thirtySecond => exact ⟨1071, by decide +kernel, by decide +kernel⟩
  exact ⟨_, exponent, hquarters, rfl⟩

theorem hasSignificand_mul_units {q : Finite} {n exponent : Nat} (hpower : q.units = 2 ^ exponent)
    (hn : HasSignificand (n * one)) : HasSignificand (n * q.units) := by
  obtain ⟨scale, hone⟩ := one_eq_two_pow
  rw [hone] at hn
  rw [hpower, Nat.mul_comm]
  exact hasSignificand_two_pow_mul (hasSignificand_of_mul_two_pow hn) exponent

theorem wholeUp_le_of_abs_le {x : Finite} {n : Nat} (hn : n < 2 ^ 53)
    (hle : (finite x).abs ≤ .ofNat n) : x.wholeUp ≤ n := by
  obtain ⟨a, b, ha, hb, hab⟩ := le_iff.1 hle
  rw [position?_ofNat hn, Option.some.injEq] at hb
  have hunits : (x.units : Int) = a := Option.some.inj ha
  have hup := wholeUp_mul_one_lt x
  exact le_of_mul_one_lt (by omega)

/-- A snapped value stays when it is snapped again, if the grid is a power of two, or if there are
at most `2 ^ 23` steps, and as many as `2 ^ 51` when going to the nearest multiple. A value that is
too far from zero to have finitely many steps always stays. -/
theorem snap_snap (hsteady : grid.IsPowerOfTwo ∨ ((value / grid.quarters).isFinite →
      (value / grid.quarters).abs ≤ .ofNat (2 ^ mode.steadyBits))) :
    snap grid mode (snap grid mode value) = snap grid mode value := by
  refine snap_snap_of_steady fun q x n hquarters hsteps hn hup => ?_
  rcases hsteady with ⟨q', exponent, hq', hpower⟩ | hfew
  · rw [hquarters] at hq'
    cases hq'
    exact Or.inl (hasSignificand_mul_units hpower hn)
  · rw [hquarters, hsteps] at hfew
    have hbits : 2 ^ mode.steadyBits < 2 ^ 53 := by cases mode <;> decide
    have hle : n ≤ 2 ^ mode.steadyBits := Nat.le_trans hup (wholeUp_le_of_abs_le hbits (hfew rfl))
    rcases Nat.lt_or_eq_of_le hle with hlt | heq
    · exact Or.inr hlt
    · rw [heq]
      exact Or.inl (hasSignificand_two_pow_mul q.representable.2 mode.steadyBits)

theorem snap_snap_tenth :
    let snapped := snap ⟨0.1⟩ .floor 0.79
    snapped = 0.7000000000000001 ∧ snap ⟨0.1⟩ .floor snapped = snapped := by
  intro snapped
  exact ⟨by decide +kernel, snap_snap (Or.inr fun _ => by decide +kernel)⟩

/-- With more steps than that a value may move on by a whole step when it is snapped again, here
from `1048576.2` to `1048576.1`. -/
theorem exists_snap_snap_ne :
    ¬ ∀ (grid : Grid) (mode : SnapMode) (value : Binary64), value.isFinite → grid.IsUsable →
      snap grid mode (snap grid mode value) = snap grid mode value := by
  intro hclaim
  have hsame := hclaim ⟨0.1⟩ .floor 1048576.25 (by decide +kernel) (by decide +kernel)
  revert hsame
  decide +kernel

end Espressivo
