import Espressivo.Proofs.Binary64.NearestWhole
import Espressivo.Proofs.Binary64.Rational
import Espressivo.Timing.Grid

/-!
# Usable grids

The grids of note values are neither too fine nor too coarse, so that the grids of their triplets
are usable as well.
-/

namespace Espressivo
namespace Grid

open Binary64

/-- The bounds leave room for the triplet on either side. -/
def IsModerate (grid : Grid) : Prop := 1e-10 < grid.quarters ∧ grid.quarters < 8

instance (grid : Grid) : Decidable grid.IsModerate := inferInstanceAs (Decidable (_ ∧ _))

theorem isUsable_of_lt {grid : Grid} {high : Binary64} (hpos : 0 < grid.quarters)
    (hhigh : grid.quarters < high) (hfinite : high.isFinite) : grid.IsUsable := by
  obtain ⟨bound, rfl⟩ := exists_finite hfinite
  have hpos' := hpos
  rw [zero_eq] at hpos'
  obtain ⟨q, hq⟩ := exists_finite_of_between hpos' hhigh
  exact ⟨by rw [hq]; rfl, hpos⟩

theorem IsModerate.isUsable {grid : Grid} (hgrid : grid.IsModerate) : grid.IsUsable := by
  have hpos : (0 : Binary64) < 1e-10 := by decide +kernel
  exact isUsable_of_lt (lt_of_le_of_lt (le_of_lt hpos) hgrid.1) hgrid.2 (by decide +kernel)

theorem triplet_le_triplet {x y : Finite} (hle : finite x ≤ finite y) :
    (triplet ⟨x⟩).quarters ≤ (triplet ⟨y⟩).quarters := by
  obtain ⟨two, htwo, htwoNegative, -⟩ := exists_ofNat_eq (n := 2) (by decide)
  obtain ⟨three, hthree, hthreeNegative, hthreeUnits⟩ := exists_ofNat_eq (n := 3) (by decide)
  have hthreePos : 0 < three.units := by
    rw [hthreeUnits]
    exact Nat.mul_pos (by decide) Binary64.one_pos
  show finite x * ofNat 2 / ofNat 3 ≤ finite y * ofNat 2 / ofNat 3
  rw [htwo, hthree]
  exact div_le_div hthreeNegative hthreePos (mul_le_mul htwoNegative hle)

theorem IsModerate.isUsable_triplet {grid : Grid} (hgrid : grid.IsModerate) :
    grid.triplet.IsUsable := by
  obtain ⟨q, hq⟩ := exists_finite hgrid.isUsable.1
  obtain ⟨low, hlow⟩ := exists_finite (x := 1e-10) (by decide +kernel)
  obtain ⟨high, hhigh⟩ := exists_finite (x := 8) (by decide +kernel)
  obtain ⟨hdown, hup⟩ := hgrid
  have hsame : grid = ⟨q⟩ := congrArg Grid.mk hq
  rw [hsame, hlow] at hdown
  rw [hsame, hhigh] at hup
  rw [hsame]
  have hleast := triplet_le_triplet (le_of_lt hdown)
  have hmost := triplet_le_triplet (le_of_lt hup)
  rw [← hlow] at hleast
  rw [← hhigh] at hmost
  have hpos : 0 < (triplet ⟨1e-10⟩).quarters := by decide +kernel
  have hbound : (triplet ⟨8⟩).quarters < 9 := by decide +kernel
  exact isUsable_of_lt (lt_of_lt_of_le hpos hleast) (lt_of_le_of_lt hmost hbound)
    (by decide +kernel)

theorem isModerate_ofDenominator {n : Nat} (hpos : 0 < n) (hfits : n < UInt32.size) :
    IsModerate ⟨4 / .ofNat n⟩ := by
  obtain ⟨four, hfour, hfourNegative, hfourUnits⟩ := exists_ofNat_eq (n := 4) (by decide)
  obtain ⟨q, hq, hqNegative, hqUnits⟩ := exists_ofNat_eq (Nat.lt_trans hfits (by decide))
  obtain ⟨quotient, hquotient, hnegative, hrounds⟩ := rounds_div_of_whole hfourNegative hqNegative
    hfourUnits hqUnits (by decide) hpos (Nat.le_of_lt (Nat.lt_trans hfits (by decide)))
  have hfinite : (4 : Binary64) / .ofNat n = finite quotient := by
    rw [hq, ← hquotient, ← hfour]
    rfl
  have hn : (1 : ℚ) ≤ n := by exact_mod_cast hpos
  have hn' : (n : ℚ) ≤ 2 ^ 32 := by exact_mod_cast Nat.le_of_lt hfits
  have hexactLow : (4 : ℚ) / 2 ^ 32 ≤ (4 : Nat) / n := by
    rw [Nat.cast_ofNat]
    exact div_le_div_of_nonneg_left (by norm_num) (by linarith) hn'
  have hexactHigh : ((4 : Nat) / n : ℚ) ≤ 4 := by
    rw [Nat.cast_ofNat]
    exact div_le_self (by norm_num) hn
  have hdown := hrounds.ge
  have hup := hrounds.le
  obtain ⟨low, hlow, hlowNegative, hlowUnits⟩ := exists_finite_of_units 1e-10
    (fun units => units * 2 ^ 32 ≤ one) (by decide +kernel)
  obtain ⟨high, hhigh, hhighNegative, hhighUnits⟩ := exists_ofNat_eq (n := 8) (by decide)
  have hlowRat := toRat_le_of_units_le hlowNegative (by decide) hlowUnits
  have hhighRat := toRat_of_whole hhighNegative hhighUnits
  rw [IsModerate, hfinite, hlow, show (8 : Binary64) = finite high from hhigh,
    ← toRat_lt_toRat_iff, ← toRat_lt_toRat_iff, hhighRat]
  push_cast at hlowRat ⊢
  constructor <;> linarith

theorem ofDenominator?_of_fits {n : Nat} (hpos : 0 < n) (hfits : n < UInt32.size) :
    ofDenominator? n = some ⟨4 / .ofNat n⟩ := by
  rw [ofDenominator?, if_neg (Nat.ne_of_gt hpos), ofQuarters?]
  exact if_pos (isModerate_ofDenominator hpos hfits).isUsable

end Grid
end Espressivo
