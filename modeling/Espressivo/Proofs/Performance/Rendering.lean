import Espressivo.Performance.Rendering
import Espressivo.Proofs.Binary64.SumProduct

/-!
# Boosted velocities

Limiting a number to a range makes sense only if the bounds are numbers in order. The bounds of a
boosted velocity always are, whatever the ceiling is, so that the velocity stays in the range that
the ceiling leaves, and it grows with the boost and with the ceiling.
-/

namespace Espressivo

/-! ## Limits -/

namespace Binary64

/-- The number limited to a range, if the bounds are numbers in order. -/
def clamp? (x low high : Binary64) : Option Binary64 :=
  if low ≤ high then some (x.clamp low high) else none

section

variable {x y low high : Binary64}

theorem clamp_nan (low high : Binary64) : clamp nan low high = nan := by
  have hlow : ¬ nan < low := fun hlt => ne_nan_of_le_left (le_of_lt hlt) rfl
  have hhigh : ¬ high < nan := fun hlt => ne_nan_of_lt hlt rfl
  rw [clamp, if_neg hlow, if_neg hhigh]

theorem clamp_cases (hx : x ≠ nan) (hrange : low ≤ high) :
    (x < low ∧ clamp x low high = low) ∨ (high < x ∧ clamp x low high = high) ∨
      (low ≤ x ∧ x ≤ high ∧ clamp x low high = x) := by
  unfold clamp
  by_cases hbelow : x < low
  · exact Or.inl ⟨hbelow, if_pos hbelow⟩
  · have hlow := (lt_or_le hx (ne_nan_of_le_left hrange)).resolve_left hbelow
    rw [if_neg hbelow]
    by_cases habove : high < x
    · exact Or.inr (Or.inl ⟨habove, if_pos habove⟩)
    · have hhigh := (lt_or_le (ne_nan_of_le_right hrange) hx).resolve_left habove
      exact Or.inr (Or.inr ⟨hlow, hhigh, if_neg habove⟩)

theorem clamp_of_within (hlow : low ≤ x) (hhigh : x ≤ high) : clamp x low high = x := by
  rw [clamp, if_neg (not_lt_of_le hlow), if_neg (not_lt_of_le hhigh)]

theorem clamp_within (hx : x ≠ nan) (hrange : low ≤ high) :
    low ≤ clamp x low high ∧ clamp x low high ≤ high := by
  rcases clamp_cases hx hrange with ⟨-, hclamp⟩ | ⟨-, hclamp⟩ | ⟨hlow, hhigh, hclamp⟩
  · rw [hclamp]
    exact ⟨le_self_iff.2 (ne_nan_of_le_left hrange), hrange⟩
  · rw [hclamp]
    exact ⟨hrange, le_self_iff.2 (ne_nan_of_le_right hrange)⟩
  · rw [hclamp]
    exact ⟨hlow, hhigh⟩

theorem clamp_eq_nan_iff (hrange : low ≤ high) : clamp x low high = nan ↔ x = nan := by
  constructor
  · intro hclamp
    by_contra hx
    exact ne_nan_of_le_right (clamp_within hx hrange).1 hclamp
  · rintro rfl
    exact clamp_nan low high

theorem clamp_le_self (hlow : low ≤ x) (hrange : low ≤ high) : clamp x low high ≤ x := by
  have hx := ne_nan_of_le_right hlow
  rcases clamp_cases hx hrange with ⟨hbelow, -⟩ | ⟨habove, hclamp⟩ | ⟨-, -, hclamp⟩
  · exact absurd hbelow (not_lt_of_le hlow)
  · rw [hclamp]
    exact le_of_lt habove
  · rw [hclamp]
    exact le_self_iff.2 hx

theorem clamp_le_clamp {high' : Binary64} (hle : x ≤ y) (hrange : low ≤ high)
    (hhigh : high ≤ high') : clamp x low high ≤ clamp y low high' := by
  have hx := ne_nan_of_le_left hle
  have hy := ne_nan_of_le_right hle
  have hrange' := le_trans hrange hhigh
  -- below `low` the result is the least of the range; from there on, limiting only lowers numbers
  by_cases hbelow : x < low
  · rw [clamp, if_pos hbelow]
    exact (clamp_within hy hrange').1
  · have hlow := (lt_or_le hx (ne_nan_of_le_left hrange)).resolve_left hbelow
    rcases clamp_cases hy hrange' with ⟨hbelowY, -⟩ | ⟨-, hclamp⟩ | ⟨-, -, hclamp⟩
    · exact absurd hbelowY (not_lt_of_le (le_trans hlow hle))
    · rw [hclamp]
      exact le_trans (clamp_within hx hrange).2 hhigh
    · rw [hclamp]
      exact le_trans (clamp_le_self hlow hrange) hle

end

end Binary64

open Binary64

/-! ## Velocities -/

/-- The greatest velocity under a ceiling: no ceiling is below zero, and what is no number counts as
zero. -/
def velocityLimit (ceiling : Binary64) : Binary64 := if 0 < ceiling then ceiling else 0

section

variable {base boost boost' ceiling ceiling' : Binary64}

theorem boostedVelocity_eq (base boost ceiling : Binary64) :
    boostedVelocity base boost ceiling = (base * (1 + boost)).clamp 0 (velocityLimit ceiling) := rfl

theorem zero_le_velocityLimit (ceiling : Binary64) : 0 ≤ velocityLimit ceiling := by
  unfold velocityLimit
  split
  · rename_i hpos
    exact le_of_lt hpos
  · exact le_self_iff.2 zero_ne_nan

theorem velocityLimit_le_velocityLimit (hle : ceiling ≤ ceiling') :
    velocityLimit ceiling ≤ velocityLimit ceiling' := by
  by_cases hpos : 0 < ceiling
  · rw [velocityLimit, velocityLimit, if_pos hpos, if_pos (lt_of_lt_of_le hpos hle)]
    exact hle
  · rw [velocityLimit, if_neg hpos]
    exact zero_le_velocityLimit ceiling'

/-- The velocity before it is limited grows with the boost. -/
theorem boosted_le_boosted (hbase : 0 ≤ base) (hboost : boost ≤ boost')
    (hproduct : base * (1 + boost) ≠ nan) (hproduct' : base * (1 + boost') ≠ nan) :
    base * (1 + boost) ≤ base * (1 + boost') := by
  obtain ⟨unit, hunit, -⟩ := exists_ofNat_eq (n := 1) (by decide)
  have hone : (1 : Binary64) = finite unit := hunit
  refine mul_le_mul_left hbase ?_ hproduct hproduct'
  rw [hone]
  exact add_le_add_left unit hboost

end

/-- The bounds of a boosted velocity are numbers in order. The velocity is a number where the
product is, lies between them, and is the product itself where that does. It grows with the boost
and with the ceiling. -/
theorem boostedVelocity_limited (base boost ceiling : Binary64) :
    let product := base * (1 + boost)
    let limit := velocityLimit ceiling
    let velocity := boostedVelocity base boost ceiling
    product.clamp? 0 limit = some velocity ∧
    (velocity = nan ↔ product = nan) ∧
    (product ≠ nan → 0 ≤ velocity ∧ velocity ≤ limit) ∧
    (0 ≤ product → product ≤ limit → velocity = product) ∧
    ∀ boost' ceiling', 0 ≤ base → boost ≤ boost' → ceiling ≤ ceiling' → product ≠ nan →
      base * (1 + boost') ≠ nan → velocity ≤ boostedVelocity base boost' ceiling' := by
  have hrange := zero_le_velocityLimit ceiling
  dsimp only
  rw [boostedVelocity_eq]
  refine ⟨if_pos hrange, clamp_eq_nan_iff hrange, fun hproduct => clamp_within hproduct hrange,
    clamp_of_within, fun boost' ceiling' hbase hboost hceiling hproduct hproduct' => ?_⟩
  exact clamp_le_clamp (boosted_le_boosted hbase hboost hproduct hproduct') hrange
    (velocityLimit_le_velocityLimit hceiling)

/-- A negative ceiling leaves nothing but silence, and a higher one limits an infinite boost too. -/
theorem boostedVelocity_limited_infinite :
    let base : Binary64 := 0.5
    let boost : Binary64 := 0.5
    let boost' : Binary64 := infinite false
    let ceiling : Binary64 := -1
    let ceiling' : Binary64 := 0.75
    0 ≤ base ∧ boost ≤ boost' ∧ ceiling ≤ ceiling' ∧ base * (1 + boost) = 0.75 ∧
      base * (1 + boost') = infinite false ∧ boostedVelocity base boost ceiling = 0 ∧
      boostedVelocity base boost' ceiling' = 0.75 ∧
      boostedVelocity base boost ceiling ≤ boostedVelocity base boost' ceiling' := by
  intro base boost boost' ceiling ceiling'
  have hbase : 0 ≤ base := by decide +kernel
  have hboost : boost ≤ boost' := by decide +kernel
  have hceiling : ceiling ≤ ceiling' := by decide +kernel
  have hproduct : base * (1 + boost) = 0.75 := by decide +kernel
  have hproduct' : base * (1 + boost') = infinite false := by decide +kernel
  obtain ⟨-, -, -, -, hmono⟩ := boostedVelocity_limited base boost ceiling
  refine ⟨hbase, hboost, hceiling, hproduct, hproduct', by decide +kernel, by decide +kernel,
    hmono boost' ceiling' hbase hboost hceiling ?_ ?_⟩
  · rw [hproduct]
    decide +kernel
  · rw [hproduct']
    exact nofun

end Espressivo
