import Mathlib.Data.List.Nodup
import Espressivo.Performance.Combination
import Espressivo.Proofs.Binary64.Exact

/-!
# What contributions come to

One contribution changes one part of a combination, so that each part can be followed through the
contributions on its own. The effects of a combination are one for each dimension at most, in the
order of the dimensions, and never fall below the limits, whatever the coefficients are.
-/

namespace Espressivo

/-- The glide that a contribution consists in. -/
def Contribution.glide? : Contribution → Option Glide
  | .glide g => some g
  | _ => none

namespace Combination

/-! ## The parts of a combination -/

/-- A glide is kept if there is none before it. -/
theorem glide?_add (combination : Combination) (contribution : Contribution) :
    (combination.add contribution).glide? = combination.glide?.or contribution.glide? := by
  cases contribution with
  | duration factor => simp [add, Contribution.glide?]
  | velocity boost => simp [add, Contribution.glide?]
  | glide glide => cases hglide : combination.glide? <;> simp [add, Contribution.glide?, hglide]
  | phrasing mark =>
    simp only [add, Contribution.glide?, Option.or_none]
    split <;> rfl

theorem glide?_foldl_add (contributions : List Contribution) (combination : Combination) :
    (contributions.foldl add combination).glide? =
      combination.glide?.or (contributions.findSome? Contribution.glide?) := by
  induction contributions generalizing combination with
  | nil => simp
  | cons contribution rest ih =>
    rw [List.foldl_cons, ih, glide?_add, Option.or_assoc, List.findSome?_cons]
    cases contribution.glide? <;> simp

theorem glide?_ofContributions (contributions : List Contribution) :
    (ofContributions contributions).glide? = contributions.findSome? Contribution.glide? := by
  rw [ofContributions, glide?_foldl_add, Option.none_or]

/-- The glide of a combination is one of the contributions to it. -/
theorem mem_of_glide?_ofContributions {contributions : List Contribution} {glide : Glide}
    (hglide : (ofContributions contributions).glide? = some glide) :
    .glide glide ∈ contributions := by
  rw [glide?_ofContributions] at hglide
  obtain ⟨contribution, hmem, hcontribution⟩ := List.exists_of_findSome?_eq_some hglide
  cases contribution with
  | glide found =>
    cases hcontribution
    exact hmem
  | duration factor => cases hcontribution
  | velocity boost => cases hcontribution
  | phrasing mark => cases hcontribution

theorem nodup_phrasing_add {combination : Combination} (hnodup : combination.phrasing.Nodup)
    (contribution : Contribution) : (combination.add contribution).phrasing.Nodup := by
  cases contribution with
  | duration factor => exact hnodup
  | velocity boost => exact hnodup
  | glide glide => cases hglide : combination.glide? <;> simpa [add, hglide] using hnodup
  | phrasing mark =>
    by_cases hmark : mark ∈ combination.phrasing
    · simpa only [add, if_pos hmark] using hnodup
    · simp only [add, if_neg hmark]
      refine List.nodup_append.2
        ⟨hnodup, List.nodup_singleton mark, fun kept hkept last hlast => ?_⟩
      rw [List.mem_singleton.1 hlast]
      intro heq
      rw [heq] at hkept
      exact hmark hkept

theorem nodup_phrasing_foldl_add (contributions : List Contribution) {combination : Combination}
    (hnodup : combination.phrasing.Nodup) :
    (contributions.foldl add combination).phrasing.Nodup := by
  induction contributions generalizing combination with
  | nil => exact hnodup
  | cons contribution rest ih => exact ih (nodup_phrasing_add hnodup contribution)

theorem nodup_phrasing_ofContributions (contributions : List Contribution) :
    (ofContributions contributions).phrasing.Nodup :=
  nodup_phrasing_foldl_add contributions List.nodup_nil

end Combination

/-! ## Limits -/

open Binary64

theorem Coefficients.floor_pos (c : Coefficients) : 0 < c.floor := by
  rw [Coefficients.floor]
  by_cases hpositive : c.minDuration.isFinite ∧ 0 < c.minDuration
  · rw [if_pos hpositive]
    exact hpositive.2
  · rw [if_neg hpositive]
    decide +kernel

/-- Also what is not a number is raised to a limit. -/
theorem le_raisedTo {limit : Binary64} (hlimit : limit ≠ nan) (x : Binary64) :
    limit ≤ raisedTo limit x := by
  rw [raisedTo]
  by_cases hlt : limit < x
  · rw [if_pos hlt]
    exact le_of_lt hlt
  · rw [if_neg hlt]
    exact le_self_iff.2 hlimit

/-! ## Effects -/

namespace Combination

variable {c : Coefficients} {combination : Combination}

theorem mem_effects_iff {effect : Effect} :
    effect ∈ combination.effects c ↔
      (∃ factor, combination.factor? = some factor ∧
        effect = .duration (raisedTo c.floor factor)) ∨
      (∃ boost, combination.boost? = some boost ∧ effect = .velocity (raisedTo 0 boost)) ∨
      ∃ glide, combination.glide? = some glide ∧ effect = .glide glide := by
  simp only [effects, List.mem_append, Option.mem_toList, Option.map_eq_some_iff, or_assoc,
    @eq_comm _ effect]

theorem floor_le_of_mem_effects {factor : Binary64}
    (hfactor : .duration factor ∈ combination.effects c) : c.floor ≤ factor := by
  rcases mem_effects_iff.1 hfactor with ⟨product, -, heq⟩ | ⟨_, -, heq⟩ | ⟨_, -, heq⟩
  · cases heq
    exact le_raisedTo (ne_nan_of_lt c.floor_pos) product
  · cases heq
  · cases heq

theorem zero_le_of_mem_effects {boost : Binary64}
    (hboost : .velocity boost ∈ combination.effects c) : 0 ≤ boost := by
  rcases mem_effects_iff.1 hboost with ⟨_, -, heq⟩ | ⟨sum, -, heq⟩ | ⟨_, -, heq⟩
  · cases heq
  · cases heq
    have hzero : (0 : Binary64) ≠ nan := by decide +kernel
    exact le_raisedTo hzero sum
  · cases heq

theorem glide?_of_mem_effects {glide : Glide} (hglide : .glide glide ∈ combination.effects c) :
    combination.glide? = some glide := by
  rcases mem_effects_iff.1 hglide with ⟨_, -, heq⟩ | ⟨_, -, heq⟩ | ⟨kept, hkept, heq⟩
  · cases heq
  · cases heq
  · cases heq
    exact hkept

/-- The dimensions ascend strictly, so that none occurs twice. -/
theorem pairwise_rank_effects (c : Coefficients) (combination : Combination) :
    (combination.effects c).Pairwise fun earlier later => earlier.rank < later.rank := by
  rw [effects]
  cases combination.factor? <;> cases combination.boost? <;> cases combination.glide? <;>
    simp [Effect.rank]

end Combination
end Espressivo
