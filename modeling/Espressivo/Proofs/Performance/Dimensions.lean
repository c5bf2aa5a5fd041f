import Espressivo.Proofs.Performance.Findings
import Espressivo.Proofs.Performance.Overflow

/-!
# Contributions by dimension

Contributions of different dimensions do not meet: what a list of them comes to is told by the
factors, the boosts, the glides and the marks in it, each in their own order. Factors and boosts are
put together first, and limited once at the end.
-/

namespace Espressivo

/-- The mark that a contribution consists in. -/
def Contribution.mark? : Contribution → Option SimpleArticulation
  | .phrasing mark => some mark
  | _ => none

/-- The contributions to a note, taken apart by dimension. -/
structure Dimensions where
  factors : List Binary64
  boosts : List Binary64
  glides : List Glide
  marks : List SimpleArticulation
deriving DecidableEq

namespace Dimensions

def ofContributions (contributions : List Contribution) : Dimensions where
  factors := contributions.filterMap Contribution.factor?
  boosts := contributions.filterMap Contribution.boost?
  glides := contributions.filterMap Contribution.glide?
  marks := contributions.filterMap Contribution.mark?

/-- What the dimensions come to, each on its own. -/
def combination (dimensions : Dimensions) : Combination where
  factor? := if dimensions.factors = [] then none else some (dimensions.factors.foldl (· * ·) 1)
  boost? := if dimensions.boosts = [] then none else some (dimensions.boosts.foldl (· + ·) 0)
  glide? := dimensions.glides.head?
  phrasing := dimensions.marks.eraseDups
  findings := Combination.conflicts dimensions.glides

end Dimensions

/-! ## Marks -/

theorem eraseDups_concat {α : Type} [DecidableEq α] (items : List α) (item : α) :
    (items ++ [item]).eraseDups =
      if item ∈ items then items.eraseDups else items.eraseDups ++ [item] := by
  rw [List.eraseDups_append]
  by_cases hitem : item ∈ items
  · simp [List.removeAll, hitem]
  · simp [List.removeAll, hitem, List.eraseDups_cons]

namespace Combination

/-- A mark that is there already is not added again. -/
theorem phrasing_add {combination : Combination} {marks : List SimpleArticulation}
    (hmarks : combination.phrasing = marks.eraseDups) (contribution : Contribution) :
    (combination.add contribution).phrasing = (marks ++ contribution.mark?.toList).eraseDups := by
  cases contribution with
  | duration factor => simpa [add, Contribution.mark?] using hmarks
  | velocity boost => simpa [add, Contribution.mark?] using hmarks
  | glide glide =>
    cases hglide : combination.glide? <;> simpa [add, Contribution.mark?, hglide] using hmarks
  | phrasing mark =>
    have hmem : mark ∈ combination.phrasing ↔ mark ∈ marks := by rw [hmarks, List.mem_eraseDups]
    rw [Contribution.mark?, Option.toList_some, eraseDups_concat, ← hmarks, add]
    by_cases hmark : mark ∈ marks
    · rw [if_pos hmark, if_pos (hmem.2 hmark)]
    · rw [if_neg hmark, if_neg (mt hmem.1 hmark)]

theorem phrasing_foldl_add (contributions : List Contribution) {combination : Combination}
    {marks : List SimpleArticulation} (hmarks : combination.phrasing = marks.eraseDups) :
    (contributions.foldl add combination).phrasing =
      (marks ++ contributions.filterMap Contribution.mark?).eraseDups := by
  induction contributions generalizing combination marks with
  | nil => simpa using hmarks
  | cons contribution rest ih =>
    rw [List.foldl_cons, ih (phrasing_add hmarks contribution), filterMap_cons_eq_append,
      List.append_assoc]

/-! ## Combinations -/

theorem phrasing_ofContributions (contributions : List Contribution) :
    (ofContributions contributions).phrasing =
      (contributions.filterMap Contribution.mark?).eraseDups :=
  @phrasing_foldl_add contributions {} [] rfl

end Combination

namespace Dimensions

end Dimensions

end Espressivo
