import Espressivo.Performance.Contribution
import Espressivo.Performance.Modulation

/-!
# Combining contributions

The contributions to one note are taken in order: factors of the duration multiply, boosts of the
velocity add up, the first glide is kept, and each phrasing mark is kept once. What results has at
most one effect in each dimension.
-/

namespace Espressivo

/-- What the contributions so far come to. -/
structure Combination where
  factor? : Option Binary64 := none
  boost? : Option Binary64 := none
  glide? : Option Glide := none
  phrasing : List SimpleArticulation := []
  findings : List Finding := []

namespace Combination

def add (combination : Combination) : Contribution → Combination
  | .duration factor => { combination with factor? := some (combination.factor?.getD 1 * factor) }
  | .velocity boost => { combination with boost? := some (combination.boost?.getD 0 + boost) }
  | .glide glide =>
    match combination.glide? with
    | none => { combination with glide? := some glide }
    | some applied =>
      { combination with findings := combination.findings ++ [.secondGlide glide applied] }
  | .phrasing mark =>
    if mark ∈ combination.phrasing then combination
    else { combination with phrasing := combination.phrasing ++ [mark] }

def ofContributions (contributions : List Contribution) : Combination := contributions.foldl add {}

end Combination

/-- The least factor of a duration. A coefficient that is no positive number is replaced by the
standard one. -/
def Coefficients.floor (c : Coefficients) : Binary64 :=
  if c.minDuration.isFinite ∧ 0 < c.minDuration then c.minDuration
  else Coefficients.standard.minDuration

/-- A factor that is not above the floor is raised to it. -/
def raisedTo (floor factor : Binary64) : Binary64 := if floor < factor then factor else floor

/-- The effects in the order of their dimensions. Durations keep a least length, and velocities are
not lowered. -/
def Combination.effects (c : Coefficients) (combination : Combination) : List Effect :=
  (combination.factor?.map fun factor => .duration (raisedTo c.floor factor)).toList ++
    (combination.boost?.map fun boost => .velocity (raisedTo 0 boost)).toList ++
    (combination.glide?.map .glide).toList

/-- A phrasing mark on the note at an index. -/
structure PhrasingMark where
  index : Nat
  articulation : SimpleArticulation
deriving DecidableEq

/-- What is performed of one note. -/
structure NotePerformance where
  modulations : List Modulation := []
  phrasing : List PhrasingMark := []

/-- What the contributions to the note at an index come to. -/
def resolve (c : Coefficients) (index : Nat) (contributions : List Contribution) :
    Diagnosing NotePerformance := do
  let combination := Combination.ofContributions contributions
  Diagnosing.report index combination.findings
  return {
    modulations := (combination.effects c).map (⟨index, ·⟩)
    phrasing := combination.phrasing.map (⟨index, ·⟩) }

end Espressivo
