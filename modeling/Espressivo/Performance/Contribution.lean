import Espressivo.Performance.Finding
import Espressivo.Settings.Basic

/-!
# Contributions

What one articulation adds to the performance of its note, before the additions of all articulations
are combined.
-/

namespace Espressivo

inductive Contribution where
  /-- A factor of the duration. -/
  | duration (factor : Binary64)
  /-- A part of the velocity that is added to it. -/
  | velocity (boost : Binary64)
  | glide (glide : Glide)
  /-- A mark for those who read the performance, without an effect. -/
  | phrasing (mark : SimpleArticulation)
deriving DecidableEq

/-- The boost that multiplies a velocity by the factor. -/
def boostOfFactor (factor : Binary64) : Binary64 := factor - 1

namespace SimpleArticulation

def accentContributions (c : Coefficients) : List Contribution :=
  [.velocity (boostOfFactor c.accentVelocity)]

def tenutoContributions (c : Coefficients) : List Contribution :=
  [.duration c.tenutoDuration, .velocity (boostOfFactor c.tenutoVelocity)]

def contributions (c : Coefficients) : SimpleArticulation → List Contribution
  | staccato => [.duration c.staccatoDuration]
  | accent => accentContributions c
  | tenuto => tenutoContributions c
  | marcato => accentContributions c ++ tenutoContributions c
  | legato => [.phrasing .legato]

end SimpleArticulation

namespace Articulation

/-- The contributions of an articulation to a note with the given pitch. A glide needs a pitch to
start from. -/
def contributions (c : Coefficients) (origin? : Option UInt8) : Articulation → List Contribution
  | simple kind => kind.contributions c
  | glide kind target =>
    match origin? with
    | some origin => [.glide ⟨kind, origin, target⟩]
    | none => []

/-- A glide on a rest is passed over. -/
def findings (origin? : Option UInt8) : Articulation → List Finding
  | simple _ => []
  | glide kind _ => if origin?.isNone then [.glideOnRest kind] else []

end Articulation

/-- The contributions of articulations to the note at an index, in order. -/
def contribute (c : Coefficients) (index : Nat) (origin? : Option UInt8) :
    List Articulation → Diagnosing (List Contribution)
  | [] => return []
  | articulation :: rest => do
    Diagnosing.report index (articulation.findings origin?)
    return articulation.contributions c origin? ++ (← contribute c index origin? rest)

end Espressivo
