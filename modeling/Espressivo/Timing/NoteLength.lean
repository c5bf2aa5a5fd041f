import Espressivo.Timing.Fraction
import Espressivo.Timing.Snap

/-!
# Note lengths in text

The suffix that gives the length of a note in ABC text, where the unit length is a quarter note:
nothing for one unit, a number for a multiple of it, and a reduced fraction otherwise.
-/

namespace Espressivo
namespace NoteLength

/-- The suffix of a fraction of the unit length. What is not positive has none. -/
def ofFraction (fraction : Rat) : String :=
  if fraction.num ≤ 0 then ""
  else if fraction.den = 1 then if fraction.num = 1 then "" else toString fraction.num
  else Fraction.text fraction

/-- The suffix of a duration in quarter notes, snapped to the grid. -/
def suffix (grid : Grid) (duration : Binary64) : String :=
  if ¬ duration.isFinite ∨ duration ≤ 0 then ""
  else ((Fraction.ofBinary64? (snapDuration grid .nearest duration)).map ofFraction).getD ""

end NoteLength
end Espressivo
