import Espressivo.Score.Note
import Espressivo.Timing.Grid

/-!
# Snapping to a grid

Times and durations are snapped to multiples of a grid. A value that lies on the grid but for
rounding errors keeps its place in every mode.
-/

namespace Espressivo

/-- Which of the two neighbouring multiples is taken. -/
inductive SnapMode where
  | nearest
  | floor
  | ceil
deriving DecidableEq, Repr

namespace SnapMode

def name : SnapMode → String
  | nearest => "nearest"
  | floor => "floor"
  | ceil => "ceil"

/-- The canonical names of the modes. -/
def names : List (String × SnapMode) := [("nearest", nearest), ("floor", floor), ("ceil", ceil)]

def spellings : List (String × SnapMode) := [
  ("nearest", nearest), ("round", nearest), ("floor", floor), ("down", floor), ("ceil", ceil),
  ("up", ceil)]

/-- The mode of a text, in any case and with blanks around it. -/
def ofText? (text : String) : Option SnapMode :=
  spellings.lookup (String.ofList (Text.asciiLowercase (Text.trim text.toList)))

/-- What is said of a text that names no mode. -/
def unreadable (text : String) : String := s!"invalid quantize mode '{text}'"

end SnapMode

/-- The distance from the grid, in steps, below which a value lies on it. -/
def snapTolerance : Binary64 := 1e-9

/-- A number of steps made whole. -/
def wholeSteps (mode : SnapMode) (steps : Binary64) : Binary64 :=
  let nearest := steps.roundToWhole
  if (steps - nearest).abs < snapTolerance then nearest
  else
    match mode with
    | .nearest => nearest
    | .floor => steps.floor
    | .ceil => steps.ceil

/-- The multiple of the grid next to a value. A value that is not finite stays, and so does every
value on a grid that is not usable or too fine for it. No result is a negative zero. -/
def snap (grid : Grid) (mode : SnapMode) (value : Binary64) : Binary64 :=
  if ¬ value.isFinite ∨ ¬ grid.IsUsable then value
  else
    let steps := value / grid.quarters
    if ¬ steps.isFinite then value else wholeSteps mode steps * grid.quarters + 0

/-- The multiple of the grid next to a duration, one step at least. -/
def snapDuration (grid : Grid) (mode : SnapMode) (duration : Binary64) : Binary64 :=
  let snapped := snap grid mode duration
  if snapped.isFinite ∧ grid.IsUsable ∧ snapped ≤ 0 then grid.quarters else snapped

def Note.snap (grid : Grid) (mode : SnapMode) (note : Note) : Note :=
  { note with
    time := Espressivo.snap grid mode note.time
    duration := snapDuration grid mode note.duration }

def Track.snap (grid : Grid) (mode : SnapMode) (track : Track) : Track :=
  { track with notes := track.notes.map (Note.snap grid mode) }

def Composition.snap (grid : Grid) (mode : SnapMode) (composition : Composition) : Composition :=
  { composition with tracks := composition.tracks.map (Track.snap grid mode) }

end Espressivo
