import Espressivo.Binary64.Arithmetic
import Espressivo.Text.Casing
import Espressivo.Text.Numeral

/-!
# Timing grids

The resolutions that times are snapped to, in quarter notes, and their names as note values.
-/

namespace Espressivo

/-- A resolution in quarter notes. -/
structure Grid where
  quarters : Binary64
deriving DecidableEq

/-- The note values that have names. -/
inductive NoteValue where
  | whole
  | half
  | quarter
  | eighth
  | sixteenth
  | thirtySecond
deriving DecidableEq, Repr

namespace NoteValue

def quarters : NoteValue → Binary64
  | whole => 4
  | half => 2
  | quarter => 1
  | eighth => 0.5
  | sixteenth => 0.25
  | thirtySecond => 0.125

def spellings : List (String × NoteValue) := [
  ("whole", whole), ("half", half), ("quarter", quarter), ("eighth", eighth),
  ("sixteenth", sixteenth),
  ("thirty-second", thirtySecond), ("thirty_second", thirtySecond), ("thirtysecond", thirtySecond)]

end NoteValue

namespace Grid

/-- Times can be snapped to the grid. -/
def IsUsable (grid : Grid) : Prop := grid.quarters.isFinite ∧ 0 < grid.quarters

instance (grid : Grid) : Decidable grid.IsUsable := inferInstanceAs (Decidable (_ ∧ _))

/-- The grid of a resolution, if it is usable. -/
def ofQuarters? (quarters : Binary64) : Option Grid :=
  let grid : Grid := ⟨quarters⟩
  if grid.IsUsable then some grid else none

/-- The grid of a note value, given as a fraction of the whole note. -/
def ofDenominator? (denominator : Nat) : Option Grid :=
  if denominator = 0 then none else ofQuarters? (4 / .ofNat denominator)

def ofNoteValue (value : NoteValue) : Grid := ⟨value.quarters⟩

/-- Three steps of the triplet grid take the time of two. -/
def triplet (grid : Grid) : Grid := ⟨grid.quarters * 2 / 3⟩

/-- The text without the given end, if it ends so. -/
def withoutSuffix? (suffix text : List Char) : Option (List Char) :=
  if suffix.isSuffixOf text then some (text.take (text.length - suffix.length)) else none

/-- The base of a grid's name and whether it is marked as a triplet. -/
def splitTriplet (name : List Char) : List Char × Bool :=
  match withoutSuffix? ['t', 'r', 'i', 'p', 'l', 'e', 't'] name with
  | some base => (Text.dropRightWhile (fun c => c = ' ' ∨ c = '_' ∨ c = '-') base, true)
  | none =>
    match withoutSuffix? ['t'] name with
    | some base => (base, true)
    | none => (name, false)

/-- The ends of ordinal numbers. -/
def ordinals : List (List Char) := [['s', 't'], ['n', 'd'], ['r', 'd'], ['t', 'h']]

/-- The grid of a base: the name of a note value, or its denominator, which may be written as a
fraction of one or with the end of an ordinal number. -/
def ofBase? (base : List Char) : Option Grid :=
  match NoteValue.spellings.lookup (String.ofList base) with
  | some value => some (ofNoteValue value)
  | none =>
    let denominator := if ['1', '/'].isPrefixOf base then base.drop 2 else base
    let digits :=
      (ordinals.findSome? fun ordinal => withoutSuffix? ordinal denominator).getD denominator
    (Text.readNumeral digits).toOption.bind ofDenominator?

/-- The grid of a name, in any case and with blanks around it. -/
def ofText? (text : String) : Option Grid :=
  let (base, isTriplet) := splitTriplet (Text.asciiLowercase (Text.trim text.toList))
  (ofBase? base).map fun grid => if isTriplet then grid.triplet else grid

/-- What is said of a text that names no grid. -/
def unreadable (text : String) : String := s!"invalid grid '{text}'"

end Grid
end Espressivo
