import Espressivo.Articulation.Kind
import Espressivo.Json.Decode
import Espressivo.Text.Casing

/-!
# Shorthands

The names by which articulations are marked in a score. Names are compared without regard to case
and to blanks around them.
-/

namespace Espressivo

/-- A dictionary of normalized names. -/
structure ShorthandTable where
  entries : Dictionary ArticulationKind
  sorted : Dictionary.Sorted entries
deriving DecidableEq

namespace ShorthandTable

/-- The form of a name under which it is kept. -/
def normalize (name : String) : String :=
  String.ofList (Text.lowercase (Text.trim name.toList))

/-- The table of the given names; of two with the same form the later one counts. -/
def ofList (names : List (String × ArticulationKind)) : ShorthandTable where
  entries := Dictionary.ofList (names.map fun entry => (normalize entry.1, entry.2))
  sorted := Dictionary.sorted_ofList _

/-- The kind that a name stands for. -/
def lookup? (table : ShorthandTable) (name : String) : Option ArticulationKind :=
  Dictionary.get? (normalize name) table.entries

/-- The names that stand for a kind. -/
def aliases (table : ShorthandTable) (kind : ArticulationKind) : List String :=
  (table.entries.filter (·.2 = kind)).map (·.1)

/-- The names in use where no others are given. -/
def standard : ShorthandTable := ofList [
  ("staccato", .simple .staccato), ("stacc", .simple .staccato), (".", .simple .staccato),
  ("accent", .simple .accent), ("acc", .simple .accent), (">", .simple .accent),
  ("l", .simple .accent),
  ("tenuto", .simple .tenuto), ("ten", .simple .tenuto), ("-", .simple .tenuto),
  ("marcato", .simple .marcato), ("marc", .simple .marcato), ("^", .simple .marcato),
  ("legato", .simple .legato), ("slur", .simple .legato),
  ("glissando", .glide .glissando), ("gliss", .glide .glissando), ("slide", .glide .glissando),
  ("portamento", .glide .portamento), ("port", .glide .portamento)]

/-- An object that maps names to the names of kinds. -/
def toJson (table : ShorthandTable) : Json :=
  .object (table.entries.map fun entry => (entry.1, .string entry.2.name))

def decode : Json.Decoder ShorthandTable
  | .object fields =>
    return ofList (← fields.mapM fun field =>
      return (field.1, ← Json.Decode.variant ArticulationKind.names field.2))
  | value => .error (.wrongType value .map)

end ShorthandTable
end Espressivo
