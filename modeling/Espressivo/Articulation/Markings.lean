import Espressivo.Json.Basic

/-!
# Articulation markings

The articulations of a note as they are written down: names, descriptors with parameters, and lists
of both. Any JSON value is read as markings, also one that means nothing, and is written back as it
was.
-/

namespace Espressivo

/-- An articulation of a named type with parameters, such as the target of a glide. -/
structure Descriptor where
  type : String
  parameters : Dictionary Json

/-- One entry of a note's markings. -/
inductive Entry where
  | name (name : String)
  | descriptor (descriptor : Descriptor)
  | other (value : Json)

/-- The markings of a note: a list of entries, or one entry on its own. -/
inductive Markings where
  | single (entry : Entry)
  | list (entries : List Entry)

namespace Descriptor

/-- The descriptor with a parameter set. -/
def withParameter (descriptor : Descriptor) (name : String) (value : Json) : Descriptor :=
  { descriptor with parameters := Dictionary.put name value descriptor.parameters }

/-- An object is a descriptor if its type is a string. -/
def ofJson? : Json → Option Descriptor
  | .object fields =>
    match Dictionary.get? "type" fields with
    | some (.string type) => some ⟨type, Dictionary.without ["type"] fields⟩
    | _ => none
  | _ => none

def toJson (descriptor : Descriptor) : Json :=
  .record [("type", some descriptor.type)] descriptor.parameters

end Descriptor

namespace Entry

/-- A string is a name, an object with a type a descriptor. -/
def ofJson (value : Json) : Entry :=
  match value with
  | .string s => name s
  | _ =>
    match Descriptor.ofJson? value with
    | some d => descriptor d
    | none => other value

def toJson : Entry → Json
  | name s => s
  | descriptor d => d.toJson
  | other value => value

end Entry

namespace Markings

/-- The entries in their written order. -/
def entries : Markings → List Entry
  | single entry => [entry]
  | list entries => entries

def ofJson : Json → Markings
  | .array items => list (items.map Entry.ofJson)
  | value => single (.ofJson value)

def toJson : Markings → Json
  | single entry => entry.toJson
  | list entries => .array (entries.map Entry.toJson)

end Markings
end Espressivo
