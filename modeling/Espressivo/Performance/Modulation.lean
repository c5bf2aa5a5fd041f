import Espressivo.Performance.Glide

/-!
# Modulations

What a performer does to the notes of a track beyond what is notated: each modulation is one effect
on the note at an index.
-/

namespace Espressivo

/-- An effect on one note. -/
inductive Effect where
  /-- The notated duration is multiplied by the factor. -/
  | duration (factor : Binary64)
  /-- The velocity grows by the given part of itself. -/
  | velocity (boost : Binary64)
  /-- The pitch changes over the duration of the note. -/
  | glide (glide : Glide)
deriving DecidableEq

structure Modulation where
  index : Nat
  effect : Effect
deriving DecidableEq

namespace Effect

/-- The dimension of sound that an effect belongs to. -/
def name : Effect → String
  | duration _ => "durationScale"
  | velocity _ => "velocityBoost"
  | glide _ => "pitch"

/-- The place of the dimension in the order of a note's effects. -/
def rank : Effect → Nat
  | duration _ => 0
  | velocity _ => 1
  | glide _ => 2

/-- The glide of an effect on the pitch. -/
def glide? : Effect → Option Glide
  | glide g => some g
  | _ => none

/-- The names of the dimensions in their order. -/
def names : List String := ["durationScale", "velocityBoost", "pitch"]

def text : Effect → String
  | duration factor => s!"duration x{factor.textFixed}"
  | velocity boost => s!"velocity +{boost.textFixed}"
  | glide g => g.text

def toFields : Effect → List (String × Json)
  | duration factor => [("factor", .ofBinary64 factor)]
  | velocity boost => [("amountBoost", .ofBinary64 boost)]
  | glide g => g.toFields

end Effect

namespace Modulation

def text (modulation : Modulation) : String := s!"#{modulation.index} {modulation.effect.text}"

/-- An object with the dimension of the effect as its type. -/
def toJson (modulation : Modulation) : Json :=
  .object (("type", .string modulation.effect.name) :: ("index", .ofNat modulation.index) ::
    modulation.effect.toFields)

/-- A modulation with one amount from the fields of an object. -/
def amountOfFields (name : String) (effect : Binary64 → Effect) (fields : Dictionary Json) :
    Except Json.DecodeError Modulation := do
  let amount? ← Json.Decode.optional fields name Json.Decode.float
  let index? ← Json.Decode.optional fields "index" Json.Decode.size
  let index ← Json.Decode.required "index" index?
  return { index, effect := effect (← Json.Decode.required name amount?) }

/-- A glide from the fields of an object. -/
def glideOfFields (fields : Dictionary Json) : Except Json.DecodeError Modulation := do
  let origin? ← Json.Decode.optional fields "from" Json.Decode.byte
  let index? ← Json.Decode.optional fields "index" Json.Decode.size
  let kind? ← Json.Decode.optional fields "subtype" (Json.Decode.setAsideVariant GlideKind.names)
  let target? ← Json.Decode.optional fields "to" Json.Decode.byte
  let index ← Json.Decode.required "index" index?
  let kind ← Json.Decode.required "subtype" kind?
  let origin ← Json.Decode.required "from" origin?
  return { index, effect := .glide { kind, origin, target := ← Json.Decode.required "to" target? } }

/-- A modulation with one amount from the items after its type. -/
def amountOfItems (expected : String) (effect : Binary64 → Effect) (items : List Json) :
    Except Json.DecodeError Modulation := do
  let index ← Json.Decode.item items 0 (.variantOf expected 2) Json.Decode.size
  let amount ← Json.Decode.item items 1 (.variantOf expected 2) Json.Decode.float
  if 2 < items.length then .error (.wrongLength items.length (.elements 2))
  return { index, effect := effect amount }

/-- A glide from the items after its type. -/
def glideOfItems (items : List Json) : Except Json.DecodeError Modulation := do
  let expected := .variantOf "ModulationEvent::Pitch" 4
  let index ← Json.Decode.item items 0 expected Json.Decode.size
  let kind ← Json.Decode.item items 1 expected (Json.Decode.setAsideVariant GlideKind.names)
  let origin ← Json.Decode.item items 2 expected Json.Decode.byte
  let target ← Json.Decode.item items 3 expected Json.Decode.byte
  if 4 < items.length then .error (.wrongLength items.length (.elements 4))
  return { index, effect := .glide { kind, origin, target } }

/-- The place of a type among the dimensions. -/
def decodeType : Json.Decoder Nat
  | .string name => Json.Decode.named (Effect.names.zipIdx) name
  | value => .error (.wrongType value .tag)

/-- A modulation is an object with a type, or the list of its type and its fields. The type is
looked at first. -/
def decode : Json.Decoder Modulation
  | .object fields => do
    let type? ← Json.Decode.optional fields "type" decodeType
    match ← Json.Decode.required "type" type? with
    | 0 => amountOfFields "factor" .duration fields
    | 1 => amountOfFields "amountBoost" .velocity fields
    | _ => glideOfFields fields
  | .array [] => .error (.missingField "type")
  | .array (type :: items) => do
    match ← decodeType type with
    | 0 => amountOfItems "ModulationEvent::DurationScale" .duration items
    | 1 => amountOfItems "ModulationEvent::VelocityBoost" .velocity items
    | _ => glideOfItems items
  | value => .error (.wrongType value (.tagged "ModulationEvent"))

end Modulation
end Espressivo
