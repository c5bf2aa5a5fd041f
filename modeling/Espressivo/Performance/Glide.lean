import Espressivo.Articulation.Kind
import Espressivo.Score.Pitch

/-!
# Glides

Continuous changes from one pitch to another over the duration of a note, and their steps for
instruments that cannot glide.
-/

namespace Espressivo

structure Glide where
  kind : GlideKind
  origin : UInt8
  target : UInt8
deriving DecidableEq, Repr

/-- The least number of pitches that a glide is divided into. -/
def minSubdivisions : Nat := 3

namespace Glide

/-- The distance in semitones; it is negative if the glide leads down. -/
def interval (glide : Glide) : Int := (glide.target.toNat : Int) - glide.origin.toNat

/-- The pitch after `step` of `last` equal parts of the way. -/
def pitchAt (glide : Glide) (last step : Nat) : UInt8 :=
  let origin : Binary64 := .ofNat glide.origin.toNat
  let span := .ofNat glide.target.toNat - origin
  (origin + span * .ofNat step / .ofNat last).roundToWhole.toUInt8

/-- Evenly spaced pitches from one end of the glide to the other. -/
def steps (glide : Glide) (subdivisions : Nat) : List UInt8 :=
  let count := max subdivisions minSubdivisions
  (List.range count).map (glide.pitchAt (count - 1))

def text (glide : Glide) : String :=
  s!"{glide.kind.name} {pitchName glide.origin} -> {pitchName glide.target}"

/-- The fields of a glide. -/
def toFields (glide : Glide) : List (String × Json) := [
  ("subtype", glide.kind.name), ("from", .ofNat glide.origin.toNat),
  ("to", .ofNat glide.target.toNat)]

/-- A glide is an object of its three fields or the list of them. -/
def decode : Json.Decoder Glide
  | .object fields => do
    let origin? ← Json.Decode.optional fields "from" Json.Decode.byte
    let kind? ← Json.Decode.optional fields "subtype" (Json.Decode.variant GlideKind.names)
    let target? ← Json.Decode.optional fields "to" Json.Decode.byte
    return {
      kind := ← Json.Decode.required "subtype" kind?
      origin := ← Json.Decode.required "from" origin?
      target := ← Json.Decode.required "to" target? }
  | .array items => do
    let expected := .recordOf "PitchGlide" 3
    let kind ← Json.Decode.item items 0 expected (Json.Decode.variant GlideKind.names)
    let origin ← Json.Decode.item items 1 expected Json.Decode.byte
    let target ← Json.Decode.item items 2 expected Json.Decode.byte
    if 3 < items.length then .error (.wrongLength items.length .fewerElements)
    return { kind, origin, target }
  | value => .error (.wrongType value (.record "PitchGlide"))

end Glide
end Espressivo
