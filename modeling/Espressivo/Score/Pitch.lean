import Espressivo.Json.Decode

/-!
# Pitches

Pitches are numbered in semitones, sixty being the middle C; those above 127 have no sound. A note
sounds a single pitch or a chord.
-/

namespace Espressivo

/-- The greatest number of a pitch that can sound. -/
def maxPitch : UInt8 := 127

/-- The names of the pitches of an octave. -/
def pitchClassNames : List String :=
  ["C", "C#", "D", "D#", "E", "F", "F#", "G", "G#", "A", "A#", "B"]

/-- The name of a pitch, with the octave that it lies in. -/
def pitchName (pitch : UInt8) : String :=
  let octave : Int := (pitch.toNat / 12 : Nat) - 1
  pitchClassNames.getD (pitch.toNat % 12) "" ++ toString octave

inductive Pitch where
  | single (pitch : UInt8)
  | chord (pitches : List UInt8)
deriving DecidableEq, Repr

namespace Pitch

/-- All pitches in their written order. -/
def pitches : Pitch → List UInt8
  | single pitch => [pitch]
  | chord pitches => pitches

/-- The pitch that a glide starts from. -/
def primary? (pitch : Pitch) : Option UInt8 := pitch.pitches.head?

def text : Pitch → String
  | single pitch => pitchName pitch
  | chord pitches => "[" ++ " ".intercalate (pitches.map pitchName) ++ "]"

def toJson : Pitch → Json
  | single pitch => .ofNat pitch.toNat
  | chord pitches => .array (pitches.map fun pitch => .ofNat pitch.toNat)

/-- The pitches that a value stands for, if it is a number or a list of numbers. -/
def ofJson? (value : Json) : Option Pitch :=
  match value with
  | .array items => (items.mapM fun item => (Json.Decode.byte item).toOption).map chord
  | _ => (Json.Decode.byte value).toOption.map single

def decode : Json.Decoder Pitch := fun value =>
  match ofJson? value with
  | some pitch => .ok pitch
  | none => .error (.noVariant "Pitch")

end Pitch
end Espressivo
