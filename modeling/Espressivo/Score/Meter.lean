import Espressivo.Json.Decode
import Espressivo.Text.Numeral

/-!
# Meter and tempo

Time signatures, and the context that turns lengths in quarter notes into seconds.
-/

namespace Espressivo

def IsPowerOfTwo (n : Nat) : Prop := n = Nat.pow 2 n.log2

instance (n : Nat) : Decidable (IsPowerOfTwo n) := inferInstanceAs (Decidable (_ = _))

/-- So many notes of a value to the bar. -/
structure TimeSignature where
  numerator : UInt32
  denominator : UInt32
  positive : 0 < numerator := by decide
  powerOfTwo : IsPowerOfTwo denominator.toNat := by decide
deriving DecidableEq

/-- Why something is no time signature. -/
inductive TimeSignatureError where
  | zeroNumerator
  | badDenominator (denominator : UInt32)
  | notFraction (text : String)
  | notNumeral (text : String) (error : Text.NumeralError)
deriving DecidableEq

def TimeSignatureError.message : TimeSignatureError → String
  | zeroNumerator => "time signature numerator must be > 0"
  | badDenominator denominator =>
    s!"time signature denominator must be a power of two, got {denominator}"
  | notFraction text => s!"invalid time signature '{text}'"
  | notNumeral text error => s!"invalid time signature '{text}': {error.message}"

namespace TimeSignature

/-- The time signature of two numbers. -/
def ofNumbers (numerator denominator : UInt32) : Except TimeSignatureError TimeSignature :=
  if positive : 0 < numerator then
    if powerOfTwo : IsPowerOfTwo denominator.toNat then
      .ok { numerator, denominator, positive, powerOfTwo }
    else .error (.badDenominator denominator)
  else .error .zeroNumerator

/-- The time signature of a text of two numerals with a slash between them, and with blanks around
either. -/
def ofText (text : String) : Except TimeSignatureError TimeSignature := do
  let numeral (part : List Char) : Except TimeSignatureError UInt32 :=
    match Text.readNumeral (Text.trim part) with
    | .ok n => .ok (UInt32.ofNat n)
    | .error error => .error (.notNumeral text error)
  let (numerator, rest) := text.toList.span (· ≠ '/')
  match rest with
  | [] => .error (.notFraction text)
  | _ :: denominator =>
    let numerator ← numeral numerator
    ofNumbers numerator (← numeral denominator)

def text (signature : TimeSignature) : String :=
  s!"{signature.numerator}/{signature.denominator}"

def common : TimeSignature := { numerator := 4, denominator := 4 }

/-- The length of a bar in quarter notes. -/
def quartersPerBar (signature : TimeSignature) : Binary64 :=
  .ofNat signature.numerator.toNat * 4 / .ofNat signature.denominator.toNat

def toJson (signature : TimeSignature) : Json := signature.text

/-- Two numbers, as a list or as the fields of an object. -/
def numbers? : Json → Option (UInt32 × UInt32)
  | .array [numerator, denominator] => pair? numerator denominator
  | .object fields => do
    pair? (← Dictionary.get? "numerator" fields) (← Dictionary.get? "denominator" fields)
  | _ => none
where
  pair? (numerator denominator : Json) : Option (UInt32 × UInt32) := do
    let numerator ← (Json.Decode.word numerator).toOption
    let denominator ← (Json.Decode.word denominator).toOption
    return (.ofNat numerator, .ofNat denominator)

/-- A time signature is given as text or by its two numbers. -/
def decode : Json.Decoder TimeSignature := fun value => do
  let signature ←
    match value with
    | .string text => pure (ofText text)
    | _ =>
      match numbers? value with
      | some (numerator, denominator) => pure (ofNumbers numerator denominator)
      | none => .error (.noVariant "TimeSignatureRepr")
  signature.mapError fun error => .refused error.message

end TimeSignature

/-- The tempo and meter of a performance. -/
structure Context where
  /-- Quarter notes per minute. -/
  tempo : Binary64
  timeSignature : TimeSignature

namespace Context

def standard : Context := ⟨120, .common⟩

/-- The length of a quarter note in seconds. -/
def secondsPerQuarter (context : Context) : Binary64 := 60 / context.tempo

/-- A length in quarter notes, in seconds. -/
def seconds (context : Context) (quarters : Binary64) : Binary64 :=
  quarters * context.secondsPerQuarter

/-- The length of a bar in seconds. -/
def secondsPerBar (context : Context) : Binary64 :=
  context.seconds context.timeSignature.quartersPerBar

def toJson (context : Context) : Json :=
  .object [("tempo", .ofBinary64 context.tempo), ("timeSignature", context.timeSignature.toJson)]

def decode : Json.Decoder Context :=
  Json.Decode.recordWith "PerformanceContext" [
    Json.Decode.setter "tempo" Json.Decode.float fun tempo context => { context with tempo },
    Json.Decode.setter "timeSignature" TimeSignature.decode fun timeSignature context =>
      { context with timeSignature }]
    standard

end Context
end Espressivo
