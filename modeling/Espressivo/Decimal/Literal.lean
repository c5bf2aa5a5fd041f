import Espressivo.Binary64.Arithmetic

/-!
# Decimal literals

Floating point values in text: decimal literals with or without a sign, a point and an exponent, and
the words for infinity and for what is not a number. A literal stands for the value nearest to it.
-/

namespace Espressivo
namespace Decimal

/-- The number that a run of digits stands for. -/
def digitsValue (digits : List Char) : Nat :=
  digits.foldl (fun n c => 10 * n + (c.toNat - '0'.toNat)) 0

/-- A sign in front of a text, and the text after it. -/
def splitSign : List Char → Bool × List Char
  | '-' :: rest => (true, rest)
  | '+' :: rest => (false, rest)
  | text => (false, text)

/-- The exponent at the end of a literal; nothing stands for zero. -/
def exponent? : List Char → Option Int
  | [] => some 0
  | mark :: rest =>
    let (negative, digits) := splitSign rest
    if (mark = 'e' ∨ mark = 'E') ∧ digits ≠ [] ∧ digits.all Char.isDigit then
      some (if negative then -(digitsValue digits : Int) else digitsValue digits)
    else none

/-- The value of a literal after its sign. -/
def magnitude? (negative : Bool) (text : List Char) : Option Binary64 := do
  let (whole, rest) := text.span Char.isDigit
  let (fraction, rest) :=
    match rest with
    | '.' :: rest => rest.span Char.isDigit
    | _ => ([], rest)
  if whole ++ fraction = [] then none
  let exponent ← exponent? rest
  return .ofDecimal negative (digitsValue (whole ++ fraction)) (exponent - fraction.length)

end Decimal

/-- The value that a text stands for. -/
def Binary64.ofText? (text : String) : Option Binary64 :=
  let (negative, rest) := Decimal.splitSign text.toList
  match String.ofList (rest.map Char.toLower) with
  | "nan" => some nan
  | "inf" | "infinity" => some (infinite negative)
  | _ => Decimal.magnitude? negative rest

end Espressivo
