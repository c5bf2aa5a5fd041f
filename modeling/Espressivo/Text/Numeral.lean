import Espressivo.Text.Blank

/-!
# Numerals

Unsigned 32-bit numbers in text: an optional plus sign and decimal digits.
-/

namespace Espressivo
namespace Text

/-- Why a text is no numeral. -/
inductive NumeralError where
  | empty
  | invalidDigit
  | tooLarge
deriving DecidableEq, Repr

def NumeralError.message : NumeralError → String
  | empty => "cannot parse integer from empty string"
  | invalidDigit => "invalid digit found in string"
  | tooLarge => "number too large to fit in target type"

/-- The number that a digit stands for. -/
def digitValue (c : Char) : Nat := c.toNat - '0'.toNat

/-- Reads digits after a number read so far. The fault that comes first in the text is reported. -/
def readDigits (number : Nat) : List Char → Except NumeralError Nat
  | [] => .ok number
  | c :: rest =>
    if ¬ c.isDigit then .error .invalidDigit
    else if UInt32.size ≤ 10 * number + digitValue c then .error .tooLarge
    else readDigits (10 * number + digitValue c) rest

/-- Reads a numeral below `2 ^ 32`. A sign on its own is no number. -/
def readNumeral : List Char → Except NumeralError Nat
  | [] => .error .empty
  | ['+'] => .error .invalidDigit
  | '+' :: digits => readDigits 0 digits
  | digits => readDigits 0 digits

end Text
end Espressivo
