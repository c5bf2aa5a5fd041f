import Espressivo.Decimal.Basic

/-!
# Layouts of decimal numbers

How the digits of a floating point value are written: positionally or with an exponent, with or
without the fraction of a whole number, or with a fixed number of places.
-/

namespace Espressivo

/-- The decisions that turn the shortest decimal into text. -/
structure Layout where
  /-- The choice between two equally near decimals. -/
  tie : Tie
  /-- The powers of ten of the first digit that are written without an exponent. -/
  positional : Int → Bool
  /-- A whole number is written with the fraction zero. -/
  wholeFraction : Bool

namespace Layout

/-- A run of zeros. -/
def zeros (count : Int) : List Char := List.replicate count.toNat '0'

/-- The digits with a point after the first `point` of them, filled up with zeros where there are
none. -/
def positionalText (layout : Layout) (digits : List Char) (point : Int) : List Char :=
  if point ≤ 0 then '0' :: '.' :: (zeros (-point) ++ digits)
  else if digits.length ≤ point then
    digits ++ zeros (point - digits.length) ++ if layout.wholeFraction then ['.', '0'] else []
  else digits.take point.toNat ++ '.' :: digits.drop point.toNat

/-- One digit, the others as its fraction, and the exponent with its sign. -/
def exponentText (digits : List Char) (exponent : Int) : List Char :=
  let fraction := if digits.length ≤ 1 then [] else '.' :: digits.drop 1
  digits.take 1 ++ fraction ++
    'e' :: (if exponent < 0 then '-' else '+') :: Nat.toDigits 10 exponent.natAbs

/-- The text of a finite value. The sign is written also of a zero. -/
def write (layout : Layout) (x : Binary64.Finite) : String :=
  let shortest := Decimal.shortest layout.tie x
  let digits := Nat.toDigits 10 shortest.digits
  let leading := shortest.exponent + digits.length - 1
  let text :=
    if layout.positional leading then layout.positionalText digits (leading + 1)
    else exponentText digits leading
  String.ofList (if x.negative then '-' :: text else text)

/-- Numbers in running text have no exponent, and no fraction if they are whole. -/
def running : Layout where
  tie := .up
  positional _ := true
  wholeFraction := false

/-- The exact value rounded to a fixed number of places, at least one; a half goes to the even
neighbour. -/
def writeFixed (places : Nat) (x : Binary64.Finite) : String :=
  let scale := Nat.pow 10 places
  let scaled := Binary64.roundHalfEven (x.units * scale) Binary64.one
  let whole := Nat.toDigits 10 (scaled / scale)
  let fraction := Nat.toDigits 10 (scaled % scale)
  let text := whole ++ '.' :: (zeros (places - fraction.length) ++ fraction)
  String.ofList (if x.negative then '-' :: text else text)

end Layout

namespace Binary64

/-- Writes a finite value by the given rule; the other values are written as words. -/
def writeWith (write : Finite → String) : Binary64 → String
  | nan => "NaN"
  | infinite negative => if negative then "-inf" else "inf"
  | finite x => write x

/-- The value as it is written in running text. -/
def text : Binary64 → String := writeWith Layout.running.write

/-- The value with three places. -/
def textFixed : Binary64 → String := writeWith (Layout.writeFixed 3)

end Binary64
end Espressivo
