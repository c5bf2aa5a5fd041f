import Espressivo.Timing.Grid

/-!
# Fractions of a quarter note

The simple fraction that a floating point length stands for: the first denominator up to 192 that
comes close enough is taken, and if there is none, a continued fraction within 64-bit numbers.
-/

namespace Espressivo
namespace Fraction

/-- The largest denominator of the search. -/
def maxDenominator : Nat := 192

/-- The whole number nearest to a multiple of a value. -/
def numerator (value : Binary64) (denominator : Nat) : Binary64 :=
  (value * .ofNat denominator).roundToWhole

/-- The value is a fraction with that denominator, but for rounding errors. -/
def Matches (value : Binary64) (denominator : Nat) : Prop :=
  (numerator value denominator / .ofNat denominator - value).abs < 1e-9

instance (value : Binary64) (denominator : Nat) : Decidable (Matches value denominator) :=
  inferInstanceAs (Decidable (_ < _))

/-- The greatest number that fits into 64 bits with a sign. -/
def maxTerm : Nat := Nat.pow 2 63 - 1

/-- A fraction as it arises, not necessarily reduced. -/
structure Convergent where
  num : Nat
  den : Nat
deriving DecidableEq, Repr

namespace Convergent

/-- The common factors removed. -/
def reduce (c : Convergent) : Convergent :=
  let divisor := Nat.gcd c.num c.den
  if divisor = 0 then c else ⟨c.num / divisor, c.den / divisor⟩

/-- The convergent after `previous` and `current` for the partial quotient `a`, if its terms do not
grow too large. -/
def next? (previous current : Convergent) (a : Nat) : Option Convergent :=
  if a ≠ 0 ∧ (maxTerm / a < current.num ∨ maxTerm / a < current.den ∨
      maxTerm - previous.num < a * current.num ∨ maxTerm - previous.den < a * current.den) then none
  else some ⟨a * current.num + previous.num, a * current.den + previous.den⟩

/-- The last convergent of a value within a number of steps; `rest` is the part of it that is still
to be expanded. -/
def last (value : Binary64) (steps : Nat) (rest : Binary64) (previous current : Convergent) :
    Convergent :=
  match steps with
  | 0 => current
  | steps + 1 =>
    match rest.toInt64? with
    | none => current
    | some a =>
      match next? previous current a.toNat with
      | none => current
      | some next =>
        let fraction := rest - .ofInt a
        if (.ofNat next.num / .ofNat next.den - value).abs < 1e-19 then next.reduce
        else if fraction < 1 / 9223372036854775808 then next.reduce
        else last value steps (1 / fraction) current next.reduce

end Convergent

/-- The fraction of the continued fraction expansion, of at most thirty steps. -/
def expand? (x : Binary64.Finite) : Option Rat :=
  let value := Binary64.abs x
  if 9223372036854775808 < value then none
  else
    let c := Convergent.last value 30 value ⟨0, 1⟩ ⟨1, 0⟩
    if c.den = 0 then none else some (mkRat (if x.negative then -c.num else c.num) c.den)

/-- The first denominator that matches. -/
def denominator? (value : Binary64) : Option Nat :=
  (List.range' 1 maxDenominator).find? (Matches value ·)

/-- The fraction with the denominator that was found, and if none was, by expansion. -/
def withDenominator? (x : Binary64.Finite) : Option Nat → Option Rat
  | some denominator => (numerator x denominator).toInt64?.map (mkRat · denominator)
  | none => expand? x

/-- The fraction that a value stands for, if it has one with 64-bit terms. -/
def ofBinary64? : Binary64 → Option Rat
  | .finite x => withDenominator? x (denominator? x)
  | _ => none

/-- A fraction with its denominator, also if that is one. -/
def text (fraction : Rat) : String := s!"{fraction.num}/{fraction.den}"

end Fraction

/-- The resolution of a grid as a fraction of a quarter note. -/
def Grid.fraction? (grid : Grid) : Option Rat := Fraction.ofBinary64? grid.quarters

end Espressivo
