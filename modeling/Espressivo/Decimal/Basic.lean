import Espressivo.Binary64.Arithmetic

/-!
# Decimal numbers

Unsigned decimal numbers, and the shortest one that reads back as a given floating point value. A
decimal reads back if it rounds to the value, so that the choice is made by `Binary64.ofDecimal`
alone: the first number of digits for which one of the value's two neighbours reads back is taken.
-/

namespace Espressivo

/-- The number `digits * 10 ^ exponent`. -/
structure Decimal where
  digits : Nat
  exponent : Int
deriving DecidableEq, Repr

/-- Which of two equally near decimals is taken. -/
inductive Tie where
  | even
  | up
deriving DecidableEq

namespace Decimal

/-- The floating point value nearest to a decimal of the given sign. -/
def toBinary64 (d : Decimal) (negative : Bool) : Binary64 :=
  Binary64.ofDecimal negative d.digits d.exponent

/-- The decimal, with the sign of the value, rounds to it. -/
def ReadsBack (d : Decimal) (x : Binary64.Finite) : Prop := d.toBinary64 x.negative = .finite x

instance (d : Decimal) (x : Binary64.Finite) : Decidable (d.ReadsBack x) :=
  inferInstanceAs (Decidable (_ = _))

/-- The same number without zeros at the end of its digits. -/
def strip (d : Decimal) : Decimal :=
  if d.digits ≠ 0 ∧ d.digits % 10 = 0 then strip ⟨d.digits / 10, d.exponent + 1⟩ else d
termination_by d.digits
decreasing_by all_goals omega

/-- The power of ten that the first digit of a positive value counts. The value is scaled up to a
whole number before its digits are counted; no value is below `10 ^ (-330)`. -/
def leadingExponent (x : Binary64.Finite) : Int :=
  (Nat.toDigits 10 (x.units * Nat.pow 10 330 / Binary64.one)).length - 331

/-- The decimal on the grid of multiples of `10 ^ grid` that reads back; if both neighbours of the
value do, the nearer one. -/
def onGrid? (tie : Tie) (x : Binary64.Finite) (grid : Int) : Option Decimal :=
  let num := x.units * Nat.pow 10 (-grid).toNat
  let den := Binary64.one * Nat.pow 10 grid.toNat
  let below : Decimal := ⟨num / den, grid⟩
  let above : Decimal := ⟨num / den + 1, grid⟩
  if below.ReadsBack x then
    if above.ReadsBack x then
      let remainder := num % den
      if 2 * remainder < den ∨ (2 * remainder = den ∧ tie = .even ∧ below.digits % 2 = 0) then
        some below
      else some above
    else some below
  else if above.ReadsBack x then some above
  else none

/-- The shortest decimal that reads back. Seventeen digits are enough for every value; the exact
decimal stands in for a search without success. -/
def shortest (tie : Tie) (x : Binary64.Finite) : Decimal :=
  if x.units = 0 then ⟨0, 0⟩
  else
    let found := (List.range 17).findSome? fun (n : Nat) => onGrid? tie x (leadingExponent x - n)
    (found.getD ⟨x.units * Nat.pow 5 1074, -1074⟩).strip

end Decimal
end Espressivo
