import Espressivo.Binary64.Basic

/-!
# Arithmetic of binary floating point

Addition, multiplication, division and the roundings to whole numbers. Each takes the exact result
in units and rounds it to nearest, ties to even; what has no value is not a number.
-/

namespace Espressivo
namespace Binary64

protected def neg : Binary64 → Binary64
  | nan => nan
  | infinite negative => infinite (!negative)
  | finite x => finite { x with negative := !x.negative }

instance : Neg Binary64 := ⟨Binary64.neg⟩

/-- The value without its sign. -/
def abs : Binary64 → Binary64
  | nan => nan
  | infinite _ => infinite false
  | finite x => finite { x with negative := false }

/-- An exact sum of zero is negative only if both terms are. -/
def Finite.add (x y : Finite) : Binary64 :=
  let sum := x.position + y.position
  if sum = 0 then zero (x.negative && y.negative) else round (sum < 0) sum.natAbs 1

protected def add : Binary64 → Binary64 → Binary64
  | nan, _ => nan
  | _, nan => nan
  | infinite a, infinite b => if a = b then infinite a else nan
  | infinite a, finite _ => infinite a
  | finite _, infinite b => infinite b
  | finite x, finite y => x.add y

instance : Add Binary64 := ⟨Binary64.add⟩
instance : Sub Binary64 := ⟨fun x y => x + -y⟩

protected def mul : Binary64 → Binary64 → Binary64
  | nan, _ => nan
  | _, nan => nan
  | infinite a, infinite b => infinite (a != b)
  | infinite a, finite y => if y.units = 0 then nan else infinite (a != y.negative)
  | finite x, infinite b => if x.units = 0 then nan else infinite (x.negative != b)
  | finite x, finite y => round (x.negative != y.negative) (x.units * y.units) one

instance : Mul Binary64 := ⟨Binary64.mul⟩

protected def div : Binary64 → Binary64 → Binary64
  | nan, _ => nan
  | _, nan => nan
  | infinite _, infinite _ => nan
  | infinite a, finite y => infinite (a != y.negative)
  | finite x, infinite b => zero (x.negative != b)
  | finite x, finite y =>
    if y.units = 0 then if x.units = 0 then nan else infinite (x.negative != y.negative)
    else round (x.negative != y.negative) (x.units * one) y.units

instance : Div Binary64 := ⟨Binary64.div⟩

/-! ## Whole numbers -/

/-- The whole part of the distance to zero. -/
def Finite.whole (x : Finite) : Nat := x.units / one

/-- The value is a whole number. -/
def Finite.IsWhole (x : Finite) : Prop := x.units % one = 0

instance (x : Finite) : Decidable x.IsWhole := inferInstanceAs (Decidable (_ = _))

/-- The distance to zero, rounded up. -/
def Finite.wholeUp (x : Finite) : Nat := (x.units + (one - 1)) / one

/-- The distance to zero, rounded to nearest, a half up. -/
def Finite.wholeNearest (x : Finite) : Nat := (2 * x.units + one) / (2 * one)

/-- Applies a rounding to whole numbers; the sign stays, also that of a zero. -/
def mapWhole (rounding : Finite → Nat) : Binary64 → Binary64
  | finite x => ofWhole x.negative (rounding x)
  | x => x

/-- The greatest whole number that is not above the value. -/
def floor : Binary64 → Binary64 :=
  mapWhole fun x => if x.negative then x.wholeUp else x.whole

/-- The least whole number that is not below the value. -/
def ceil : Binary64 → Binary64 :=
  mapWhole fun x => if x.negative then x.whole else x.wholeUp

/-- The nearest whole number; a half goes away from zero. -/
def roundToWhole : Binary64 → Binary64 := mapWhole Finite.wholeNearest

/-- The value without its fraction, as an integer. -/
def Finite.truncate (x : Finite) : Int := if x.negative then -x.whole else x.whole

/-- The integer part, limited to a range; what is not a number counts as zero. -/
def toIntWithin (low high : Int) : Binary64 → Int
  | nan => 0
  | infinite negative => if negative then low else high
  | finite x => max low (min high x.truncate)

/-- The integer part, limited to the range of a byte. -/
def toUInt8 (x : Binary64) : UInt8 := UInt8.ofNat (x.toIntWithin 0 255).toNat

/-- The integer part, if it has a signed 64-bit representation. -/
def toInt64? : Binary64 → Option Int
  | finite x =>
    if -(Nat.pow 2 63 : Int) ≤ x.truncate ∧ x.truncate < Nat.pow 2 63 then some x.truncate else none
  | _ => none

/-! ## Limits -/

/-- The number limited to a range; a lower bound wins over an upper one, and what is not a number
stays. -/
def clamp (x low high : Binary64) : Binary64 :=
  if x < low then low else if high < x then high else x

end Binary64
end Espressivo
