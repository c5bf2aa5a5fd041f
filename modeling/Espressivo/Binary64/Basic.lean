/-!
# Binary floating point

The 64-bit binary floating point values. A finite value is a sign and a whole number of units, one
unit being `2 ^ (-1074)`, the least positive value, so that exact arithmetic on finite values is
arithmetic on natural numbers. Every operation computes its exact result as a quotient of naturals
and rounds it once, by `Binary64.round`; `representable_nearest` says that what is rounded is again
a value.
-/

namespace Espressivo
namespace Binary64

/-- The units that make up the number one. -/
def one : Nat := Nat.pow 2 1074

/-- The least number of units that is too large for a finite value. -/
def limit : Nat := Nat.pow 2 2098

/-- The amount is below the overflow limit and has a significand of at most 53 bits. -/
def Representable (units : Nat) : Prop :=
  units < limit ∧
    ∃ significand exponent : Nat, significand < Nat.pow 2 53 ∧
      units = significand * Nat.pow 2 exponent

theorem limit_pos : 0 < limit := by decide +kernel

theorem representable_zero : Representable 0 := ⟨limit_pos, 0, 0, by decide, rfl⟩

/-- A finite value. The two zeros differ in their sign only. -/
structure Finite where
  negative : Bool
  units : Nat
  representable : Representable units
deriving DecidableEq

end Binary64

/-- A 64-bit binary floating point value. There is one value that is not a number. -/
inductive Binary64 where
  | nan
  | infinite (negative : Bool)
  | finite (value : Binary64.Finite)
deriving DecidableEq

namespace Binary64

/-! ## Rounding -/

/-- The distance between neighbouring values from `units` up to the next power of two. -/
def spacing (units : Nat) : Nat := Nat.pow 2 (units.log2 - 52)

/-- The whole number nearest to `num / den`; a half goes to the even neighbour. -/
def roundHalfEven (num den : Nat) : Nat :=
  let quotient := num / den
  let remainder := num % den
  if 2 * remainder < den ∨ (2 * remainder = den ∧ quotient % 2 = 0) then quotient
  else quotient + 1

/-- The number of units nearest to `num / den` among those with a significand of 53 bits. -/
def nearest (num den : Nat) : Nat :=
  let step := spacing (num / den)
  roundHalfEven num (den * step) * step

theorem roundHalfEven_le (num den : Nat) : roundHalfEven num den ≤ num / den + 1 := by
  unfold roundHalfEven
  dsimp only
  split <;> omega

theorem div_spacing_lt (units : Nat) : units / spacing units < Nat.pow 2 53 := by
  simp only [spacing, Nat.pow_eq]
  rw [Nat.div_lt_iff_lt_mul (Nat.two_pow_pos _), ← Nat.pow_add]
  exact Nat.lt_of_lt_of_le Nat.lt_log2_self (Nat.pow_le_pow_right (by decide) (by omega))

theorem representable_nearest {num den : Nat} (hlimit : nearest num den < limit) :
    Representable (nearest num den) := by
  refine ⟨hlimit, ?_⟩
  have hbound : roundHalfEven num (den * spacing (num / den)) ≤ Nat.pow 2 53 := by
    have hround := roundHalfEven_le num (den * spacing (num / den))
    rw [← Nat.div_div_eq_div_mul] at hround
    exact Nat.le_trans hround (div_spacing_lt (num / den))
  unfold nearest
  dsimp only
  generalize roundHalfEven num (den * spacing (num / den)) = significand at hbound ⊢
  unfold spacing
  by_cases htop : significand = Nat.pow 2 53
  · refine ⟨Nat.pow 2 52, (num / den).log2 - 52 + 1, by decide, ?_⟩
    rw [htop]
    show Nat.pow 2 52 * 2 * Nat.pow 2 _ = Nat.pow 2 52 * (Nat.pow 2 _ * 2)
    rw [Nat.mul_assoc, Nat.mul_comm 2]
  · exact ⟨significand, (num / den).log2 - 52, by omega, rfl⟩

/-- The value nearest to `num / den` units, with the given sign. A result from the overflow limit on
is infinite. It is sealed, so that no proof computes with powers of two of this size by accident. -/
@[irreducible]
def round (negative : Bool) (num den : Nat) : Binary64 :=
  if hlimit : nearest num den < limit then
    finite ⟨negative, nearest num den, representable_nearest hlimit⟩
  else infinite negative

/-! ## Numbers as values -/

/-- The zero of the given sign. -/
def zero (negative : Bool) : Binary64 := finite ⟨negative, 0, representable_zero⟩

/-- The value nearest to a whole number of the given sign. -/
def ofWhole (negative : Bool) (n : Nat) : Binary64 := round negative (n * one) 1

/-- The value nearest to a natural number. -/
def ofNat (n : Nat) : Binary64 := ofWhole false n

/-- The value nearest to an integer. -/
def ofInt (n : Int) : Binary64 := ofWhole (n < 0) n.natAbs

/-- The value nearest to `digits * 10 ^ exponent`, with the given sign. Amounts that are out of
reach by their length alone are not computed. -/
def ofDecimal (negative : Bool) (digits : Nat) (exponent : Int) : Binary64 :=
  if digits = 0 ∨ digits.log2 + 1 + 3 * exponent ≤ -1076 then zero negative
  else if 400 < exponent then infinite negative
  else round negative (digits * Nat.pow 10 exponent.toNat * one) (Nat.pow 10 (-exponent).toNat)

instance (n : Nat) : OfNat Binary64 n := ⟨ofNat n⟩

instance : OfScientific Binary64 where
  ofScientific mantissa decimals exponent :=
    ofDecimal false mantissa (if decimals then -exponent else exponent)

/-! ## Order -/

/-- The signed number of units. -/
def Finite.position (x : Finite) : Int := if x.negative then -x.units else x.units

/-- Where a value lies among the others, in units; the infinities lie at the overflow limit. -/
def position? : Binary64 → Option Int
  | nan => none
  | infinite negative => some (if negative then -limit else limit)
  | finite x => some x.position

/-- The positions of two numbers are related; what is not a number is related to nothing. -/
def Compares (rel : Int → Int → Prop) (x y : Binary64) : Prop :=
  match x.position?, y.position? with
  | some a, some b => rel a b
  | _, _ => False

instance (rel : Int → Int → Prop) [DecidableRel rel] (x y : Binary64) :
    Decidable (Compares rel x y) := by
  unfold Compares
  split <;> infer_instance

instance : LT Binary64 := ⟨Compares (· < ·)⟩
instance : LE Binary64 := ⟨Compares (· ≤ ·)⟩
instance (x y : Binary64) : Decidable (x < y) := inferInstanceAs (Decidable (Compares (· < ·) x y))
instance (x y : Binary64) : Decidable (x ≤ y) := inferInstanceAs (Decidable (Compares (· ≤ ·) x y))

/-- Numerically equal: the two zeros are, and nothing is that is not a number. -/
def SameNumber (x y : Binary64) : Prop := Compares (· = ·) x y

instance (x y : Binary64) : Decidable (SameNumber x y) :=
  inferInstanceAs (Decidable (Compares (· = ·) x y))

/-- The value is finite, as opposed to infinite or not a number. -/
def isFinite : Binary64 → Bool
  | finite _ => true
  | _ => false

/-- The finite value, if it is one. -/
def toFinite? : Binary64 → Option Finite
  | finite x => some x
  | _ => none

/-- A finite value as a value. -/
instance : Coe Finite Binary64 := ⟨finite⟩

end Binary64
end Espressivo
