import Espressivo.Binary64.Arithmetic
import Espressivo.Text.Casing

/-!
# Dynamic markings

The loudness of notes as it is marked in a score, and the velocities that the marks stand for.
-/

namespace Espressivo

inductive DynamicMark where
  | pianississimo
  | pianissimo
  | piano
  | mezzoPiano
  | mezzoForte
  | forte
  | fortissimo
  | fortississimo
deriving DecidableEq, Repr

namespace DynamicMark

/-- The steps of velocity, out of 127. -/
def step : DynamicMark → Nat
  | pianississimo => 16
  | pianissimo => 33
  | piano => 49
  | mezzoPiano => 64
  | mezzoForte => 80
  | forte => 96
  | fortissimo => 112
  | fortississimo => 127

/-- The velocity between zero and one. -/
def velocity (mark : DynamicMark) : Binary64 := .ofNat mark.step / 127

/-- The velocity of notes without a mark. -/
def standardVelocity : Binary64 := mezzoForte.velocity

/-- The mark as it is written in a score. -/
def marking : DynamicMark → String
  | pianississimo => "ppp"
  | pianissimo => "pp"
  | piano => "p"
  | mezzoPiano => "mp"
  | mezzoForte => "mf"
  | forte => "f"
  | fortissimo => "ff"
  | fortississimo => "fff"

/-- Softer marks come first. -/
def order (a b : DynamicMark) : Ordering := compare a.step b.step

/-- The spellings of the marks in lower case. -/
def spellings : List (String × DynamicMark) := [
  ("ppp", pianississimo), ("pianississimo", pianississimo),
  ("pp", pianissimo), ("pianissimo", pianissimo),
  ("p", piano), ("piano", piano),
  ("mp", mezzoPiano), ("mezzo-piano", mezzoPiano), ("mezzopiano", mezzoPiano),
  ("mf", mezzoForte), ("mezzo-forte", mezzoForte), ("mezzoforte", mezzoForte),
  ("f", forte), ("forte", forte),
  ("ff", fortissimo), ("fortissimo", fortissimo),
  ("fff", fortississimo), ("fortississimo", fortississimo)]

/-- The mark of a text, in any case and with blanks around it. -/
def ofText? (text : String) : Option DynamicMark :=
  spellings.lookup (String.ofList (Text.asciiLowercase (Text.trim text.toList)))

/-- What is said of a text that is no mark. -/
def unreadable (text : String) : String := s!"invalid dynamics marking '{text}'"

end DynamicMark
end Espressivo
