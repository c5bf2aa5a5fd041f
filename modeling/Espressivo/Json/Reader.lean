import Espressivo.Decimal.Literal
import Espressivo.Json.Basic

/-!
# Reading JSON text

A reader takes its part off the front of a text and reports the first fault on the way.
`Reader.value` reads any value; `Reader.skip` passes over one, and is lenient about what a skipped
value means: half a surrogate pair and a number of any size are well formed there. Readers for
documents of a fixed shape are put together from the same parts.
-/

namespace Espressivo
namespace Json

/-- Why a text cannot be read: it ends too early, it is no JSON, or it does not have the expected
content. -/
inductive Fault where
  | truncated
  | malformed
  | unexpected
deriving DecidableEq, Repr

/-- The sort of a fault. -/
def Fault.text : Fault → String
  | truncated => "<eof>"
  | malformed => "<syntax>"
  | unexpected => "<data>"

/-- Reads a part of a text and leaves the rest. -/
abbrev Reader := StateT (List Char) (Except Fault)

namespace Reader

def fail {α : Type} (fault : Fault) : Reader α := throw fault

/-- The next character, which stays. -/
def peek? : Reader (Option Char) := return (← get).head?

/-- Passes over one character. -/
def advance : Reader Unit := modify (List.drop 1)

/-- The next character, which is taken. -/
def next? : Reader (Option Char) := do
  let c ← peek?
  advance
  return c

/-- Takes the next character if it is the given one. -/
def accept (c : Char) : Reader Bool := do
  if (← peek?) = some c then
    advance
    return true
  else return false

/-- Takes the longest run of characters that satisfy the test. -/
def takeWhile (test : Char → Bool) : Reader (List Char) := do
  let text ← get
  set (text.dropWhile test)
  return text.takeWhile test

def isSpace (c : Char) : Bool := c = ' ' ∨ c = '\n' ∨ c = '\t' ∨ c = '\r'

/-- The next character that is no space. -/
def peekToken? : Reader (Option Char) := do
  discard (takeWhile isSpace)
  peek?

/-- The rest of a keyword. -/
def keyword : List Char → Reader Unit
  | [] => return
  | expected :: rest => do
    match ← next? with
    | none => fail .truncated
    | some c => if c = expected then keyword rest else fail .malformed

/-! ## Numbers -/

/-- The parts of a number as written: sign, digits before the point, and if there are any, digits
after it and the exponent. -/
structure Numeral where
  negative : Bool
  whole : List Char
  fraction? : Option (List Char)
  exponent? : Option Int

/-- A run of digits, which may not be empty; `atEnd` is the fault of a text that ends before it. -/
def digits (atEnd : Fault) : Reader (List Char) := do
  let run ← takeWhile Char.isDigit
  if run.isEmpty then
    if (← peek?).isNone then fail atEnd else fail .malformed
  return run

/-- A number; no further digit stands before or after a leading zero. -/
def numeral (atEnd : Fault) : Reader Numeral := do
  let negative ← accept '-'
  let whole ←
    if ← accept '0' then
      if (← peek?).any Char.isDigit then fail .malformed
      pure ['0']
    else digits atEnd
  let fraction? ← if ← accept '.' then some <$> digits atEnd else pure none
  let hasExponent ← if ← accept 'e' then pure true else accept 'E'
  let exponent? ←
    if hasExponent then do
      let below ← if ← accept '-' then pure true else do
        discard (accept '+')
        pure false
      let size : Int := Decimal.digitsValue (← digits atEnd)
      pure (some (if below then -size else size))
    else pure none
  return { negative, whole, fraction?, exponent? }

/-- Numbers without fraction and exponent that fit 64 bits are integers, but for the negative zero.
A number whose value would be infinite is none. -/
def Numeral.toNumber? (n : Numeral) : Option Number :=
  let whole := Decimal.digitsValue n.whole
  let isInt := n.fraction?.isNone ∧ n.exponent?.isNone ∧
    (if n.negative then whole ≠ 0 ∧ whole ≤ Nat.pow 2 63 else whole < Nat.pow 2 64)
  if isInt then some (.int (if n.negative then -(whole : Int) else whole))
  else
    let fraction := n.fraction?.getD []
    let exponent := n.exponent?.getD 0 - fraction.length
    let x := Binary64.ofDecimal n.negative (Decimal.digitsValue (n.whole ++ fraction)) exponent
    x.toFinite?.map .float

def number : Reader Number := do
  match (← numeral .truncated).toNumber? with
  | some n => return n
  | none => fail .malformed

/-! ## Strings -/

/-- The value of a hexadecimal digit. -/
def hexValue? (c : Char) : Option Nat :=
  if '0' ≤ c ∧ c ≤ '9' then some (c.toNat - '0'.toNat)
  else if 'a' ≤ c ∧ c ≤ 'f' then some (c.toNat - 'a'.toNat + 10)
  else if 'A' ≤ c ∧ c ≤ 'F' then some (c.toNat - 'A'.toNat + 10)
  else none

/-- Four hexadecimal digits. A text that is too short for them is truncated, whatever it holds. -/
def hexEscape : Reader Nat := do
  let text ← get
  if (String.ofList (text.take 4)).utf8ByteSize < 4 then fail .truncated
  match (text.take 4).mapM hexValue? with
  | some run =>
    set (text.drop 4)
    return run.foldl (fun n digit => 16 * n + digit) 0
  | none => fail .malformed

/-- The next character of a string that goes on. -/
def nextInString : Reader Char := do
  match ← next? with
  | some c => return c
  | none => fail .truncated

/-- The character of a two character escape. -/
def simpleEscape? : Char → Option Char
  | '"' => some '"'
  | '\\' => some '\\'
  | '/' => some '/'
  | 'b' => some '\x08'
  | 'f' => some '\x0c'
  | 'n' => some '\n'
  | 'r' => some '\r'
  | 't' => some '\t'
  | _ => none

/-- The character of a numeric escape; one outside the first 65536 is a pair of surrogates. -/
def escapedChar : Reader Char := do
  let high ← hexEscape
  if 0xDC00 ≤ high ∧ high ≤ 0xDFFF then fail .malformed
  if high < 0xD800 ∨ 0xDFFF < high then return Char.ofNat high
  if (← nextInString) ≠ '\\' then fail .malformed
  if (← nextInString) ≠ 'u' then fail .malformed
  let low ← hexEscape
  if low < 0xDC00 ∨ 0xDFFF < low then fail .malformed
  return Char.ofNat (0x10000 + (high - 0xD800) * 0x400 + (low - 0xDC00))

/-- What stands for a numeric escape in a skipped string. -/
def skippedEscape : Reader Char := do
  discard hexEscape
  return ' '

/-- The rest of a string after its opening mark. Each character takes at least one from the text,
whose length bounds the recursion. -/
def stringRest (numericEscape : Reader Char) (done : List Char) : Nat → Reader String
  | 0 => fail .truncated
  | bound + 1 => do
    match ← nextInString with
    | '"' => return String.ofList done.reverse
    | '\\' =>
      match ← nextInString with
      | 'u' => stringRest numericEscape ((← numericEscape) :: done) bound
      | c =>
        match simpleEscape? c with
        | some c => stringRest numericEscape (c :: done) bound
        | none => fail .malformed
    | c => if c.toNat < 0x20 then fail .malformed else stringRest numericEscape (c :: done) bound

/-- A string after its opening mark. -/
def string : Reader String := do stringRest escapedChar [] ((← get).length + 1)

/-! ## Values -/

/-- How numbers and strings are read inside a value. -/
structure Leaves where
  number : Reader Number
  string : Reader String

/-- The colon after a field's name. -/
def colon : Reader Unit := do
  match ← peekToken? with
  | some ':' => advance
  | some _ => fail .malformed
  | none => fail .truncated

/-- What follows an element: another one, or the end. -/
def more (close : Char) : Reader Bool := do
  match ← peekToken? with
  | some ',' =>
    advance
    return true
  | some c =>
    if c = close then
      advance
      return false
    else fail .malformed
  | none => fail .truncated

/-- Takes the closing mark of something empty. -/
def closes (close : Char) : Reader Bool := do
  match ← peekToken? with
  | none => fail .truncated
  | some _ => accept close

mutual

/-- A value. Each step inwards or along takes at least one character, so that twice the length of
the text bounds the recursion. -/
def valueWith (leaves : Leaves) : Nat → Reader Json
  | 0 => fail .truncated
  | bound + 1 => do
    match ← peekToken? with
    | none => fail .truncated
    | some 'n' => do keyword ['n', 'u', 'l', 'l']; return .null
    | some 't' => do keyword ['t', 'r', 'u', 'e']; return .bool true
    | some 'f' => do keyword ['f', 'a', 'l', 's', 'e']; return .bool false
    | some '"' => do advance; return .string (← leaves.string)
    | some '[' => do
      advance
      if ← closes ']' then return .array []
      return .array (← itemsWith leaves bound)
    | some '\x7b' => do
      advance
      if ← closes '\x7d' then return .object []
      return .object (Dictionary.ofList (← fieldsWith leaves bound))
    | some c => if c = '-' ∨ c.isDigit then return .number (← leaves.number) else fail .malformed

/-- The values up to the end of a list. -/
def itemsWith (leaves : Leaves) : Nat → Reader (List Json)
  | 0 => fail .truncated
  | bound + 1 => do
    let item ← valueWith leaves bound
    if ← more ']' then return item :: (← itemsWith leaves bound) else return [item]

/-- The fields up to the end of an object. -/
def fieldsWith (leaves : Leaves) : Nat → Reader (List (String × Json))
  | 0 => fail .truncated
  | bound + 1 => do
    match ← peekToken? with
    | none => fail .truncated
    | some '"' =>
      advance
      let name ← leaves.string
      colon
      let value ← valueWith leaves bound
      if ← more '\x7d' then return (name, value) :: (← fieldsWith leaves bound)
      else return [(name, value)]
    | some _ => fail .malformed

end

/-- Any value. -/
def value : Reader Json := do
  let length := (← get).length
  valueWith { number, string := stringRest escapedChar [] (length + 1) } (2 * length + 2)

/-- Passes over any value. -/
def skip : Reader Unit := do
  let length := (← get).length
  let number : Reader Number := do
    discard (numeral .malformed)
    return .int 0
  let string := stringRest skippedEscape [] (length + 1)
  discard (valueWith { number, string } (2 * length + 2))

/-- Nothing but spaces is left. -/
def finish : Reader Unit := do
  if (← peekToken?).isSome then fail .malformed

/-- Reads a whole text. -/
def run {α : Type} (reader : Reader α) (text : String) : Except Fault α :=
  (do let result ← reader; finish; return result : Reader α).run' text.toList

end Reader

/-- The value that a text holds. -/
def read (text : String) : Except Fault Json := Reader.value.run text

end Json
end Espressivo
