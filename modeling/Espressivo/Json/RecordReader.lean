import Espressivo.Json.Reader

/-!
# Reading records from text

Readers for documents of a known shape. They follow the text, so that the first fault in it is
reported, be it one of form or of content; what a document holds beyond its known fields is passed
over.
-/

namespace Espressivo
namespace Json
namespace Reader

variable {α : Type} {σ : Type}

/-- What is to be said of a value of an unexpected type: it is read as far as its type shows, and
may be malformed on the way. -/
def mismatch : Reader α := do
  match ← peekToken? with
  | none => fail .truncated
  | some 'n' => keyword ['n', 'u', 'l', 'l']
  | some 't' => keyword ['t', 'r', 'u', 'e']
  | some 'f' => keyword ['f', 'a', 'l', 's', 'e']
  | some '"' => do
    advance
    discard string
  | some '[' | some '\x7b' => pure ()
  | some c => if c = '-' ∨ c.isDigit then discard number else fail .malformed
  fail .unexpected

def anyNumber : Reader Number := do
  match ← peekToken? with
  | some c => if c = '-' ∨ c.isDigit then number else mismatch
  | none => fail .truncated

def float : Reader Binary64 := return (← anyNumber).toBinary64

def size : Reader Nat := do
  match ← anyNumber with
  | .int (.ofNat n) => return n
  | _ => fail .unexpected

/-- The name of a field. What is no string cannot be one. -/
def key : Reader String := do
  match ← peekToken? with
  | none => fail .truncated
  | some '"' => do
    advance
    string
  | some _ => fail .malformed

/-- The variant of a name. -/
def named (variants : List (String × α)) (name : String) : Reader α :=
  match variants.lookup name with
  | some variant => return variant
  | none => fail .unexpected

/-- A variant without content: its name, or an object with that name as its only key and null under
it. -/
def variant (variants : List (String × α)) : Reader α := do
  match ← peekToken? with
  | none => fail .truncated
  | some '"' => do
    advance
    named variants (← string)
  | some '\x7b' => do
    advance
    let variant ← named variants (← key)
    colon
    match ← peekToken? with
    | some 'n' => keyword ['n', 'u', 'l', 'l']
    | _ => mismatch
    if ← closes '\x7d' then return variant else fail .malformed
  | some _ => fail .malformed

/-- Folds over the fields up to the end of an object. -/
def fields (onField : String → σ → Reader σ) (state : σ) : Nat → Reader σ
  | 0 => fail .truncated
  | bound + 1 => do
    let state ← onField (← key) state
    if ← more '\x7d' then fields onField state bound else return state

/-- Folds over the fields of an object after its opening mark. -/
def object (onField : String → σ → Reader σ) (start : σ) : Reader σ := do
  if ← closes '\x7d' then return start
  fields onField start ((← get).length + 1)

/-- The end of a list that holds nothing more. -/
def endOfList : Reader Unit := do
  if ¬ (← closes ']') then fail .malformed

/-- Items of a list in their order, up to its end. -/
def items : List (Reader (σ → σ)) → σ → Reader σ
  | [], state => do
    endOfList
    return state
  | [setter], state => do
    let change ← setter
    endOfList
    return change state
  | setter :: rest, state => do
    let change ← setter
    if ← more ']' then items rest (change state) else return change state

/-- A field of a record with defaults: its name, and how its value changes the record. -/
abbrev Setter (σ : Type) := String × Reader (σ → σ)

/-- One field of a record. A known field occurs only once. -/
def recordField (setters : List (Setter σ)) (name : String) (state : List String × σ) :
    Reader (List String × σ) := do
  match setters.lookup name with
  | some setter => do
    if name ∈ state.1 then fail .unexpected
    colon
    return (name :: state.1, (← setter) state.2)
  | none => do
    colon
    skip
    return state

/-- A record with defaults, from an object or from the list of its first fields in their declared
order. -/
def recordWith (setters : List (Setter σ)) (defaults : σ) : Reader σ := do
  match ← peekToken? with
  | some '\x7b' => do
    advance
    return (← object (recordField setters) ([], defaults)).2
  | some '[' => do
    advance
    if ← closes ']' then return defaults
    items (setters.map (·.2)) defaults
  | _ => mismatch

/-- The entries of an object whose values are all read in one way. -/
def entries (value : Reader α) : Reader (List (String × α)) := do
  match ← peekToken? with
  | some '\x7b' => do
    advance
    let onField (name : String) (done : List (String × α)) : Reader (List (String × α)) := do
      colon
      return (name, ← value) :: done
    return (← object onField []).reverse
  | _ => mismatch

end Reader
end Json
end Espressivo
