import Espressivo.Json.Printer
import Espressivo.Text.Quoted

/-!
# Decoding JSON values

Decoders turn a JSON value into a value of the library or say why it is none. The fields of an
object are taken in their order there, so that the first wrong field is reported; a missing field is
reported only if no present one is wrong.
-/

namespace Espressivo
namespace Json

/-- What a decoder would have accepted. -/
inductive Expected where
  | byte
  | word
  | size
  | float
  | text
  | sequence
  | unit
  | map
  | textOrMap
  | singleKey
  | fewerElements
  | elements (count : Nat)
  | record (name : String)
  | recordOf (name : String) (count : Nat)
  | variantOf (name : String) (count : Nat)
  | tagged (name : String)
  | tag
deriving DecidableEq

def Expected.phrase : Expected → String
  | byte => "u8"
  | word => "u32"
  | size => "usize"
  | float => "f64"
  | text => "a string"
  | sequence => "a sequence"
  | unit => "unit"
  | map => "a map"
  | textOrMap => "string or map"
  | singleKey => "map with a single key"
  | fewerElements => "fewer elements in array"
  | elements count => s!"{count} elements in sequence"
  | record name => s!"struct {name}"
  | recordOf name count => s!"struct {name} with {count} elements"
  | variantOf name count => s!"struct variant {name} with {count} elements"
  | tagged name => s!"internally tagged enum {name}"
  | tag => "variant identifier"

/-- Why a value cannot be decoded. -/
inductive DecodeError where
  | wrongType (found : Json) (expected : Expected)
  | wrongValue (found : Json) (expected : Expected)
  | wrongLength (length : Nat) (expected : Expected)
  | missingField (name : String)
  | unknownVariant (name : String) (known : List String)
  | noVariant (type : String)
  | refused (message : String)

/-- A value as messages name it: its type, and its content if it is short. -/
def describe : Json → String
  | null => "null"
  | bool b => if b then "boolean `true`" else "boolean `false`"
  | number (.int n) => s!"integer `{n}`"
  | number (.float x) => "floating point `" ++ (Number.float x).text ++ "`"
  | string s => "string " ++ Text.quoted s
  | array _ => "sequence"
  | object _ => "map"

/-- The names of variants, each marked. -/
def knownVariants (known : List String) : String :=
  let marked := known.map fun name => "`" ++ name ++ "`"
  match marked with
  | [first, second] => first ++ " or " ++ second
  | _ => "one of " ++ ", ".intercalate marked

def DecodeError.message : DecodeError → String
  | wrongType found expected => s!"invalid type: {found.describe}, expected {expected.phrase}"
  | wrongValue found expected => s!"invalid value: {found.describe}, expected {expected.phrase}"
  | wrongLength length expected => s!"invalid length {length}, expected {expected.phrase}"
  | missingField name => s!"missing field `{name}`"
  | unknownVariant name known => s!"unknown variant `{name}`, expected " ++ knownVariants known
  | noVariant type => s!"data did not match any variant of untagged enum {type}"
  | refused message => message

/-- Reads a value as one of a type. -/
abbrev Decoder (α : Type) := Json → Except DecodeError α

namespace Decode

variable {α : Type} {σ : Type}

/-- A natural number below a bound. -/
def below (bound : Nat) (expected : Expected) : Decoder Nat
  | number (.int n) =>
    if 0 ≤ n ∧ n < bound then .ok n.toNat else .error (.wrongValue (number (.int n)) expected)
  | value => .error (.wrongType value expected)

def byte : Decoder UInt8 := fun value => return UInt8.ofNat (← below UInt8.size .byte value)

def word : Decoder Nat := below UInt32.size .word

def size : Decoder Nat := below UInt64.size .size

/-- Any number, integers rounded to nearest. -/
def float : Decoder Binary64
  | number n => .ok n.toBinary64
  | value => .error (.wrongType value .float)

def text : Decoder String
  | string s => .ok s
  | value => .error (.wrongType value .text)

def list (item : Decoder α) : Decoder (List α)
  | array items => items.mapM item
  | value => .error (.wrongType value .sequence)

/-- The null value stands for nothing. -/
def nullable (decode : Decoder α) : Decoder (Option α)
  | null => .ok none
  | value => some <$> decode value

/-- A variant by its name. -/
def named (variants : List (String × α)) (name : String) : Except DecodeError α :=
  match variants.lookup name with
  | some variant => .ok variant
  | none => .error (.unknownVariant name (variants.map (·.1)))

/-- A variant without content: its name, or an object with that name as its only key and the given
sort of empty value. -/
def variantWith (isUnit : Json → Bool) (variants : List (String × α)) : Decoder α
  | string name => named variants name
  | object [(name, content)] => do
    let variant ← named variants name
    if isUnit content then return variant else .error (.wrongType content .unit)
  | object fields => .error (.wrongValue (object fields) .singleKey)
  | value => .error (.wrongType value .textOrMap)

def variant (variants : List (String × α)) : Decoder α :=
  variantWith (fun | null => true | _ => false) variants

/-- A variant inside a record that was set aside until its tag was known: there an empty object is
empty content too. -/
def setAsideVariant (variants : List (String × α)) : Decoder α :=
  variantWith (fun | null => true | object [] => true | _ => false) variants

/-! ## Fields -/

/-- The decoded field of that name, if there is one. -/
def optional (fields : Dictionary Json) (name : String) (decode : Decoder α) :
    Except DecodeError (Option α) :=
  match Dictionary.get? name fields with
  | some value => some <$> decode value
  | none => .ok none

/-- A decoded field that has to be present. -/
def required (name : String) : Option α → Except DecodeError α
  | some value => .ok value
  | none => .error (.missingField name)

/-- The decoded field of that name, where null stands for nothing as well. -/
def optionalNullable (fields : Dictionary Json) (name : String) (decode : Decoder α) :
    Except DecodeError (Option α) :=
  return (← optional fields name (nullable decode)).join

/-- The decoded item at a place of a list, which may be too short. -/
def item (items : List Json) (place : Nat) (expected : Expected) (decode : Decoder α) :
    Except DecodeError α :=
  match items[place]? with
  | some value => decode value
  | none => .error (.wrongLength items.length expected)

/-- A field of a record with defaults: its name, and how its value changes the record. -/
abbrev Setter (σ : Type) := String × Decoder (σ → σ)

def setter (name : String) (decode : Decoder α) (set : α → σ → σ) : Setter σ :=
  (name, fun value => set <$> decode value)

/-- A record with defaults, from an object or from the list of its first fields in their declared
order. Other fields of an object are passed over. -/
def recordWith (name : String) (setters : List (Setter σ)) (defaults : σ) : Decoder σ
  | object fields =>
    fields.foldlM (fun record field => do
      match setters.lookup field.1 with
      | some setter => return (← setter field.2) record
      | none => return record) defaults
  | array items => do
    let record ← (setters.zip items).foldlM (fun record (setter, item) => do
      return (← setter.2 item) record) defaults
    if setters.length < items.length then .error (.wrongLength items.length .fewerElements)
    return record
  | value => .error (.wrongType value (.record name))

end Decode
end Json
end Espressivo
