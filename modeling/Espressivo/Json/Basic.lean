import Espressivo.Binary64.Arithmetic
import Espressivo.Dictionary

/-!
# JSON values

Integers and floating point numbers are different values, and stay so on their way through a
document. A free-form object has its fields in ascending order of their names; a record has them in
the order of its declaration, followed by further fields, until `Json.canonical` sorts them.
-/

namespace Espressivo

/-- A number is an integer, or a floating point value, which is never infinite. -/
inductive Json.Number where
  | int (n : Int)
  | float (x : Binary64.Finite)
deriving DecidableEq

inductive Json where
  | null
  | bool (b : Bool)
  | number (n : Json.Number)
  | string (s : String)
  | array (items : List Json)
  | object (fields : List (String × Json))

namespace Json

/-- The floating point value nearest to the number. -/
def Number.toBinary64 : Number → Binary64
  | int n => .ofInt n
  | float x => .finite x

/-- The floating point value as JSON, which has no infinities. -/
def ofBinary64 : Binary64 → Json
  | .finite x => number (.float x)
  | _ => null

def ofNat (n : Nat) : Json := number (.int n)

instance : Coe String Json := ⟨string⟩

/-- The value of an object's field. -/
def field? (name : String) : Json → Option Json
  | object fields => Dictionary.get? name fields
  | _ => none

/-- An object from the fields of a record, those that are present. -/
def record (fields : List (String × Option Json)) (extra : Dictionary Json) : Json :=
  object (fields.filterMap (fun entry => entry.2.map (entry.1, ·)) ++ extra)

mutual

/-- The same value as a free-form one: the fields of all objects are sorted, and of two fields of
one name the later one stays. -/
def canonical : Json → Json
  | array items => array (canonicalItems items)
  | object fields => object (Dictionary.ofList (canonicalFields fields))
  | value => value

def canonicalItems : List Json → List Json
  | [] => []
  | item :: rest => canonical item :: canonicalItems rest

def canonicalFields : List (String × Json) → List (String × Json)
  | [] => []
  | (name, value) :: rest => (name, canonical value) :: canonicalFields rest

end

end Json
end Espressivo
