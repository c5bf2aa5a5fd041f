import Espressivo.Decimal.Layout
import Espressivo.Json.Basic

/-!
# JSON text

The compact text of a JSON value, without blanks. Only quotation marks, backslashes and control
characters are escaped.
-/

namespace Espressivo
namespace Json

/-- Floating point numbers have a fraction or an exponent; the exponent is written below `10 ^ (-5)`
and from `10 ^ 16` on. -/
def floatLayout : Layout where
  tie := .even
  positional exponent := -5 ≤ exponent ∧ exponent ≤ 15
  wholeFraction := true

def Number.text : Number → String
  | int n => toString n
  | float x => floatLayout.write x

/-- The text of one character inside quotation marks. -/
def escapeChar (c : Char) : List Char :=
  match c with
  | '"' => ['\\', '"']
  | '\\' => ['\\', '\\']
  | '\n' => ['\\', 'n']
  | '\r' => ['\\', 'r']
  | '\t' => ['\\', 't']
  | '\x08' => ['\\', 'b']
  | '\x0c' => ['\\', 'f']
  | _ =>
    if c.toNat < 0x20 then
      ['\\', 'u', '0', '0', Nat.digitChar (c.toNat / 16), Nat.digitChar (c.toNat % 16)]
    else [c]

/-- A string with its quotation marks. -/
def quote (s : String) : String :=
  "\"" ++ String.ofList (s.toList.flatMap escapeChar) ++ "\""

mutual

/-- The compact text of a value. -/
def text : Json → String
  | null => "null"
  | bool b => if b then "true" else "false"
  | number n => n.text
  | string s => quote s
  | array items => "[" ++ ",".intercalate (itemTexts items) ++ "]"
  | object fields => "\x7b" ++ ",".intercalate (fieldTexts fields) ++ "\x7d"

def itemTexts : List Json → List String
  | [] => []
  | item :: rest => text item :: itemTexts rest

def fieldTexts : List (String × Json) → List String
  | [] => []
  | (name, value) :: rest => (quote name ++ ":" ++ text value) :: fieldTexts rest

end

end Json
end Espressivo
