import Espressivo.Text.Blank
import Espressivo.Text.InvisibleTable

/-!
# Quoted text

A text in quotation marks, as messages show it: what could not be seen is written as an escape.
-/

namespace Espressivo
namespace Text

/-- One character of a quoted text. -/
def showChar (c : Char) : List Char :=
  match c with
  | '\x00' => ['\\', '0']
  | '\t' => ['\\', 't']
  | '\r' => ['\\', 'r']
  | '\n' => ['\\', 'n']
  | '"' => ['\\', '"']
  | '\\' => ['\\', '\\']
  | _ =>
    if inRanges invisibleRanges c then
      ['\\', 'u', '\x7b'] ++ Nat.toDigits 16 c.toNat ++ ['\x7d']
    else [c]

def quoted (s : String) : String :=
  "\"" ++ String.ofList (s.toList.flatMap showChar) ++ "\""

end Text
end Espressivo
