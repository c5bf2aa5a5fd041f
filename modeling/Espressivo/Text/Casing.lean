import Espressivo.Text.Blank
import Espressivo.Text.CaseTables

/-!
# Lower case

Two lower case mappings: one for the Latin letters of ASCII only, for fixed vocabularies, and the
full one of Unicode for names that users choose. The full mapping is letter by letter but for the
capital sigma, which has a form of its own at the end of a word.
-/

namespace Espressivo
namespace Text

/-- The text in lower case; only ASCII letters change. -/
def asciiLowercase (text : List Char) : List Char := text.map Char.toLower

/-- The lower case of the letter of a run at a code point, if the run has one there. -/
def CaseRun.lower? (run : CaseRun) (code : Nat) : Option Nat :=
  let distance := code - run.first
  if run.first ≤ code ∧ distance % run.step = 0 ∧ distance / run.step < run.count then
    some (run.target + distance)
  else none

/-- The lower case of one character on its own. The capital dotted I has one of two characters. -/
def lowercaseChar (c : Char) : List Char :=
  if c = 'İ' then ['i', '\u0307']
  else [((lowercaseRuns.findSome? fun run => run.lower? c.toNat).map Char.ofNat).getD c]

/-- The first character that is not case-ignorable is a letter with case. -/
def startsCased (text : List Char) : Bool :=
  match text.dropWhile (inRanges caseIgnorableRanges) with
  | [] => false
  | c :: _ => inRanges casedRanges c

/-- The lower case of a text that follows `before`, which is given backwards. A capital sigma is
final after a letter if no letter follows it. -/
def lowercaseAfter (before : List Char) : List Char → List Char
  | [] => []
  | c :: rest =>
    let lower :=
      if c = 'Σ' ∧ startsCased before ∧ ¬ startsCased rest then ['ς'] else lowercaseChar c
    lower ++ lowercaseAfter (c :: before) rest

/-- The text in lower case. -/
def lowercase (text : List Char) : List Char := lowercaseAfter [] text

end Text
end Espressivo
