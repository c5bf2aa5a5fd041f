import Espressivo.Articulation.Shorthand
import Espressivo.Performance.Finding

/-!
# Reading markings

Markings are read entry by entry. An entry yields an articulation or a finding that says why it is
dropped; a glide whose target has to be rounded yields both.
-/

namespace Espressivo

/-- What one entry yields. -/
structure Reading where
  articulation? : Option Articulation
  finding? : Option Finding

namespace Reading

def accepted (articulation : Articulation) : Reading := ⟨some articulation, none⟩

def dropped (finding : Finding) : Reading := ⟨none, some finding⟩

/-- A glide to the pitch nearest to its target, which has to be in the range that can sound. -/
def ofTarget (kind : GlideKind) : Json → Reading
  | .number n =>
    let target := n.toBinary64
    let rounded := target.roundToWhole
    if 0 ≤ rounded ∧ rounded ≤ .ofNat maxPitch.toNat then
      { articulation? := some (.glide kind rounded.toUInt8)
        finding? :=
          if rounded.SameNumber target then none
          else some (.roundedTarget kind target rounded) }
    else dropped (.unusableTarget kind (.number n))
  | value => dropped (.unusableTarget kind value)

def ofName (table : ShorthandTable) (name : String) : Reading :=
  match table.lookup? name with
  | some (.simple kind) => accepted (.simple kind)
  | some (.glide kind) => dropped (.nameWithoutTarget name kind)
  | none => dropped (.unknownName name)

def ofDescriptor (table : ShorthandTable) (descriptor : Descriptor) : Reading :=
  match table.lookup? descriptor.type with
  | some (.simple kind) => accepted (.simple kind)
  | some (.glide kind) =>
    match Dictionary.get? "target" descriptor.parameters with
    | some target => ofTarget kind target
    | none => dropped (.missingTarget kind)
  | none => dropped (.unknownType descriptor.type)

def ofEntry (table : ShorthandTable) : Entry → Reading
  | .name name => ofName table name
  | .descriptor descriptor => ofDescriptor table descriptor
  | .other value => dropped (.unrecognizedEntry value)

end Reading

/-- The articulations that readings yield, in order. -/
def articulationsOf (readings : List Reading) : List Articulation :=
  readings.filterMap (·.articulation?)

/-- The findings of readings, in order. -/
def findingsOf (readings : List Reading) : List Finding := readings.filterMap (·.finding?)

/-- The articulations of entries on the note at an index, in order. -/
def readEntries (table : ShorthandTable) (index : Nat) : List Entry → Diagnosing (List Articulation)
  | [] => return []
  | entry :: rest => do
    let reading := Reading.ofEntry table entry
    Diagnosing.report index reading.finding?.toList
    return reading.articulation?.toList ++ (← readEntries table index rest)

def Markings.read (table : ShorthandTable) (index : Nat) (markings : Markings) :
    Diagnosing (List Articulation) :=
  readEntries table index markings.entries

end Espressivo
