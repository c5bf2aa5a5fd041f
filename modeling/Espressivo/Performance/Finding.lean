import Espressivo.Articulation.Markings
import Espressivo.Json.Printer
import Espressivo.Performance.Glide

/-!
# Findings

What is wrong with the articulations of a note and can be passed over: the performance goes on
without the entry in question, and the finding is kept.
-/

namespace Espressivo

inductive FindingKind where
  | unknownArticulation
  | missingParameter
  | invalidParameter
  | pitchOnRest
  | pitchConflict
deriving DecidableEq, Repr

namespace FindingKind

/-- The kind in words. -/
def text : FindingKind → String
  | unknownArticulation => "unknown articulation"
  | missingParameter => "missing parameter"
  | invalidParameter => "invalid parameter"
  | pitchOnRest => "pitch modulation on rest"
  | pitchConflict => "pitch conflict"

/-- The name of the kind in documents. -/
def name : FindingKind → String
  | unknownArticulation => "unknownArticulation"
  | missingParameter => "missingParameter"
  | invalidParameter => "invalidParameter"
  | pitchOnRest => "restPitchModulation"
  | pitchConflict => "pitchConflict"

def all : List FindingKind :=
  [unknownArticulation, missingParameter, invalidParameter, pitchOnRest, pitchConflict]

end FindingKind

inductive Finding where
  | unrecognizedEntry (value : Json)
  | unknownName (name : String)
  | unknownType (type : String)
  /-- A name stands for a glide, which needs a descriptor. -/
  | nameWithoutTarget (name : String) (kind : GlideKind)
  | missingTarget (kind : GlideKind)
  /-- The target of a glide lies between two pitches. -/
  | roundedTarget (kind : GlideKind) (target rounded : Binary64)
  | unusableTarget (kind : GlideKind) (target : Json)
  | glideOnRest (kind : GlideKind)
  /-- A note glides only once. -/
  | secondGlide (dropped applied : Glide)
  /-- Anything else that is to be kept with a note. -/
  | remark (kind : FindingKind) (message : String)

namespace Finding

def kind : Finding → FindingKind
  | unrecognizedEntry _ | unknownName _ | unknownType _ => .unknownArticulation
  | nameWithoutTarget _ _ | missingTarget _ => .missingParameter
  | roundedTarget _ _ _ | unusableTarget _ _ => .invalidParameter
  | glideOnRest _ => .pitchOnRest
  | secondGlide _ _ => .pitchConflict
  | remark kind _ => kind

def message : Finding → String
  | unrecognizedEntry value => s!"unrecognized articulation entry '{value.text}'"
  | unknownName name => s!"unknown articulation '{name}'"
  | unknownType type => s!"unknown articulation type '{type}'"
  | nameWithoutTarget name kind => s!"'{name}' ({kind.name}) requires a 'target' parameter"
  | missingTarget kind => s!"{kind.name} requires a 'target' parameter"
  | roundedTarget kind target rounded =>
    s!"{kind.name} target {target.text} rounded to {rounded.text}"
  | unusableTarget kind target =>
    s!"{kind.name} target '{target.text}' is not a MIDI pitch in range [0..127]"
  | glideOnRest kind => s!"ignoring {kind.name} on a rest"
  | secondGlide dropped applied => s!"dropping {dropped.text}: note already has a {applied.text}"
  | remark _ message => message

end Finding

/-- A finding about the note at an index. -/
structure Diagnostic where
  index : Nat
  finding : Finding

namespace Diagnostic

def text (diagnostic : Diagnostic) : String :=
  s!"note #{diagnostic.index}: {diagnostic.finding.kind.text}: {diagnostic.finding.message}"

def toJson (diagnostic : Diagnostic) : Json :=
  .object [
    ("index", .ofNat diagnostic.index),
    ("kind", diagnostic.finding.kind.name),
    ("message", diagnostic.finding.message)]

/-- The diagnostics of one note. -/
def ofNote (index : Nat) (diagnostics : List Diagnostic) : List Diagnostic :=
  diagnostics.filter (·.index = index)

/-- There is a diagnostic of that kind for the note. -/
def reports (diagnostics : List Diagnostic) (index : Nat) (kind : FindingKind) : Bool :=
  (ofNote index diagnostics).any (·.finding.kind = kind)

end Diagnostic

/-- A computation that may add to the diagnostics. -/
abbrev Diagnosing (α : Type) := StateM (List Diagnostic) α

/-- Adds findings about the note at an index. -/
def Diagnosing.report (index : Nat) (findings : List Finding) : Diagnosing Unit :=
  modify (· ++ findings.map (⟨index, ·⟩))

end Espressivo
