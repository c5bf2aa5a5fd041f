import Espressivo.Articulation.Reading
import Espressivo.Performance.Combination
import Espressivo.Score.Meter
import Espressivo.Score.Note

/-!
# Compiling performances

From the notes of a track to the modulations of its performance. Each note is read on its own, and
what it yields is put down under its index; a track with a note that cannot be performed has no
performance. Modulations are relative to the notes, so that tempo and meter do not enter into them.
-/

namespace Espressivo

/-- The performance of a track. -/
structure Performance where
  modulations : List Modulation := []
  phrasing : List PhrasingMark := []
  diagnostics : List Diagnostic := []

namespace Performance

/-- The modulations of one note. -/
def ofNote (performance : Performance) (index : Nat) : List Modulation :=
  performance.modulations.filter (·.index = index)

/-- The phrasing and the diagnostics are left out where there are none. -/
def toJson (performance : Performance) : Json :=
  let nonempty (items : List Json) : Option Json :=
    if items.isEmpty then none else some (.array items)
  .record [
    ("modulations", some (.array (performance.modulations.map Modulation.toJson))),
    ("phrasing", nonempty (performance.phrasing.map fun mark =>
      .object [("index", .ofNat mark.index), ("articulation", mark.articulation.name)])),
    ("diagnostics", nonempty (performance.diagnostics.map Diagnostic.toJson))] []

end Performance

/-! ## One note -/

namespace Note

/-- The articulations of the note, from all its markings. -/
def read (settings : Settings) (index : Nat) (note : Note) :
    Diagnosing (List Articulation) := do
  return (← note.markings.mapM (Markings.read settings.shorthands index)).flatten

/-- What is performed of the note at an index. A note without articulations is passed over. -/
def perform (settings : Settings) (index : Nat) (note : Note) : Diagnosing NotePerformance := do
  let articulations ← note.read settings index
  if articulations.isEmpty then return {}
  let contributions ← contribute settings.coefficients index note.primaryPitch? articulations
  resolve settings.coefficients index contributions

end Note

/-- The performance with that of the note at an index added to it. -/
def Performance.addNote (settings : Settings) (index : Nat) (performance : Performance)
    (note : Note) : Performance :=
  let (performed, diagnostics) := (note.perform settings index).run performance.diagnostics
  { modulations := performance.modulations ++ performed.modulations
    phrasing := performance.phrasing ++ performed.phrasing
    diagnostics }

/-! ## Tracks -/

/-- Why a track has no performance. -/
inductive CompileError where
  | notTrack (found : Json)
  | noNotes
  | notesNotList
  | entryNotObject (index : Nat) (found : Json)
  | malformedNote (index : Nat) (cause : Json.DecodeError)
  | invalidNote (index : Nat) (fault : NoteFault)
  | inTrack (index : Nat) (cause : CompileError)

/-- The texts of an error and of its causes, outermost first. -/
def CompileError.messages : CompileError → List String
  | notTrack found => [s!"Expected a track object with a 'notes' list, got '{found.text}'"]
  | noNotes => ["Track has no 'notes' list"]
  | notesNotList => ["Track 'notes' must be a list"]
  | entryNotObject index found => [s!"Note #{index} must be an object, got '{found.text}'"]
  | malformedNote index cause => [s!"Note #{index} is malformed", cause.message]
  | invalidNote index fault => [s!"Note #{index} is invalid: {fault.message}"]
  | inTrack index cause => s!"Failed to compile track #{index}" :: cause.messages

/-- The first note that cannot be performed, with what is wrong with it, counted from an index. -/
def firstFault? (start : Nat) : List Note → Option (Nat × NoteFault)
  | [] => none
  | note :: rest =>
    match note.fault? with
    | some fault => some (start, fault)
    | none => firstFault? (start + 1) rest

/-- The performance with those of notes added to it one after the other, counted from an index. -/
def performFrom (settings : Settings) (start : Nat) (performance : Performance) :
    List Note → Performance
  | [] => performance
  | note :: rest =>
    performFrom settings (start + 1) (performance.addNote settings start note) rest

/-- The performance of a list of notes, under their places in it. -/
def compileNotes (settings : Settings) (_context : Context) (notes : List Note) :
    Except CompileError Performance :=
  match firstFault? 0 notes with
  | some (index, fault) => .error (.invalidNote index fault)
  | none => .ok (performFrom settings 0 {} notes)

def compileTrack (settings : Settings) (context : Context) (track : Track) :
    Except CompileError Performance :=
  compileNotes settings context track.notes

/-- The performances of tracks, counted from an index, up to the first track that has none. -/
def compileTracksFrom (settings : Settings) (context : Context) (start : Nat) :
    List Track → Except CompileError (List Performance)
  | [] => .ok []
  | track :: rest =>
    match compileTrack settings context track with
    | .error error => .error (.inTrack start error)
    | .ok performance =>
      return performance :: (← compileTracksFrom settings context (start + 1) rest)

def compileComposition (settings : Settings) (context : Context) (composition : Composition) :
    Except CompileError (List Performance) :=
  compileTracksFrom settings context 0 composition.tracks

/-! ## Documents -/

/-- The notes of a list of values, counted from an index. -/
def notesOfItems (start : Nat) : List Json → Except CompileError (List Note)
  | [] => .ok []
  | item :: rest =>
    match item with
    | .object _ =>
      match Note.decode item with
      | .error error => .error (.malformedNote start error)
      | .ok note => return note :: (← notesOfItems (start + 1) rest)
    | _ => .error (.entryNotObject start item)

/-- The notes of a document. -/
def notesOfDocument : Json → Except CompileError (List Note)
  | .object fields =>
    match Dictionary.get? "notes" fields with
    | some (.array items) => notesOfItems 0 items
    | some _ => .error .notesNotList
    | none => .error .noNotes
  | value => .error (.notTrack value)

/-- The performance of the track that a document holds. -/
def compileDocument (settings : Settings) (context : Context) (document : Json) :
    Except CompileError Performance := do
  compileNotes settings context (← notesOfDocument document)

end Espressivo
