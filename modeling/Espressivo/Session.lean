import Espressivo.Performance.Compilation
import Espressivo.Performance.Rendering
import Espressivo.Settings.Text
import Espressivo.Timing.Document

/-!
# Sessions

Work on one document: it is loaded, notes are added, times are snapped, and its performance is
compiled and rendered note by note.
-/

namespace Espressivo

structure Session where
  document : Json := .null
  settings : Settings := .standard
  /-- The performance that was compiled last. -/
  performance : Performance := {}

namespace Session

/-- Adds a note at the end of the document. A document without a list of notes is replaced. -/
def addNote (session : Session) (note : Json) : Session :=
  let document :=
    match session.document.field? "notes" with
    | some (.array items) => session.document.mapField "notes" fun _ => .array (items ++ [note])
    | _ => .object [("notes", .array [note])]
  { session with document }

/-- Snaps the times of the document. -/
def snap (session : Session) (grid : Grid) (mode : SnapMode) : Session :=
  { session with document := session.document.snapTrack grid mode }

/-- Reads the document as a track, snaps its notes and writes it back. -/
def snapAsTrack (session : Session) (grid : Grid) (mode : SnapMode) :
    Except Json.DecodeError Session := do
  let track ← Track.decode session.document
  return { session with document := (track.snap grid mode).toJson.canonical }

def compile (session : Session) : Except CompileError Session := do
  let performance ← compileDocument session.settings .standard session.document
  return { session with performance }

/-- The note at an index as it sounds in the performance, if there is such a note. -/
def render? (session : Session) (index : Nat) : Except Json.DecodeError (Option Rendition) := do
  let track ← Track.decode session.document
  let ceiling := session.settings.coefficients.maxVelocity
  return track.notes[index]?.map fun note =>
    let notated : Rendition := {
      duration := note.duration
      velocity := (note.dynamicMark?.map DynamicMark.velocity).getD DynamicMark.standardVelocity
      pitches := note.pitches }
    (session.performance.ofNote index).foldl (fun rendition modulation =>
      rendition.apply ceiling session.settings.minGlideSubdivisions.toNat modulation.effect) notated

end Session
end Espressivo
