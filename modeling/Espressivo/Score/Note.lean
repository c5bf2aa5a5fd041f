import Espressivo.Articulation.Markings
import Espressivo.Score.Dynamic
import Espressivo.Score.Pitch

/-!
# Notes, tracks and compositions

Notes as they are notated, with times and durations in quarter notes. Whatever else a score keeps
with a note, a track or a composition is carried along unchanged.
-/

namespace Espressivo

structure Note where
  /-- A note without a pitch is a rest. -/
  pitch? : Option Pitch
  duration : Binary64
  time : Binary64
  articulation? : Option Markings
  articulations? : Option Markings
  dynamics? : Option String
  extra : Dictionary Json

/-- The notes of one voice, in order; a note is referred to by its index. -/
structure Track where
  notes : List Note
  extra : Dictionary Json

structure Composition where
  tracks : List Track
  extra : Dictionary Json

/-- Why a note cannot be performed. -/
inductive NoteFault where
  | silentPitch (pitch : UInt8)
  | badDuration (duration : Binary64)
  | badTime (time : Binary64)
deriving DecidableEq

def NoteFault.message : NoteFault → String
  | silentPitch pitch => s!"pitch {pitch} is out of MIDI range [0..127]"
  | badDuration duration => s!"duration must be > 0, got {duration.text}"
  | badTime time => s!"time must be >= 0, got {time.text}"

namespace Note

/-- The pitch that a glide starts from, if the note is no rest. -/
def primaryPitch? (note : Note) : Option UInt8 := note.pitch?.bind Pitch.primary?

def isRest (note : Note) : Bool := note.primaryPitch?.isNone

/-- The pitches that the note sounds. -/
def pitches (note : Note) : List UInt8 := (note.pitch?.map Pitch.pitches).getD []

/-- The markings of the note, those of the single articulation first. -/
def markings (note : Note) : List Markings :=
  note.articulation?.toList ++ note.articulations?.toList

/-- All entries of the markings in order. -/
def entries (note : Note) : List Entry := note.markings.flatMap Markings.entries

/-- The dynamic mark of the note, if it can be read. -/
def dynamicMark? (note : Note) : Option DynamicMark := note.dynamics?.bind DynamicMark.ofText?

/-- The first fault of a note. Pitches have to be in the range that can sound, the duration positive
and the time not negative, and both finite. -/
def fault? (note : Note) : Option NoteFault :=
  match note.pitches.find? (maxPitch < ·) with
  | some pitch => some (.silentPitch pitch)
  | none =>
    if ¬ note.duration.isFinite ∨ note.duration ≤ 0 then some (.badDuration note.duration)
    else if ¬ note.time.isFinite ∨ note.time < 0 then some (.badTime note.time)
    else none

def text (note : Note) : String :=
  let pitch := (note.pitch?.map Pitch.text).getD "---"
  s!"{pitch} @{note.time.text} ({note.duration.text})"

/-- The names of the fields that a note has of its own. -/
def fieldNames : List String :=
  ["articulation", "articulations", "duration", "dynamics", "pitch", "time"]

def toJson (note : Note) : Json :=
  .record [
    ("pitch", note.pitch?.map Pitch.toJson),
    ("duration", some (.ofBinary64 note.duration)),
    ("time", some (.ofBinary64 note.time)),
    ("articulation", note.articulation?.map Markings.toJson),
    ("articulations", note.articulations?.map Markings.toJson),
    ("dynamics", note.dynamics?.map .string)] note.extra

def decode : Json.Decoder Note
  | .object fields => do
    let markings (value : Json) : Except Json.DecodeError Markings := .ok (.ofJson value)
    let articulation? ← Json.Decode.optionalNullable fields "articulation" markings
    let articulations? ← Json.Decode.optionalNullable fields "articulations" markings
    let duration? ← Json.Decode.optional fields "duration" Json.Decode.float
    let dynamics? ← Json.Decode.optionalNullable fields "dynamics" Json.Decode.text
    let pitch? ← Json.Decode.optionalNullable fields "pitch" Pitch.decode
    let time? ← Json.Decode.optional fields "time" Json.Decode.float
    let duration ← Json.Decode.required "duration" duration?
    return {
      pitch?, duration, articulation?, articulations?, dynamics?
      time := time?.getD 0
      extra := Dictionary.without fieldNames fields }
  | value => .error (.wrongType value (.record "Note"))

end Note

namespace Track

def toJson (track : Track) : Json :=
  .record [("notes", some (.array (track.notes.map Note.toJson)))] track.extra

def decode : Json.Decoder Track
  | .object fields => do
    let notes? ← Json.Decode.optional fields "notes" (Json.Decode.list Note.decode)
    return {
      notes := ← Json.Decode.required "notes" notes?
      extra := Dictionary.without ["notes"] fields }
  | value => .error (.wrongType value (.record "Track"))

end Track

namespace Composition

def toJson (composition : Composition) : Json :=
  .record [("tracks", some (.array (composition.tracks.map Track.toJson)))] composition.extra

def decode : Json.Decoder Composition
  | .object fields => do
    let tracks? ← Json.Decode.optional fields "tracks" (Json.Decode.list Track.decode)
    return {
      tracks := ← Json.Decode.required "tracks" tracks?
      extra := Dictionary.without ["tracks"] fields }
  | value => .error (.wrongType value (.record "Composition"))

end Composition
end Espressivo
