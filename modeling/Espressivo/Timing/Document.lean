import Espressivo.Timing.Snap

/-!
# Snapping in documents

Snapping of times in JSON documents that are not read as notes. Only the named numbers change,
everything else stays as it is; an integer stays an integer where its snapped value is one.
-/

namespace Espressivo
namespace Json

/-- Changes the field of an object. -/
def mapField (name : String) (f : Json → Json) : Json → Json
  | object fields =>
    object (fields.map fun field => (field.1, if field.1 = name then f field.2 else field.2))
  | value => value

/-- Changes the items of a list. -/
def mapItems (f : Json → Json) : Json → Json
  | array items => array (items.map f)
  | value => value

/-- A changed number as JSON. It is written as an integer if the number was one before and if it is
whole and in range. -/
def Number.after (before : Number) (x : Binary64) : Json :=
  match before, x with
  | int _, .finite x =>
    if x.IsWhole ∧ x.whole < Nat.pow 2 63 then number (.int x.truncate) else number (.float x)
  | _, x => .ofBinary64 x

/-- Changes a number. -/
def mapNumber (f : Binary64 → Binary64) : Json → Json
  | number n => n.after (f n.toBinary64)
  | value => value

end Json

/-- What is snapped in a list of events, and how. -/
structure SnapOptions where
  grid : Grid
  /-- The names of the fields that hold times. -/
  fields : List String
  mode : SnapMode

namespace SnapOptions

def standard : SnapOptions := ⟨⟨0.25⟩, ["time", "duration"], .nearest⟩

def toJson (options : SnapOptions) : Json :=
  .object [
    ("grid", .ofBinary64 options.grid.quarters),
    ("fields", .array (options.fields.map .string)),
    ("mode", options.mode.name)]

def decode : Json.Decoder SnapOptions :=
  Json.Decode.recordWith "QuantizeOptions" [
    Json.Decode.setter "grid" Json.Decode.float fun quarters options =>
      { options with grid := ⟨quarters⟩ },
    Json.Decode.setter "fields" (Json.Decode.list Json.Decode.text) fun fields options =>
      { options with fields },
    Json.Decode.setter "mode" (Json.Decode.variant SnapMode.names) fun mode options =>
      { options with mode }]
    standard

end SnapOptions

namespace Json

def snap (grid : Grid) (mode : SnapMode) : Json → Json := mapNumber (Espressivo.snap grid mode)

def snapDuration (grid : Grid) (mode : SnapMode) : Json → Json :=
  mapNumber (Espressivo.snapDuration grid mode)

/-- Snaps the named fields of an event; what is no object stays. -/
def snapEvent (options : SnapOptions) : Json → Json
  | object fields =>
    object (fields.map fun field =>
      (field.1,
        if field.1 ∈ options.fields then snap options.grid options.mode field.2 else field.2))
  | value => value

/-- Snaps the events of a list. -/
def snapEvents (options : SnapOptions) (events : List Json) : List Json :=
  events.map (snapEvent options)

/-- Snaps the time and the duration of a note. -/
def snapNote (grid : Grid) (mode : SnapMode) (note : Json) : Json :=
  mapField "duration" (snapDuration grid mode) (mapField "time" (snap grid mode) note)

/-- Snaps the notes of a track. -/
def snapTrack (grid : Grid) (mode : SnapMode) : Json → Json :=
  mapField "notes" (mapItems (snapNote grid mode))

/-- Snaps the notes of all tracks. -/
def snapComposition (grid : Grid) (mode : SnapMode) : Json → Json :=
  mapField "tracks" (mapItems (snapTrack grid mode))

end Json
end Espressivo
