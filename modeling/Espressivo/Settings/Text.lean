import Espressivo.Json.RecordReader
import Espressivo.Settings.Basic

/-!
# Settings in text

Settings as users write them. What is missing takes its standard value; the result is checked before
it is used.
-/

namespace Espressivo

/-- Why a text holds no usable settings. -/
inductive SettingsTextError where
  | unreadable (fault : Json.Fault)
  | unusable (error : SettingsError)
deriving DecidableEq

/-- The texts of an error and of its causes, outermost first. -/
def SettingsTextError.messages : SettingsTextError → List String
  | unreadable fault => ["Failed to parse performance config", fault.text]
  | unusable error => error.messages

namespace Settings

def coefficientsReader : Json.Reader Coefficients :=
  .recordWith (Coefficients.setters.map fun entry => (entry.1, entry.2 <$> Json.Reader.float))
    .standard

/-- Of two entries of one name the later counts; names are normalized in their sorted order. -/
def shorthandsReader : Json.Reader ShorthandTable := do
  let names ← Json.Reader.entries (Json.Reader.variant ArticulationKind.names)
  return .ofList (Dictionary.ofList names)

def reader : Json.Reader Settings :=
  .recordWith [
    ("coefficients", (fun coefficients s => { s with coefficients }) <$> coefficientsReader),
    ("shorthands", (fun shorthands s => { s with shorthands }) <$> shorthandsReader),
    ("minGlideSubdivisions",
      (fun count s => { s with minGlideSubdivisions := .ofNat count }) <$> Json.Reader.size)]
    .standard

/-- The settings that a text holds, if they can be used. -/
def ofText (text : String) : Except SettingsTextError Settings :=
  match reader.run text with
  | .error fault => .error (.unreadable fault)
  | .ok settings =>
    match settings.fault? with
    | some error => .error (.unusable error)
    | none => .ok settings

end Settings
end Espressivo
