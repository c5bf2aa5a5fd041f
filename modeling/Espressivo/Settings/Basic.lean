import Espressivo.Articulation.Shorthand
import Espressivo.Decimal.Layout
import Espressivo.Performance.Glide

/-!
# Settings

How articulations are performed: the coefficients of their effects, the names by which they are
marked, and how finely glides are divided.
-/

namespace Espressivo

/-- The coefficients of the effects of articulations. -/
structure Coefficients where
  staccatoDuration : Binary64
  tenutoDuration : Binary64
  tenutoVelocity : Binary64
  accentVelocity : Binary64
  /-- The greatest velocity that boosts lead to. -/
  maxVelocity : Binary64
  /-- The least factor of a duration. -/
  minDuration : Binary64

namespace Coefficients

def standard : Coefficients where
  staccatoDuration := 0.5
  tenutoDuration := 1.5
  tenutoVelocity := 1.3
  accentVelocity := 2
  maxVelocity := 1
  minDuration := 0.001

/-- The coefficients by name, in their declared order. -/
def values (c : Coefficients) : List (String × Binary64) := [
  ("staccatoDurationFactor", c.staccatoDuration), ("tenutoDurationFactor", c.tenutoDuration),
  ("tenutoVelocityFactor", c.tenutoVelocity), ("accentVelocityFactor", c.accentVelocity),
  ("maxCombinedVelocity", c.maxVelocity), ("minDurationFactor", c.minDuration)]

/-- How each coefficient is set, in their declared order. -/
def setters : List (String × (Binary64 → Coefficients → Coefficients)) := [
  ("staccatoDurationFactor", fun x c => { c with staccatoDuration := x }),
  ("tenutoDurationFactor", fun x c => { c with tenutoDuration := x }),
  ("tenutoVelocityFactor", fun x c => { c with tenutoVelocity := x }),
  ("accentVelocityFactor", fun x c => { c with accentVelocity := x }),
  ("maxCombinedVelocity", fun x c => { c with maxVelocity := x }),
  ("minDurationFactor", fun x c => { c with minDuration := x })]

def toJson (c : Coefficients) : Json :=
  .object (c.values.map fun entry => (entry.1, .ofBinary64 entry.2))

def decode : Json.Decoder Coefficients :=
  Json.Decode.recordWith "CoefficientTable"
    (setters.map fun entry => Json.Decode.setter entry.1 Json.Decode.float entry.2) standard

/-- Numerically the same coefficients. -/
def SameNumbers (a b : Coefficients) : Prop :=
  ∀ pair ∈ a.values.zip b.values, pair.1.2.SameNumber pair.2.2

instance (a b : Coefficients) : Decidable (a.SameNumbers b) :=
  inferInstanceAs (Decidable (∀ pair ∈ _, _))

end Coefficients

structure Settings where
  coefficients : Coefficients
  shorthands : ShorthandTable
  /-- The least number of pitches that a glide should be divided into. -/
  minGlideSubdivisions : UInt64

/-- A coefficient that is not finite and positive. -/
structure CoefficientFault where
  name : String
  value : Binary64
deriving DecidableEq

def CoefficientFault.message (fault : CoefficientFault) : String :=
  s!"coefficient '{fault.name}' must be a finite value > 0, got {fault.value.text}"

/-- The first coefficient that cannot be used. -/
def Coefficients.fault? (c : Coefficients) : Option CoefficientFault :=
  (c.values.find? fun entry => ¬ entry.2.isFinite ∨ entry.2 ≤ 0).map fun entry => ⟨entry.1, entry.2⟩

/-- Why settings cannot be used. -/
inductive SettingsError where
  | badCoefficient (fault : CoefficientFault)
  | noShorthands
  | tooFewSubdivisions (count : UInt64)
deriving DecidableEq

/-- The texts of an error and of its causes, outermost first. -/
def SettingsError.messages : SettingsError → List String
  | badCoefficient fault => ["Invalid coefficient table", fault.message]
  | noShorthands => ["shorthand table must not be empty"]
  | tooFewSubdivisions count => [s!"minGlideSubdivisions must be >= {minSubdivisions}, got {count}"]

namespace Settings

def standard : Settings := ⟨.standard, .standard, .ofNat minSubdivisions⟩

/-- The standard settings with other coefficients. -/
def ofCoefficients (coefficients : Coefficients) : Settings := { standard with coefficients }

/-- The first thing that makes settings unusable. -/
def fault? (settings : Settings) : Option SettingsError :=
  match settings.coefficients.fault? with
  | some fault => some (.badCoefficient fault)
  | none =>
    if settings.shorthands.entries = [] then some .noShorthands
    else if settings.minGlideSubdivisions.toNat < minSubdivisions then
      some (.tooFewSubdivisions settings.minGlideSubdivisions)
    else none

def toJson (settings : Settings) : Json :=
  .object [
    ("coefficients", settings.coefficients.toJson), ("shorthands", settings.shorthands.toJson),
    ("minGlideSubdivisions", .ofNat settings.minGlideSubdivisions.toNat)]

def decode : Json.Decoder Settings :=
  Json.Decode.recordWith "PerformanceConfig" [
    Json.Decode.setter "coefficients" Coefficients.decode fun coefficients s =>
      { s with coefficients },
    Json.Decode.setter "shorthands" ShorthandTable.decode fun shorthands s => { s with shorthands },
    Json.Decode.setter "minGlideSubdivisions" Json.Decode.size fun count s =>
      { s with minGlideSubdivisions := .ofNat count }]
    standard

/-- The settings are those in use where no others are given. -/
def IsStandard (settings : Settings) : Prop :=
  settings.coefficients.SameNumbers .standard ∧ settings.shorthands = .standard ∧
    settings.minGlideSubdivisions = standard.minGlideSubdivisions

instance (settings : Settings) : Decidable settings.IsStandard :=
  inferInstanceAs (Decidable (_ ∧ _ ∧ _))

end Settings
end Espressivo
