/-!
# Kinds of articulations

The articulations that can be performed. Simple ones need no more than their name; a glide leads
from the pitch of its note to a target pitch.
-/

namespace Espressivo

/-- Articulations that are complete with their name. -/
inductive SimpleArticulation where
  | staccato
  | accent
  | tenuto
  /-- An accent with a tenuto. -/
  | marcato
  /-- A phrasing mark, without an effect on the note alone. -/
  | legato
deriving DecidableEq, Repr

/-- Continuous changes of pitch. -/
inductive GlideKind where
  | glissando
  | portamento
deriving DecidableEq, Repr

inductive ArticulationKind where
  | simple (kind : SimpleArticulation)
  | glide (kind : GlideKind)
deriving DecidableEq, Repr

/-- An articulation with all that its performance needs. -/
inductive Articulation where
  | simple (kind : SimpleArticulation)
  | glide (kind : GlideKind) (target : UInt8)
deriving DecidableEq, Repr

/-- The canonical names of the simple articulations. -/
def SimpleArticulation.names : List (String × SimpleArticulation) := [
  ("staccato", .staccato), ("accent", .accent), ("tenuto", .tenuto), ("marcato", .marcato),
  ("legato", .legato)]

def SimpleArticulation.name : SimpleArticulation → String
  | staccato => "staccato"
  | accent => "accent"
  | tenuto => "tenuto"
  | marcato => "marcato"
  | legato => "legato"

/-- The canonical names of the glides. -/
def GlideKind.names : List (String × GlideKind) := [
  ("glissando", .glissando), ("portamento", .portamento)]

def GlideKind.name : GlideKind → String
  | glissando => "glissando"
  | portamento => "portamento"

namespace ArticulationKind

/-- The canonical names of all kinds. -/
def names : List (String × ArticulationKind) :=
  SimpleArticulation.names.map (fun entry => (entry.1, simple entry.2)) ++
    GlideKind.names.map (fun entry => (entry.1, glide entry.2))

def name : ArticulationKind → String
  | simple kind => kind.name
  | glide kind => kind.name

end ArticulationKind

namespace Articulation

def kind : Articulation → ArticulationKind
  | simple kind => .simple kind
  | glide kind _ => .glide kind

/-- The articulation in words. -/
def text : Articulation → String
  | simple kind => kind.name
  | glide kind target => s!"{kind.name} -> {target}"

end Articulation
end Espressivo
