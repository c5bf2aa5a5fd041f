import Espressivo.Performance.Modulation

/-!
# Rendering

What modulations do to the duration, the velocity and the pitches of a sounding note.
-/

namespace Espressivo

/-- A velocity with a boost, which is relative to it, between zero and a ceiling. A ceiling that is
no number counts as zero. -/
def boostedVelocity (base boost ceiling : Binary64) : Binary64 :=
  (base * (1 + boost)).clamp 0 (if 0 < ceiling then ceiling else 0)

/-- A note as it sounds. -/
structure Rendition where
  duration : Binary64
  velocity : Binary64
  pitches : List UInt8

/-- Applies one effect; a glide becomes a number of steps. -/
def Rendition.apply (ceiling : Binary64) (subdivisions : Nat) (rendition : Rendition) :
    Effect → Rendition
  | .duration factor => { rendition with duration := rendition.duration * factor }
  | .velocity boost =>
    { rendition with velocity := boostedVelocity rendition.velocity boost ceiling }
  | .glide glide => { rendition with pitches := glide.steps subdivisions }

end Espressivo
