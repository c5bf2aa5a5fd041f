import Espressivo.Proofs.Performance.Documents
import Espressivo.Proofs.Performance.Faults

/-!
# Refused documents and compositions

A document without a list of notes is refused as a whole. Otherwise all entries of the list are read
before the first note is looked at, so that an entry that is no note is reported even if a note
before it is faulty. A composition is refused for the first of its tracks that has a faulty note.
-/

namespace Espressivo

open Json.Decode

/-! ## The first item that is refused -/

section

variable {α β ε : Type}

variable {accepts property : α → Prop} {item found : α} {items rest : List α} {place : Nat}

end

/-! ## Entries -/

variable {settings : Settings} {context : Context} {document : Json} {error : CompileError}

/-- No note of the track is faulty. -/
def Track.IsSound (track : Track) : Prop := ∀ note ∈ track.notes, note.fault? = none

variable {composition : Composition}

end Espressivo
