import Espressivo.Proofs.Json.Decode
import Espressivo.Score.Note

/-!
# Notes, tracks and compositions from JSON

Which values are decoded to a note, a track or a composition, and to which one. Each field is looked
up on its own, so that decoding can be followed field by field.
-/

namespace Espressivo

open Json.Decode

/-! ## Notes -/

/-- Each field of the note is what the object holds for it. -/
structure Note.DecodedFrom (fields : Dictionary Json) (note : Note) : Prop where
  articulation : optionalNullable fields "articulation" (fun value => .ok (.ofJson value)) =
    .ok note.articulation?
  articulations : optionalNullable fields "articulations" (fun value => .ok (.ofJson value)) =
    .ok note.articulations?
  duration : optional fields "duration" float = .ok (some note.duration)
  dynamics : optionalNullable fields "dynamics" Json.Decode.text = .ok note.dynamics?
  pitch : optionalNullable fields "pitch" Pitch.decode = .ok note.pitch?
  time : ∃ time?, optional fields "time" float = .ok time? ∧ time?.getD 0 = note.time
  extra : Dictionary.without Note.fieldNames fields = note.extra

/-- Only objects are notes, so that looking at the sort of a value first refuses no note. -/
theorem Note.object_of_decode {item : Json} {note : Note} (hnote : Note.decode item = .ok note) :
    ∃ fields, item = .object fields := by
  cases item with
  | object fields => exact ⟨fields, rfl⟩
  | _ => cases hnote

theorem Note.decode_object_eq_ok_iff {fields : Dictionary Json} {note : Note} :
    Note.decode (.object fields) = .ok note ↔ note.DecodedFrom fields := by
  simp only [Note.decode, bind_eq_ok_iff, required_eq_ok_iff, pure_eq_ok_iff]
  constructor
  · intro ⟨articulation?, harticulation, articulations?, harticulations, duration?, hduration?,
      dynamics?, hdynamics, pitch?, hpitch, time?, htime, duration, hduration, hnote⟩
    subst hnote hduration
    exact ⟨harticulation, harticulations, hduration?, hdynamics, hpitch, ⟨time?, htime, rfl⟩, rfl⟩
  · intro hdecoded
    obtain ⟨time?, htime, hgetD⟩ := hdecoded.time
    refine ⟨_, hdecoded.articulation, _, hdecoded.articulations, _, hdecoded.duration,
      _, hdecoded.dynamics, _, hdecoded.pitch, time?, htime, note.duration, rfl, ?_⟩
    rw [hgetD, hdecoded.extra]

/-! ## Tracks and compositions -/

theorem Track.decode_eq_ok_iff {document : Json} {track : Track} :
    Track.decode document = .ok track ↔
      ∃ fields items, document = .object fields ∧
        Dictionary.get? "notes" fields = some (.array items) ∧
        items.mapM Note.decode = .ok track.notes ∧
        track.extra = Dictionary.without ["notes"] fields := by
  cases document with
  | object fields =>
    simp only [Track.decode, requiredList_bind_eq_ok_iff, pure_eq_ok_iff]
    constructor
    · intro ⟨items, notes, hitems, hnotes, htrack⟩
      rw [← htrack]
      exact ⟨fields, items, rfl, hitems, hnotes, rfl⟩
    · intro ⟨found, items, hfound, hitems, hnotes, hextra⟩
      cases hfound
      exact ⟨items, track.notes, hitems, hnotes, by rw [← hextra]⟩
  | _ => simp [Track.decode]

theorem Composition.decode_eq_ok_iff {document : Json} {composition : Composition} :
    Composition.decode document = .ok composition ↔
      ∃ fields items, document = .object fields ∧
        Dictionary.get? "tracks" fields = some (.array items) ∧
        items.mapM Track.decode = .ok composition.tracks ∧
        composition.extra = Dictionary.without ["tracks"] fields := by
  cases document with
  | object fields =>
    simp only [Composition.decode, requiredList_bind_eq_ok_iff, pure_eq_ok_iff]
    constructor
    · intro ⟨items, tracks, hitems, htracks, hcomposition⟩
      rw [← hcomposition]
      exact ⟨fields, items, rfl, hitems, htracks, rfl⟩
    · intro ⟨found, items, hfound, hitems, htracks, hextra⟩
      cases hfound
      exact ⟨items, composition.tracks, hitems, htracks, by rw [← hextra]⟩
  | _ => simp [Composition.decode]

end Espressivo
