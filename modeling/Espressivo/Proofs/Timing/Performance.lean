import Espressivo.Proofs.Performance.Documents
import Espressivo.Proofs.Performance.Faults
import Espressivo.Proofs.Performance.Independence
import Espressivo.Proofs.Timing.Document

/-!
# Performances of snapped documents

Snapping a document leaves the markings and the pitches of its notes alone, so that it does not
change the performance.
-/

namespace Espressivo

open Json.Decode

variable {grid : Grid} {mode : SnapMode}

/-! ## What snapping leaves -/

namespace Json

/-- The note without its time and its duration. -/
def untimedNote (note : Json) : Json :=
  mapField "duration" (fun _ => .null) (mapField "time" (fun _ => .null) note)

/-- The document without the times and the durations of its notes. -/
def untimed : Json → Json := mapField "notes" (mapItems untimedNote)

theorem untimedNote_snapNote (note : Json) :
    untimedNote (note.snapNote grid mode) = untimedNote note := by
  rw [untimedNote, snapNote, mapField_comm (by decide) _ _ (mapField "time" _ note),
    mapField_mapField, mapField_mapField]
  rfl

theorem untimed_snapTrack (grid : Grid) (mode : SnapMode) (document : Json) :
    untimed (document.snapTrack grid mode) = untimed document := by
  have hitems : mapItems untimedNote ∘ mapItems (snapNote grid mode) = mapItems untimedNote := by
    funext items
    rw [Function.comp_apply, mapItems_mapItems]
    exact congrArg (mapItems · items) (funext untimedNote_snapNote)
  rw [untimed, snapTrack, mapField_mapField, hitems]

end Json

/-! ## Performances -/

/-- Notes that differ in their times only are marked alike and have the same pitch. -/
theorem Note.alike_of_untimedNote_eq {a b : Json} {note other : Note}
    (huntimed : a.untimedNote = b.untimedNote) (hnote : Note.decode a = .ok note)
    (hother : Note.decode b = .ok other) :
    note.SameMarkings other ∧ note.pitch? = other.pitch? := by
  obtain ⟨fields, rfl⟩ := Note.object_of_decode hnote
  obtain ⟨others, rfl⟩ := Note.object_of_decode hother
  have hfields : Dictionary.modify "duration" (fun _ => .null)
      (Dictionary.modify "time" (fun _ => .null) fields) =
        Dictionary.modify "duration" (fun _ => .null)
          (Dictionary.modify "time" (fun _ => .null) others) := Json.object.inj huntimed
  have hagree {α : Type} {name : String} (hduration : name ≠ "duration") (htime : name ≠ "time")
      (decode : Json.Decoder α) :
      optionalNullable fields name decode = optionalNullable others name decode := by
    have hmodified := congrArg (optionalNullable · name decode) hfields
    simp only [optionalNullable_modify_of_ne hduration, optionalNullable_modify_of_ne htime]
      at hmodified
    exact hmodified
  have hleft := Note.decode_object_eq_ok_iff.1 hnote
  have hright := Note.decode_object_eq_ok_iff.1 hother
  have harticulation := hright.articulation
  have harticulations := hright.articulations
  have hpitch := hright.pitch
  rw [← hagree (by decide) (by decide)] at harticulation harticulations hpitch
  refine ⟨⟨?_, ?_⟩, ?_⟩
  · exact Except.ok.inj (hleft.articulation.symm.trans harticulation)
  · exact Except.ok.inj (hleft.articulations.symm.trans harticulations)
  · exact Except.ok.inj (hleft.pitch.symm.trans hpitch)

theorem alike_of_untimed_eq {a b : Json} {notes others : List Note}
    (huntimed : a.untimed = b.untimed) (hnotes : notesOfDocument a = .ok notes)
    (hothers : notesOfDocument b = .ok others) :
    List.Forall₂ (fun x y => x.SameMarkings y ∧ x.pitch? = y.pitch?) notes others := by
  obtain ⟨fields, items, rfl, hitems, hdecoded⟩ := notesOfDocument_eq_ok_iff.1 hnotes
  obtain ⟨otherFields, otherItems, rfl, hotherItems, hotherDecoded⟩ :=
    notesOfDocument_eq_ok_iff.1 hothers
  have hview := congrArg (Dictionary.get? "notes") (Json.object.inj huntimed)
  have hsame := (Json.get?_modify_mapItems hitems Json.untimedNote).symm.trans
    (hview.trans (Json.get?_modify_mapItems hotherItems Json.untimedNote))
  exact forall₂_of_mapM (Json.array.inj (Option.some.inj hsame)) hdecoded hotherDecoded
    fun item other a b => Note.alike_of_untimedNote_eq

theorem performFrom_congr_of_alike {settings : Settings} {notes others : List Note}
    (halike : List.Forall₂ (fun x y => x.SameMarkings y ∧ x.pitch? = y.pitch?) notes others)
    (start : Nat) : performFrom settings start {} notes = performFrom settings start {} others := by
  have hmarkings := halike.imp fun _ _ hpair => hpair.1
  refine performFrom_congr hmarkings (halike.imp fun x y hpair => ?_) start
  rw [Note.primaryPitch?, hpair.2, ← Note.primaryPitch?]

/-- Documents that differ in the times of their notes only have the same performance, if they have
one. -/
theorem performance_eq_of_untimed_eq {settings : Settings} {contextA contextB : Context}
    {a b : Json} {performance other : Performance} (huntimed : a.untimed = b.untimed)
    (ha : compileDocument settings contextA a = .ok performance)
    (hb : compileDocument settings contextB b = .ok other) : performance = other := by
  obtain ⟨notes, hnotes, hperformed⟩ := bind_eq_ok_iff.1 ha
  obtain ⟨others, hothers, hotherPerformed⟩ := bind_eq_ok_iff.1 hb
  obtain ⟨-, rfl⟩ := compileNotes_eq_ok_iff.1 hperformed
  obtain ⟨-, rfl⟩ := compileNotes_eq_ok_iff.1 hotherPerformed
  exact performFrom_congr_of_alike (alike_of_untimed_eq huntimed hnotes hothers) 0

/-- A document that has a performance before and after it is snapped has the same one, whatever the
grid is. -/
theorem compileDocument_snapTrack {settings : Settings} {contextA contextB : Context}
    {document : Json} {performance snapped : Performance}
    (hcompiled : compileDocument settings contextA document = .ok performance)
    (hsnapped : compileDocument settings contextB (document.snapTrack grid mode) = .ok snapped) :
    performance = snapped := by
  have huntimed := Json.untimed_snapTrack grid mode document
  exact performance_eq_of_untimed_eq huntimed.symm hcompiled hsnapped

/-- Two notes whose times change, with a rounded target and an entry that means nothing. -/
theorem compileDocument_snapTrack_floor :
    let settings : Settings := { Settings.standard with
      shorthands := .ofList [(".", .simple .staccato), ("/", .glide .glissando)] }
    let document : Json := .object [("notes", .array [
      .object [
        ("articulations", .array [".", .object [("target", .ofBinary64 62.5), ("type", "/")]]),
        ("duration", .ofNat 1), ("lyric", "la"), ("pitch", .ofNat 60), ("time", .ofBinary64 0.3)],
      .object [("articulation", .ofNat 5), ("duration", .ofBinary64 0.05)]])]
    let snapped := document.snapTrack ⟨0.25⟩ .floor
    ∃ performance, compileDocument settings .standard document = .ok performance ∧
      compileDocument settings .standard snapped = .ok performance ∧
      performance.modulations = [⟨0, .duration 0.5⟩, ⟨0, .glide ⟨.glissando, 60, 63⟩⟩] ∧
      (Track.decode snapped).toOption.map (·.notes.map fun note => (note.time, note.duration)) =
        some [(0.25, 1), (0, 0.25)] := by
  intro settings document snapped
  have hany : (compileDocument settings .standard document).toOption.any fun performance =>
      performance.modulations = [⟨0, .duration 0.5⟩, ⟨0, .glide ⟨.glissando, 60, 63⟩⟩] := by
    decide +kernel
  have hanySnapped : (compileDocument settings .standard snapped).toOption.any fun _ => true := by
    decide +kernel
  have htimes : (Track.decode snapped).toOption.map
      (·.notes.map fun note => (note.time, note.duration)) = some [(0.25, 1), (0, 0.25)] := by
    decide +kernel
  obtain ⟨performance, hcompiled, hmodulations⟩ := exists_ok_of_any hany
  obtain ⟨again, hsnapped, -⟩ := exists_ok_of_any hanySnapped
  have hsame := compileDocument_snapTrack hcompiled hsnapped
  rw [← hsame] at hsnapped
  exact ⟨performance, hcompiled, hsnapped, of_decide_eq_true hmodulations, htimes⟩

end Espressivo
