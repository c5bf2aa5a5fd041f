import Espressivo.Performance.Compilation
import Espressivo.Proofs.Score.Decode

/-!
# Performances of documents

A document is performed either as the track that it decodes to, or directly: its notes are looked up
and decoded one by one, and what else it holds is not looked at. Both ways take the same documents
and lead to the same performance; they only differ in how they refuse other documents.
-/

namespace Espressivo

open Json.Decode

theorem notesOfItems_cons_eq_ok_iff {start : Nat} {item : Json} {rest : List Json}
    {notes : List Note} :
    notesOfItems start (item :: rest) = .ok notes ↔
      ∃ note, Note.decode item = .ok note ∧
        ∃ later, notesOfItems (start + 1) rest = .ok later ∧ note :: later = notes := by
  constructor
  · intro hnotes
    unfold notesOfItems at hnotes
    split at hnotes
    · split at hnotes
      · cases hnotes
      · rename_i note hnote
        obtain ⟨later, hlater, heq⟩ := bind_eq_ok_iff.1 hnotes
        exact ⟨note, hnote, later, hlater, pure_eq_ok_iff.1 heq⟩
    · cases hnotes
  · intro ⟨note, hnote, later, hlater, heq⟩
    obtain ⟨fields, rfl⟩ := Note.object_of_decode hnote
    simp only [notesOfItems, hnote]
    exact bind_eq_ok_iff.2 ⟨later, hlater, pure_eq_ok_iff.2 heq⟩

theorem notesOfItems_eq_ok_iff {start : Nat} {items : List Json} {notes : List Note} :
    notesOfItems start items = .ok notes ↔ items.mapM Note.decode = .ok notes := by
  induction items generalizing start notes with
  | nil => rw [notesOfItems, List.mapM_nil, pure_eq_ok_iff, Except.ok.injEq]
  | cons item rest ih =>
    rw [notesOfItems_cons_eq_ok_iff, List.mapM_cons]
    simp only [bind_eq_ok_iff, pure_eq_ok_iff, ih]

theorem notesOfDocument_eq_ok_iff {document : Json} {notes : List Note} :
    notesOfDocument document = .ok notes ↔
      ∃ fields items, document = .object fields ∧
        Dictionary.get? "notes" fields = some (.array items) ∧
        items.mapM Note.decode = .ok notes := by
  constructor
  · intro hnotes
    unfold notesOfDocument at hnotes
    split at hnotes
    · rename_i fields
      split at hnotes
      · rename_i items hitems
        exact ⟨fields, items, rfl, hitems, notesOfItems_eq_ok_iff.1 hnotes⟩
      · cases hnotes
      · cases hnotes
    · cases hnotes
  · intro ⟨fields, items, hdocument, hitems, hnotes⟩
    rw [hdocument, notesOfDocument, hitems]
    exact notesOfItems_eq_ok_iff.2 hnotes

/-- The notes of a document are those of the track that it decodes to. -/
theorem notesOfDocument_eq_ok_iff_decode {document : Json} {notes : List Note} :
    notesOfDocument document = .ok notes ↔
      ∃ track, Track.decode document = .ok track ∧ track.notes = notes := by
  simp only [notesOfDocument_eq_ok_iff, Track.decode_eq_ok_iff]
  constructor
  · intro ⟨fields, items, hdocument, hitems, hnotes⟩
    refine ⟨⟨notes, Dictionary.without ["notes"] fields⟩, ?_, rfl⟩
    exact ⟨fields, items, hdocument, hitems, hnotes, rfl⟩
  · rintro ⟨track, ⟨fields, items, hdocument, hitems, hnotes, -⟩, rfl⟩
    exact ⟨fields, items, hdocument, hitems, hnotes⟩

/-- A document has a performance if it is a track that has this performance, and only then. -/
theorem compileDocument_eq_ok_iff {settings : Settings} {context : Context} {document : Json}
    {performance : Performance} :
    compileDocument settings context document = .ok performance ↔
      ∃ track, Track.decode document = .ok track ∧
        compileTrack settings context track = .ok performance := by
  simp only [compileDocument, bind_eq_ok_iff, notesOfDocument_eq_ok_iff_decode]
  constructor
  · rintro ⟨notes, ⟨track, htrack, rfl⟩, hcompiled⟩
    exact ⟨track, htrack, hcompiled⟩
  · intro ⟨track, htrack, hcompiled⟩
    exact ⟨track.notes, ⟨track, htrack, rfl⟩, hcompiled⟩

end Espressivo
