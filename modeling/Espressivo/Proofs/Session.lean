import Mathlib.Logic.Relation
import Espressivo.Session
import Espressivo.Proofs.Performance.Alteration
import Espressivo.Proofs.Performance.Concatenation
import Espressivo.Proofs.Timing.Performance

/-!
# Work on sessions

However a session came about, the performance that it holds is one of notes without faults, so that
each note of its document is rendered with one effect in each dimension at most, and in a range that
can be played. Right after compiling, every note sounds as it does on its own. Snapping the document
and adding notes to it leaves the performance of the notes that were there before as it is.
-/

namespace Espressivo
namespace Session

open Json.Decode

/-! ## Steps -/

/-- One step of work. A step that fails is none, as it leaves the session as it is. -/
inductive Step : Session → Session → Prop
  | load (session : Session) (document : Json) : Step session { session with document }
  | configure (session : Session) (settings : Settings) : Step session { session with settings }
  | addNote (session : Session) (note : Json) : Step session (session.addNote note)
  | snap (session : Session) (grid : Grid) (mode : SnapMode) :
    Step session (session.snap grid mode)
  | snapAsTrack {session next : Session} {grid : Grid} {mode : SnapMode}
    (hnext : session.snapAsTrack grid mode = .ok next) : Step session next
  | compile {session next : Session} (hnext : session.compile = .ok next) : Step session next

/-- Work on a new session leads to the session. -/
def Reached (session : Session) : Prop := Relation.ReflTransGen Step {} session

/-- The performance is one of notes without faults. -/
def IsSound (session : Session) : Prop :=
  ∃ settings notes, compileNotes settings .standard notes = .ok session.performance

variable {session next : Session}

theorem compile_eq_ok_iff :
    session.compile = .ok next ↔ ∃ track performance,
      Track.decode session.document = .ok track ∧
        compileNotes session.settings .standard track.notes = .ok performance ∧
        next = { session with performance } := by
  rw [compile, bind_eq_ok_iff]
  simp only [compileDocument, bind_eq_ok_iff, pure_eq_ok_iff, notesOfDocument_eq_ok_iff_decode]
  constructor
  · rintro ⟨performance, ⟨-, ⟨track, htrack, rfl⟩, hcompiled⟩, rfl⟩
    exact ⟨track, performance, htrack, hcompiled, rfl⟩
  · rintro ⟨track, performance, htrack, hcompiled, rfl⟩
    exact ⟨performance, ⟨_, ⟨track, htrack, rfl⟩, hcompiled⟩, rfl⟩

/-- Only compiling changes the performance, and then to one of notes that passed the checks. -/
theorem Step.isSound (hstep : Step session next) (hsound : session.IsSound) : next.IsSound := by
  cases hstep with
  | load document => exact hsound
  | configure settings => exact hsound
  | addNote note => exact hsound
  | snap grid mode => exact hsound
  | snapAsTrack hnext =>
    obtain ⟨track, -, hnext⟩ := bind_eq_ok_iff.1 hnext
    cases pure_eq_ok_iff.1 hnext
    exact hsound
  | compile hnext =>
    obtain ⟨track, performance, -, hcompiled, rfl⟩ := compile_eq_ok_iff.1 hnext
    exact ⟨_, _, hcompiled⟩

theorem Reached.isSound (hreached : session.Reached) : session.IsSound := by
  induction hreached with
  | refl => exact ⟨.standard, [], rfl⟩
  | tail _ hstep ih => exact hstep.isSound ih

/-! ## Renderings -/

/-- A note of the session's document that is altered is rendered with the session's settings. -/
def rendered (session : Session) (alteration : Alteration) (note : Note) : Rendition :=
  alteration.render session.settings.coefficients.maxVelocity
    session.settings.minGlideSubdivisions.toNat note.notated

theorem render?_eq {index : Nat} {alteration : Alteration}
    (hown : session.performance.ofNote index = alteration.effects.map (⟨index, ·⟩)) :
    session.render? index = (Track.decode session.document).map fun track =>
      track.notes[index]?.map (session.rendered alteration) := by
  rw [render?, hown]
  simp only [List.foldl_map]
  simp only [alteration.foldl_apply_effects]
  rfl

/-- Whatever was done before, a note is rendered with one effect in each dimension at most. Its
velocity is not negative, and only a velocity that is notated is above the ceiling. A pitch that is
not notated can sound. -/
theorem Reached.render? (hreached : session.Reached) (index : Nat) :
    ∃ alteration : Alteration,
      session.performance.ofNote index = alteration.effects.map (⟨index, ·⟩) ∧
      session.render? index = ((Track.decode session.document).map fun track =>
        track.notes[index]?.map (session.rendered alteration)) ∧
      ∀ note : Note,
        0 ≤ (session.rendered alteration note).velocity ∧
        ((session.rendered alteration note).velocity = note.velocity ∨
          (session.rendered alteration note).velocity ≤
            velocityLimit session.settings.coefficients.maxVelocity) ∧
        ∀ pitch ∈ (session.rendered alteration note).pitches,
          pitch ∈ note.pitches ∨ pitch ≤ maxPitch := by
  obtain ⟨settings, notes, hcompiled⟩ := hreached.isSound
  obtain ⟨alteration, hown⟩ := exists_alteration hcompiled index
  refine ⟨alteration, hown, render?_eq hown, fun note => ?_⟩
  obtain ⟨hnonneg, hlimited⟩ := alteration.render_velocity
    session.settings.coefficients.maxVelocity session.settings.minGlideSubdivisions.toNat note
  exact ⟨hnonneg, hlimited, fun pitch hpitch =>
    alteration.render_pitches session.settings.minGlideSubdivisions.toNat_lt hpitch⟩

/-- Right after compiling, each note is rendered with what it would be performed with alone. -/
theorem render?_of_compile (hnext : session.compile = .ok next) :
    ∃ track, Track.decode session.document = .ok track ∧ ∀ index,
      (track.notes[index]? = none → next.render? index = .ok none) ∧
      ∀ note, track.notes[index]? = some note → ∃ hsound : note.fault? = none,
        next.render? index =
          .ok (some (session.rendered (note.alteration session.settings hsound) note)) := by
  obtain ⟨track, performance, htrack, hcompiled, rfl⟩ := compile_eq_ok_iff.1 hnext
  refine ⟨track, htrack, fun index => ⟨fun hnote => ?_, fun note hnote => ?_⟩⟩
  · obtain ⟨alteration, hown⟩ := exists_alteration hcompiled index
    rw [render?_eq hown]
    dsimp only
    rw [htrack, Except.map, hnote, Option.map_none]
  · have hsound := (compileNotes_eq_ok_iff.1 hcompiled).1 note (List.mem_of_getElem? hnote)
    refine ⟨hsound, ?_⟩
    rw [render?_eq (ofNote_of_compileNotes hcompiled hnote hsound)]
    dsimp only
    rw [htrack, Except.map, hnote, Option.map_some]
    rfl

/-- A note is loaded, snapped, compiled and rendered with its glide in steps. -/
example :
    let settings : Settings := { Settings.standard with
      shorthands := .ofList [(".", .simple .staccato), ("/", .glide .glissando)] }
    let document : Json := .object [("notes", .array [.object [
      ("articulations", .array [".", .object [("target", .ofNat 64), ("type", "/")]]),
      ("duration", .ofBinary64 0.97), ("pitch", .ofNat 60)]])]
    let session := ({ document, settings } : Session).snap ⟨0.25⟩ .nearest
    ((session.compile.toOption.bind fun next => (next.render? 0).toOption.join).map fun rendition =>
      (rendition.duration, rendition.pitches)) = some (0.5, [60, 62, 64]) := by
  decide +kernel

/-! ## Edited documents -/

/-- The second session comes from the first one by snapping its document and adding the notes to it,
in any order. -/
inductive Edited (session : Session) : List Json → Session → Prop
  | refl : Edited session [] session
  | snap {added : List Json} {next : Session} (hedited : Edited session added next) (grid : Grid)
    (mode : SnapMode) : Edited session added (next.snap grid mode)
  | addNote {added : List Json} {next : Session} (hedited : Edited session added next)
    (note : Json) : Edited session (added ++ [note]) (next.addNote note)

/-- The document holds the items as its notes, but for their times. -/
def HoldsNotes (session : Session) (items : List Json) : Prop :=
  ∃ changed, session.document.field? "notes" = some (.array changed) ∧
    changed.map Json.untimedNote = items.map Json.untimedNote

theorem HoldsNotes.snap {items : List Json} (hholds : session.HoldsNotes items) (grid : Grid)
    (mode : SnapMode) : (session.snap grid mode).HoldsNotes items := by
  obtain ⟨changed, hfield, huntimed⟩ := hholds
  refine ⟨changed.map (Json.snapNote grid mode), ?_, ?_⟩
  · rw [Session.snap]
    cases hdocument : session.document with
    | object fields =>
      rw [hdocument] at hfield
      exact Json.get?_modify_mapItems hfield _
    | _ =>
      rw [hdocument] at hfield
      cases hfield
  · rw [List.map_map, ← huntimed]
    exact List.map_congr_left fun item _ => Json.untimedNote_snapNote item

theorem HoldsNotes.addNote {items : List Json} (hholds : session.HoldsNotes items) (note : Json) :
    (session.addNote note).HoldsNotes (items ++ [note]) := by
  obtain ⟨changed, hfield, huntimed⟩ := hholds
  refine ⟨changed ++ [note], ?_, by rw [List.map_append, List.map_append, huntimed]⟩
  rw [Session.addNote, hfield]
  cases hdocument : session.document with
  | object fields =>
    rw [hdocument] at hfield
    have hnotes : Dictionary.get? "notes" fields = some (.array changed) := hfield
    have hmodified := Dictionary.get?_modify_self "notes"
      (fun _ => Json.array (changed ++ [note])) fields
    rw [hnotes] at hmodified
    exact hmodified
  | _ =>
    rw [hdocument] at hfield
    cases hfield

/-- Editing keeps the settings and the notes in their order. -/
theorem Edited.holdsNotes {added items : List Json} (hedited : session.Edited added next)
    (hitems : session.document.field? "notes" = some (.array items)) :
    next.settings = session.settings ∧ next.HoldsNotes (items ++ added) := by
  induction hedited with
  | refl => exact ⟨rfl, items, hitems, by rw [List.append_nil]⟩
  | snap _ grid mode ih => exact ⟨ih.1, ih.2.snap grid mode⟩
  | addNote _ note ih =>
    have hholds := ih.2.addNote note
    rw [List.append_assoc] at hholds
    exact ⟨ih.1, hholds⟩

/-- What the document holds is read as notes that are alike, and what else it holds comes after
them. -/
theorem HoldsNotes.exists_decode {items added : List Json} {notes : List Note} {track : Track}
    (hholds : session.HoldsNotes (items ++ added)) (hdecoded : items.mapM Note.decode = .ok notes)
    (htrack : Track.decode session.document = .ok track) :
    ∃ first later, track.notes = first ++ later ∧ later.length = added.length ∧
      List.Forall₂ (fun x y => x.SameMarkings y ∧ x.pitch? = y.pitch?) notes first := by
  obtain ⟨changed, hchanged, huntimed⟩ := hholds
  obtain ⟨fields, read, hdocument, hread, hreadDecoded, -⟩ := Track.decode_eq_ok_iff.1 htrack
  rw [hdocument] at hchanged
  cases hread.symm.trans hchanged
  rw [List.map_append] at huntimed
  obtain ⟨front, back, rfl, hfront, hback⟩ := List.map_eq_append_iff.1 huntimed
  rw [List.mapM_append] at hreadDecoded
  obtain ⟨first, hfirst, hrest⟩ := bind_eq_ok_iff.1 hreadDecoded
  obtain ⟨later, hlater, hnotes⟩ := bind_eq_ok_iff.1 hrest
  refine ⟨first, later, (pure_eq_ok_iff.1 hnotes).symm, ?_, ?_⟩
  · rw [← (mapM_eq_ok_iff.1 hlater).length_eq, ← List.length_map, hback, List.length_map]
  · exact forall₂_of_mapM hfront.symm hdecoded hfirst
      fun item other a b => Note.alike_of_untimedNote_eq

/-- Snapping and adding notes between two compilations leaves the performance of the notes that were
there before as it is; that of the added notes comes after it. -/
theorem Edited.performance_eq {added : List Json} {before after : Session}
    (hedited : session.Edited added next) (hbefore : session.compile = .ok before)
    (hafter : next.compile = .ok after) :
    ∃ track later, Track.decode session.document = .ok track ∧ later.length = added.length ∧
      after.performance = before.performance ++
        performFrom session.settings track.notes.length {} later := by
  obtain ⟨track, performance, htrack, hcompiled, rfl⟩ := compile_eq_ok_iff.1 hbefore
  obtain ⟨edited, editedPerformance, heditedTrack, heditedCompiled, rfl⟩ :=
    compile_eq_ok_iff.1 hafter
  obtain ⟨fields, items, hdocument, hitems, hdecoded, -⟩ := Track.decode_eq_ok_iff.1 htrack
  have hfield : session.document.field? "notes" = some (.array items) := by
    rw [hdocument]
    exact hitems
  obtain ⟨hsettings, hholds⟩ := hedited.holdsNotes hfield
  obtain ⟨first, later, hnotes, hlength, halike⟩ := hholds.exists_decode hdecoded heditedTrack
  refine ⟨track, later, htrack, hlength, ?_⟩
  obtain ⟨-, rfl⟩ := compileNotes_eq_ok_iff.1 hcompiled
  obtain ⟨-, rfl⟩ := compileNotes_eq_ok_iff.1 heditedCompiled
  dsimp only
  -- The notes that were there before are performed from the same index on.
  rw [hnotes, hsettings, performFrom_append, ← performFrom_congr_of_alike halike,
    ← halike.length_eq, Nat.zero_add]

end Session
end Espressivo
