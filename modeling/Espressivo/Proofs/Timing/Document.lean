import Espressivo.Proofs.Json.Fields
import Espressivo.Proofs.Score.Decode
import Espressivo.Proofs.Timing.Snap

/-!
# Snapping before and after decoding

A document that holds a composition can be snapped as it is, or the composition after it has been
decoded. As long as all snapped times are finite, both come to the same composition, whether a time
is written as an integer or not, or is left out.
-/

namespace Espressivo

open Binary64 Json.Decode

variable {grid : Grid} {mode : SnapMode}

/-! ## Numbers -/

theorem Json.float_after {n : Json.Number} {x : Binary64} (hfinite : x.isFinite)
    (hsign : x = zero true → n.toBinary64 = zero true) : float (n.after x) = .ok x := by
  cases x with
  | nan => cases hfinite
  | infinite negative => cases hfinite
  | finite x =>
    cases n with
    | float y => rfl
    | int m =>
      unfold Number.after
      dsimp only
      split
      · rename_i hwhole
        -- The sign of a zero is lost in an integer, but no integer is a negative zero before.
        have hzero : finite x ≠ zero true := fun heq => ofInt_ne_zero_true m (hsign heq)
        exact congrArg Except.ok (ofInt_truncate hwhole.1 hzero)
      · rfl

theorem Json.float_mapNumber {f : Binary64 → Binary64} {value : Json} {x : Binary64}
    (hvalue : float value = .ok x) (hfinite : (f x).isFinite)
    (hsign : f x = zero true → x = zero true) : float (mapNumber f value) = .ok (f x) := by
  cases value with
  | number n =>
    cases hvalue
    exact float_after hfinite hsign
  | _ => cases hvalue

/-! ## Notes -/

/-- The fields of a note with its time and its duration snapped. -/
def snappedFields (grid : Grid) (mode : SnapMode) (fields : Dictionary Json) : Dictionary Json :=
  Dictionary.modify "duration" (Json.snapDuration grid mode)
    (Dictionary.modify "time" (Json.snap grid mode) fields)

section

variable {fields : Dictionary Json}

theorem optionalNullable_snappedFields {α : Type} {name : String} (hduration : name ≠ "duration")
    (htime : name ≠ "time") (decode : Json.Decoder α) :
    optionalNullable (snappedFields grid mode fields) name decode =
      optionalNullable fields name decode := by
  rw [snappedFields, optionalNullable_modify_of_ne hduration, optionalNullable_modify_of_ne htime]

theorem optional_snappedFields_time {α : Type} (decode : Json.Decoder α) :
    optional (snappedFields grid mode fields) "time" decode =
      optional fields "time" fun value => decode (Json.snap grid mode value) := by
  rw [snappedFields, optional_modify_of_ne (by decide), optional_modify_self]

theorem optional_snappedFields_duration {α : Type} (decode : Json.Decoder α) :
    optional (snappedFields grid mode fields) "duration" decode =
      optional fields "duration" fun value => decode (Json.snapDuration grid mode value) := by
  rw [snappedFields, optional_modify_self, optional_modify_of_ne (by decide)]

theorem without_snappedFields :
    Dictionary.without Note.fieldNames (snappedFields grid mode fields) =
      Dictionary.without Note.fieldNames fields := by
  rw [snappedFields, Dictionary.without_modify (by decide), Dictionary.without_modify (by decide)]

theorem Note.DecodedFrom.snap {note : Note} (hnote : note.DecodedFrom fields)
    (htime : (Espressivo.snap grid mode note.time).isFinite)
    (hduration : (snapDuration grid mode note.duration).isFinite) :
    (note.snap grid mode).DecodedFrom (snappedFields grid mode fields) where
  articulation := by
    rw [optionalNullable_snappedFields (by decide) (by decide)]
    exact hnote.articulation
  articulations := by
    rw [optionalNullable_snappedFields (by decide) (by decide)]
    exact hnote.articulations
  dynamics := by
    rw [optionalNullable_snappedFields (by decide) (by decide)]
    exact hnote.dynamics
  pitch := by
    rw [optionalNullable_snappedFields (by decide) (by decide)]
    exact hnote.pitch
  duration := by
    rw [optional_snappedFields_duration]
    have hsnapped : optional fields "duration" (fun value =>
        float (Json.snapDuration grid mode value)) =
        .ok ((some note.duration).map (snapDuration grid mode)) := by
      refine optional_eq_ok_map hnote.duration fun value x hx hvalue => ?_
      cases hx
      exact Json.float_mapNumber hvalue hduration eq_of_snapDuration_eq_zero_true
    exact hsnapped
  time := by
    obtain ⟨time?, hfound, hgetD⟩ := hnote.time
    rw [optional_snappedFields_time]
    refine ⟨time?.map (Espressivo.snap grid mode), ?_, ?_⟩
    · refine optional_eq_ok_map hfound fun value x hx hvalue => ?_
      have hnoteTime : x = note.time := by rw [← hgetD, hx, Option.getD_some]
      rw [← hnoteTime] at htime
      exact Json.float_mapNumber hvalue htime eq_of_snap_eq_zero_true
    · -- A time that is left out is zero, and zero lies on every grid.
      show (time?.map _).getD 0 = Espressivo.snap grid mode note.time
      rw [← hgetD]
      cases time? with
      | none => exact (snap_zero grid mode).symm
      | some x => rfl
  extra := by
    rw [without_snappedFields]
    exact hnote.extra

end

theorem Note.decode_snapNote {item : Json} {note : Note} (hnote : Note.decode item = .ok note)
    (hfinite : (note.snap grid mode).time.isFinite ∧ (note.snap grid mode).duration.isFinite) :
    Note.decode (item.snapNote grid mode) = .ok (note.snap grid mode) := by
  obtain ⟨fields, rfl⟩ := Note.object_of_decode hnote
  have hdecoded := Note.decode_object_eq_ok_iff.1 hnote
  exact Note.decode_object_eq_ok_iff.2 (hdecoded.snap hfinite.1 hfinite.2)

/-! ## Tracks and compositions -/

theorem Track.decode_snapTrack {document : Json} {track : Track}
    (htrack : Track.decode document = .ok track)
    (hfinite : ∀ note ∈ (track.snap grid mode).notes, note.time.isFinite ∧ note.duration.isFinite) :
    Track.decode (document.snapTrack grid mode) = .ok (track.snap grid mode) := by
  obtain ⟨fields, items, rfl, hitems, hnotes, hextra⟩ := Track.decode_eq_ok_iff.1 htrack
  refine Track.decode_eq_ok_iff.2
    ⟨Dictionary.modify "notes" (Json.mapItems (Json.snapNote grid mode)) fields,
      items.map (Json.snapNote grid mode), rfl, Json.get?_modify_mapItems hitems _, ?_, ?_⟩
  · refine mapM_map_eq_ok hnotes fun item note hmem hnote => ?_
    exact Note.decode_snapNote hnote (hfinite _ (List.mem_map_of_mem hmem))
  · rw [Dictionary.without_modify (List.mem_singleton_self _)]
    exact hextra

/-- Snapping a document and snapping the composition that it holds come to the same, as long as no
snapped time is infinite. -/
theorem Composition.decode_snapComposition {document : Json} {composition : Composition}
    (hcomposition : Composition.decode document = .ok composition)
    (hfinite : ∀ track ∈ (composition.snap grid mode).tracks, ∀ note ∈ track.notes,
      note.time.isFinite ∧ note.duration.isFinite) :
    Composition.decode (document.snapComposition grid mode) = .ok (composition.snap grid mode) := by
  obtain ⟨fields, items, rfl, hitems, htracks, hextra⟩ :=
    Composition.decode_eq_ok_iff.1 hcomposition
  refine Composition.decode_eq_ok_iff.2
    ⟨Dictionary.modify "tracks" (Json.mapItems (Json.snapTrack grid mode)) fields,
      items.map (Json.snapTrack grid mode), rfl, Json.get?_modify_mapItems hitems _, ?_, ?_⟩
  · refine mapM_map_eq_ok htracks fun item track hmem htrack => ?_
    exact Track.decode_snapTrack htrack (hfinite _ (List.mem_map_of_mem hmem))
  · rw [Dictionary.without_modify (List.mem_singleton_self _)]
    exact hextra

/-- Integers, one of them beyond 63 bits, a number with a fraction, and a time that is left out. -/
theorem Composition.decode_snapComposition_mixed :
    let document : Json := .object [("title", "study"), ("tracks", .array [.object [
      ("name", "lead"), ("notes", .array [
        .object [("duration", .ofNat 1), ("time", .ofBinary64 0.3)],
        .object [("duration", .ofBinary64 0.05), ("lyric", "la")],
        .object [("duration", .ofNat 9223372036854775808), ("time", .number (.int (-3)))]])]])]
    let grid : Grid := ⟨0.25⟩
    ∃ composition, Composition.decode document = .ok composition ∧
      ((composition.snap grid .nearest).tracks.map fun track =>
        track.notes.map fun note => (note.time, note.duration)) =
        [[(0.25, 1), (0, 0.25), (-3, 9223372036854775808)]] ∧
      (∀ track ∈ (composition.snap grid .nearest).tracks, ∀ note ∈ track.notes,
        note.time.isFinite ∧ note.duration.isFinite) ∧
      Composition.decode (document.snapComposition grid .nearest) =
        .ok (composition.snap grid .nearest) := by
  intro document grid
  have hany : (Composition.decode document).toOption.any fun composition =>
      ((composition.snap grid .nearest).tracks.map fun track =>
        track.notes.map fun note => (note.time, note.duration)) =
        [[(0.25, 1), (0, 0.25), (-3, 9223372036854775808)]] ∧
      ∀ track ∈ (composition.snap grid .nearest).tracks, ∀ note ∈ track.notes,
        note.time.isFinite ∧ note.duration.isFinite := by decide +kernel
  obtain ⟨composition, hdecoded, htest⟩ := exists_ok_of_any hany
  obtain ⟨htimes, hfinite⟩ := of_decide_eq_true htest
  exact ⟨composition, hdecoded, htimes, hfinite,
    Composition.decode_snapComposition hdecoded hfinite⟩

end Espressivo
