import Mathlib.Data.List.Forall2
import Espressivo.Timing.Document

/-!
# Snapping of events by the names of their fields

An event keeps its fields in their order, and of their values only the numbers under the given names
change. So nothing but the set of these names matters, and names can be snapped in one pass or in
several that share none of them.
-/

namespace Espressivo
namespace Json

variable {grid : Grid} {mode : SnapMode} {names others : List String}

/-! ## Fields -/

/-- What becomes of a field where the numbers under some names are snapped. -/
inductive FieldSnapped (grid : Grid) (mode : SnapMode) (names : List String) :
    String × Json → String × Json → Prop
  | unnamed {name : String} {value : Json} (hname : name ∉ names) :
    FieldSnapped grid mode names (name, value) (name, value)
  | notNumber {name : String} {value : Json} (hvalue : ∀ n, value ≠ number n) :
    FieldSnapped grid mode names (name, value) (name, value)
  | number {name : String} (hname : name ∈ names) (n : Number) :
    FieldSnapped grid mode names (name, .number n) (name, Json.snap grid mode (.number n))

/-- Snaps a field of an event. -/
def snapField (options : SnapOptions) (field : String × Json) : String × Json :=
  (field.1, if field.1 ∈ options.fields then snap options.grid options.mode field.2 else field.2)

theorem snapEvent_object (options : SnapOptions) (fields : Dictionary Json) :
    snapEvent options (object fields) = object (fields.map (snapField options)) := rfl

theorem snapField_of_mem {name : String} (hname : name ∈ names) (value : Json) :
    snapField ⟨grid, names, mode⟩ (name, value) = (name, Json.snap grid mode value) :=
  congrArg (Prod.mk name) (if_pos hname)

theorem snapField_of_not_mem {name : String} (hname : name ∉ names) (value : Json) :
    snapField ⟨grid, names, mode⟩ (name, value) = (name, value) :=
  congrArg (Prod.mk name) (if_neg hname)

theorem snap_of_ne_number {value : Json} (hvalue : ∀ n, value ≠ number n) :
    Json.snap grid mode value = value := by
  cases value with
  | number n => exact absurd rfl (hvalue n)
  | _ => rfl

theorem snapField_eq_iff {before after : String × Json} :
    snapField ⟨grid, names, mode⟩ before = after ↔ FieldSnapped grid mode names before after := by
  constructor
  · rintro rfl
    obtain ⟨name, value⟩ := before
    by_cases hname : name ∈ names
    · rw [snapField_of_mem hname]
      by_cases hvalue : ∃ n, value = number n
      · obtain ⟨n, rfl⟩ := hvalue
        exact .number hname n
      · have hother : ∀ n, value ≠ number n := not_exists.1 hvalue
        rw [snap_of_ne_number hother]
        exact .notNumber hother
    · rw [snapField_of_not_mem hname]
      exact .unnamed hname
  · intro hsnapped
    cases hsnapped with
    | unnamed hname => exact snapField_of_not_mem hname _
    | @notNumber name value hvalue =>
      by_cases hname : name ∈ names
      · rw [snapField_of_mem hname, snap_of_ne_number hvalue]
      · exact snapField_of_not_mem hname value
    | number hname n => exact snapField_of_mem hname _

/-- Names that are not shared can be snapped one list after the other. -/
theorem snapField_snapField (hdisjoint : names.Disjoint others) (field : String × Json) :
    snapField ⟨grid, others, mode⟩ (snapField ⟨grid, names, mode⟩ field) =
      snapField ⟨grid, names ++ others, mode⟩ field := by
  obtain ⟨name, value⟩ := field
  by_cases hname : name ∈ names
  · have hother : name ∉ others := hdisjoint hname
    rw [snapField_of_mem hname, snapField_of_not_mem hother,
      snapField_of_mem (List.mem_append_left others hname)]
  · rw [snapField_of_not_mem hname]
    by_cases hother : name ∈ others
    · rw [snapField_of_mem hother, snapField_of_mem (List.mem_append_right names hother)]
    · have happend : name ∉ names ++ others := List.not_mem_append hname hother
      rw [snapField_of_not_mem hother, snapField_of_not_mem happend]

/-! ## Events -/

/-- What becomes of an event where the numbers under some names are snapped. -/
inductive EventSnapped (grid : Grid) (mode : SnapMode) (names : List String) : Json → Json → Prop
  | notObject {event : Json} (hevent : ∀ fields, event ≠ object fields) :
    EventSnapped grid mode names event event
  | object {before after : Dictionary Json}
    (hfields : List.Forall₂ (FieldSnapped grid mode names) before after) :
    EventSnapped grid mode names (.object before) (.object after)

theorem map_eq_iff_forall₂ {α β : Type} {f : α → β} {relation : α → β → Prop} {items : List α}
    {results : List β} (hf : ∀ {item result}, f item = result ↔ relation item result) :
    items.map f = results ↔ List.Forall₂ relation items results := by
  rw [← List.forall₂_eq_eq_eq, List.forall₂_map_left_iff]
  simp only [hf]

theorem snapEvent_eq_iff {before after : Json} :
    snapEvent ⟨grid, names, mode⟩ before = after ↔ EventSnapped grid mode names before after := by
  constructor
  · rintro rfl
    cases before with
    | object fields =>
      rw [snapEvent_object]
      exact .object ((map_eq_iff_forall₂ snapField_eq_iff).1 rfl)
    | _ => exact .notObject nofun
  · intro hsnapped
    cases hsnapped with
    | notObject hevent =>
      cases before with
      | object fields => exact absurd rfl (hevent fields)
      | _ => rfl
    | object hfields =>
      rw [snapEvent_object, (map_eq_iff_forall₂ snapField_eq_iff).2 hfields]

theorem snapEvents_eq_iff {events snapped : List Json} :
    snapEvents ⟨grid, names, mode⟩ events = snapped ↔
      List.Forall₂ (EventSnapped grid mode names) events snapped :=
  map_eq_iff_forall₂ snapEvent_eq_iff

/-- Only the set of the names matters. -/
theorem snapEvents_congr (hnames : ∀ name, name ∈ names ↔ name ∈ others) (events : List Json) :
    snapEvents ⟨grid, names, mode⟩ events = snapEvents ⟨grid, others, mode⟩ events := by
  refine List.map_congr_left fun event _ => ?_
  cases event with
  | object fields =>
    refine congrArg object (List.map_congr_left fun field _ => ?_)
    simp only [hnames]
  | _ => rfl

theorem snapEvents_snapEvents (hdisjoint : names.Disjoint others) (events : List Json) :
    snapEvents ⟨grid, others, mode⟩ (snapEvents ⟨grid, names, mode⟩ events) =
      snapEvents ⟨grid, names ++ others, mode⟩ events := by
  rw [snapEvents, snapEvents, List.map_map]
  refine List.map_congr_left fun event _ => ?_
  cases event with
  | object fields =>
    rw [Function.comp_apply, snapEvent_object, snapEvent_object, snapEvent_object, List.map_map]
    exact congrArg object (List.map_congr_left fun field _ => snapField_snapField hdisjoint field)
  | _ => rfl

/-- Each event is snapped in its place, field by field, and only the numbers under the given names
change. Neither the order of the names nor a repeated one makes a difference, and names that are not
shared can be snapped in two passes, in either order. -/
theorem snapEvents_frame (grid : Grid) (mode : SnapMode) :
    (∀ names events snapped, snapEvents ⟨grid, names, mode⟩ events = snapped ↔
      List.Forall₂ (EventSnapped grid mode names) events snapped) ∧
    (∀ names others : List String, (∀ name, name ∈ names ↔ name ∈ others) → ∀ events,
      snapEvents ⟨grid, names, mode⟩ events = snapEvents ⟨grid, others, mode⟩ events) ∧
    ∀ names others : List String, names.Disjoint others → ∀ events,
      snapEvents ⟨grid, others, mode⟩ (snapEvents ⟨grid, names, mode⟩ events) =
        snapEvents ⟨grid, names ++ others, mode⟩ events ∧
      snapEvents ⟨grid, names, mode⟩ (snapEvents ⟨grid, others, mode⟩ events) =
        snapEvents ⟨grid, names ++ others, mode⟩ events := by
  refine ⟨fun names events snapped => snapEvents_eq_iff,
    fun names others hnames events => snapEvents_congr hnames events,
    fun names others hdisjoint events => ⟨snapEvents_snapEvents hdisjoint events, ?_⟩⟩
  rw [snapEvents_snapEvents (List.disjoint_symm hdisjoint)]
  refine snapEvents_congr (fun name => ?_) events
  rw [List.mem_append, List.mem_append, or_comm]

/-- Two passes over an event with a text for its time, one without a time, and one that is none. -/
theorem snapEvents_frame_mixed :
    let late : Json := .object [("duration", .ofNat 3), ("time", .string "late")]
    let loud : Json := .object [("velocity", .ofNat 1)]
    let events : List Json := [.null, late, loud]
    let times : SnapOptions := ⟨⟨0.25⟩, ["time", "time"], .floor⟩
    let durations : SnapOptions := ⟨⟨0.25⟩, ["duration"], .floor⟩
    times.fields.Disjoint durations.fields ∧
      snapEvents durations (snapEvents times events) = [.null,
        .object [("duration", Json.snap ⟨0.25⟩ .floor (.ofNat 3)), ("time", .string "late")],
        loud] := by
  intro late loud events times durations
  obtain ⟨hevents, hnames, hpasses⟩ := snapEvents_frame ⟨0.25⟩ .floor
  have hdisjoint : times.fields.Disjoint durations.fields := by simp [times, durations]
  have htext : ∀ n, Json.string "late" ≠ number n := fun n => Json.noConfusion
  refine ⟨hdisjoint, (hpasses _ _ hdisjoint events).1.trans ?_⟩
  rw [hnames _ ["duration", "time"] (by simp [times, durations, or_comm]), hevents]
  refine .cons (.notObject nofun) (.cons (.object ?_) (.cons (.object ?_) .nil))
  · exact .cons (.number (by decide) _) (.cons (.notNumber htext) .nil)
  · exact .cons (.unnamed (by decide)) .nil

end Json
end Espressivo
