import Espressivo.Proofs.Json.Canonical
import Espressivo.Proofs.Score.RoundTrip
import Espressivo.Proofs.Timing.Document

/-!
# Documents on an unusable grid

On a grid that is not usable every value stays, but the numbers of a document still pass through
floating point. Floating point numbers come out as they were. An integer does so only if it has a
significand of 53 bits and lies within 63 bits; any other one comes out as the floating point value
next to it, which may be written as another integer.
-/

namespace Espressivo

open Binary64

namespace Json

/-! ## Numbers -/

/-- The number is the same after its passage through floating point. -/
def Number.Survives : Number → Prop
  | int n => n.natAbs < Nat.pow 2 63 ∧ HasSignificand n.natAbs
  | float _ => True

instance : DecidablePred Number.Survives
  | .int _ => inferInstanceAs (Decidable (_ ∧ _))
  | .float _ => inferInstanceAs (Decidable True)

theorem Number.after_int_finite (n : Int) (x : Finite) :
    (int n).after (finite x) =
      if x.IsWhole ∧ x.whole < Nat.pow 2 63 then number (.int x.truncate) else number (.float x) :=
  rfl

theorem Number.after_toBinary64_iff (n : Number) :
    n.after n.toBinary64 = number n ↔ n.Survives := by
  cases n with
  | float x => exact iff_of_true rfl trivial
  | int n =>
    constructor
    · intro hafter
      cases hx : ofInt n with
      | finite x =>
        rw [toBinary64, hx, after_int_finite] at hafter
        split at hafter
        · rename_i hwhole
          have htruncate : x.truncate = n := by
            injection hafter with hnumber
            injection hnumber
          have hsignificand := x.representable.2
          rw [← hwhole.1.whole_mul_one] at hsignificand
          rw [Survives, ← htruncate, x.natAbs_truncate]
          exact ⟨hwhole.2, hasSignificand_mul_one_iff.1 hsignificand⟩
        · injection hafter with hnumber
          cases hnumber
      | _ =>
        rw [toBinary64, hx] at hafter
        cases hafter
    · rintro ⟨hrange, hn⟩
      obtain ⟨x, hx, hwhole, htruncate⟩ := exists_ofInt_eq_finite hrange hn
      rw [← htruncate, x.natAbs_truncate] at hrange
      rw [toBinary64, hx, after_int_finite, if_pos ⟨hwhole, hrange⟩, htruncate]

/-- What a number becomes has the same floating point value. -/
theorem Number.exists_after_toBinary64 {n : Number} (hrange : n.InRange) :
    ∃ result : Number, n.after n.toBinary64 = number result ∧
      result.toBinary64 = n.toBinary64 := by
  have hfinite : n.toBinary64.isFinite := by
    cases n with
    | int n => exact isFinite_ofInt hrange
    | float x => rfl
  have hfloat := float_after hfinite id
  cases hafter : n.after n.toBinary64 with
  | number result =>
    rw [hafter] at hfloat
    injection hfloat with hvalue
    exact ⟨result, rfl, hvalue⟩
  | _ =>
    rw [hafter] at hfloat
    cases hfloat

/-! ## Values that stay as they are -/

/-- The value is no number that is changed. -/
def Survives : Json → Prop
  | number n => n.Survives
  | _ => True

/-- Some property of the fields of these names, if the value is an object. -/
def InFields (names : List String) (property : Json → Prop) : Json → Prop
  | object fields => ∀ field ∈ fields, field.1 ∈ names → property field.2
  | _ => True

/-- Some property of the items, if the value is a list. -/
def InItems (property : Json → Prop) : Json → Prop
  | array items => ∀ item ∈ items, property item
  | _ => True

instance : DecidablePred Survives
  | number n => inferInstanceAs (Decidable n.Survives)
  | null | bool _ | string _ | array _ | object _ => inferInstanceAs (Decidable True)

instance (names : List String) (property : Json → Prop) [DecidablePred property] :
    DecidablePred (InFields names property)
  | object fields =>
    inferInstanceAs (Decidable (∀ field ∈ fields, field.1 ∈ names → property field.2))
  | null | bool _ | string _ | array _ | number _ => inferInstanceAs (Decidable True)

instance (property : Json → Prop) [DecidablePred property] : DecidablePred (InItems property)
  | array items => inferInstanceAs (Decidable (∀ item ∈ items, property item))
  | null | bool _ | string _ | number _ | object _ => inferInstanceAs (Decidable True)

section

variable {f : Json → Json} {property : Json → Prop}

theorem map_eq_self_iff {α : Type} {f : α → α} {items : List α} :
    items.map f = items ↔ ∀ item ∈ items, f item = item := by
  have hinj := @List.map_inj_left _ _ items f id
  rw [List.map_id] at hinj
  exact hinj

theorem mapNumber_id_eq_self_iff (value : Json) : mapNumber id value = value ↔ value.Survives := by
  cases value with
  | number n => exact n.after_toBinary64_iff
  | _ => exact iff_of_true rfl trivial

theorem mapFields_eq_self_iff (names : List String) (hf : ∀ value, f value = value ↔ property value)
    (fields : List (String × Json)) :
    (fields.map fun field => (field.1, if field.1 ∈ names then f field.2 else field.2)) = fields ↔
      (object fields).InFields names property := by
  rw [map_eq_self_iff]
  refine forall₂_congr fun field _ => ?_
  rw [← hf, Prod.ext_iff]
  by_cases hname : field.1 ∈ names <;> simp [hname]

theorem mapItems_eq_self_iff (hf : ∀ value, f value = value ↔ property value) (value : Json) :
    mapItems f value = value ↔ value.InItems property := by
  cases value with
  | array items =>
    rw [mapItems, array.injEq, map_eq_self_iff]
    exact forall₂_congr fun item _ => hf item
  | _ => exact iff_of_true rfl trivial

theorem mapField_eq_self_iff (name : String) (hf : ∀ value, f value = value ↔ property value)
    (value : Json) : mapField name f value = value ↔ value.InFields [name] property := by
  cases value with
  | object fields =>
    rw [mapField, object.injEq, ← mapFields_eq_self_iff [name] hf]
    simp only [List.mem_singleton]
  | _ => exact iff_of_true rfl trivial

end

/-! ## Snapping -/

/-- The times of a note are no numbers that are changed. -/
def TimesSurvive : Json → Prop := InFields ["time", "duration"] Survives

/-- The times of all notes of a track are no numbers that are changed. -/
def TrackSurvives : Json → Prop := InFields ["notes"] (InItems TimesSurvive)

instance : DecidablePred TimesSurvive := inferInstanceAs (DecidablePred (InFields _ _))

instance : DecidablePred TrackSurvives := inferInstanceAs (DecidablePred (InFields _ _))

variable {grid : Grid} (mode : SnapMode)

theorem snap_eq_mapNumber_id (hgrid : ¬ grid.IsUsable) : Json.snap grid mode = mapNumber id := by
  rw [Json.snap]
  apply congrArg
  funext value
  exact snap_of_not_isUsable hgrid

theorem snapDuration_eq_mapNumber_id (hgrid : ¬ grid.IsUsable) :
    Json.snapDuration grid mode = mapNumber id := by
  rw [Json.snapDuration]
  apply congrArg
  funext value
  rw [Espressivo.snapDuration, if_neg fun hstep => hgrid hstep.2.1]
  exact snap_of_not_isUsable hgrid

theorem snapEvent_eq_self_iff (hgrid : ¬ grid.IsUsable) (names : List String) (event : Json) :
    snapEvent ⟨grid, names, mode⟩ event = event ↔ event.InFields names Survives := by
  cases event with
  | object fields =>
    rw [snapEvent, object.injEq, snap_eq_mapNumber_id mode hgrid]
    exact mapFields_eq_self_iff names mapNumber_id_eq_self_iff fields
  | _ => exact iff_of_true rfl trivial

/-- Without the limit of one step both times of a note are snapped alike. -/
theorem snapNote_eq_snapEvent (hgrid : ¬ grid.IsUsable) (note : Json) :
    snapNote grid mode note = snapEvent ⟨grid, ["time", "duration"], mode⟩ note := by
  rw [snapNote, snapDuration_eq_mapNumber_id mode hgrid, snap_eq_mapNumber_id mode hgrid]
  cases note with
  | object fields =>
    rw [snapEvent, snap_eq_mapNumber_id mode hgrid, mapField, mapField, List.map_map]
    apply congrArg
    apply List.map_congr_left
    intro field _
    by_cases htime : field.1 = "time"
    · simp [htime]
    · simp [htime]
  | _ => rfl

theorem snapTrack_eq_self_iff (hgrid : ¬ grid.IsUsable) (track : Json) :
    snapTrack grid mode track = track ↔ track.TrackSurvives := by
  apply mapField_eq_self_iff
  apply mapItems_eq_self_iff
  intro note
  rw [snapNote_eq_snapEvent mode hgrid]
  exact snapEvent_eq_self_iff mode hgrid _ note

/-- Snapping to an unusable grid keeps a document exactly if all numbers that it touches survive
their passage through floating point. No number changes its floating point value. -/
theorem snap_of_unusable_grid (hgrid : ¬ grid.IsUsable) (mode : SnapMode) :
    (∀ value, Json.snap grid mode value = value ↔ value.Survives) ∧
    (∀ n : Number, n.InRange → ∃ result : Number,
      Json.snap grid mode (number n) = number result ∧ result.toBinary64 = n.toBinary64) ∧
    (∀ names events, snapEvents ⟨grid, names, mode⟩ events = events ↔
      ∀ event ∈ events, event.InFields names Survives) ∧
    (∀ track, snapTrack grid mode track = track ↔ track.TrackSurvives) ∧
    (∀ composition, snapComposition grid mode composition = composition ↔
      composition.InFields ["tracks"] (InItems TrackSurvives)) := by
  refine ⟨?_, ?_, ?_, ?_, ?_⟩
  · rw [snap_eq_mapNumber_id mode hgrid]
    exact mapNumber_id_eq_self_iff
  · intro n hrange
    rw [snap_eq_mapNumber_id mode hgrid]
    exact Number.exists_after_toBinary64 hrange
  · intro names events
    rw [snapEvents, map_eq_self_iff]
    exact forall₂_congr fun event _ => snapEvent_eq_self_iff mode hgrid names event
  · exact snapTrack_eq_self_iff mode hgrid
  · intro composition
    apply mapField_eq_self_iff
    apply mapItems_eq_self_iff
    exact snapTrack_eq_self_iff mode hgrid

/-- The first odd integer beyond 53 bits is rounded where it is snapped, and stays elsewhere. -/
theorem snap_of_unusable_grid_zero :
    let grid : Grid := ⟨0⟩
    let event (time : Nat) : Json := .object [
      ("duration", .ofBinary64 0.3), ("time", .ofNat time), ("velocity", .ofNat 9007199254740993)]
    let options : SnapOptions := ⟨grid, ["time", "duration"], .floor⟩
    ¬ grid.IsUsable ∧
      (Number.int 9007199254740993).InRange ∧
      snapEvents options [event 9007199254740994] = [event 9007199254740994] ∧
      snapEvents options [event 9007199254740993] ≠ [event 9007199254740993] ∧
      ∃ result, Json.snap grid .floor (.ofNat 9007199254740993) = number result ∧
        result.toBinary64 = 9007199254740992 := by
  intro grid event options
  have hgrid : ¬ grid.IsUsable := by decide +kernel
  have hrange : (Number.int 9007199254740993).InRange := by constructor <;> decide
  obtain ⟨-, hvalue, hevents, -⟩ := snap_of_unusable_grid hgrid .floor
  refine ⟨hgrid, hrange, ?_, ?_, ?_⟩
  · rw [hevents]
    decide +kernel
  · rw [ne_eq, hevents]
    decide +kernel
  · obtain ⟨result, hsnap, hresult⟩ := hvalue _ hrange
    exact ⟨result, hsnap, hresult.trans (by decide +kernel)⟩

/-- Integers are changed although nothing is snapped: one loses its last bit, and one that takes 64
bits is written as a floating point value. -/
theorem exists_snapEvents_ne :
    ¬ ∀ (options : SnapOptions) (events : List Json), ¬ options.grid.IsUsable →
      (∀ event ∈ events, event.WellFormed) → snapEvents options events = events := by
  intro hclaim
  let options : SnapOptions := ⟨⟨0⟩, ["time", "duration"], .nearest⟩
  let fields : Dictionary Json :=
    [("duration", .ofNat 9223372036854775808), ("time", .ofNat 9007199254740993)]
  let event : Json := .object fields
  have hgrid : ¬ options.grid.IsUsable := by decide +kernel
  have hevent : event.WellFormed := by
    refine wellFormed_object_iff.2 ⟨by decide +kernel, ?_⟩
    simp [fields, ofNat, Number.InRange]
  have hkept := hclaim options [event] hgrid (List.forall_mem_singleton.2 hevent)
  rw [snapEvents, map_eq_self_iff, List.forall_mem_singleton,
    snapEvent_eq_self_iff .nearest hgrid] at hkept
  revert hkept
  decide +kernel

end Json
end Espressivo
