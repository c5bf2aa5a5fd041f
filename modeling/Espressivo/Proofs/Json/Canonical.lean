import Espressivo.Json.Basic
import Espressivo.Proofs.Dictionary

/-!
# Free-form values

A document that has been read has integers of 64 bits only, and the fields of its objects ascend. It
is its own canonical form. The canonical form of a record is known by what is found in it.
-/

namespace Espressivo

open Dictionary

/-! ## Records -/

namespace Dictionary

variable {α : Type} {name : String}

/-- The fields that are present. -/
def present (fields : Dictionary (Option α)) : Dictionary α :=
  fields.filterMap fun field => field.2.map (field.1, ·)

theorem names_present_sublist (fields : Dictionary (Option α)) :
    (names (present fields)).Sublist (names fields) := by
  induction fields with
  | nil => exact List.Sublist.slnil
  | cons field rest ih =>
    obtain ⟨key, value?⟩ := field
    cases value? with
    | none => exact ih.cons key
    | some value => exact ih.cons_cons key

theorem get?_present {fields : Dictionary (Option α)} (hdistinct : (names fields).Nodup) :
    get? name (present fields) = (get? name fields).join := by
  induction fields with
  | nil => rfl
  | cons field rest ih =>
    obtain ⟨key, value?⟩ := field
    obtain ⟨hnew, hrest⟩ := List.nodup_cons.1 hdistinct
    have hlater := ih hrest
    rw [get?_cons]
    cases value? with
    | none =>
      show get? name (present rest) = _
      rw [hlater]
      split
      · rename_i hkey
        rw [get?_eq_none_iff.2 (hkey ▸ hnew)]
        rfl
      · rfl
    | some value =>
      show get? name ((key, value) :: present rest) = _
      rw [get?_cons, hlater]
      split <;> rfl

end Dictionary

namespace Json

theorem canonicalItems_eq_map (items : List Json) : canonicalItems items = items.map canonical := by
  induction items with
  | nil => rfl
  | cons item rest ih => rw [canonicalItems, ih, List.map_cons]

theorem canonicalFields_eq_map (fields : List (String × Json)) :
    canonicalFields fields = fields.map fun field => (field.1, canonical field.2) := by
  induction fields with
  | nil => rfl
  | cons field rest ih =>
    obtain ⟨name, value⟩ := field
    rw [canonicalFields, ih, List.map_cons]

theorem get?_canonicalFields {name : String} (fields : List (String × Json)) :
    get? name (canonicalFields fields) = (get? name fields).map canonical := by
  rw [canonicalFields_eq_map]
  exact get?_map (fun _ => canonical) fields

theorem names_canonicalFields (fields : List (String × Json)) :
    names (canonicalFields fields) = names fields := by
  rw [canonicalFields_eq_map, names, List.map_map]
  rfl

theorem get?_canonical_object {name : String} {fields : List (String × Json)}
    (hdistinct : (names fields).Nodup) :
    get? name (ofList (canonicalFields fields)) = (get? name fields).map canonical := by
  rw [← names_canonicalFields] at hdistinct
  rw [get?_ofList hdistinct, get?_canonicalFields]

theorem canonicalFields_append (front back : List (String × Json)) :
    canonicalFields (front ++ back) = canonicalFields front ++ canonicalFields back := by
  simp only [canonicalFields_eq_map, List.map_append]

/-- What is found in a record: a further field, or else a field of its own that is present. -/
theorem get?_canonical_record {name : String} {fields : Dictionary (Option Json)}
    {extra : Dictionary Json} (hdistinct : (names fields).Nodup) (hextra : Sorted extra) :
    get? name (ofList (canonicalFields (present fields ++ extra))) =
      ((get? name extra).or (get? name fields).join).map canonical := by
  have hpresent := hdistinct.sublist (names_present_sublist fields)
  rw [← names_canonicalFields] at hpresent
  have hlater := hextra.nodup_names
  rw [← names_canonicalFields] at hlater
  rw [canonicalFields_append, ofList, List.foldl_append, get?_foldl_put, get?_reverse hlater,
    ← ofList, get?_ofList hpresent, get?_canonicalFields, get?_canonicalFields,
    get?_present hdistinct]
  cases get? name extra <;> rfl

theorem canonical_ofBinary64 (x : Binary64) : (ofBinary64 x).canonical = ofBinary64 x := by
  cases x <;> rfl

/-! ## Well-formed values -/

/-- The integer fits in 64 bits, with a sign or without. -/
def Number.InRange : Number → Prop
  | int n => -(Nat.pow 2 63 : Int) ≤ n ∧ n < Nat.pow 2 64
  | float _ => True

/-- The value is one that a document can have. -/
inductive WellFormed : Json → Prop where
  | null : WellFormed null
  | bool (b : Bool) : WellFormed (bool b)
  | number {n : Number} (hrange : n.InRange) : WellFormed (number n)
  | string (s : String) : WellFormed (string s)
  | array {items : List Json} (hitems : ∀ item ∈ items, WellFormed item) : WellFormed (array items)
  | object {fields : Dictionary Json} (hsorted : Sorted fields)
      (hfields : ∀ field ∈ fields, WellFormed field.2) : WellFormed (object fields)

attribute [simp] WellFormed.null WellFormed.bool WellFormed.string

@[simp] theorem wellFormed_number_iff {n : Number} : (number n).WellFormed ↔ n.InRange :=
  ⟨fun (.number hrange) => hrange, .number⟩

@[simp] theorem wellFormed_ofBinary64 (x : Binary64) : (ofBinary64 x).WellFormed := by
  cases x with
  | finite x => exact .number trivial
  | _ => exact .null

@[simp] theorem wellFormed_array_iff {items : List Json} :
    (array items).WellFormed ↔ ∀ item ∈ items, item.WellFormed :=
  ⟨fun (.array hitems) => hitems, .array⟩

@[simp] theorem wellFormed_object_iff {fields : Dictionary Json} :
    (object fields).WellFormed ↔ Sorted fields ∧ ∀ field ∈ fields, field.2.WellFormed :=
  ⟨fun (.object hsorted hfields) => ⟨hsorted, hfields⟩, fun h => .object h.1 h.2⟩

namespace WellFormed

variable {fields : Dictionary Json} {name : String} {value : Json}

theorem sorted (hobject : (Json.object fields).WellFormed) : Sorted fields :=
  (wellFormed_object_iff.1 hobject).1

theorem of_get? (hobject : (Json.object fields).WellFormed)
    (hget : get? name fields = some value) : value.WellFormed :=
  (wellFormed_object_iff.1 hobject).2 _ (mem_of_get? hget)

theorem canonical_eq (hvalue : value.WellFormed) : value.canonical = value := by
  induction hvalue with
  | null => rfl
  | bool b => rfl
  | number hrange => rfl
  | string s => rfl
  | array hitems ih =>
    rw [canonical, canonicalItems_eq_map, List.map_congr_left ih, List.map_id']
  | @object fields hsorted hfields ih =>
    have hkept : canonicalFields fields = fields := by
      rw [canonicalFields_eq_map]
      exact (List.map_congr_left fun field hfield => congrArg (field.1, ·) (ih field hfield)).trans
        (List.map_id' fields)
    rw [canonical, hkept, ofList_of_sorted hsorted]

/-- A record with fields of its own and the other fields of an object becomes that object with its
own fields changed. -/
theorem canonical_record {own : Dictionary (Option Json)} {taken : List String}
    {result : Dictionary Json} (hobject : (Json.object fields).WellFormed)
    (hdistinct : (names own).Nodup) (htaken : (names own).Perm taken) (hresult : Sorted result)
    (hown : ∀ field ∈ own, get? field.1 result = field.2.map canonical)
    (hother : ∀ name ∉ taken, get? name result = get? name fields) :
    (record own (without taken fields)).canonical = Json.object result := by
  show Json.object (ofList (canonicalFields (present own ++ without taken fields))) = _
  refine congrArg Json.object ((sorted_ofList _).ext hresult fun name => ?_)
  rw [get?_canonical_record hdistinct (hobject.sorted.without taken), get?_without]
  by_cases hname : name ∈ taken
  · rw [if_pos hname, Option.none_or]
    cases hget : get? name own with
    | none => exact absurd (htaken.mem_iff.2 hname) (get?_eq_none_iff.1 hget)
    | some value? => exact (hown _ (mem_of_get? hget)).symm
  · have habsent : get? name own = none := get?_eq_none_iff.2 fun hmem =>
      hname (htaken.mem_iff.1 hmem)
    rw [if_neg hname, habsent, hother name hname, Option.join_none, Option.or_none]
    cases hget : get? name fields with
    | none => rfl
    | some value => exact congrArg some (hobject.of_get? hget).canonical_eq

end WellFormed
end Json
end Espressivo
