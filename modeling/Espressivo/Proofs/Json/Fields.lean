import Espressivo.Json.Decode
import Espressivo.Timing.Document
import Espressivo.Proofs.Dictionary

/-!
# Changed fields

Changing one field of an object changes the value that is found under its name, and nothing that is
found under another one or left when it is taken away.
-/

namespace Espressivo

namespace Dictionary

variable {α : Type}

/-- Changes the value under a name. -/
def modify (name : String) (f : α → α) (entries : Dictionary α) : Dictionary α :=
  entries.map fun entry => (entry.1, if entry.1 = name then f entry.2 else entry.2)

theorem get?_modify (name other : String) (f : α → α) (entries : Dictionary α) :
    get? other (modify name f entries) =
      (get? other entries).map fun value => if other = name then f value else value :=
  get?_map (fun key value => if key = name then f value else value) entries

theorem get?_modify_self (name : String) (f : α → α) (entries : Dictionary α) :
    get? name (modify name f entries) = (get? name entries).map f := by
  simp only [get?_modify, if_true]

theorem get?_modify_of_ne {name other : String} (hother : other ≠ name) (f : α → α)
    (entries : Dictionary α) : get? other (modify name f entries) = get? other entries := by
  simp only [get?_modify, if_neg hother, Option.map_id']

theorem modify_modify (name : String) (f g : α → α) (entries : Dictionary α) :
    modify name f (modify name g entries) = modify name (f ∘ g) entries := by
  rw [modify, modify, modify, List.map_map]
  refine List.map_congr_left fun entry _ => ?_
  by_cases hname : entry.1 = name <;> simp [hname]

/-- Changes under different names do not meet. -/
theorem modify_comm {name other : String} (hother : other ≠ name) (f g : α → α)
    (entries : Dictionary α) :
    modify name f (modify other g entries) = modify other g (modify name f entries) := by
  rw [modify, modify, modify, modify, List.map_map, List.map_map]
  refine List.map_congr_left fun entry _ => ?_
  by_cases hname : entry.1 = name
  · simp [hname, hother.symm]
  · simp [hname]

theorem without_modify {name : String} {names : List String} (hname : name ∈ names) (f : α → α)
    (entries : Dictionary α) : without names (modify name f entries) = without names entries := by
  rw [without, without]
  induction entries with
  | nil => rfl
  | cons entry rest ih =>
    rw [modify, List.map_cons, List.filter_cons, List.filter_cons]
    by_cases hkey : entry.1 ∈ names
    · simp only [hkey, not_true_eq_false, decide_false, Bool.false_eq_true, if_false]
      exact ih
    · have hne : entry.1 ≠ name := fun heq => hkey (heq ▸ hname)
      simp only [hkey, not_false_eq_true, decide_true, if_true, if_neg hne]
      exact congrArg _ ih

end Dictionary

namespace Json

theorem mapField_object (name : String) (f : Json → Json) (fields : Dictionary Json) :
    mapField name f (.object fields) = .object (Dictionary.modify name f fields) := rfl

theorem mapField_mapField (name : String) (f g : Json → Json) (value : Json) :
    mapField name f (mapField name g value) = mapField name (f ∘ g) value := by
  cases value with
  | object fields => exact congrArg Json.object (Dictionary.modify_modify name f g fields)
  | _ => rfl

theorem mapField_comm {name other : String} (hother : other ≠ name) (f g : Json → Json)
    (value : Json) : mapField name f (mapField other g value) =
      mapField other g (mapField name f value) := by
  cases value with
  | object fields => exact congrArg Json.object (Dictionary.modify_comm hother f g fields)
  | _ => rfl

theorem mapItems_mapItems (f g : Json → Json) (value : Json) :
    mapItems f (mapItems g value) = mapItems (f ∘ g) value := by
  cases value with
  | array items => exact congrArg Json.array List.map_map
  | _ => rfl

/-- The items of a changed list. -/
theorem get?_modify_mapItems {name : String} {fields : Dictionary Json} {items : List Json}
    (hitems : Dictionary.get? name fields = some (.array items)) (f : Json → Json) :
    Dictionary.get? name (Dictionary.modify name (mapItems f) fields) =
      some (.array (items.map f)) := by
  rw [Dictionary.get?_modify_self, hitems]
  rfl

namespace Decode

variable {α : Type} {name other : String} {f : Json → Json} {fields : Dictionary Json}

theorem optional_modify_self (decode : Decoder α) :
    optional (Dictionary.modify name f fields) name decode =
      optional fields name fun value => decode (f value) := by
  rw [optional, optional, Dictionary.get?_modify_self]
  cases Dictionary.get? name fields <;> rfl

theorem optional_modify_of_ne (hother : other ≠ name) (decode : Decoder α) :
    optional (Dictionary.modify name f fields) other decode = optional fields other decode := by
  rw [optional, optional, Dictionary.get?_modify_of_ne hother]

theorem optionalNullable_modify_of_ne (hother : other ≠ name) (decode : Decoder α) :
    optionalNullable (Dictionary.modify name f fields) other decode =
      optionalNullable fields other decode := by
  rw [optionalNullable, optionalNullable, optional_modify_of_ne hother]

end Decode
end Json
end Espressivo
