/-!
# Dictionaries

Finite maps from names to values as lists of entries in ascending order of their names, which are
ordered by code point. Dictionaries are plain lists, so that they can occur inside recursive types;
`Dictionary.Sorted` is the invariant, which `put` and `ofList` establish.
-/

namespace Espressivo

abbrev Dictionary (α : Type) := List (String × α)

namespace Dictionary

variable {α : Type}

/-- The names ascend strictly. -/
def Sorted (entries : Dictionary α) : Prop := entries.Pairwise (·.1 < ·.1)

/-- The value under a name. -/
def get? (name : String) : Dictionary α → Option α
  | [] => none
  | (key, value) :: rest => if key = name then some value else get? name rest

/-- Sets the value under a name, in its place in the order. -/
def put (name : String) (value : α) : Dictionary α → Dictionary α
  | [] => [(name, value)]
  | (key, present) :: rest =>
    if name < key then (name, value) :: (key, present) :: rest
    else if name = key then (name, value) :: rest
    else (key, present) :: put name value rest

/-- The dictionary of the given entries; a later entry replaces an earlier one of the same name. -/
def ofList (entries : List (String × α)) : Dictionary α :=
  entries.foldl (fun dictionary entry => put entry.1 entry.2 dictionary) []

/-- The entries whose names are not among the given ones. -/
def without (names : List String) (entries : Dictionary α) : Dictionary α :=
  entries.filter fun entry => entry.1 ∉ names

theorem sorted_nil : Sorted ([] : Dictionary α) := List.Pairwise.nil

theorem mem_put {name : String} {value : α} {entry : String × α} {entries : Dictionary α}
    (hentry : entry ∈ put name value entries) : entry = (name, value) ∨ entry ∈ entries := by
  induction entries with
  | nil => simpa [put] using hentry
  | cons head rest ih =>
    unfold put at hentry
    grind

theorem Sorted.put {entries : Dictionary α} (hsorted : Sorted entries) (name : String) (value : α) :
    Sorted (put name value entries) := by
  induction entries with
  | nil => simp [Dictionary.put, Sorted]
  | cons head rest ih =>
    obtain ⟨key, present⟩ := head
    obtain ⟨hhead, hrest⟩ := List.pairwise_cons.1 hsorted
    unfold Dictionary.put
    split
    · rename_i hless
      refine List.pairwise_cons.2 ⟨fun entry hentry => ?_, hsorted⟩
      rcases List.mem_cons.1 hentry with rfl | hentry
      · exact hless
      · exact String.lt_trans hless (hhead entry hentry)
    · split
      · rename_i hname
        subst hname
        exact List.pairwise_cons.2 ⟨hhead, hrest⟩
      · rename_i hless hname
        refine List.pairwise_cons.2 ⟨fun entry hentry => ?_, ih hrest⟩
        rcases mem_put hentry with rfl | hentry
        · exact Decidable.byContradiction fun hnot =>
            hname (String.le_antisymm (String.not_lt.1 hnot) (String.not_lt.1 hless))
        · exact hhead entry hentry

theorem sorted_foldl_put (added : List (String × α)) {entries : Dictionary α}
    (hsorted : Sorted entries) :
    Sorted (added.foldl (fun dictionary entry => put entry.1 entry.2 dictionary) entries) := by
  induction added generalizing entries with
  | nil => exact hsorted
  | cons entry rest ih => exact ih (hsorted.put entry.1 entry.2)

theorem sorted_ofList (entries : List (String × α)) : Sorted (ofList entries) :=
  sorted_foldl_put entries sorted_nil

end Dictionary
end Espressivo
