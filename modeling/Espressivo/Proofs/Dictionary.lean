import Mathlib.Data.List.Sort
import Espressivo.Dictionary

/-!
# Looking up names

A dictionary is known by what is found under each name, since its names ascend. What is found in a
dictionary that is put together or taken apart is told from its parts.
-/

namespace Espressivo
namespace Dictionary

variable {α β : Type} {entries : Dictionary α} {name : String}

/-- The names of the entries. -/
def names (entries : Dictionary α) : List String := entries.map (·.1)

@[simp] theorem get?_nil : get? name ([] : Dictionary α) = none := rfl

theorem get?_cons (key : String) (value : α) (rest : Dictionary α) :
    get? name ((key, value) :: rest) = if key = name then some value else get? name rest := rfl

theorem put_nil (value : α) : put name value [] = [(name, value)] := rfl

theorem put_cons (value : α) (key : String) (present : α) (rest : Dictionary α) :
    put name value ((key, present) :: rest) =
      if name < key then (name, value) :: (key, present) :: rest
      else if name = key then (name, value) :: rest
      else (key, present) :: put name value rest := rfl

theorem get?_eq_none_iff : get? name entries = none ↔ name ∉ names entries := by
  induction entries with
  | nil => exact iff_of_true rfl List.not_mem_nil
  | cons entry rest ih =>
    obtain ⟨key, value⟩ := entry
    rw [get?_cons, names, List.map_cons, List.mem_cons]
    by_cases hkey : key = name
    · simp [hkey]
    · rw [if_neg hkey, ih, not_or]
      exact (and_iff_right fun heq => hkey heq.symm).symm

theorem mem_of_get? {value : α} (hget : get? name entries = some value) :
    (name, value) ∈ entries := by
  induction entries with
  | nil => cases hget
  | cons entry rest ih =>
    obtain ⟨key, present⟩ := entry
    rw [get?_cons] at hget
    split at hget
    · rename_i hkey
      cases hget
      rw [hkey]
      exact List.mem_cons_self
    · exact List.mem_cons_of_mem _ (ih hget)

theorem get?_eq_some_iff (hdistinct : (names entries).Nodup) {value : α} :
    get? name entries = some value ↔ (name, value) ∈ entries := by
  refine ⟨mem_of_get?, fun hentry => ?_⟩
  induction entries with
  | nil => cases hentry
  | cons head rest ih =>
    obtain ⟨key, present⟩ := head
    obtain ⟨hnew, hrest⟩ := List.nodup_cons.1 hdistinct
    rw [get?_cons]
    rcases List.mem_cons.1 hentry with heq | hentry
    · cases heq
      exact if_pos rfl
    · have hname : name ∈ names rest := List.mem_map_of_mem hentry
      rw [if_neg fun heq : key = name => hnew (heq ▸ hname), ih hrest hentry]

theorem nodup_names_of_perm {others : List (String × α)} (hdistinct : (names entries).Nodup)
    (hperm : others.Perm entries) : (names others).Nodup :=
  (hperm.map fun entry : String × α => entry.1).nodup_iff.2 hdistinct

/-- Without two entries of one name their order does not matter. -/
theorem get?_of_perm {others : List (String × α)} (hdistinct : (names entries).Nodup)
    (hperm : others.Perm entries) : get? name others = get? name entries := by
  have hothers := nodup_names_of_perm hdistinct hperm
  refine Option.ext fun value => ?_
  rw [get?_eq_some_iff hothers, get?_eq_some_iff hdistinct, hperm.mem_iff]

/-- The first entry of a name counts. -/
theorem get?_eq_head? (entries : List (String × α)) :
    get? name entries = ((entries.filter (·.1 = name)).head?).map (·.2) := by
  induction entries with
  | nil => rfl
  | cons entry rest ih =>
    obtain ⟨key, value⟩ := entry
    rw [get?_cons]
    by_cases hkey : key = name
    · rw [if_pos hkey, List.filter_cons_of_pos (by simpa using hkey)]
      rfl
    · rw [if_neg hkey, List.filter_cons_of_neg (by simpa using hkey), ih]

theorem get?_append (first second : List (String × α)) :
    get? name (first ++ second) = (get? name first).or (get? name second) := by
  induction first with
  | nil => rfl
  | cons entry rest ih =>
    obtain ⟨key, value⟩ := entry
    rw [List.cons_append, get?_cons, get?_cons, ih]
    split <;> rfl

/-! ## Parts -/

theorem get?_map (f : String → α → β) (entries : Dictionary α) :
    get? name (entries.map fun entry => (entry.1, f entry.1 entry.2)) =
      (get? name entries).map (f name) := by
  induction entries with
  | nil => rfl
  | cons entry rest ih =>
    obtain ⟨key, value⟩ := entry
    rw [List.map_cons, get?_cons, get?_cons]
    by_cases hkey : key = name
    · rw [if_pos hkey, if_pos hkey, hkey, Option.map_some]
    · rw [if_neg hkey, if_neg hkey]
      exact ih

theorem get?_without (taken : List String) (entries : Dictionary α) :
    get? name (without taken entries) = if name ∈ taken then none else get? name entries := by
  rw [without]
  induction entries with
  | nil => simp
  | cons entry rest ih =>
    obtain ⟨key, value⟩ := entry
    rw [List.filter_cons, get?_cons]
    by_cases htaken : key ∈ taken
    · rw [if_neg (by simpa using htaken), ih]
      split
      · rfl
      · rename_i hname
        rw [if_neg fun heq : key = name => hname (heq ▸ htaken)]
    · rw [if_pos (by simpa using htaken), get?_cons, ih]
      by_cases hkey : key = name
      · rw [if_pos hkey, if_pos hkey, if_neg (hkey ▸ htaken)]
      · rw [if_neg hkey, if_neg hkey]

/-! ## Entries set -/

theorem get?_put_self (name : String) (value : α) (entries : Dictionary α) :
    get? name (put name value entries) = some value := by
  induction entries with
  | nil => simp [put_nil, get?_cons]
  | cons entry rest ih =>
    obtain ⟨key, present⟩ := entry
    rw [put_cons]
    split
    · simp [get?_cons]
    · split
      · simp [get?_cons]
      · rename_i hkey
        rw [get?_cons, if_neg (Ne.symm hkey), ih]

theorem get?_put_of_ne {other : String} (hother : other ≠ name) (value : α)
    (entries : Dictionary α) : get? other (put name value entries) = get? other entries := by
  induction entries with
  | nil => simp [put_nil, get?_cons, hother.symm]
  | cons entry rest ih =>
    obtain ⟨key, present⟩ := entry
    rw [put_cons]
    split
    · rw [get?_cons, if_neg hother.symm]
    · split
      · rename_i hkey
        rw [get?_cons, get?_cons, if_neg hother.symm, if_neg (hkey ▸ hother.symm)]
      · rw [get?_cons, get?_cons, ih]

theorem get?_put (key : String) (value : α) (entries : Dictionary α) :
    get? name (put key value entries) = (get? name [(key, value)]).or (get? name entries) := by
  rw [get?_cons]
  by_cases hkey : key = name
  · rw [if_pos hkey, hkey, get?_put_self]
    rfl
  · rw [if_neg hkey, get?_put_of_ne (Ne.symm hkey)]
    rfl

/-- The last entry of a name counts. -/
theorem get?_foldl_put (added : List (String × α)) (entries : Dictionary α) :
    get? name (added.foldl (fun dictionary entry => put entry.1 entry.2 dictionary) entries) =
      (get? name added.reverse).or (get? name entries) := by
  induction added generalizing entries with
  | nil => rfl
  | cons entry rest ih =>
    rw [List.foldl_cons, ih, get?_put, List.reverse_cons, get?_append, Option.or_assoc]

theorem get?_ofList_eq_reverse (added : List (String × α)) :
    get? name (ofList added) = get? name added.reverse := by
  rw [ofList, get?_foldl_put, get?_nil, Option.or_none]

theorem get?_reverse {added : List (String × α)} (hdistinct : (names added).Nodup) :
    get? name added.reverse = get? name added :=
  get?_of_perm hdistinct (List.reverse_perm added)

theorem get?_ofList {added : List (String × α)} (hdistinct : (names added).Nodup) :
    get? name (ofList added) = get? name added := by
  rw [get?_ofList_eq_reverse, get?_reverse hdistinct]

/-! ## Sorted dictionaries -/

instance (entries : Dictionary α) : Decidable (Sorted entries) :=
  inferInstanceAs (Decidable (entries.Pairwise (·.1 < ·.1)))

theorem Sorted.nodup_names (hsorted : Sorted entries) : (names entries).Nodup := by
  refine List.pairwise_map.2 (hsorted.imp fun {a b} hless heq => ?_)
  rw [heq] at hless
  exact String.lt_irrefl _ hless

theorem Sorted.without (hsorted : Sorted entries) (taken : List String) :
    Sorted (without taken entries) :=
  hsorted.filter _

theorem Sorted.map (hsorted : Sorted entries) (f : String → α → β) :
    Sorted (entries.map fun entry => (entry.1, f entry.1 entry.2)) :=
  List.pairwise_map.2 hsorted

theorem Sorted.mem_iff (hsorted : Sorted entries) {entry : String × α} :
    entry ∈ entries ↔ get? entry.1 entries = some entry.2 :=
  (get?_eq_some_iff hsorted.nodup_names).symm

theorem Sorted.get?_filter (hsorted : Sorted entries) (keep : String × α → Bool) :
    get? name (entries.filter keep) =
      (get? name entries).filter fun value => keep (name, value) := by
  induction entries with
  | nil => rfl
  | cons entry rest ih =>
    obtain ⟨key, value⟩ := entry
    have hnew := (List.nodup_cons.1 hsorted.nodup_names).1
    have hlater := ih (List.pairwise_cons.1 hsorted).2
    rw [List.filter_cons, get?_cons]
    by_cases hkey : key = name
    · subst hkey
      rw [if_pos rfl, Option.filter_some]
      split
      · rw [get?_cons, if_pos rfl]
      · rw [hlater, get?_eq_none_iff.2 hnew, Option.filter_none]
    · rw [if_neg hkey, ← hlater]
      split
      · rw [get?_cons, if_neg hkey]
      · rfl

/-- Dictionaries are equal if the same is found in them. -/
theorem Sorted.ext {others : Dictionary α} (hsorted : Sorted entries) (hothers : Sorted others)
    (hget : ∀ name, get? name entries = get? name others) : entries = others := by
  have hirrefl : Std.Irrefl fun a b : String × α => a.1 < b.1 := ⟨fun a => String.lt_irrefl a.1⟩
  have hantisymm : Std.Antisymm fun a b : String × α => a.1 < b.1 :=
    ⟨fun _ _ hab hba => absurd (String.lt_trans hab hba) (String.lt_irrefl _)⟩
  refine List.Pairwise.eq_of_mem_iff hsorted hothers fun entry => ?_
  rw [hsorted.mem_iff, hothers.mem_iff, hget]

theorem ofList_of_sorted (hsorted : Sorted entries) : ofList entries = entries :=
  (sorted_ofList entries).ext hsorted fun _ => get?_ofList hsorted.nodup_names

/-- Without two entries of one name their order does not matter. -/
theorem ofList_of_perm {added others : List (String × α)} (hdistinct : (names added).Nodup)
    (hperm : others.Perm added) : ofList others = ofList added := by
  have hothers := nodup_names_of_perm hdistinct hperm
  refine (sorted_ofList others).ext (sorted_ofList added) fun name => ?_
  rw [get?_ofList hothers, get?_ofList hdistinct, get?_of_perm hdistinct hperm]

theorem mem_of_mem_ofList {added : List (String × α)} {entry : String × α}
    (hentry : entry ∈ ofList added) : entry ∈ added := by
  have hget := (sorted_ofList added).mem_iff.1 hentry
  rw [get?_ofList_eq_reverse] at hget
  exact List.mem_reverse.1 (mem_of_get? hget)

end Dictionary
end Espressivo
