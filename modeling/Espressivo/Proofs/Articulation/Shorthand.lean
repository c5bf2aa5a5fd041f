import Mathlib.Algebra.Ring.Nat
import Mathlib.Data.List.Nodup
import Espressivo.Articulation.Shorthand
import Espressivo.Proofs.Dictionary
import Espressivo.Proofs.Text.Casing

/-!
# Tables of shorthands

A table keeps its names in a form that is its own form. A name stands for the kind it was last
given; the names of a table are divided among the kinds.
-/

namespace Espressivo

namespace ArticulationKind

def all : List ArticulationKind := names.map (·.2)

theorem mem_all (kind : ArticulationKind) : kind ∈ all := by
  cases kind with
  | simple kind => cases kind <;> decide
  | glide kind => cases kind <;> decide

theorem nodup_all : all.Nodup := by decide

end ArticulationKind

namespace ShorthandTable

open Dictionary (get? Sorted)

theorem normalize_normalize (name : String) : normalize (normalize name) = normalize name := by
  unfold normalize
  rw [String.toList_ofList, Text.lowercase_trim_lowercase_trim]

/-- The table keeps its names in the form they are looked up by. -/
def IsNormal (table : ShorthandTable) : Prop :=
  ∀ name ∈ Dictionary.names table.entries, normalize name = name

theorem isNormal_ofList (names : List (String × ArticulationKind)) : (ofList names).IsNormal := by
  intro name hname
  obtain ⟨entry, hentry, rfl⟩ := List.mem_map.1 hname
  obtain ⟨given, -, rfl⟩ := List.mem_map.1 (Dictionary.mem_of_mem_ofList hentry)
  exact normalize_normalize given.1

theorem IsNormal.map_normalize {table : ShorthandTable} (hnormal : table.IsNormal) {β : Type}
    (f : String → ArticulationKind → β) :
    (table.entries.map fun entry => f (normalize entry.1) entry.2) =
      table.entries.map fun entry => f entry.1 entry.2 := by
  refine List.map_congr_left fun entry hentry => ?_
  rw [hnormal entry.1 (List.mem_map_of_mem hentry)]

/-- A table that keeps its names in their form is the table of its names. -/
theorem IsNormal.ofList_entries {table : ShorthandTable} (hnormal : table.IsNormal) :
    ofList table.entries = table := by
  have hsame := hnormal.map_normalize Prod.mk
  obtain ⟨entries, hsorted⟩ := table
  unfold ofList
  congr 1
  rw [hsame, List.map_id', Dictionary.ofList_of_sorted hsorted]

/-! ## Look-up -/

/-- The last name of the same form counts. -/
theorem lookup?_ofList (names : List (String × ArticulationKind)) (query : String) :
    (ofList names).lookup? query =
      ((names.filter fun entry => normalize entry.1 = normalize query).getLast?).map (·.2) := by
  show get? (normalize query) (Dictionary.ofList _) = _
  rw [Dictionary.get?_ofList_eq_reverse, Dictionary.get?_eq_head?, List.filter_reverse,
    List.head?_reverse, List.filter_map, List.getLast?_map, Option.map_map]
  simp only [Function.comp_def]

/-- Names of different forms can be given in any order. -/
theorem ofList_of_perm {names others : List (String × ArticulationKind)}
    (hdistinct : (names.map fun entry => normalize entry.1).Nodup) (hperm : others.Perm names) :
    ofList others = ofList names := by
  have hforms : (Dictionary.names (names.map fun entry => (normalize entry.1, entry.2))).Nodup := by
    rwa [Dictionary.names, List.map_map]
  unfold ofList
  congr 1
  exact Dictionary.ofList_of_perm hforms (hperm.map _)

/-! ## Aliases -/

section

variable {table : ShorthandTable} {kind : ArticulationKind} {name : String}

theorem aliases_pairwise (table : ShorthandTable) (kind : ArticulationKind) :
    (table.aliases kind).Pairwise (· < ·) :=
  List.pairwise_map.2 (table.sorted.filter _)

theorem mem_aliases : name ∈ table.aliases kind ↔ get? name table.entries = some kind := by
  rw [Dictionary.get?_eq_some_iff table.sorted.nodup_names, aliases, List.mem_map]
  constructor
  · rintro ⟨entry, hentry, rfl⟩
    obtain ⟨hentry, hkind⟩ := List.mem_filter.1 hentry
    rwa [← of_decide_eq_true hkind]
  · intro hentry
    exact ⟨(name, kind), List.mem_filter.2 ⟨hentry, decide_eq_true rfl⟩, rfl⟩

theorem IsNormal.mem_aliases_iff (hnormal : table.IsNormal) :
    name ∈ table.aliases kind ↔ normalize name = name ∧ table.lookup? name = some kind := by
  rw [mem_aliases, lookup?]
  constructor
  · intro hget
    have hname : name ∈ Dictionary.names table.entries :=
      List.mem_map_of_mem (Dictionary.mem_of_get? hget)
    rw [hnormal name hname]
    exact ⟨rfl, hget⟩
  · rintro ⟨hform, hget⟩
    rwa [hform] at hget

/-- Each name is an alias of one kind. -/
theorem aliases_perm (table : ShorthandTable) :
    (ArticulationKind.all.flatMap table.aliases).Perm (Dictionary.names table.entries) := by
  have hdisjoint : ArticulationKind.all.Pairwise (Function.onFun List.Disjoint table.aliases) := by
    refine ArticulationKind.nodup_all.imp fun hne name hfirst hsecond => hne ?_
    rw [mem_aliases] at hfirst hsecond
    exact Option.some.inj (hfirst.symm.trans hsecond)
  have hnodup : (ArticulationKind.all.flatMap table.aliases).Nodup := by
    refine List.nodup_flatMap.2 ⟨fun kind _ => ?_, hdisjoint⟩
    exact (table.aliases_pairwise kind).imp String.ne_of_lt
  refine (List.perm_ext_iff_of_nodup hnodup table.sorted.nodup_names).2 fun name => ?_
  rw [List.mem_flatMap, ← not_iff_not, ← Dictionary.get?_eq_none_iff]
  constructor
  · intro hnone
    refine Option.eq_none_iff_forall_ne_some.2 fun kind hget => ?_
    exact hnone ⟨kind, kind.mem_all, mem_aliases.2 hget⟩
  · rintro hnone ⟨kind, -, hname⟩
    rw [mem_aliases, hnone] at hname
    cases hname

end

/-- A name stands for the kind that a name of its form was last given. Names of different forms can
be given in any order. The aliases of the kinds are sorted, and are the names of the table, each
once. -/
theorem ofList_answers (names : List (String × ArticulationKind)) :
    (∀ query, (ofList names).lookup? query =
      ((names.filter fun entry => normalize entry.1 = normalize query).getLast?).map (·.2)) ∧
    ((names.map fun entry => normalize entry.1).Nodup →
      ∀ others, others.Perm names → ofList others = ofList names) ∧
    (∀ kind, ((ofList names).aliases kind).Pairwise (· < ·) ∧
      ∀ name, name ∈ (ofList names).aliases kind ↔
        normalize name = name ∧ (ofList names).lookup? name = some kind) ∧
    (ArticulationKind.all.flatMap (ofList names).aliases).Perm
      (Dictionary.names (ofList names).entries) ∧
    (ArticulationKind.all.map fun kind => ((ofList names).aliases kind).length).sum =
      (ofList names).entries.length := by
  refine ⟨lookup?_ofList names, fun hdistinct others => ofList_of_perm hdistinct,
    fun kind => ⟨aliases_pairwise _ kind, fun name => (isNormal_ofList names).mem_aliases_iff⟩,
    aliases_perm _, ?_⟩
  rw [← List.length_flatMap, (aliases_perm _).length_eq, Dictionary.names, List.length_map]

/-- The standard names can be given in any order. Of two spellings of one word only the last counts,
whatever the letters at its end. -/
theorem ofList_answers_standard :
    let names : List (String × ArticulationKind) :=
      [("ΣΑΣ", .simple .accent), ("^", .simple .marcato), (" σας ", .simple .tenuto)]
    (standard.entries.map fun entry => normalize entry.1).Nodup ∧
      (∀ others, others.Perm standard.entries → ofList others = standard) ∧
      (ofList names).lookup? "\tΣας\n" = some (.simple .tenuto) ∧
      (ofList names).lookup? "σα" = none ∧
      "σας" ∈ (ofList names).aliases (.simple .tenuto) ∧
      (ofList names).aliases (.simple .accent) = [] := by
  intro names
  have hnormal : standard.IsNormal := isNormal_ofList _
  have hdistinct : (standard.entries.map fun entry => normalize entry.1).Nodup := by
    rw [hnormal.map_normalize fun name _ => name]
    exact standard.sorted.nodup_names
  have hstandard : ofList standard.entries = standard := hnormal.ofList_entries
  obtain ⟨-, hperm, -⟩ := ofList_answers standard.entries
  obtain ⟨hnames, -, haliases, -⟩ := ofList_answers names
  have hlast : (ofList names).lookup? "σας" = some (.simple .tenuto) := by
    rw [hnames]
    decide +kernel
  refine ⟨hdistinct, fun others hothers => (hperm hdistinct others hothers).trans hstandard, ?_, ?_,
    ((haliases _).2 _).2 ⟨by decide +kernel, hlast⟩, by decide +kernel⟩
  · rw [hnames]
    decide +kernel
  · rw [hnames]
    decide +kernel

end ShorthandTable
end Espressivo
