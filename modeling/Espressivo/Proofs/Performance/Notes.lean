import Mathlib.Data.List.Forall2
import Espressivo.Proofs.Performance.Faults

/-!
# Notes on their own

Each stage in the performance of a note takes the diagnostics so far and adds to them, without
looking at them. What it hands on and what it adds is told here apart from them, so that every note
has a performance of its own, which is put after those of the notes before it.
-/

namespace Espressivo

/-! ## Computations that only add to the diagnostics -/

namespace Diagnosing

variable {α β : Type} {index : Nat}

/-- Whatever the diagnostics so far are, the computation returns the value and adds the findings
about the note at the index to them. -/
def Yields (index : Nat) (computation : Diagnosing α) (value : α) (findings : List Finding) :
    Prop :=
  ∀ diagnostics, computation.run diagnostics =
    (value, diagnostics ++ findings.map (Diagnostic.mk index))

theorem Yields.pure (value : α) : Yields index (pure value) value [] := by
  intro diagnostics
  rw [List.map_nil, List.append_nil]
  rfl

theorem Yields.report (findings : List Finding) :
    Yields index (report index findings) () findings := by
  intro diagnostics
  rfl

theorem Yields.bind {first : Diagnosing α} {next : α → Diagnosing β} {a : α} {b : β}
    {earlier later : List Finding} (hfirst : Yields index first a earlier)
    (hnext : Yields index (next a) b later) :
    Yields index (first >>= next) b (earlier ++ later) := by
  intro diagnostics
  rw [StateT.run_bind, hfirst, List.map_append, ← List.append_assoc]
  exact hnext _

theorem Yields.bind_pure {computation : Diagnosing α} {a : α} {findings : List Finding}
    (hcomputation : Yields index computation a findings) (f : α → β) :
    Yields index (computation >>= fun a => Pure.pure (f a)) (f a) findings := by
  have hbind : Yields index (computation >>= fun a => Pure.pure (f a)) (f a) (findings ++ []) :=
    hcomputation.bind (.pure (f a))
  rwa [List.append_nil] at hbind

end Diagnosing

open Diagnosing

/-! ## Stages -/

theorem filterMap_cons_eq_append {α β : Type} (f : α → Option β) (item : α) (rest : List α) :
    (item :: rest).filterMap f = (f item).toList ++ rest.filterMap f := by
  cases hvalue : f item <;> simp [hvalue]

theorem articulationsOf_cons (reading : Reading) (rest : List Reading) :
    articulationsOf (reading :: rest) = reading.articulation?.toList ++ articulationsOf rest :=
  filterMap_cons_eq_append _ reading rest

theorem findingsOf_cons (reading : Reading) (rest : List Reading) :
    findingsOf (reading :: rest) = reading.finding?.toList ++ findingsOf rest :=
  filterMap_cons_eq_append _ reading rest

section

variable (table : ShorthandTable) (c : Coefficients) (index : Nat) (origin? : Option UInt8)

theorem yields_readEntries (entries : List Entry) :
    Yields index (readEntries table index entries)
      (articulationsOf (entries.map (Reading.ofEntry table)))
      (findingsOf (entries.map (Reading.ofEntry table))) := by
  induction entries with
  | nil => exact .pure []
  | cons entry rest ih =>
    rw [readEntries, List.map_cons, articulationsOf_cons, findingsOf_cons]
    exact (Yields.report _).bind (ih.bind_pure _)

theorem yields_contribute (articulations : List Articulation) :
    Yields index (contribute c index origin? articulations)
      (articulations.flatMap (Articulation.contributions c origin?))
      (articulations.flatMap (Articulation.findings origin?)) := by
  induction articulations with
  | nil => exact .pure []
  | cons articulation rest ih =>
    rw [contribute, List.flatMap_cons, List.flatMap_cons]
    exact (Yields.report _).bind (ih.bind_pure _)

theorem yields_resolve (contributions : List Contribution) :
    Yields index (resolve c index contributions)
      { modulations := ((Combination.ofContributions contributions).effects c).map (⟨index, ·⟩)
        phrasing := (Combination.ofContributions contributions).phrasing.map (⟨index, ·⟩) }
      (Combination.ofContributions contributions).findings :=
  (Yields.report _).bind_pure _

end

/-! ## The performance of a note -/

namespace Note

variable (settings : Settings) (index : Nat) (note : Note)

/-- What the entries of the note's markings yield. -/
def readings : List Reading := note.entries.map (Reading.ofEntry settings.shorthands)

def articulations : List Articulation := articulationsOf (note.readings settings)

/-- What the articulations of the note come to. -/
def combination : Combination :=
  .ofContributions ((note.articulations settings).flatMap
    (Articulation.contributions settings.coefficients note.primaryPitch?))

/-- The findings about the note: those of its entries, of its glides on their own, and of their
combination. -/
def findings : List Finding :=
  findingsOf (note.readings settings) ++
    (note.articulations settings).flatMap (Articulation.findings note.primaryPitch?) ++
    (note.combination settings).findings

/-- The performance of the note alone, under an index. -/
def performance : Performance where
  modulations := ((note.combination settings).effects settings.coefficients).map (⟨index, ·⟩)
  phrasing := (note.combination settings).phrasing.map (⟨index, ·⟩)
  diagnostics := (note.findings settings).map (⟨index, ·⟩)

theorem yields_mapM_read (table : ShorthandTable) (markings : List Markings) :
    Yields index (markings.mapM (Markings.read table index))
      (markings.map fun marking => articulationsOf (marking.entries.map (Reading.ofEntry table)))
      (findingsOf ((markings.flatMap Markings.entries).map (Reading.ofEntry table))) := by
  induction markings with
  | nil => exact .pure []
  | cons marking rest ih =>
    rw [List.mapM_cons, List.map_cons, List.flatMap_cons, List.map_append, findingsOf,
      List.filterMap_append]
    exact (yields_readEntries table index marking.entries).bind (ih.bind_pure _)

theorem yields_read :
    Yields index (note.read settings index) (note.articulations settings)
      (findingsOf (note.readings settings)) := by
  have harticulations : note.articulations settings =
      (note.markings.map fun marking =>
        articulationsOf (marking.entries.map (Reading.ofEntry settings.shorthands))).flatten := by
    rw [← List.flatMap_def, articulations, readings, entries, articulationsOf, List.map_flatMap,
      List.filterMap_flatMap]
    rfl
  rw [harticulations]
  exact (yields_mapM_read index settings.shorthands note.markings).bind_pure List.flatten

/-- Passing over a note without articulations changes nothing, since nothing comes of none. -/
theorem yields_perform :
    Yields index (note.perform settings index)
      ⟨(note.performance settings index).modulations, (note.performance settings index).phrasing⟩
      (note.findings settings) := by
  rw [perform, findings, List.append_assoc]
  refine (yields_read settings index note).bind ?_
  by_cases hempty : note.articulations settings = []
  · -- Without articulations there are no contributions and no findings about glides either.
    have hcombination : note.combination settings = {} := by
      rw [combination, hempty]
      rfl
    rw [performance, hcombination, hempty]
    exact Yields.pure ({} : NotePerformance)
  · have hisEmpty : ¬ (note.articulations settings).isEmpty := by
      rwa [List.isEmpty_iff]
    rw [if_neg hisEmpty]
    exact (yields_contribute _ _ _ _).bind (yields_resolve _ _ _)

end Note

namespace Performance

def append (a b : Performance) : Performance where
  modulations := a.modulations ++ b.modulations
  phrasing := a.phrasing ++ b.phrasing
  diagnostics := a.diagnostics ++ b.diagnostics

instance : Append Performance := ⟨append⟩

theorem append_eq (a b : Performance) : a ++ b = a.append b := rfl

theorem modulations_append (a b : Performance) :
    (a ++ b).modulations = a.modulations ++ b.modulations := rfl

theorem empty_append (a : Performance) : ({} : Performance) ++ a = a := rfl

theorem append_empty (a : Performance) : a ++ ({} : Performance) = a := by
  simp only [append_eq, append, List.append_nil]

theorem append_assoc (a b c : Performance) : a ++ b ++ c = a ++ (b ++ c) := by
  simp only [append_eq, append, List.append_assoc]

/-- The performance so far has no influence on what is added to it. -/
theorem addNote_eq (settings : Settings) (index : Nat) (performance : Performance) (note : Note) :
    performance.addNote settings index note = performance ++ note.performance settings index := by
  rw [addNote, note.yields_perform settings index performance.diagnostics]
  rfl

end Performance

variable (settings : Settings) (start : Nat)

theorem performFrom_eq_append (performance : Performance) (notes : List Note) :
    performFrom settings start performance notes =
      performance ++ performFrom settings start {} notes := by
  induction notes generalizing start performance with
  | nil => rw [performFrom, performFrom, Performance.append_empty]
  | cons note rest ih =>
    rw [performFrom, performFrom, ih, ih _ (Performance.addNote settings start {} note),
      Performance.addNote_eq, Performance.addNote_eq, Performance.empty_append,
      Performance.append_assoc]

/-- The performance of notes is that of the first note, followed by that of the others. -/
theorem performFrom_cons (note : Note) (rest : List Note) :
    performFrom settings start {} (note :: rest) =
      note.performance settings start ++ performFrom settings (start + 1) {} rest := by
  rw [performFrom, performFrom_eq_append, Performance.addNote_eq, Performance.empty_append]

/-- Notes may take each other's places if they are performed alike under every index. -/
theorem performFrom_eq_of_forall₂ {a b : List Note}
    (hnotes : List.Forall₂ (fun x y : Note =>
      ∀ index, x.performance settings index = y.performance settings index) a b) :
    performFrom settings start {} a = performFrom settings start {} b := by
  induction hnotes generalizing start with
  | nil => rfl
  | cons hnote hrest ih => rw [performFrom_cons, performFrom_cons, hnote, ih]

theorem performFrom_singleton (note : Note) :
    performFrom settings start {} [note] = note.performance settings start := by
  rw [performFrom_cons, performFrom, Performance.append_empty]

theorem compileNotes_singleton {note : Note} (hsound : note.fault? = none) (context : Context) :
    compileNotes settings context [note] = .ok (note.performance settings 0) :=
  compileNotes_eq_ok_iff.2
    ⟨List.forall_mem_singleton.2 hsound, performFrom_singleton settings 0 note⟩

end Espressivo
