import Espressivo.Proofs.Performance.Faults
import Espressivo.Proofs.Performance.Notes

/-!
# Concatenation

Notes that follow other notes are performed as they are on their own, under indices that are raised
by the number of notes before them. Nothing is carried over from one note to the next, neither in
the modulations nor in the diagnostics.
-/

namespace Espressivo

/-! ## Raised indices -/

def Modulation.raise (offset : Nat) (modulation : Modulation) : Modulation :=
  { modulation with index := offset + modulation.index }

def PhrasingMark.raise (offset : Nat) (mark : PhrasingMark) : PhrasingMark :=
  { mark with index := offset + mark.index }

def Diagnostic.raise (offset : Nat) (diagnostic : Diagnostic) : Diagnostic :=
  { diagnostic with index := offset + diagnostic.index }

namespace Performance

/-- The performance of the same notes that stand `offset` places later. -/
def raise (offset : Nat) (performance : Performance) : Performance where
  modulations := performance.modulations.map (Modulation.raise offset)
  phrasing := performance.phrasing.map (PhrasingMark.raise offset)
  diagnostics := performance.diagnostics.map (Diagnostic.raise offset)

theorem raise_append (offset : Nat) (a b : Performance) :
    (a ++ b).raise offset = a.raise offset ++ b.raise offset := by
  simp only [append_eq, append, raise, List.map_append]

end Performance

/-! ## Runs of notes -/

variable (settings : Settings)

/-- The performance of a note depends on its index only by carrying it. -/
theorem Note.performance_add (offset index : Nat) (note : Note) :
    note.performance settings (offset + index) =
      (note.performance settings index).raise offset := by
  simp only [Note.performance, Performance.raise, List.map_map]
  rfl

theorem performFrom_add (offset start : Nat) (notes : List Note) :
    performFrom settings (offset + start) {} notes =
      (performFrom settings start {} notes).raise offset := by
  induction notes generalizing start with
  | nil => rfl
  | cons note rest ih =>
    rw [performFrom_cons, performFrom_cons, Performance.raise_append, Note.performance_add,
      Nat.add_assoc, ih]

theorem performFrom_append (start : Nat) (a b : List Note) :
    performFrom settings start {} (a ++ b) =
      performFrom settings start {} a ++ performFrom settings (start + a.length) {} b := by
  induction a generalizing start with
  | nil => rfl
  | cons note rest ih =>
    rw [List.cons_append, performFrom_cons, performFrom_cons, ih, Performance.append_assoc,
      List.length_cons, Nat.add_assoc, Nat.add_comm 1]

/-- Notes after other notes, relative to the place where they begin. -/
theorem performFrom_zero_append (a b : List Note) :
    performFrom settings 0 {} (a ++ b) =
      performFrom settings 0 {} a ++ (performFrom settings 0 {} b).raise a.length := by
  rw [performFrom_append, ← performFrom_add, Nat.zero_add, Nat.add_zero]

variable {settings}

theorem IsFirstFault.append {a b : List Note} {index : Nat} {fault : NoteFault}
    (ha : ∀ note ∈ a, note.fault? = none) (hb : IsFirstFault b index fault) :
    IsFirstFault (a ++ b) (a.length + index) fault := by
  -- No note of the first part can be the first faulty one, so the place moves past them all.
  induction a with
  | nil => simpa using hb
  | cons note rest ih =>
    obtain ⟨hnote, hrest⟩ := List.forall_mem_cons.1 ha
    rw [List.length_cons, Nat.succ_add]
    exact isFirstFault_cons_succ_iff.2 ⟨hnote, ih hrest⟩

/-- Compilation respects concatenation, in whatever contexts the parts and the whole are compiled.
The whole has a performance if both parts have one, and then it is theirs, the second one raised by
the number of notes in the first part. Otherwise its first faulty note is reported, which may be
that of the second part, raised as well. -/
theorem compileNotes_append (settings : Settings) (context contextA contextB : Context)
    (a b : List Note) :
    (∀ performance, compileNotes settings context (a ++ b) = .ok performance ↔
      ∃ performanceA performanceB,
        compileNotes settings contextA a = .ok performanceA ∧
        compileNotes settings contextB b = .ok performanceB ∧
        performance = performanceA ++ performanceB.raise a.length) ∧
    (∀ error, compileNotes settings context (a ++ b) = .error error ↔
      ∃ index fault, IsFirstFault (a ++ b) index fault ∧ error = .invalidNote index fault ∧
        error.messages = [s!"Note #{index} is invalid: {fault.message}"]) ∧
    (∀ performanceA index fault,
      compileNotes settings contextA a = .ok performanceA →
      compileNotes settings contextB b = .error (.invalidNote index fault) →
      compileNotes settings context (a ++ b) = .error (.invalidNote (a.length + index) fault)) := by
  refine ⟨fun performance => ?_, fun error => ?_, fun performanceA index fault ha hb => ?_⟩
  · simp only [compileNotes_eq_ok_iff, List.forall_mem_append, performFrom_zero_append]
    constructor
    · intro ⟨⟨ha, hb⟩, hperformance⟩
      exact ⟨_, _, ⟨ha, rfl⟩, ⟨hb, rfl⟩, hperformance.symm⟩
    · intro ⟨performanceA, performanceB, ⟨ha, hperformA⟩, ⟨hb, hperformB⟩, hperformance⟩
      rw [hperformA, hperformB]
      exact ⟨⟨ha, hb⟩, hperformance.symm⟩
  · rw [compileNotes_eq_error_iff]
    constructor
    · intro ⟨index, fault, hfirst, herror⟩
      refine ⟨index, fault, hfirst, herror, ?_⟩
      rw [herror, CompileError.messages]
    · intro ⟨index, fault, hfirst, herror, hmessages⟩
      exact ⟨index, fault, hfirst, herror⟩
  · obtain ⟨place, found, hfirst, herror⟩ := compileNotes_eq_error_iff.1 hb
    cases herror
    have hsound := (compileNotes_eq_ok_iff.1 ha).1
    exact compileNotes_eq_error_iff.2 ⟨_, _, hfirst.append hsound, rfl⟩

/-- A marked note before two others, the second of which has no duration. -/
theorem compileNotes_append_zero_duration :
    let marked := Note.plain (some (.single 60)) 1 (some (.single (.name "staccato")))
    let rest := Note.plain none 1 none
    let empty := Note.plain none 0 none
    compileNotes .standard .standard [marked] = .ok (marked.performance .standard 0) ∧
      compileNotes .standard .standard [rest, empty] = .error (.invalidNote 1 (.badDuration 0)) ∧
      compileNotes .standard .standard ([marked] ++ [rest, empty]) =
        .error (.invalidNote 2 (.badDuration 0)) := by
  intro marked rest empty
  have ha : compileNotes .standard .standard [marked] = .ok (marked.performance .standard 0) :=
    compileNotes_singleton _ (by decide +kernel) _
  have hb : compileNotes .standard .standard [rest, empty] =
      .error (.invalidNote 1 (.badDuration 0)) := by
    refine compileNotes_eq_error_iff.2 ⟨1, .badDuration 0, ?_, rfl⟩
    refine isFirstFault_cons_succ_iff.2 ⟨by decide +kernel, ?_⟩
    exact isFirstFault_cons_zero_iff.2 (by decide +kernel)
  have hab := (compileNotes_append .standard .standard .standard .standard [marked]
    [rest, empty]).2.2 (marked.performance .standard 0) 1 (.badDuration 0) ha hb
  rw [List.length_singleton] at hab
  exact ⟨ha, hb, hab⟩

end Espressivo
