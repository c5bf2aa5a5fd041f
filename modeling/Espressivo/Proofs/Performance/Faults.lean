import Espressivo.Performance.Compilation

/-!
# Faulty notes

A list of notes has a performance if no note is faulty, and then the performances of the notes make
it up. Otherwise the first faulty note is reported, under its place in the list.
-/

namespace Espressivo

/-- A note at the beginning of a track, with a pitch and markings only. -/
def Note.plain (pitch? : Option Pitch) (duration : Binary64) (articulations? : Option Markings) :
    Note where
  pitch?
  duration
  time := 0
  articulation? := none
  articulations?
  dynamics? := none
  extra := []

/-- The note at the index has the fault, and no note before it has one. -/
structure IsFirstFault (notes : List Note) (index : Nat) (fault : NoteFault) : Prop where
  faulty : ∃ note, notes[index]? = some note ∧ note.fault? = some fault
  first : ∀ earlier < index, ∀ note, notes[earlier]? = some note → note.fault? = none

theorem isFirstFault_cons_zero_iff {note : Note} {rest : List Note} {fault : NoteFault} :
    IsFirstFault (note :: rest) 0 fault ↔ note.fault? = some fault := by
  constructor
  · intro ⟨⟨found, hnote, hfault⟩, _⟩
    cases hnote
    exact hfault
  · intro hfault
    exact ⟨⟨note, rfl, hfault⟩, fun earlier hearlier => absurd hearlier (Nat.not_lt_zero _)⟩

theorem isFirstFault_cons_succ_iff {note : Note} {rest : List Note} {index : Nat}
    {fault : NoteFault} :
    IsFirstFault (note :: rest) (index + 1) fault ↔
      note.fault? = none ∧ IsFirstFault rest index fault := by
  constructor
  · intro ⟨hfaulty, hfirst⟩
    refine ⟨hfirst 0 (Nat.succ_pos _) note rfl, hfaulty, fun earlier hearlier later hlater => ?_⟩
    exact hfirst (earlier + 1) (Nat.succ_lt_succ hearlier) later hlater
  · intro ⟨hnote, hfaulty, hfirst⟩
    refine ⟨hfaulty, fun earlier hearlier later hlater => ?_⟩
    cases earlier with
    | zero =>
      cases hlater
      exact hnote
    | succ earlier => exact hfirst earlier (Nat.lt_of_succ_lt_succ hearlier) later hlater

theorem firstFault?_eq_none_iff {start : Nat} {notes : List Note} :
    firstFault? start notes = none ↔ ∀ note ∈ notes, note.fault? = none := by
  induction notes generalizing start with
  | nil => simp [firstFault?]
  | cons note rest ih =>
    rw [firstFault?, List.forall_mem_cons]
    cases hnote : note.fault? with
    | some fault => simp
    | none => simpa using ih

theorem firstFault?_eq_some_iff {start index : Nat} {notes : List Note} {fault : NoteFault} :
    firstFault? start notes = some (index, fault) ↔
      ∃ place, index = start + place ∧ IsFirstFault notes place fault := by
  induction notes generalizing start with
  | nil =>
    simp only [firstFault?, reduceCtorEq, false_iff, not_exists, not_and]
    intro place hindex hplace
    obtain ⟨note, hnote, hfault⟩ := hplace.faulty
    simp at hnote
  | cons note rest ih =>
    rw [firstFault?]
    cases hnote : note.fault? with
    | some found =>
      constructor
      · intro hfound
        cases hfound
        exact ⟨0, rfl, isFirstFault_cons_zero_iff.2 hnote⟩
      · intro ⟨place, hindex, hplace⟩
        cases place with
        | zero =>
          have hfault := isFirstFault_cons_zero_iff.1 hplace
          rw [hnote] at hfault
          cases hfault
          rw [hindex]
          rfl
        | succ place =>
          have hfault := (isFirstFault_cons_succ_iff.1 hplace).1
          rw [hnote] at hfault
          cases hfault
    | none =>
      -- The places in the rest are one less than those in the whole list.
      rw [ih]
      constructor
      · intro ⟨place, hindex, hplace⟩
        exact ⟨place + 1, by omega, isFirstFault_cons_succ_iff.2 ⟨hnote, hplace⟩⟩
      · intro ⟨place, hindex, hplace⟩
        cases place with
        | zero =>
          have hfault := isFirstFault_cons_zero_iff.1 hplace
          rw [hnote] at hfault
          cases hfault
        | succ place => exact ⟨place, by omega, (isFirstFault_cons_succ_iff.1 hplace).2⟩

variable {settings : Settings} {context : Context} {notes : List Note}

/-- Notes without a fault have a performance, and only these. -/
theorem compileNotes_eq_ok_iff {performance : Performance} :
    compileNotes settings context notes = .ok performance ↔
      (∀ note ∈ notes, note.fault? = none) ∧ performFrom settings 0 {} notes = performance := by
  rw [← @firstFault?_eq_none_iff 0 notes, compileNotes]
  cases firstFault? 0 notes <;> simp

/-- The only failure is a faulty note, and the first one is named. -/
theorem compileNotes_eq_error_iff {error : CompileError} :
    compileNotes settings context notes = .error error ↔
      ∃ index fault, IsFirstFault notes index fault ∧ error = .invalidNote index fault := by
  have hfirst : ∀ index fault, firstFault? 0 notes = some (index, fault) ↔
      IsFirstFault notes index fault := by
    intro index fault
    simp [firstFault?_eq_some_iff]
  simp only [← hfirst]
  rw [compileNotes]
  cases firstFault? 0 notes with
  | none => simp
  | some found =>
    constructor
    · intro herror
      cases herror
      exact ⟨found.1, found.2, rfl, rfl⟩
    · intro ⟨index, fault, hfound, herror⟩
      cases hfound
      rw [herror]

end Espressivo
