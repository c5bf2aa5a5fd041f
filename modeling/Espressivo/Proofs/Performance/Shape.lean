import Espressivo.Proofs.Performance.Combination
import Espressivo.Proofs.Performance.Faults
import Espressivo.Proofs.Performance.Notes

/-!
# The shape of performances

The parts of a performance follow the notes: their indices are places of notes and never decrease,
and the modulations of one note stand in the order of their dimensions, one for each at most. The
invariant is stated for the notes from one index up to another, so that it passes from single notes
to what is put together from them.
-/

namespace Espressivo

/-! ## Ordered parts -/

/-- The items belong to notes from `start` up to `stop` and are ordered by the relation. -/
structure InOrder {α : Type} (index : α → Nat) (rel : α → α → Prop) (start stop : Nat)
    (items : List α) : Prop where
  within : ∀ item ∈ items, start ≤ index item ∧ index item < stop
  ascend : items.Pairwise rel

section

variable {α : Type} {index : α → Nat} {rel : α → α → Prop} {start middle stop : Nat} {a b : List α}

theorem InOrder.nil : InOrder index rel start start ([] : List α) :=
  ⟨by simp, List.Pairwise.nil⟩

/-- Items of adjoining notes join if the relation follows the indices. -/
theorem InOrder.append (hrel : ∀ x y, index x < index y → rel x y)
    (ha : InOrder index rel start middle a) (hb : InOrder index rel middle stop b)
    (hstart : start ≤ middle) (hstop : middle ≤ stop) : InOrder index rel start stop (a ++ b) := by
  constructor
  · intro item hitem
    rcases List.mem_append.1 hitem with hitem | hitem
    · have := ha.within item hitem
      omega
    · have := hb.within item hitem
      omega
  · refine List.pairwise_append.2 ⟨ha.ascend, hb.ascend, fun x hx y hy => hrel x y ?_⟩
    have := ha.within x hx
    have := hb.within y hy
    omega

theorem InOrder.filter_eq_self (ha : InOrder index rel start (start + 1) a) :
    a.filter (index · = start) = a := by
  apply List.filter_eq_self.2
  intro item hitem
  have := ha.within item hitem
  simp only [decide_eq_true_eq]
  omega

theorem InOrder.filter_eq_nil (ha : InOrder index rel start stop a) {place : Nat}
    (hplace : place < start ∨ stop ≤ place) : a.filter (index · = place) = [] := by
  apply List.filter_eq_nil_iff.2
  intro item hitem
  have := ha.within item hitem
  simp only [decide_eq_true_eq]
  omega

end

/-! ## The invariant -/

/-- The order of modulations: by note, and by dimension for one note. -/
def Modulation.Precedes (a b : Modulation) : Prop :=
  a.index < b.index ∨ a.index = b.index ∧ a.effect.rank < b.effect.rank

/-- The performance is one of the notes from `start` up to `stop`. -/
structure Performance.Shaped (start stop : Nat) (performance : Performance) : Prop where
  modulations : InOrder (·.index) Modulation.Precedes start stop performance.modulations
  phrasing : InOrder (·.index) (fun a b => a.index ≤ b.index ∧ a ≠ b) start stop
    performance.phrasing
  diagnostics : InOrder (·.index) (fun a b => a.index ≤ b.index) start stop performance.diagnostics

namespace Performance

theorem Shaped.empty (start : Nat) : ({} : Performance).Shaped start start :=
  ⟨.nil, .nil, .nil⟩

theorem Shaped.append {start middle stop : Nat} {a b : Performance} (ha : a.Shaped start middle)
    (hb : b.Shaped middle stop) (hstart : start ≤ middle) (hstop : middle ≤ stop) :
    (a ++ b).Shaped start stop := by
  constructor
  · exact ha.modulations.append (fun _ _ hlt => Or.inl hlt) hb.modulations hstart hstop
  · refine ha.phrasing.append (fun x y hlt => ⟨Nat.le_of_lt hlt, ?_⟩) hb.phrasing hstart hstop
    intro heq
    rw [heq] at hlt
    exact Nat.lt_irrefl _ hlt
  · exact ha.diagnostics.append (fun _ _ hlt => Nat.le_of_lt hlt) hb.diagnostics hstart hstop

end Performance

variable (settings : Settings)

/-- What one note yields stands under its index. -/
theorem Note.shaped_performance (index : Nat) (note : Note) :
    (note.performance settings index).Shaped index (index + 1) := by
  refine ⟨⟨?_, ?_⟩, ⟨?_, ?_⟩, ⟨?_, ?_⟩⟩
  · intro m hm
    obtain ⟨effect, -, rfl⟩ := List.mem_map.1 hm
    exact ⟨Nat.le_refl _, Nat.lt_succ_self _⟩
  · refine List.pairwise_map.2 ((Combination.pairwise_rank_effects _ _).imp fun hrank => ?_)
    exact Or.inr ⟨rfl, hrank⟩
  · intro m hm
    obtain ⟨mark, -, rfl⟩ := List.mem_map.1 hm
    exact ⟨Nat.le_refl _, Nat.lt_succ_self _⟩
  · refine List.pairwise_map.2 ((Combination.nodup_phrasing_ofContributions _).imp fun hne => ?_)
    refine ⟨Nat.le_refl _, fun heq => hne ?_⟩
    exact congrArg PhrasingMark.articulation heq
  · intro d hd
    obtain ⟨finding, -, rfl⟩ := List.mem_map.1 hd
    exact ⟨Nat.le_refl _, Nat.lt_succ_self _⟩
  · exact List.pairwise_map.2 (List.pairwise_of_forall fun _ _ => Nat.le_refl _)

theorem shaped_performFrom (start : Nat) (notes : List Note) :
    (performFrom settings start {} notes).Shaped start (start + notes.length) := by
  induction notes generalizing start with
  | nil => exact .empty start
  | cons note rest ih =>
    have hrest := ih (start + 1)
    rw [Nat.add_assoc, Nat.add_comm 1] at hrest
    rw [performFrom_cons]
    exact (note.shaped_performance settings start).append hrest (by omega) (by simp)

/-- The modulations of the notes, one note after the other, are all modulations. -/
theorem flatMap_ofNote_performFrom (start : Nat) (notes : List Note) :
    (List.range' start notes.length).flatMap (performFrom settings start {} notes).ofNote =
      (performFrom settings start {} notes).modulations := by
  induction notes generalizing start with
  | nil => rfl
  | cons note rest ih =>
    have hnote := (note.shaped_performance settings start).modulations
    have hrest := (shaped_performFrom settings (start + 1) rest).modulations
    have hfirst : (performFrom settings start {} (note :: rest)).ofNote start =
        (note.performance settings start).modulations := by
      rw [Performance.ofNote, performFrom_cons, Performance.modulations_append, List.filter_append,
        hnote.filter_eq_self, hrest.filter_eq_nil (Or.inl (Nat.lt_succ_self _)), List.append_nil]
    have hlater : ∀ later ∈ List.range' (start + 1) rest.length,
        (performFrom settings start {} (note :: rest)).ofNote later =
          (performFrom settings (start + 1) {} rest).ofNote later := by
      intro later hmem
      have hle := (List.mem_range'_1.1 hmem).1
      rw [Performance.ofNote, performFrom_cons, Performance.modulations_append, List.filter_append,
        hnote.filter_eq_nil (Or.inr hle), List.nil_append, Performance.ofNote]
    rw [List.length_cons, List.range'_succ, List.flatMap_cons, hfirst, List.flatMap_congr hlater,
      ih (start + 1), performFrom_cons, Performance.modulations_append]

/-! ## Compiled notes -/

variable {settings} {context : Context} {notes : List Note} {performance : Performance}

theorem shaped_of_compileNotes (hcompiled : compileNotes settings context notes = .ok performance) :
    performance.Shaped 0 notes.length := by
  obtain ⟨-, hperformance⟩ := compileNotes_eq_ok_iff.1 hcompiled
  have hshaped := shaped_performFrom settings 0 notes
  rwa [hperformance, Nat.zero_add] at hshaped

/-- The modulations ascend strictly by note and dimension; all indices are those of notes, no
phrasing mark is repeated for a note, and the modulations of the single notes are all there are. -/
theorem compileNotes_shape (hcompiled : compileNotes settings context notes = .ok performance) :
    performance.modulations.Pairwise Modulation.Precedes ∧
      (performance.modulations.map fun m => (m.index, m.effect.rank)).Nodup ∧
      (∀ m ∈ performance.modulations, m.index < notes.length) ∧
      (∀ mark ∈ performance.phrasing, mark.index < notes.length) ∧
      (∀ d ∈ performance.diagnostics, d.index < notes.length) ∧
      performance.phrasing.Nodup ∧
      (performance.phrasing.map (·.index)).Pairwise (· ≤ ·) ∧
      (performance.diagnostics.map (·.index)).Pairwise (· ≤ ·) ∧
      (List.range notes.length).flatMap performance.ofNote = performance.modulations := by
  have hshaped := shaped_of_compileNotes hcompiled
  refine ⟨hshaped.modulations.ascend, ?keys, ?modulations, ?marks, ?diagnostics, ?nodup, ?phrasing,
    ?findings, ?notes⟩
  case keys =>
    refine List.pairwise_map.2 (hshaped.modulations.ascend.imp fun hprecedes heq => ?_)
    obtain ⟨hindex, hrank⟩ := Prod.mk.inj heq
    rcases hprecedes with hlt | ⟨-, hlt⟩ <;> omega
  case modulations => exact fun m hm => (hshaped.modulations.within m hm).2
  case marks => exact fun mark hmark => (hshaped.phrasing.within mark hmark).2
  case diagnostics => exact fun d hd => (hshaped.diagnostics.within d hd).2
  case nodup => exact hshaped.phrasing.ascend.imp And.right
  case phrasing => exact List.pairwise_map.2 (hshaped.phrasing.ascend.imp And.left)
  case findings => exact List.pairwise_map.2 hshaped.diagnostics.ascend
  case notes =>
    obtain ⟨-, hperformance⟩ := compileNotes_eq_ok_iff.1 hcompiled
    rw [List.range_eq_range', ← hperformance]
    exact flatMap_ofNote_performFrom settings 0 notes

/-- A note with all kinds of effects and repeated marks, after a rest and an unknown marking. -/
theorem compileNotes_shape_marked :
    let rest := Note.plain none 1 (some (.single (.name "wobble")))
    let marked := Note.plain (some (.single 60)) 1 (some (.list [
      .descriptor ⟨"portamento", [("target", .ofNat 62)]⟩,
      .name "legato", .name "marcato", .name "staccato", .name "legato"]))
    ∃ performance, compileNotes .standard .standard [rest, marked] = .ok performance ∧
      (performance.modulations.map fun m => (m.index, m.effect.rank)) = [(1, 0), (1, 1), (1, 2)] ∧
      (List.range 2).flatMap performance.ofNote = performance.modulations := by
  intro rest marked
  have hcompiled : compileNotes .standard .standard [rest, marked] =
      .ok (performFrom .standard 0 {} [rest, marked]) :=
    compileNotes_eq_ok_iff.2 ⟨by decide +kernel, rfl⟩
  obtain ⟨-, -, -, -, -, -, -, -, hnotes⟩ := compileNotes_shape hcompiled
  exact ⟨_, hcompiled, by decide +kernel, hnotes⟩

end Espressivo
