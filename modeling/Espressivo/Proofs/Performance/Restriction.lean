import Espressivo.Proofs.Performance.Shape

/-!
# The part of one note

What a performance holds under one index is the performance of the note there, so that statements
about single notes of a compiled track are statements about notes on their own.
-/

namespace Espressivo
namespace Performance

/-- What belongs to the note at an index. -/
def restrict (index : Nat) (performance : Performance) : Performance where
  modulations := performance.ofNote index
  phrasing := performance.phrasing.filter (·.index = index)
  diagnostics := Diagnostic.ofNote index performance.diagnostics

theorem restrict_append (index : Nat) (a b : Performance) :
    (a ++ b).restrict index = a.restrict index ++ b.restrict index := by
  simp only [append_eq, append, restrict, ofNote, Diagnostic.ofNote, List.filter_append]

variable {start stop : Nat} {performance : Performance}

theorem Shaped.restrict_eq_self (hshaped : performance.Shaped start (start + 1)) :
    performance.restrict start = performance := by
  rw [restrict, ofNote, Diagnostic.ofNote, hshaped.modulations.filter_eq_self,
    hshaped.phrasing.filter_eq_self, hshaped.diagnostics.filter_eq_self]

theorem Shaped.restrict_eq_empty (hshaped : performance.Shaped start stop) {index : Nat}
    (hindex : index < start ∨ stop ≤ index) : performance.restrict index = {} := by
  rw [restrict, ofNote, Diagnostic.ofNote, hshaped.modulations.filter_eq_nil hindex,
    hshaped.phrasing.filter_eq_nil hindex, hshaped.diagnostics.filter_eq_nil hindex]

end Performance

variable {settings : Settings} {notes : List Note} {place : Nat} {note : Note}

theorem restrict_performFrom (start : Nat) (hnote : notes[place]? = some note) :
    (performFrom settings start {} notes).restrict (start + place) =
      note.performance settings (start + place) := by
  induction notes generalizing start place with
  | nil => simp at hnote
  | cons first rest ih =>
    have hfirst := first.shaped_performance settings start
    have hrest := shaped_performFrom settings (start + 1) rest
    rw [performFrom_cons, Performance.restrict_append]
    cases place with
    | zero =>
      cases hnote
      rw [Nat.add_zero, hfirst.restrict_eq_self, hrest.restrict_eq_empty (by omega),
        Performance.append_empty]
    | succ place =>
      have hlater := ih (start + 1) hnote
      rw [Nat.add_assoc, Nat.add_comm 1] at hlater
      rw [hfirst.restrict_eq_empty (by omega), Performance.empty_append, hlater]

theorem restrict_of_compileNotes {context : Context} {performance : Performance}
    (hcompiled : compileNotes settings context notes = .ok performance)
    (hnote : notes[place]? = some note) :
    performance.restrict place = note.performance settings place := by
  obtain ⟨-, rfl⟩ := compileNotes_eq_ok_iff.1 hcompiled
  have hrestrict : (performFrom settings 0 {} notes).restrict (0 + place) =
      note.performance settings (0 + place) := restrict_performFrom 0 hnote
  rwa [Nat.zero_add] at hrestrict

end Espressivo
