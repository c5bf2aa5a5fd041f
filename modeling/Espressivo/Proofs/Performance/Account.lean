import Espressivo.Proofs.Performance.Findings
import Espressivo.Proofs.Performance.Restriction

/-!
# Accounting for entries

No entry of a note's markings is lost without a word. It is read as an articulation or dropped with
a finding; a glide that is read is performed, or it is reported as one on a rest or as one that
comes after another glide.
-/

namespace Espressivo

/-! ## Entries -/

def Articulation.isGlide : Articulation → Bool
  | simple _ => false
  | glide _ _ => true

theorem Reading.Settled.length_add_countP {reading : Reading} (hsettled : reading.Settled) :
    reading.articulation?.toList.length + reading.finding?.toList.countP Finding.dropsEntry =
      1 := by
  cases hsettled with
  | accepted articulation => rfl
  | rounded kind pitch target rounded => rfl
  | dropped hdrops => simp [Reading.dropped, hdrops]

theorem length_articulationsOf_add_countP {readings : List Reading}
    (hsettled : ∀ reading ∈ readings, reading.Settled) :
    (articulationsOf readings).length + (findingsOf readings).countP Finding.dropsEntry =
      readings.length := by
  induction readings with
  | nil => rfl
  | cons reading rest ih =>
    obtain ⟨hreading, hrest⟩ := List.forall_mem_cons.1 hsettled
    have hfirst := hreading.length_add_countP
    have hlater := ih hrest
    rw [articulationsOf_cons, findingsOf_cons, List.length_append, List.countP_append,
      List.length_cons]
    omega

namespace Note

variable (settings : Settings) (note : Note)

/-- Only the reading of entries drops any, so that all findings can be counted. -/
theorem countP_dropsEntry_findings :
    (note.findings settings).countP Finding.dropsEntry =
      (findingsOf (note.readings settings)).countP Finding.dropsEntry := by
  rw [← filter_isOfEntry_findings, List.countP_filter]
  apply List.countP_congr
  intro finding _
  rw [Bool.and_eq_true]
  exact ⟨fun hdrops => ⟨hdrops, Finding.isOfEntry_of_dropsEntry hdrops⟩, And.left⟩

theorem length_entries :
    note.entries.length = (note.articulations settings).length +
      (note.findings settings).countP Finding.dropsEntry := by
  have hlength := length_articulationsOf_add_countP
    fun reading (hreading : reading ∈ note.readings settings) => settled_of_mem_readings hreading
  rw [countP_dropsEntry_findings, articulations, hlength, readings, List.length_map]

/-! ## Glides -/

/-- On a rest all glides are reported, on a note with a pitch all of them start. -/
theorem countP_isGlide :
    (note.articulations settings).countP Articulation.isGlide =
      (note.glides settings).length + (note.restFindings settings).length := by
  rw [glides, restFindings]
  induction note.articulations settings with
  | nil => rfl
  | cons articulation rest ih =>
    rw [List.countP_cons, ih, List.filterMap_cons, List.flatMap_cons, List.length_append]
    cases articulation with
    | simple kind =>
      cases note.primaryPitch? <;>
        simp [Articulation.isGlide, Articulation.glideFrom?, Articulation.findings]
    | glide kind target =>
      cases note.primaryPitch? <;>
        simp [Articulation.isGlide, Articulation.glideFrom?, Articulation.findings] <;> omega

theorem glides_eq_nil_or_restFindings_eq_nil :
    note.glides settings = [] ∨ note.restFindings settings = [] := by
  cases hpitch : note.primaryPitch? with
  | none => exact Or.inl (by simp [glides, hpitch])
  | some origin =>
    right
    rw [restFindings, hpitch]
    refine List.flatMap_eq_nil_iff.2 fun articulation _ => ?_
    cases articulation <;> rfl

end Note

/-! ## Counts in the performance of a note -/

theorem Combination.countP_glide_effects (c : Coefficients) (combination : Combination) :
    (combination.effects c).countP (·.glide?.isSome) = combination.glide?.toList.length := by
  rw [effects]
  cases combination.factor? <;> cases combination.boost? <;> cases combination.glide? <;> rfl

namespace Note

variable (settings : Settings) (index : Nat) (note : Note)

theorem countP_glide_modulations :
    (note.performance settings index).modulations.countP (·.effect.glide?.isSome) =
      (note.glides settings).head?.toList.length := by
  rw [← glide?_combination, ← Combination.countP_glide_effects]
  exact List.countP_map

theorem countP_diagnostics (choice : Finding → Bool) :
    (note.performance settings index).diagnostics.countP (choice ·.finding) =
      (note.findings settings).countP choice :=
  List.countP_map

theorem countP_kind_diagnostics (kind : FindingKind) :
    (note.performance settings index).diagnostics.countP (·.finding.kind = kind) =
      ((note.findings settings).filter (·.kind = kind)).length := by
  rw [countP_diagnostics settings index note (·.kind = kind), List.countP_eq_length_filter]

/-- No note has glides on a rest and glides that come after another one. -/
theorem countP_pitchOnRest_or_pitchConflict :
    (note.performance settings index).diagnostics.countP (·.finding.kind = .pitchOnRest) = 0 ∨
      (note.performance settings index).diagnostics.countP (·.finding.kind = .pitchConflict) =
        0 := by
  rw [countP_kind_diagnostics, countP_kind_diagnostics, filter_pitchOnRest_findings,
    filter_pitchConflict_findings]
  rcases note.glides_eq_nil_or_restFindings_eq_nil settings with hglides | hrest
  · exact Or.inr (by rw [hglides]; rfl)
  · exact Or.inl (by rw [hrest]; rfl)

end Note

/-! ## Compiled notes -/

/-- Each entry of a note is an articulation or it is reported as dropped, and each glide among the
articulations is performed or reported, on rests for another reason than on other notes. -/
theorem compileNotes_accounts {settings : Settings} {context : Context} {notes : List Note}
    {performance : Performance}
    (hcompiled : compileNotes settings context notes = .ok performance) {index : Nat} {note : Note}
    (hnote : notes[index]? = some note) (earlier : List Diagnostic) :
    let articulations := ((note.read settings index).run earlier).1
    let diagnostics := Diagnostic.ofNote index performance.diagnostics
    note.entries.length =
        articulations.countP (¬ ·.isGlide) + articulations.countP Articulation.isGlide +
          diagnostics.countP (·.finding.dropsEntry) ∧
      articulations.countP Articulation.isGlide =
        (performance.ofNote index).countP (·.effect.glide?.isSome) +
          diagnostics.countP (·.finding.kind = .pitchOnRest) +
          diagnostics.countP (·.finding.kind = .pitchConflict) ∧
      ¬ (Diagnostic.reports performance.diagnostics index .pitchOnRest ∧
        Diagnostic.reports performance.diagnostics index .pitchConflict) := by
  intro articulations diagnostics
  have harticulations : articulations = note.articulations settings :=
    congrArg Prod.fst (note.yields_read settings index earlier)
  have hrestrict := restrict_of_compileNotes hcompiled hnote
  have hmodulations : performance.ofNote index = (note.performance settings index).modulations :=
    congrArg Performance.modulations hrestrict
  have hdiagnostics : diagnostics = (note.performance settings index).diagnostics :=
    congrArg Performance.diagnostics hrestrict
  rw [harticulations, hmodulations, hdiagnostics]
  refine ⟨?entries, ?glides, ?reasons⟩
  case entries =>
    have hentries := note.length_entries settings
    have hsplit : (note.articulations settings).length = _ :=
      List.length_eq_countP_add_countP Articulation.isGlide
    rw [Note.countP_diagnostics]
    omega
  case glides =>
    have hcount := note.countP_isGlide settings
    have hkept := Combination.length_head?_add_length_conflicts (note.glides settings)
    rw [Note.countP_glide_modulations, Note.countP_kind_diagnostics, Note.countP_kind_diagnostics,
      Note.filter_pitchOnRest_findings, Note.filter_pitchConflict_findings]
    omega
  case reasons =>
    intro ⟨honRest, hconflict⟩
    have honRestPos : 0 < diagnostics.countP (·.finding.kind = .pitchOnRest) :=
      List.countP_pos_iff.2 (List.any_eq_true.1 honRest)
    have hconflictPos : 0 < diagnostics.countP (·.finding.kind = .pitchConflict) :=
      List.countP_pos_iff.2 (List.any_eq_true.1 hconflict)
    rw [hdiagnostics] at honRestPos hconflictPos
    have hnone := note.countP_pitchOnRest_or_pitchConflict settings index
    omega

/-- Seven entries in two fields: one is simple, two are glides, and four are dropped. -/
theorem compileNotes_accounts_mixed :
    let settings : Settings := { Settings.standard with
      shorthands := .ofList [(".", .simple .staccato), ("/", .glide .glissando)] }
    let glide (target : Json) : Entry := .descriptor ⟨"/", [("target", target)]⟩
    let marked : Note := { Note.plain (some (.single 60)) 1 (some (.list [
      .name "?", .name "/", glide (.ofBinary64 62.5), .other (.ofNat 5), glide (.ofNat 64),
      glide (.ofNat 128)])) with articulation? := some (.single (.name ".")) }
    ∃ performance, compileNotes settings .standard [Note.plain none 1 none, marked] =
        .ok performance ∧
      marked.entries.length = 7 ∧
      ((marked.read settings 1).run []).1.countP (¬ ·.isGlide) = 1 ∧
      ((marked.read settings 1).run []).1.countP Articulation.isGlide = 2 ∧
      (Diagnostic.ofNote 1 performance.diagnostics).countP (·.finding.dropsEntry) = 4 ∧
      (performance.ofNote 1).countP (·.effect.glide?.isSome) = 1 ∧
      (Diagnostic.ofNote 1 performance.diagnostics).countP (·.finding.kind = .pitchConflict) =
        1 := by
  intro settings glide marked
  let performance := performFrom settings 0 {} [Note.plain none 1 none, marked]
  have hcompiled : compileNotes settings .standard [Note.plain none 1 none, marked] =
      .ok performance := compileNotes_eq_ok_iff.2 ⟨by decide +kernel, rfl⟩
  have hnote : [Note.plain none 1 none, marked][1]? = some marked := rfl
  have hentries : marked.entries.length = 7 := rfl
  have hread : ((marked.read settings 1).run []).1.countP (¬ ·.isGlide) = 1 ∧
      ((marked.read settings 1).run []).1.countP Articulation.isGlide = 2 := by decide +kernel
  have hperformed : (performance.ofNote 1).countP (·.effect.glide?.isSome) = 1 ∧
      (Diagnostic.ofNote 1 performance.diagnostics).countP (·.finding.kind = .pitchOnRest) = 0 := by
    decide +kernel
  obtain ⟨haccount, hglides, -⟩ := compileNotes_accounts hcompiled hnote []
  refine ⟨performance, hcompiled, hentries, hread.1, hread.2, ?_, hperformed.1, ?_⟩
  · omega
  · omega

end Espressivo
