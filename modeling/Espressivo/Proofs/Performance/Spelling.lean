import Espressivo.Proofs.Articulation.Reading
import Espressivo.Proofs.Performance.Faults

/-!
# Other spellings of the same markings

How a note is performed does not depend on the way its markings are written down. All entries may
stand in one list, and a marcato may be written as an accent with a tenuto after it, wherever it
stands: what the entries contribute is the same, in the same order.
-/

namespace Espressivo

/-! ## Entries -/

/-- The entries come to the same contributions and the same findings, whatever pitch a glide starts
from. -/
structure SameOutcome (settings : Settings) (a b : List Entry) : Prop where
  findings : findingsOf (a.map (Reading.ofEntry settings.shorthands)) =
    findingsOf (b.map (Reading.ofEntry settings.shorthands))
  contributions : ∀ origin?,
    (articulationsOf (a.map (Reading.ofEntry settings.shorthands))).flatMap
        (Articulation.contributions settings.coefficients origin?) =
      (articulationsOf (b.map (Reading.ofEntry settings.shorthands))).flatMap
        (Articulation.contributions settings.coefficients origin?)
  glideFindings : ∀ origin?,
    (articulationsOf (a.map (Reading.ofEntry settings.shorthands))).flatMap
        (Articulation.findings origin?) =
      (articulationsOf (b.map (Reading.ofEntry settings.shorthands))).flatMap
        (Articulation.findings origin?)

namespace SameOutcome

variable {settings : Settings} {a b c d : List Entry}

theorem refl (a : List Entry) : SameOutcome settings a a := ⟨rfl, fun _ => rfl, fun _ => rfl⟩

theorem append (hfirst : SameOutcome settings a b) (hsecond : SameOutcome settings c d) :
    SameOutcome settings (a ++ c) (b ++ d) := by
  constructor
  · rw [List.map_append, List.map_append, findingsOf, findingsOf, List.filterMap_append,
      List.filterMap_append]
    exact congrArg₂ _ hfirst.findings hsecond.findings
  · intro origin?
    rw [List.map_append, List.map_append, articulationsOf, articulationsOf, List.filterMap_append,
      List.filterMap_append, List.flatMap_append, List.flatMap_append]
    exact congrArg₂ _ (hfirst.contributions origin?) (hsecond.contributions origin?)
  · intro origin?
    rw [List.map_append, List.map_append, articulationsOf, articulationsOf, List.filterMap_append,
      List.filterMap_append, List.flatMap_append, List.flatMap_append]
    exact congrArg₂ _ (hfirst.glideFindings origin?) (hsecond.glideFindings origin?)

end SameOutcome

/-! ## Notes -/

namespace Note

/-- The notes differ in their markings only. -/
def SameButMarkings (a b : Note) : Prop :=
  { b with articulation? := a.articulation?, articulations? := a.articulations? } = a

variable {settings : Settings} {a b : Note}

theorem SameButMarkings.fault?_eq (hsame : a.SameButMarkings b) : a.fault? = b.fault? := by
  rw [← hsame]
  rfl

theorem SameButMarkings.performance_eq (hsame : a.SameButMarkings b)
    (hentries : SameOutcome settings a.entries b.entries) (index : Nat) :
    a.performance settings index = b.performance settings index := by
  have hpitch : a.primaryPitch? = b.primaryPitch? := by
    rw [← hsame]
    rfl
  have hfindings : findingsOf (a.readings settings) = findingsOf (b.readings settings) :=
    hentries.findings
  have hrest : (a.articulations settings).flatMap (Articulation.findings a.primaryPitch?) =
      (b.articulations settings).flatMap (Articulation.findings b.primaryPitch?) := by
    rw [hpitch]
    exact hentries.glideFindings _
  have hcombination : a.combination settings = b.combination settings := by
    rw [combination, combination, hpitch]
    exact congrArg _ (hentries.contributions _)
  rw [performance, performance, findings, findings, hcombination, hfindings, hrest]

end Note

/-! ## Tracks -/

/-- The second note may take the place of the first one. -/
def Note.Replaces (settings : Settings) (a b : Note) : Prop :=
  a.SameButMarkings b ∧ SameOutcome settings a.entries b.entries

section

variable {settings : Settings} {a b : List Note}

theorem firstFault?_congr (hnotes : List.Forall₂ (Note.Replaces settings) a b) (start : Nat) :
    firstFault? start a = firstFault? start b := by
  induction hnotes generalizing start with
  | nil => rfl
  | cons hnote hrest ih => rw [firstFault?, firstFault?, hnote.1.fault?_eq, ih]

theorem performFrom_eq_of_replaces (hnotes : List.Forall₂ (Note.Replaces settings) a b)
    (start : Nat) : performFrom settings start {} a = performFrom settings start {} b :=
  performFrom_eq_of_forall₂ settings start
    (hnotes.imp fun _ _ hnote => hnote.1.performance_eq hnote.2)

theorem compileNotes_eq_of_replaces (hnotes : List.Forall₂ (Note.Replaces settings) a b)
    (context : Context) : compileNotes settings context a = compileNotes settings context b := by
  rw [compileNotes, compileNotes, firstFault?_congr hnotes, performFrom_eq_of_replaces hnotes]

end

/-! ## One list of entries -/

/-- The note with the entries of both fields in one list. -/
def Note.merged (note : Note) : Note :=
  { note with
    articulation? := none
    articulations? := some (.list (
      (note.articulation?.map Markings.entries).getD [] ++
        (note.articulations?.map Markings.entries).getD [])) }

theorem Note.entries_merged (note : Note) : note.merged.entries = note.entries := by
  rw [entries, entries, markings, markings, merged]
  cases note.articulation? <;> cases note.articulations? <;>
    simp [Markings.entries]

/-- The single articulation and the list of articulations may be merged into one list. -/
theorem compileNotes_merged (settings : Settings) (context : Context) (notes : List Note) :
    compileNotes settings context (notes.map Note.merged) =
      compileNotes settings context notes := by
  refine (compileNotes_eq_of_replaces ?_ context).symm
  refine List.forall₂_map_right_iff.2 (List.forall₂_same.2 fun note _ => ⟨rfl, ?_⟩)
  rw [note.entries_merged]
  exact .refl _

/-- A name and a descriptor that stand alone are merged with what stands in the other field. -/
theorem compileNotes_merged_mixed :
    let settings : Settings := { Settings.standard with shorthands := .ofList [
      (".", .simple .staccato), ("-", .simple .tenuto), ("/", .glide .glissando)] }
    let glide (target : Nat) : Entry := .descriptor ⟨"/", [("target", .ofNat target)]⟩
    let note (articulation? articulations? : Option Markings) : Note :=
      { Note.plain (some (.single 60)) 1 articulations? with articulation? }
    let notes : List Note := [
      note (some (.single (.name "."))) (some (.single (glide 62))),
      note (some (.single (glide 64))) (some (.list [.name "-", .name "?", glide 67])),
      note none (some (.single (.other .null)))]
    let merged : List Note := [
      note none (some (.list [.name ".", glide 62])),
      note none (some (.list [glide 64, .name "-", .name "?", glide 67])),
      note none (some (.list [.other .null]))]
    notes.map Note.merged = merged ∧
      ∃ performance, compileNotes settings .standard notes = .ok performance ∧
        compileNotes settings .standard merged = .ok performance ∧
        performance.modulations.map (fun m => (m.index, m.effect.glide?)) =
          [(0, none), (0, some ⟨.glissando, 60, 62⟩), (1, none), (1, none),
            (1, some ⟨.glissando, 60, 64⟩)] ∧
        performance.diagnostics.map (fun d => (d.index, d.finding.kind)) =
          [(1, .unknownArticulation), (1, .pitchConflict), (2, .unknownArticulation)] := by
  intro settings glide note notes merged
  have hmerged : notes.map Note.merged = merged := rfl
  have hcompiled : compileNotes settings .standard notes = .ok (performFrom settings 0 {} notes) :=
    compileNotes_eq_ok_iff.2 ⟨by decide +kernel, rfl⟩
  refine ⟨hmerged, _, hcompiled, ?_, by decide +kernel, by decide +kernel⟩
  rw [← hmerged, compileNotes_merged]
  exact hcompiled

/-! ## Marcato -/

/-- The second list of entries is the first one with entries `m` replaced by an `a` followed by a
`t`, at any places. -/
inductive Respelled (m a t : String) : List Entry → List Entry → Prop
  | nil : Respelled m a t [] []
  | keep (entry : Entry) {rest respelled : List Entry} (hrest : Respelled m a t rest respelled) :
    Respelled m a t (entry :: rest) (entry :: respelled)
  | spell {marcato accent tenuto : Entry} (hmarcato : marcato.Names m) (haccent : accent.Names a)
    (htenuto : tenuto.Names t) {rest respelled : List Entry}
    (hrest : Respelled m a t rest respelled) :
    Respelled m a t (marcato :: rest) (accent :: tenuto :: respelled)

/-- The entries with every `m` replaced by an `a` followed by a `t`. -/
def Entry.spellOut (m a t : String) (entry : Entry) : List Entry :=
  if entry.Names m then [.name a, .name t] else [entry]

/-- A single entry that is replaced becomes a list. -/
def Markings.spellOut (m a t : String) : Markings → Markings
  | .single entry => if entry.Names m then .list (entry.spellOut m a t) else .single entry
  | .list entries => .list (entries.flatMap (Entry.spellOut m a t))

/-- The note with all its markings spelled out. -/
def Note.spellOut (m a t : String) (note : Note) : Note :=
  { note with
    articulation? := note.articulation?.map (Markings.spellOut m a t)
    articulations? := note.articulations?.map (Markings.spellOut m a t) }

section

variable {m a t : String}

theorem Markings.entries_spellOut (markings : Markings) :
    (markings.spellOut m a t).entries = markings.entries.flatMap (Entry.spellOut m a t) := by
  cases markings with
  | single entry =>
    by_cases hnames : entry.Names m
    · simp [spellOut, entries, hnames]
    · simp [spellOut, entries, Entry.spellOut, hnames]
  | list entries => rfl

theorem Note.entries_spellOut (note : Note) :
    (note.spellOut m a t).entries = note.entries.flatMap (Entry.spellOut m a t) := by
  rw [entries, entries, markings, markings, spellOut]
  cases note.articulation? <;> cases note.articulations? <;>
    simp [Markings.entries_spellOut]

theorem respelled_flatMap_spellOut (entries : List Entry) :
    Respelled m a t entries (entries.flatMap (Entry.spellOut m a t)) := by
  have haccent : (Entry.name a).Names a := rfl
  have htenuto : (Entry.name t).Names t := rfl
  induction entries with
  | nil => exact .nil
  | cons entry rest ih =>
    rw [List.flatMap_cons, Entry.spellOut]
    by_cases hnames : entry.Names m
    · rw [if_pos hnames]
      exact .spell hnames haccent htenuto ih
    · rw [if_neg hnames]
      exact .keep entry ih

variable {settings : Settings}
  (hm : settings.shorthands.lookup? m = some (.simple .marcato))
  (ha : settings.shorthands.lookup? a = some (.simple .accent))
  (ht : settings.shorthands.lookup? t = some (.simple .tenuto))

include hm ha ht

/-- A marcato contributes what an accent and then a tenuto contribute, and is no glide. -/
theorem sameOutcome_marcato {marcato accent tenuto : Entry} (hmarcato : marcato.Names m)
    (haccent : accent.Names a) (htenuto : tenuto.Names t) :
    SameOutcome settings [marcato] [accent, tenuto] := by
  have hreadMarcato := hmarcato.ofEntry_eq hm
  have hreadAccent := haccent.ofEntry_eq ha
  have hreadTenuto := htenuto.ofEntry_eq ht
  constructor <;>
    simp only [List.map_cons, List.map_nil, hreadMarcato, hreadAccent, hreadTenuto]
  · rfl
  · exact fun _ => rfl
  · exact fun _ => rfl

theorem Respelled.sameOutcome {entries respelled : List Entry}
    (hrespelled : Respelled m a t entries respelled) : SameOutcome settings entries respelled := by
  induction hrespelled with
  | nil => exact .refl []
  | keep entry hrest ih => exact (SameOutcome.refl [entry]).append ih
  | spell hmarcato haccent htenuto hrest ih =>
    exact (sameOutcome_marcato hm ha ht hmarcato haccent htenuto).append ih

end

/-- A marcato is an accent with a tenuto after it. Replacing all marcatos of a track by these two,
or some of them at any places, leaves the performance of the track and its faults as they are. -/
theorem compileNotes_spellOut {settings : Settings} {m a t : String}
    (hm : settings.shorthands.lookup? m = some (.simple .marcato))
    (ha : settings.shorthands.lookup? a = some (.simple .accent))
    (ht : settings.shorthands.lookup? t = some (.simple .tenuto)) (context : Context)
    (notes : List Note) :
    compileNotes settings context (notes.map (Note.spellOut m a t)) =
        compileNotes settings context notes ∧
      ∀ others, List.Forall₂ (fun note other => note.SameButMarkings other ∧
          Respelled m a t note.entries other.entries) notes others →
        compileNotes settings context others = compileNotes settings context notes := by
  have hothers : ∀ others, List.Forall₂ (fun note other => note.SameButMarkings other ∧
      Respelled m a t note.entries other.entries) notes others →
      compileNotes settings context others = compileNotes settings context notes := by
    intro others hrespelled
    refine (compileNotes_eq_of_replaces (hrespelled.imp fun note other hpair => ?_) context).symm
    exact ⟨hpair.1, hpair.2.sameOutcome hm ha ht⟩
  refine ⟨hothers _ ?_, hothers⟩
  refine List.forall₂_map_right_iff.2 (List.forall₂_same.2 fun note _ => ⟨rfl, ?_⟩)
  rw [note.entries_spellOut]
  exact respelled_flatMap_spellOut _

/-- A note with a marcato in each field, and the same note with only the second one replaced. -/
theorem compileNotes_spellOut_both :
    let settings : Settings := { Settings.standard with shorthands := .ofList [
      ("^", .simple .marcato), (">", .simple .accent), ("-", .simple .tenuto)] }
    let marcato : Entry := .descriptor ⟨"^", [("target", .null)]⟩
    let note : Note := { Note.plain (some (.single 60)) 1 (some (.list [.name "?", marcato])) with
      articulation? := some (.single (.name "^")) }
    let both : Note := { note with
      articulation? := some (.list [.name ">", .name "-"])
      articulations? := some (.list [.name "?", .name ">", .name "-"]) }
    let second : Note := { note with
      articulations? := some (.list [.name "?", .name ">", .name "-"]) }
    settings.shorthands.lookup? "^" = some (.simple .marcato) ∧
      settings.shorthands.lookup? ">" = some (.simple .accent) ∧
      settings.shorthands.lookup? "-" = some (.simple .tenuto) ∧
      note.spellOut "^" ">" "-" = both ∧
      (note.performance settings 0).modulations =
        [⟨0, .duration 2.25⟩, ⟨0, .velocity (1 + 0.3 + 1 + 0.3)⟩] ∧
      compileNotes settings .standard [note] = .ok (note.performance settings 0) ∧
      compileNotes settings .standard [both] = .ok (note.performance settings 0) ∧
      compileNotes settings .standard [second] = .ok (note.performance settings 0) := by
  intro settings marcato note both second
  have hm : settings.shorthands.lookup? "^" = some (.simple .marcato) := by decide +kernel
  have ha : settings.shorthands.lookup? ">" = some (.simple .accent) := by decide +kernel
  have ht : settings.shorthands.lookup? "-" = some (.simple .tenuto) := by decide +kernel
  have hcompiled : compileNotes settings .standard [note] = .ok (note.performance settings 0) :=
    compileNotes_singleton _ (by decide +kernel) _
  obtain ⟨hboth, hothers⟩ := compileNotes_spellOut hm ha ht .standard [note]
  have hmarcato : marcato.Names "^" := rfl
  have haccent : (Entry.name ">").Names ">" := rfl
  have htenuto : (Entry.name "-").Names "-" := rfl
  have hsecond : Respelled "^" ">" "-" note.entries second.entries :=
    .keep _ (.keep _ (.spell hmarcato haccent htenuto .nil))
  refine ⟨hm, ha, ht, rfl, by decide +kernel, hcompiled, hboth.trans hcompiled, ?_⟩
  exact (hothers [second] (.cons ⟨rfl, hsecond⟩ .nil)).trans hcompiled

end Espressivo
