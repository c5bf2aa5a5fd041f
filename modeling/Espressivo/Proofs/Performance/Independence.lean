import Espressivo.Proofs.Performance.Faults
import Espressivo.Proofs.Performance.Findings

/-!
# What a performance depends on

The effects on durations and velocities, the phrasing and the findings about entries follow from
the markings of the notes. The glides and the findings about them follow from the markings and the
primary pitches. Nothing else that a note carries has an influence, and the context has none either.
-/

namespace Espressivo

/-! ## Leaving out the glides -/

theorem Articulation.filter_contributions (c : Coefficients) (origin? : Option UInt8)
    (articulation : Articulation) :
    (articulation.contributions c origin?).filter (·.glide?.isNone) =
      articulation.contributions c none := by
  cases articulation with
  | simple kind => cases kind <;> rfl
  | glide kind target => cases origin? <;> rfl

namespace Combination

/-- The combination as if no glide had been contributed to it. -/
def unpitched (combination : Combination) : Combination :=
  { combination with glide? := none, findings := [] }

theorem unpitched_add (combination : Combination) (contribution : Contribution) :
    (combination.add contribution).unpitched =
      if contribution.glide?.isNone then combination.unpitched.add contribution
      else combination.unpitched := by
  cases contribution with
  | duration factor => rfl
  | velocity boost => rfl
  | glide glide =>
    cases hglide : combination.glide? <;> simp [add, hglide, Contribution.glide?, unpitched]
  | phrasing mark =>
    by_cases hmark : mark ∈ combination.phrasing <;>
      simp [add, hmark, Contribution.glide?, unpitched]

theorem unpitched_foldl_add (contributions : List Contribution) (combination : Combination) :
    (contributions.foldl add combination).unpitched =
      (contributions.filter (·.glide?.isNone)).foldl add combination.unpitched := by
  induction contributions generalizing combination with
  | nil => rfl
  | cons contribution rest ih =>
    rw [List.foldl_cons, ih, unpitched_add, List.filter_cons]
    split
    · rw [List.foldl_cons]
    · rfl

theorem unpitched_ofContributions (contributions : List Contribution) :
    (ofContributions contributions).unpitched =
      ofContributions (contributions.filter (·.glide?.isNone)) :=
  unpitched_foldl_add contributions {}

theorem effects_unpitched (c : Coefficients) (combination : Combination) :
    combination.unpitched.effects c = (combination.effects c).filter (·.glide?.isNone) := by
  rw [effects, effects, unpitched]
  cases combination.factor? <;> cases combination.boost? <;> cases combination.glide? <;> rfl

end Combination

namespace Performance

/-- The performance without glides and without the findings about them. -/
def unpitched (performance : Performance) : Performance where
  modulations := performance.modulations.filter (·.effect.glide?.isNone)
  phrasing := performance.phrasing
  diagnostics := performance.diagnostics.filter (·.finding.kind.isOfEntry)

theorem unpitched_append (a b : Performance) : (a ++ b).unpitched = a.unpitched ++ b.unpitched := by
  simp only [append_eq, append, unpitched, List.filter_append]

end Performance

/-! ## One note -/

namespace Note

/-- The notes are marked alike, whatever else they are. -/
def SameMarkings (a b : Note) : Prop :=
  a.articulation? = b.articulation? ∧ a.articulations? = b.articulations?

variable (settings : Settings) (index : Nat) (note : Note)

theorem unpitched_combination :
    (note.combination settings).unpitched =
      .ofContributions ((note.articulations settings).flatMap
        (Articulation.contributions settings.coefficients none)) := by
  rw [combination, Combination.unpitched_ofContributions, List.filter_flatMap]
  simp only [Articulation.filter_contributions]

theorem unpitched_performance :
    (note.performance settings index).unpitched = {
      modulations :=
        ((note.combination settings).unpitched.effects settings.coefficients).map (⟨index, ·⟩)
      phrasing := (note.combination settings).unpitched.phrasing.map (⟨index, ·⟩)
      diagnostics := (findingsOf (note.readings settings)).map (⟨index, ·⟩) } := by
  rw [Performance.unpitched, performance, List.filter_map, List.filter_map,
    Combination.effects_unpitched, ← filter_isOfEntry_findings]
  rfl

variable {settings} {a b : Note}

theorem SameMarkings.readings_eq (hsame : a.SameMarkings b) :
    a.readings settings = b.readings settings := by
  rw [readings, readings, entries, entries, markings, markings, hsame.1, hsame.2]

theorem SameMarkings.articulations_eq (hsame : a.SameMarkings b) :
    a.articulations settings = b.articulations settings := by
  rw [articulations, articulations, hsame.readings_eq]

theorem SameMarkings.unpitched_performance_eq (hsame : a.SameMarkings b) (index : Nat) :
    (a.performance settings index).unpitched = (b.performance settings index).unpitched := by
  rw [unpitched_performance, unpitched_performance, unpitched_combination, unpitched_combination,
    hsame.articulations_eq, hsame.readings_eq]

theorem SameMarkings.performance_eq (hsame : a.SameMarkings b)
    (hpitch : a.primaryPitch? = b.primaryPitch?) (index : Nat) :
    a.performance settings index = b.performance settings index := by
  have hcombination : a.combination settings = b.combination settings := by
    rw [combination, combination, hsame.articulations_eq, hpitch]
  rw [performance, performance, findings, findings, hcombination, hsame.readings_eq,
    hsame.articulations_eq, hpitch]

end Note

/-! ## Tracks -/

variable {settings : Settings} {a b : List Note}

theorem unpitched_performFrom (hmarkings : List.Forall₂ Note.SameMarkings a b) (start : Nat) :
    (performFrom settings start {} a).unpitched = (performFrom settings start {} b).unpitched := by
  induction hmarkings generalizing start with
  | nil => rfl
  | cons hsame hrest ih =>
    rw [performFrom_cons, performFrom_cons, Performance.unpitched_append,
      Performance.unpitched_append, hsame.unpitched_performance_eq, ih]

theorem performFrom_congr (hmarkings : List.Forall₂ Note.SameMarkings a b)
    (hpitches : List.Forall₂ (fun x y => x.primaryPitch? = y.primaryPitch?) a b) (start : Nat) :
    performFrom settings start {} a = performFrom settings start {} b := by
  refine performFrom_eq_of_forall₂ settings start (hmarkings.mp ?_ hpitches)
  exact fun _ _ hsame hpitch => hsame.performance_eq hpitch

/-- Tracks that are marked alike, note by note, agree in all but the glides and the findings about
them, whatever else their notes hold and whatever the contexts are. If the primary pitches are the
same as well, so are the performances. -/
theorem compileNotes_noninterference {contextA contextB : Context}
    {performanceA performanceB : Performance}
    (ha : compileNotes settings contextA a = .ok performanceA)
    (hb : compileNotes settings contextB b = .ok performanceB)
    (hmarkings : List.Forall₂ Note.SameMarkings a b) :
    performanceA.modulations.filter (·.effect.glide?.isNone) =
        performanceB.modulations.filter (·.effect.glide?.isNone) ∧
      performanceA.phrasing = performanceB.phrasing ∧
      performanceA.diagnostics.filter (·.finding.kind.isOfEntry) =
        performanceB.diagnostics.filter (·.finding.kind.isOfEntry) ∧
      (List.Forall₂ (fun x y => x.primaryPitch? = y.primaryPitch?) a b →
        performanceA = performanceB) := by
  obtain ⟨-, rfl⟩ := compileNotes_eq_ok_iff.1 ha
  obtain ⟨-, rfl⟩ := compileNotes_eq_ok_iff.1 hb
  have hunpitched : (performFrom settings 0 {} a).unpitched =
      (performFrom settings 0 {} b).unpitched := unpitched_performFrom hmarkings 0
  obtain ⟨hmodulations, hphrasing, hdiagnostics⟩ := Performance.mk.inj hunpitched
  refine ⟨hmodulations, hphrasing, hdiagnostics, fun hpitches => ?_⟩
  exact performFrom_congr hmarkings hpitches 0

/-- A note, a rest and a chord with the same markings, one of which is unknown. -/
theorem compileNotes_noninterference_rest :
    let settings : Settings := { Settings.standard with
      shorthands := .ofList [(".", .simple .staccato), ("/", .glide .glissando)] }
    let markings : Markings := .list [
      .name ".", .descriptor ⟨"/", [("target", .ofNat 62)]⟩, .name "?"]
    let sounding := Note.plain (some (.single 60)) 1 (some markings)
    let rest := Note.plain none 1 (some markings)
    let chord : Note := { Note.plain (some (.chord [60, 64])) 2 (some markings) with
      time := 3, dynamics? := some "mf" }
    ∃ performance silent, compileNotes settings .standard [sounding] = .ok performance ∧
      compileNotes settings { Context.standard with tempo := 90 } [rest] = .ok silent ∧
      performance.modulations ≠ silent.modulations ∧
      performance.modulations.filter (·.effect.glide?.isNone) =
        silent.modulations.filter (·.effect.glide?.isNone) ∧
      compileNotes settings .standard [chord] = .ok performance := by
  intro settings markings sounding rest chord
  have hsounding : compileNotes settings .standard [sounding] =
      .ok (sounding.performance settings 0) :=
    compileNotes_singleton _ (by decide +kernel) _
  have hrest : compileNotes settings { Context.standard with tempo := 90 } [rest] =
      .ok (rest.performance settings 0) :=
    compileNotes_singleton _ (by decide +kernel) _
  have hchord : compileNotes settings .standard [chord] = .ok (chord.performance settings 0) :=
    compileNotes_singleton _ (by decide +kernel) _
  have hsilent : List.Forall₂ Note.SameMarkings [sounding] [rest] := .cons ⟨rfl, rfl⟩ .nil
  have halike : List.Forall₂ Note.SameMarkings [sounding] [chord] := .cons ⟨rfl, rfl⟩ .nil
  obtain ⟨hfilter, -⟩ := compileNotes_noninterference hsounding hrest hsilent
  obtain ⟨-, -, -, hsame⟩ := compileNotes_noninterference hsounding hchord halike
  have hequal := hsame (.cons rfl .nil)
  refine ⟨_, _, hsounding, hrest, by decide +kernel, hfilter, ?_⟩
  rw [hequal]
  exact hchord

end Espressivo
