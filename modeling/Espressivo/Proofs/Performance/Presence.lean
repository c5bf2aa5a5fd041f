import Espressivo.Proofs.Performance.Account
import Espressivo.Proofs.Performance.Dimensions

/-!
# Which effects a note has

The articulations of a note decide which dimensions it is changed in, whatever the coefficients are:
each simple articulation contributes to certain dimensions, and a glide does unless the note is a
rest. Only the legato leaves a mark.
-/

namespace Espressivo

/-! ## Articulations -/

/-- The articulations that change the duration of a note. -/
def SimpleArticulation.timed : List SimpleArticulation := [staccato, tenuto, marcato]

/-- The articulations that change the velocity of a note. -/
def SimpleArticulation.stressed : List SimpleArticulation := [accent, tenuto, marcato]

namespace Articulation

section

variable (c : Coefficients) (origin? : Option UInt8)

theorem filterMap_factor?_ne_nil_iff (articulation : Articulation) :
    (articulation.contributions c origin?).filterMap Contribution.factor? ≠ [] ↔
      ∃ kind ∈ SimpleArticulation.timed, articulation = .simple kind := by
  cases articulation with
  | simple kind =>
    cases kind <;>
      simp [contributions, SimpleArticulation.contributions, SimpleArticulation.accentContributions,
        SimpleArticulation.tenutoContributions, SimpleArticulation.timed, Contribution.factor?]
  | glide kind target => cases origin? <;> simp [contributions, Contribution.factor?]

theorem filterMap_boost?_ne_nil_iff (articulation : Articulation) :
    (articulation.contributions c origin?).filterMap Contribution.boost? ≠ [] ↔
      ∃ kind ∈ SimpleArticulation.stressed, articulation = .simple kind := by
  cases articulation with
  | simple kind =>
    cases kind <;>
      simp [contributions, SimpleArticulation.contributions, SimpleArticulation.accentContributions,
        SimpleArticulation.tenutoContributions, SimpleArticulation.stressed, Contribution.boost?]
  | glide kind target => cases origin? <;> simp [contributions, Contribution.boost?]

theorem filterMap_mark?_contributions (articulation : Articulation) :
    (articulation.contributions c origin?).filterMap Contribution.mark? =
      if articulation = .simple .legato then [.legato] else [] := by
  cases articulation with
  | simple kind => cases kind <;> rfl
  | glide kind target => cases origin? <;> rfl

end

/-- A dimension that certain articulations contribute to is touched if one of them is there. -/
theorem filterMap_flatMap_ne_nil_iff {α : Type} {contributions : Articulation → List Contribution}
    {value? : Contribution → Option α} {kinds : List SimpleArticulation}
    (hkinds : ∀ articulation, (contributions articulation).filterMap value? ≠ [] ↔
      ∃ kind ∈ kinds, articulation = .simple kind) (articulations : List Articulation) :
    (articulations.flatMap contributions).filterMap value? ≠ [] ↔
      ∃ kind ∈ kinds, .simple kind ∈ articulations := by
  rw [List.filterMap_flatMap, ne_eq, List.flatMap_eq_nil_iff]
  constructor
  · intro hvalues
    obtain ⟨articulation, hmem, hvalue⟩ : ∃ articulation ∈ articulations,
        (contributions articulation).filterMap value? ≠ [] := by
      simpa only [not_forall, exists_prop] using hvalues
    obtain ⟨kind, hkind, rfl⟩ := (hkinds articulation).1 hvalue
    exact ⟨kind, hkind, hmem⟩
  · rintro ⟨kind, hkind, hmem⟩ hnone
    exact (hkinds (.simple kind)).2 ⟨kind, hkind, rfl⟩ (hnone _ hmem)

/-- The first glide from a pitch is what the first glide among the articulations asks for. -/
theorem findSome?_glideFrom?_eq_some_iff {origin : UInt8} {glide : Glide}
    (articulations : List Articulation) :
    articulations.findSome? (glideFrom? origin) = some glide ↔
      articulations.find? isGlide = some (.glide glide.kind glide.target) ∧
        origin = glide.origin := by
  induction articulations with
  | nil => simp
  | cons articulation rest ih =>
    rw [List.findSome?_cons, List.find?_cons]
    cases articulation with
    | simple kind => exact ih
    | glide kind target =>
      constructor
      · intro hfirst
        cases hfirst
        exact ⟨rfl, rfl⟩
      · rintro ⟨hfirst, rfl⟩
        cases hfirst
        rfl

end Articulation

/-! ## Pitches -/

theorem Pitch.primary?_eq_some_iff {pitch : Pitch} {origin : UInt8} :
    pitch.primary? = some origin ↔
      pitch = .single origin ∨ ∃ others, pitch = .chord (origin :: others) := by
  cases pitch with
  | single pitch => simp [primary?, pitches]
  | chord pitches => simp [primary?, Pitch.pitches, List.head?_eq_some_iff]

theorem Note.primaryPitch?_eq_some_iff {note : Note} {origin : UInt8} :
    note.primaryPitch? = some origin ↔
      note.pitch? = some (.single origin) ∨
        ∃ others, note.pitch? = some (.chord (origin :: others)) := by
  rw [primaryPitch?, Option.bind_eq_some_iff]
  simp only [Pitch.primary?_eq_some_iff]
  constructor
  · rintro ⟨pitch, hpitch, rfl | ⟨others, rfl⟩⟩
    · exact Or.inl hpitch
    · exact Or.inr ⟨others, hpitch⟩
  · rintro (hpitch | ⟨others, hpitch⟩)
    · exact ⟨_, hpitch, Or.inl rfl⟩
    · exact ⟨_, hpitch, Or.inr ⟨others, rfl⟩⟩

theorem Note.exists_primaryPitch?_iff {note : Note} :
    (∃ origin, note.primaryPitch? = some origin) ↔
      note.pitch? ≠ none ∧ note.pitch? ≠ some (.chord []) := by
  rw [primaryPitch?]
  cases note.pitch? with
  | none => simp
  | some pitch =>
    cases pitch with
    | single pitch => simp [Pitch.primary?, Pitch.pitches]
    | chord pitches => cases pitches <;> simp [Pitch.primary?, Pitch.pitches]

/-! ## Marks -/

theorem eraseDups_of_forall_eq {α : Type} [DecidableEq α] {items : List α} {value : α}
    (hitems : ∀ item ∈ items, item = value) :
    items.eraseDups = if items = [] then [] else [value] := by
  cases items with
  | nil => rfl
  | cons first rest =>
    obtain ⟨rfl, hrest⟩ := List.forall_mem_cons.1 hitems
    have hfilter : rest.filter (fun item => !item == first) = [] := by
      apply List.filter_eq_nil_iff.2
      intro item hitem
      simp [hrest item hitem]
    rw [List.eraseDups_cons, hfilter, if_neg (List.cons_ne_nil first rest)]
    rfl

namespace Note

variable (settings : Settings) (note : Note)

/-- A part that is put together from the values of certain articulations is there if one of them
is. -/
theorem isSome_part_iff {part : Combination → Option Binary64}
    {value? : Contribution → Option Binary64} {combine : Binary64 → Binary64 → Binary64}
    {start : Binary64} {kinds : List SimpleArticulation}
    (hadd : ∀ combination contribution, part (Combination.add combination contribution) =
      ((value? contribution).map (combine ((part combination).getD start))).or (part combination))
    (hempty : part {} = none)
    (hkinds : ∀ articulation, (Articulation.contributions settings.coefficients
      note.primaryPitch? articulation).filterMap value? ≠ [] ↔
        ∃ kind ∈ kinds, articulation = .simple kind) :
    (part (note.combination settings)).isSome ↔
      ∃ kind ∈ kinds, .simple kind ∈ note.articulations settings := by
  rw [← Articulation.filterMap_flatMap_ne_nil_iff hkinds, combination, Combination.ofContributions,
    Combination.foldl_add_part hadd, hempty]
  split <;> simp [*]

theorem mem_marks_iff {mark : SimpleArticulation} :
    mark ∈ (note.contributions settings).filterMap Contribution.mark? ↔
      mark = .legato ∧ .simple .legato ∈ note.articulations settings := by
  rw [contributions, List.filterMap_flatMap, List.mem_flatMap]
  simp only [Articulation.filterMap_mark?_contributions]
  constructor
  · rintro ⟨articulation, hmem, hmark⟩
    split at hmark
    · rename_i hlegato
      exact ⟨List.mem_singleton.1 hmark, hlegato ▸ hmem⟩
    · cases hmark
  · rintro ⟨rfl, hmem⟩
    exact ⟨_, hmem, List.mem_singleton_self _⟩

theorem phrasing_combination :
    (note.combination settings).phrasing =
      if .simple .legato ∈ note.articulations settings then [.legato] else [] := by
  have hlegato : ∀ mark ∈ (note.contributions settings).filterMap Contribution.mark?,
      mark = .legato := fun mark hmark => ((note.mem_marks_iff settings).1 hmark).1
  have hnone : (note.contributions settings).filterMap Contribution.mark? = [] ↔
      .simple .legato ∉ note.articulations settings := by
    rw [List.eq_nil_iff_forall_not_mem]
    simp only [mem_marks_iff, not_and, forall_eq]
  rw [combination, Combination.phrasing_ofContributions]
  show ((note.contributions settings).filterMap Contribution.mark?).eraseDups = _
  rw [eraseDups_of_forall_eq hlegato]
  simp only [hnone, ite_not]

theorem glide?_combination_eq_some_iff {glide : Glide} :
    (note.combination settings).glide? = some glide ↔
      (note.articulations settings).find? Articulation.isGlide =
          some (.glide glide.kind glide.target) ∧
        note.primaryPitch? = some glide.origin := by
  rw [glide?_combination, glides, List.head?_filterMap]
  cases hpitch : note.primaryPitch? with
  | none =>
    apply iff_of_false
    · intro hfirst
      obtain ⟨articulation, -, hglide⟩ := List.exists_of_findSome?_eq_some hfirst
      cases hglide
    · rintro ⟨-, ⟨⟩⟩
  | some origin =>
    rw [Option.some_inj]
    exact Articulation.findSome?_glideFrom?_eq_some_iff _

theorem exists_glide?_combination_iff :
    (∃ glide, (note.combination settings).glide? = some glide) ↔
      note.pitch? ≠ none ∧ note.pitch? ≠ some (.chord []) ∧
        ∃ articulation ∈ note.articulations settings, articulation.isGlide := by
  simp only [glide?_combination_eq_some_iff]
  rw [← and_assoc, ← exists_primaryPitch?_iff, ← List.find?_isSome, Option.isSome_iff_exists]
  constructor
  · rintro ⟨glide, hfirst, horigin⟩
    exact ⟨⟨glide.origin, horigin⟩, _, hfirst⟩
  · rintro ⟨⟨origin, horigin⟩, articulation, hfirst⟩
    have hglide := List.find?_some hfirst
    cases articulation with
    | simple kind => cases hglide
    | glide kind target => exact ⟨⟨kind, origin, target⟩, hfirst, horigin⟩

end Note

/-! ## Compiled notes -/

section

variable {settings : Settings} {context : Context} {notes : List Note} {performance : Performance}
  {index : Nat} {note : Note}

theorem mem_modulations_of_compileNotes
    (hcompiled : compileNotes settings context notes = .ok performance)
    (hnote : notes[index]? = some note) {effect : Effect} :
    ⟨index, effect⟩ ∈ performance.modulations ↔
      effect ∈ (note.combination settings).effects settings.coefficients := by
  have hmodulations : performance.ofNote index = (note.performance settings index).modulations :=
    congrArg Performance.modulations (restrict_of_compileNotes hcompiled hnote)
  have hmem : (⟨index, effect⟩ : Modulation) ∈ performance.ofNote index ↔
      ⟨index, effect⟩ ∈ performance.modulations := by simp [Performance.ofNote]
  rw [← hmem, hmodulations]
  simp [Note.performance]

/-- Which effects a note has is a matter of its articulations and its pitch alone. The glide, if
there is one, is the first of the articulations that is a glide, and starts from the single pitch or
from the first one of a chord. -/
theorem compileNotes_presence
    (hcompiled : compileNotes settings context notes = .ok performance)
    (hnote : notes[index]? = some note) (earlier : List Diagnostic) :
    let articulations := ((note.read settings index).run earlier).1
    ((∃ factor, ⟨index, .duration factor⟩ ∈ performance.modulations) ↔
      ∃ kind ∈ [SimpleArticulation.staccato, .tenuto, .marcato], .simple kind ∈ articulations) ∧
    ((∃ boost, ⟨index, .velocity boost⟩ ∈ performance.modulations) ↔
      ∃ kind ∈ [SimpleArticulation.accent, .tenuto, .marcato], .simple kind ∈ articulations) ∧
    ((∃ glide, ⟨index, .glide glide⟩ ∈ performance.modulations) ↔
      note.pitch? ≠ none ∧ note.pitch? ≠ some (.chord []) ∧
        ∃ articulation ∈ articulations, articulation.isGlide) ∧
    (∀ glide, ⟨index, .glide glide⟩ ∈ performance.modulations ↔
      articulations.find? Articulation.isGlide = some (.glide glide.kind glide.target) ∧
        (note.pitch? = some (.single glide.origin) ∨
          ∃ others, note.pitch? = some (.chord (glide.origin :: others)))) ∧
    performance.phrasing.filter (·.index = index) =
      if .simple .legato ∈ articulations then [⟨index, .legato⟩] else [] := by
  intro articulations
  have harticulations : articulations = note.articulations settings :=
    congrArg Prod.fst (note.yields_read settings index earlier)
  simp only [mem_modulations_of_compileNotes hcompiled hnote, harticulations]
  refine ⟨?duration, ?velocity, ?start, ?glide, ?phrasing⟩
  case duration =>
    have htimed := note.isSome_part_iff settings Combination.factor?_add rfl
      (Articulation.filterMap_factor?_ne_nil_iff _ _)
    rw [← SimpleArticulation.timed, ← htimed]
    simp [Combination.mem_effects_iff, Option.isSome_iff_exists]
  case velocity =>
    have hstressed := note.isSome_part_iff settings Combination.boost?_add rfl
      (Articulation.filterMap_boost?_ne_nil_iff _ _)
    rw [← SimpleArticulation.stressed, ← hstressed]
    simp [Combination.mem_effects_iff, Option.isSome_iff_exists]
  case start =>
    rw [← Note.exists_glide?_combination_iff]
    simp [Combination.mem_effects_iff]
  case glide =>
    intro glide
    rw [← Note.primaryPitch?_eq_some_iff, ← Note.glide?_combination_eq_some_iff]
    simp [Combination.mem_effects_iff]
  case phrasing =>
    have hphrasing : performance.phrasing.filter (·.index = index) =
        (note.performance settings index).phrasing :=
      congrArg Performance.phrasing (restrict_of_compileNotes hcompiled hnote)
    rw [hphrasing, Note.performance, Note.phrasing_combination]
    split <;> rfl

end

/-- An accent that boosts by nothing, two glides and two legatos, on a rest with one list and on a
chord with a list in each field, where the glide of the single articulation comes first. -/
theorem compileNotes_presence_chord :
    let settings : Settings := { Settings.standard with
      coefficients := { Coefficients.standard with accentVelocity := 1 }
      shorthands := .ofList [(">", .simple .accent), ("/", .glide .glissando),
        ("~", .glide .portamento), ("(", .simple .legato)] }
    let glide (name : String) (target : Nat) : Entry :=
      .descriptor ⟨name, [("target", .ofNat target)]⟩
    let rest : Note := Note.plain none 1 (some (.list
      [.name ">", glide "/" 67, .name "(", glide "~" 55, .name "("]))
    let chord : Note := { Note.plain (some (.chord [60, 64])) 1
        (some (.list [glide "~" 55, .name ">", .name "("])) with
      articulation? := some (.list [.name "(", glide "/" 67]) }
    let notes : List Note := [rest, chord]
    ∃ performance, compileNotes settings .standard notes = .ok performance ∧
      (∃ boost, ⟨0, .velocity boost⟩ ∈ performance.modulations) ∧
      (¬ ∃ glide, ⟨0, .glide glide⟩ ∈ performance.modulations) ∧
      ⟨1, .glide ⟨.glissando, 60, 67⟩⟩ ∈ performance.modulations ∧
      (¬ ∃ factor, ⟨1, .duration factor⟩ ∈ performance.modulations) ∧
      performance.phrasing.filter (·.index = 1) = [⟨1, .legato⟩] := by
  intro settings glide rest chord notes
  have hcompiled : compileNotes settings .standard notes = .ok (performFrom settings 0 {} notes) :=
    compileNotes_eq_ok_iff.2 ⟨by decide +kernel, rfl⟩
  have hrest : notes[0]? = some rest := rfl
  have hchord : notes[1]? = some chord := rfl
  have hreadRest : ((rest.read settings 0).run []).1 =
      [.simple .accent, .glide .glissando 67, .simple .legato, .glide .portamento 55,
        .simple .legato] := by
    rw [Note.yields_read]
    decide +kernel
  have hreadChord : ((chord.read settings 1).run []).1 =
      [.simple .legato, .glide .glissando 67, .glide .portamento 55, .simple .accent,
        .simple .legato] := by
    rw [Note.yields_read]
    decide +kernel
  obtain ⟨-, hboost, hstart, -, -⟩ := compileNotes_presence hcompiled hrest []
  obtain ⟨hfactor, -, -, hglide, hphrasing⟩ := compileNotes_presence hcompiled hchord []
  rw [hreadRest] at hboost
  rw [hreadChord] at hfactor hphrasing
  simp only [hreadChord] at hglide
  refine ⟨_, hcompiled, hboost.2 (by decide), ?_, (hglide _).2 ⟨rfl, Or.inr ⟨[64], rfl⟩⟩, ?_, ?_⟩
  · exact fun hany => (hstart.1 hany).1 rfl
  · rw [hfactor]
    decide
  · rw [hphrasing]
    rfl

end Espressivo
