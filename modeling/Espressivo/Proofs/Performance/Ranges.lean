import Espressivo.Proofs.Performance.Combination
import Espressivo.Proofs.Performance.Faults
import Espressivo.Proofs.Performance.Notes

/-!
# Ranges of effects

Whatever the coefficients are, a duration keeps its least length and a velocity is not lowered. The
pitches of a glide can sound: it starts from the primary pitch of its note, which has no fault, and
ends at a target that was looked at when the markings were read.
-/

namespace Espressivo

/-! ## Targets -/

theorem Reading.target_le_of_ofTarget {kind found : GlideKind} {value : Json} {target : UInt8}
    (htarget : (ofTarget kind value).articulation? = some (.glide found target)) :
    target ≤ maxPitch := by
  cases value with
  | number n =>
    rw [ofTarget] at htarget
    split at htarget
    · rename_i hrange
      cases htarget
      exact Binary64.toUInt8_le (by decide) hrange.2
    · cases htarget
  | _ => cases htarget

/-- Only a descriptor yields a glide, and its target can sound. -/
theorem Reading.target_le_of_ofEntry {table : ShorthandTable} {entry : Entry} {kind : GlideKind}
    {target : UInt8} (htarget : (ofEntry table entry).articulation? = some (.glide kind target)) :
    target ≤ maxPitch := by
  cases entry with
  | name name =>
    rw [ofEntry, ofName] at htarget
    split at htarget <;> cases htarget
  | descriptor descriptor =>
    rw [ofEntry, ofDescriptor] at htarget
    split at htarget
    · cases htarget
    · split at htarget
      · exact target_le_of_ofTarget htarget
      · cases htarget
    · cases htarget
  | other value => cases htarget

theorem Articulation.mem_contributions_glide {c : Coefficients} {origin? : Option UInt8}
    {articulation : Articulation} {glide : Glide}
    (hglide : .glide glide ∈ articulation.contributions c origin?) :
    origin? = some glide.origin ∧ articulation = .glide glide.kind glide.target := by
  cases articulation with
  | simple kind =>
    cases kind <;>
      simp [contributions, SimpleArticulation.contributions, SimpleArticulation.accentContributions,
        SimpleArticulation.tenutoContributions] at hglide
  | glide kind target =>
    cases origin? with
    | none => simp [contributions] at hglide
    | some origin =>
      rw [contributions, List.mem_singleton] at hglide
      cases hglide
      exact ⟨rfl, rfl⟩

/-! ## Notes -/

namespace Note

variable {note : Note}

theorem le_of_mem_pitches (hsound : note.fault? = none) {pitch : UInt8}
    (hpitch : pitch ∈ note.pitches) : pitch ≤ maxPitch := by
  rw [fault?] at hsound
  split at hsound
  · cases hsound
  · rename_i hfind
    have hle := List.find?_eq_none.1 hfind pitch hpitch
    rwa [decide_eq_true_eq, UInt8.not_lt] at hle

theorem mem_pitches_of_primaryPitch? {pitch : UInt8} (hpitch : note.primaryPitch? = some pitch) :
    pitch ∈ note.pitches := by
  obtain ⟨written, hwritten, hprimary⟩ := Option.bind_eq_some_iff.1 hpitch
  rw [pitches, hwritten]
  exact List.mem_of_head? hprimary

variable {settings : Settings}

theorem target_le {kind : GlideKind} {target : UInt8}
    (hglide : .glide kind target ∈ note.articulations settings) : target ≤ maxPitch := by
  obtain ⟨reading, hreading, htarget⟩ := List.mem_filterMap.1 hglide
  obtain ⟨entry, -, rfl⟩ := List.mem_map.1 hreading
  exact Reading.target_le_of_ofEntry htarget

/-- The glide that is kept is one of the articulations of the note, from its primary pitch. -/
theorem glide_of_combination {glide : Glide}
    (hglide : (note.combination settings).glide? = some glide) :
    note.primaryPitch? = some glide.origin ∧
      .glide glide.kind glide.target ∈ note.articulations settings := by
  have hmem := Combination.mem_of_glide?_ofContributions hglide
  obtain ⟨articulation, harticulation, hcontribution⟩ := List.mem_flatMap.1 hmem
  obtain ⟨horigin, rfl⟩ := Articulation.mem_contributions_glide hcontribution
  exact ⟨horigin, harticulation⟩

end Note

/-- A modulation belongs to the note under its index. -/
theorem mem_modulations_performFrom {settings : Settings} {start : Nat} {notes : List Note}
    {m : Modulation} (hm : m ∈ (performFrom settings start {} notes).modulations) :
    ∃ place note, m.index = start + place ∧ notes[place]? = some note ∧
      m.effect ∈ (note.combination settings).effects settings.coefficients := by
  induction notes generalizing start with
  | nil => cases hm
  | cons note rest ih =>
    rw [performFrom_cons, Performance.modulations_append] at hm
    rcases List.mem_append.1 hm with hm | hm
    · obtain ⟨effect, heffect, rfl⟩ := List.mem_map.1 hm
      exact ⟨0, note, rfl, rfl, heffect⟩
    · obtain ⟨place, later, hindex, hlater, heffect⟩ := ih hm
      exact ⟨place + 1, later, by omega, hlater, heffect⟩

/-! ## Compiled notes -/

/-- What a modulation of compiled notes can be: factors are positive and at least the floor, boosts
not negative, and a glide leads from the primary pitch of its note to a pitch that can sound. -/
theorem compileNotes_ranges {settings : Settings} {context : Context} {notes : List Note}
    {performance : Performance}
    (hcompiled : compileNotes settings context notes = .ok performance) :
    (∀ index factor, ⟨index, .duration factor⟩ ∈ performance.modulations →
      0 < factor ∧
        (if settings.coefficients.minDuration.isFinite ∧ 0 < settings.coefficients.minDuration
          then settings.coefficients.minDuration else 0.001) ≤ factor) ∧
    (∀ index boost, ⟨index, .velocity boost⟩ ∈ performance.modulations →
      0 ≤ boost ∧ boost ≠ .nan) ∧
    ∀ index glide, ⟨index, .glide glide⟩ ∈ performance.modulations →
      ∃ note, notes[index]? = some note ∧ note.primaryPitch? = some glide.origin ∧
        glide.origin ≤ 127 ∧ glide.target ≤ 127 := by
  obtain ⟨hsound, rfl⟩ := compileNotes_eq_ok_iff.1 hcompiled
  refine ⟨fun index factor hm => ?duration, fun index boost hm => ?velocity,
    fun index glide hm => ?glide⟩
  case duration =>
    obtain ⟨place, note, -, -, heffect⟩ := mem_modulations_performFrom hm
    have hfloor := Combination.floor_le_of_mem_effects heffect
    exact ⟨Binary64.lt_of_lt_of_le settings.coefficients.floor_pos hfloor, hfloor⟩
  case velocity =>
    obtain ⟨place, note, -, -, heffect⟩ := mem_modulations_performFrom hm
    have hboost := Combination.zero_le_of_mem_effects heffect
    exact ⟨hboost, Binary64.ne_nan_of_le_right hboost⟩
  case glide =>
    obtain ⟨place, note, hindex, hnote, heffect⟩ := mem_modulations_performFrom hm
    have hglide := Combination.glide?_of_mem_effects heffect
    obtain ⟨horigin, hmem⟩ := Note.glide_of_combination hglide
    have hfault := hsound note (List.mem_of_getElem? hnote)
    have hpitch := Note.mem_pitches_of_primaryPitch? horigin
    rw [Nat.zero_add] at hindex
    refine ⟨note, by rw [← hnote, ← hindex], horigin, ?_, Note.target_le hmem⟩
    exact Note.le_of_mem_pitches hfault hpitch

/-- Coefficients that are not numbers lead to the limits; a glide of a chord starts from its first
pitch. -/
theorem compileNotes_ranges_nan :
    let settings := Settings.ofCoefficients { Coefficients.standard with
      staccatoDuration := .nan, accentVelocity := .nan, minDuration := .nan }
    let marked := Note.plain (some (.chord [60, 64])) 1 (some (.list [
      .name "staccato", .descriptor ⟨"glissando", [("target", .ofNat 127)]⟩, .name "accent"]))
    ∃ performance, compileNotes settings .standard [marked] = .ok performance ∧
      performance.modulations = [⟨0, .duration 0.001⟩, ⟨0, .velocity 0⟩,
        ⟨0, .glide ⟨.glissando, 60, 127⟩⟩] ∧
      (0 : Binary64) < 0.001 ∧ (0 : Binary64) ≤ 0 ∧ (60 : UInt8) ≤ 127 := by
  intro settings marked
  let performance := performFrom settings 0 {} [marked]
  have hcompiled : compileNotes settings .standard [marked] = .ok performance :=
    compileNotes_eq_ok_iff.2 ⟨by decide +kernel, rfl⟩
  have hmodulations : performance.modulations = [⟨0, .duration 0.001⟩, ⟨0, .velocity 0⟩,
      ⟨0, .glide ⟨.glissando, 60, 127⟩⟩] := by decide +kernel
  obtain ⟨hdurations, hvelocities, hglides⟩ := compileNotes_ranges hcompiled
  rw [hmodulations] at hdurations hvelocities hglides
  obtain ⟨note, -, -, horigin, -⟩ := hglides 0 ⟨.glissando, 60, 127⟩ (by simp)
  exact ⟨performance, hcompiled, hmodulations, (hdurations 0 0.001 (by simp)).1,
    (hvelocities 0 0 (by simp)).1, horigin⟩

end Espressivo
