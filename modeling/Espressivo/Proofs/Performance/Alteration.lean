import Espressivo.Proofs.Performance.Glide
import Espressivo.Proofs.Performance.Ranges
import Espressivo.Proofs.Performance.Rendering
import Espressivo.Proofs.Performance.Restriction

/-!
# Altered notes

What a performance holds for one note is an alteration: one effect in each dimension at most. An
altered note can be played if the notated one can: its velocity is a number that is not negative and
has the ceiling as its limit, and no pitch is too high.
-/

namespace Espressivo

open Binary64

/-! ## Notated notes -/

namespace Note

/-- The velocity that the note is marked with. -/
def velocity (note : Note) : Binary64 :=
  (note.dynamicMark?.map DynamicMark.velocity).getD DynamicMark.standardVelocity

/-- The note as it sounds without any effects. -/
def notated (note : Note) : Rendition := ⟨note.duration, note.velocity, note.pitches⟩

/-- Dynamic marks stand for velocities above zero. -/
theorem exists_velocity_eq (note : Note) :
    ∃ q : Finite, note.velocity = finite q ∧ q.negative = false ∧ q.units ≠ 0 := by
  have hmarks (mark : DynamicMark) : mark.velocity.isFinite ∧ 0 < mark.velocity := by
    cases mark <;> decide +kernel
  obtain ⟨mark, hmark⟩ : ∃ mark : DynamicMark, note.velocity = mark.velocity := by
    rw [velocity]
    cases note.dynamicMark? with
    | none => exact ⟨.mezzoForte, Option.getD_none⟩
    | some mark => exact ⟨mark, Option.getD_some⟩
  rw [hmark]
  obtain ⟨q, hq, hnegative, hunits⟩ := exists_finite_of_pos (hmarks mark).1 (hmarks mark).2
  exact ⟨q, hq, hnegative, Nat.ne_of_gt hunits⟩

end Note

/-! ## Alterations -/

/-- What is done to one note: at most one effect in each dimension. -/
structure Alteration where
  factor? : Option Binary64
  boost? : Option Binary64
  glide? : Option Glide
  factor_pos : ∀ factor ∈ factor?, 0 < factor
  boost_nonneg : ∀ boost ∈ boost?, 0 ≤ boost
  glide_le : ∀ glide ∈ glide?, glide.origin ≤ maxPitch ∧ glide.target ≤ maxPitch

namespace Alteration

/-- Nothing is done to the note. -/
def empty : Alteration where
  factor? := none
  boost? := none
  glide? := none
  factor_pos := by simp
  boost_nonneg := by simp
  glide_le := by simp

/-- The effects in the order of their dimensions. -/
def effects (alteration : Alteration) : List Effect :=
  (alteration.factor?.map .duration).toList ++ (alteration.boost?.map .velocity).toList ++
    (alteration.glide?.map .glide).toList

/-- The note with all effects. -/
def render (ceiling : Binary64) (subdivisions : Nat) (alteration : Alteration)
    (notated : Rendition) : Rendition where
  duration := alteration.factor?.elim notated.duration (notated.duration * ·)
  velocity := alteration.boost?.elim notated.velocity (boostedVelocity notated.velocity · ceiling)
  pitches := alteration.glide?.elim notated.pitches (·.steps subdivisions)

variable (alteration : Alteration)

/-- Effects of different dimensions do not meet. -/
theorem foldl_apply_effects (ceiling : Binary64) (subdivisions : Nat) (notated : Rendition) :
    alteration.effects.foldl (Rendition.apply ceiling subdivisions) notated =
      alteration.render ceiling subdivisions notated := by
  rw [effects, render]
  cases alteration.factor? <;> cases alteration.boost? <;> cases alteration.glide? <;> rfl

/-- The velocity of an altered note is a number above the ceiling only if it is notated so. -/
theorem render_velocity (ceiling : Binary64) (subdivisions : Nat) (note : Note) :
    0 ≤ (alteration.render ceiling subdivisions note.notated).velocity ∧
      ((alteration.render ceiling subdivisions note.notated).velocity = note.velocity ∨
        (alteration.render ceiling subdivisions note.notated).velocity ≤
          velocityLimit ceiling) := by
  obtain ⟨q, hq, hnegative, hunits⟩ := note.exists_velocity_eq
  rw [render]
  dsimp only [Note.notated]
  cases hboost : alteration.boost? with
  | none =>
    rw [Option.elim_none, hq]
    exact ⟨zero_le_finite_iff.2 fun hsign => absurd (hnegative.symm.trans hsign) nofun, .inl rfl⟩
  | some boost =>
    -- A boost may be infinite, and zero times infinity is no number, but no mark stands for zero.
    have hproduct : note.velocity * (1 + boost) ≠ nan := by
      obtain ⟨unit, hunit, -⟩ := exists_ofNat_eq (n := 1) (by decide)
      have hone : (1 : Binary64) = finite unit := hunit
      have hsum := add_le_add_left unit (alteration.boost_nonneg boost hboost)
      rw [← hone] at hsum
      rw [hq]
      exact finite_mul_ne_nan hunits (ne_nan_of_le_right hsum)
    rw [Option.elim_some, boostedVelocity_eq]
    obtain ⟨hlow, hhigh⟩ := clamp_within hproduct (zero_le_velocityLimit ceiling)
    exact ⟨hlow, .inr hhigh⟩

/-- A pitch of an altered note is one that is notated or one that can sound. -/
theorem render_pitches {ceiling : Binary64} {subdivisions : Nat}
    (hfits : subdivisions < UInt64.size) {notated : Rendition} {pitch : UInt8}
    (hpitch : pitch ∈ (alteration.render ceiling subdivisions notated).pitches) :
    pitch ∈ notated.pitches ∨ pitch ≤ maxPitch := by
  rw [render] at hpitch
  dsimp only at hpitch
  cases hglide : alteration.glide? with
  | none =>
    rw [hglide] at hpitch
    exact .inl hpitch
  | some glide =>
    rw [hglide] at hpitch
    obtain ⟨horigin, htarget⟩ := alteration.glide_le glide hglide
    exact .inr (Glide.le_of_mem_steps horigin htarget hfits hpitch)

end Alteration

/-! ## Performed notes -/

namespace Note

/-- What is done to a note in its performance. -/
def alteration (settings : Settings) (note : Note) (hsound : note.fault? = none) : Alteration where
  factor? := (note.combination settings).factor?.map (raisedTo settings.coefficients.floor)
  boost? := (note.combination settings).boost?.map (raisedTo 0)
  glide? := (note.combination settings).glide?
  factor_pos := by
    intro factor hfactor
    obtain ⟨product, -, rfl⟩ := Option.map_eq_some_iff.1 hfactor
    have hfloor := settings.coefficients.floor_pos
    exact lt_of_lt_of_le hfloor (le_raisedTo (ne_nan_of_lt hfloor) product)
  boost_nonneg := by
    intro boost hboost
    obtain ⟨sum, -, rfl⟩ := Option.map_eq_some_iff.1 hboost
    exact le_raisedTo zero_ne_nan sum
  glide_le := by
    intro glide hglide
    obtain ⟨horigin, hmem⟩ := glide_of_combination hglide
    exact ⟨le_of_mem_pitches hsound (mem_pitches_of_primaryPitch? horigin), target_le hmem⟩

theorem effects_alteration (settings : Settings) (note : Note) (hsound : note.fault? = none) :
    (note.alteration settings hsound).effects =
      (note.combination settings).effects settings.coefficients := by
  rw [Alteration.effects, alteration, Combination.effects, Option.map_map, Option.map_map]
  rfl

end Note

section

variable {settings : Settings} {context : Context} {notes : List Note} {performance : Performance}
  (hcompiled : compileNotes settings context notes = .ok performance)

include hcompiled

theorem ofNote_of_compileNotes {index : Nat} {note : Note} (hnote : notes[index]? = some note)
    (hsound : note.fault? = none) :
    performance.ofNote index = (note.alteration settings hsound).effects.map (⟨index, ·⟩) := by
  rw [note.effects_alteration]
  exact congrArg Performance.modulations (restrict_of_compileNotes hcompiled hnote)

/-- A performance holds an alteration for each index. -/
theorem exists_alteration (index : Nat) :
    ∃ alteration : Alteration,
      performance.ofNote index = alteration.effects.map (⟨index, ·⟩) := by
  cases hnote : notes[index]? with
  | some note =>
    have hsound := (compileNotes_eq_ok_iff.1 hcompiled).1 note (List.mem_of_getElem? hnote)
    exact ⟨_, ofNote_of_compileNotes hcompiled hnote hsound⟩
  | none =>
    have hindex := List.getElem?_eq_none_iff.1 hnote
    have hnothing := (shaped_of_compileNotes hcompiled).restrict_eq_empty (.inr hindex)
    exact ⟨.empty, congrArg Performance.modulations hnothing⟩

end

end Espressivo
