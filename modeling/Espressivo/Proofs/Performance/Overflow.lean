import Espressivo.Proofs.Binary64.Nonnegative
import Espressivo.Proofs.Binary64.Rounding
import Espressivo.Proofs.Performance.Notes

/-!
# Overflowing effects

The duration factors of a note are multiplied and its velocity boosts added up from left to right,
and nothing limits them from above. Coefficients of at most two, as the standard ones are, do not
lead to an overflow unless the note has more than a thousand articulations.
-/

namespace Espressivo

open Binary64

/-! ## Products and sums -/

def Contribution.factor? : Contribution → Option Binary64
  | .duration factor => some factor
  | _ => none

def Contribution.boost? : Contribution → Option Binary64
  | .velocity boost => some boost
  | _ => none

namespace Combination

variable {contributions : List Contribution} {combination : Combination}

/-- The first value is combined with the start, and each later one with what there is. -/
theorem foldl_add_part {part : Combination → Option Binary64}
    {value? : Contribution → Option Binary64} {combine : Binary64 → Binary64 → Binary64}
    {start : Binary64}
    (hadd : ∀ combination contribution, part (add combination contribution) =
      ((value? contribution).map (combine ((part combination).getD start))).or (part combination))
    (contributions : List Contribution) (combination : Combination) :
    part (contributions.foldl add combination) =
      if contributions.filterMap value? = [] then part combination
      else some
        ((contributions.filterMap value?).foldl combine ((part combination).getD start)) := by
  induction contributions generalizing combination with
  | nil => rfl
  | cons contribution rest ih =>
    rw [List.foldl_cons, ih, hadd]
    cases hvalue : value? contribution with
    | none => simp [hvalue]
    | some value =>
      by_cases hrest : rest.filterMap value? = []
      · simp [hvalue, hrest]
      · simp [hvalue, hrest]

theorem factor?_add (combination : Combination) (contribution : Contribution) :
    (combination.add contribution).factor? =
      (contribution.factor?.map ((combination.factor?.getD 1) * ·)).or combination.factor? := by
  cases contribution with
  | duration factor => rfl
  | velocity boost => rfl
  | glide glide => cases hglide : combination.glide? <;> simp [add, Contribution.factor?, hglide]
  | phrasing mark =>
    simp only [add, Contribution.factor?, Option.map_none, Option.none_or]
    split <;> rfl

theorem boost?_add (combination : Combination) (contribution : Contribution) :
    (combination.add contribution).boost? =
      (contribution.boost?.map ((combination.boost?.getD 0) + ·)).or combination.boost? := by
  cases contribution with
  | duration factor => rfl
  | velocity boost => rfl
  | glide glide => cases hglide : combination.glide? <;> simp [add, Contribution.boost?, hglide]
  | phrasing mark =>
    simp only [add, Contribution.boost?, Option.map_none, Option.none_or]
    split <;> rfl

theorem eq_of_factor? {product : Binary64}
    (hproduct : (ofContributions contributions).factor? = some product) :
    product = (contributions.filterMap Contribution.factor?).foldl (· * ·) 1 := by
  rw [ofContributions, foldl_add_part factor?_add] at hproduct
  split at hproduct
  · cases hproduct
  · exact (Option.some.inj hproduct).symm

theorem eq_of_boost? {sum : Binary64}
    (hsum : (ofContributions contributions).boost? = some sum) :
    sum = (contributions.filterMap Contribution.boost?).foldl (· + ·) 0 := by
  rw [ofContributions, foldl_add_part boost?_add] at hsum
  split at hsum
  · cases hsum
  · exact (Option.some.inj hsum).symm

end Combination

/-! ## Bounds -/

theorem Binary64.Within.mul {x y : Binary64} {n : Nat} (hx : x.Within (2 ^ n * one))
    (hy : y.Within (2 * one)) (hn : n + 1 ≤ 1023) : (x * y).Within (2 ^ (n + 1) * one) := by
  obtain ⟨p, rfl, hp⟩ := hx
  obtain ⟨q, rfl, hq⟩ := hy
  refine within_round Binary64.one_pos (representable_power hn) ?_
  calc p.units * q.units ≤ 2 ^ n * one * (2 * one) := Nat.mul_le_mul hp hq
    _ = 2 ^ (n + 1) * one * one := by rw [Nat.pow_succ]; ring

theorem Binary64.Within.add {x y : Binary64} {m n : Nat} (hx : x.Within (m * one))
    (hy : y.Within (n * one)) (hsum : m + n ≤ 2 ^ 53) : (x + y).Within ((m + n) * one) := by
  obtain ⟨p, rfl, hp⟩ := hx
  obtain ⟨q, rfl, hq⟩ := hy
  refine within_add (representable_whole hsum) ?_
  rw [Nat.add_mul]
  unfold Finite.position
  split <;> split <;> omega

theorem within_foldl_mul {factors : List Binary64} {start : Binary64} {n : Nat}
    (hstart : start.Within (2 ^ n * one)) (hfactors : ∀ factor ∈ factors, factor.Within (2 * one))
    (hlength : n + factors.length ≤ 1023) :
    (factors.foldl (· * ·) start).Within (2 ^ (n + factors.length) * one) := by
  induction factors generalizing start n with
  | nil => exact hstart
  | cons factor rest ih =>
    obtain ⟨hfactor, hrest⟩ := List.forall_mem_cons.1 hfactors
    rw [List.length_cons] at hlength ⊢
    have hlater := ih (hstart.mul hfactor (by omega)) hrest (by omega)
    rwa [Nat.add_assoc, Nat.add_comm 1] at hlater

theorem within_foldl_add {boosts : List Binary64} {start : Binary64} {n : Nat}
    (hstart : start.Within (n * one)) (hboosts : ∀ boost ∈ boosts, boost.Within (1 * one))
    (hlength : n + boosts.length ≤ 2 ^ 53) :
    (boosts.foldl (· + ·) start).Within ((n + boosts.length) * one) := by
  induction boosts generalizing start n with
  | nil => exact hstart
  | cons boost rest ih =>
    obtain ⟨hboost, hrest⟩ := List.forall_mem_cons.1 hboosts
    rw [List.length_cons] at hlength ⊢
    have hlater := ih (hstart.add hboost (by omega)) hrest (by omega)
    rwa [Nat.add_assoc, Nat.add_comm 1] at hlater

theorem within_ofNat {n : Nat} (hn : n < Nat.pow 2 53) : (ofNat n).Within (n * one) :=
  ⟨_, ofNat_eq_finite hn, Nat.le_refl _⟩

/-- A coefficient of at most two is within two, and its boost within one. -/
theorem within_of_le_two {x : Binary64} (hfinite : x.isFinite) (hpos : 0 < x) (hle : x ≤ 2) :
    x.Within (2 * one) ∧ (boostOfFactor x).Within (1 * one) := by
  obtain ⟨q, rfl, hnegative, -⟩ := exists_finite_of_pos hfinite hpos
  have htwo : (2 : Binary64) = finite ⟨false, 2 * one, representable_mul_one (by decide)⟩ :=
    @ofNat_eq_finite 2 (by decide)
  have hone : (1 : Binary64) = finite ⟨false, 1 * one, representable_mul_one (by decide)⟩ :=
    @ofNat_eq_finite 1 (by decide)
  rw [htwo] at hle
  have hunits := units_le_of_le (le_of_lt hpos) hle
  refine ⟨⟨q, rfl, hunits⟩, ?_⟩
  rw [boostOfFactor, hone]
  refine within_add (representable_whole (by decide)) ?_
  simp only [Finite.position, hnegative, Bool.not_false, if_true, Bool.false_eq_true, if_false]
  omega

/-! ## Notes -/

namespace Coefficients

variable {c : Coefficients}

theorem fault?_eq_none_iff :
    c.fault? = none ↔ ∀ entry ∈ c.values, entry.2.isFinite ∧ 0 < entry.2 := by
  rw [fault?, Option.map_eq_none_iff, List.find?_eq_none]
  refine forall₂_congr fun entry _ => ?_
  rw [decide_eq_true_eq, not_or, not_not]
  exact and_congr_right not_le_zero_iff

end Coefficients

theorem Settings.coefficients_fault? {settings : Settings} (hsound : settings.fault? = none) :
    settings.coefficients.fault? = none := by
  rw [fault?] at hsound
  cases hfault : settings.coefficients.fault? with
  | none => rfl
  | some fault =>
    rw [hfault] at hsound
    cases hsound

theorem length_flatMap_le {α β : Type} {f : α → List β} {n : Nat} (hf : ∀ a, (f a).length ≤ n)
    (items : List α) : (items.flatMap f).length ≤ n * items.length := by
  induction items with
  | nil => exact Nat.zero_le _
  | cons item rest ih =>
    have hitem := hf item
    rw [List.flatMap_cons, List.length_append, List.length_cons, Nat.mul_succ]
    omega

namespace Articulation

variable (c : Coefficients) (origin? : Option UInt8) (articulation : Articulation)

/-- An articulation has at most one factor and two boosts, all of which come from coefficients. -/
theorem contributions_bounds :
    ((articulation.contributions c origin?).filterMap Contribution.factor?).length ≤ 1 ∧
    ((articulation.contributions c origin?).filterMap Contribution.boost?).length ≤ 2 ∧
    (∀ factor ∈ (articulation.contributions c origin?).filterMap Contribution.factor?,
      factor ∈ c.values.map (·.2)) ∧
    ∀ boost ∈ (articulation.contributions c origin?).filterMap Contribution.boost?,
      boost ∈ c.values.map fun entry => boostOfFactor entry.2 := by
  cases articulation with
  | simple kind =>
    cases kind <;>
      simp [contributions, SimpleArticulation.contributions, SimpleArticulation.accentContributions,
        SimpleArticulation.tenutoContributions, Contribution.factor?, Contribution.boost?,
        Coefficients.values, List.filterMap_cons]
  | glide kind target =>
    cases origin? <;>
      simp [contributions, Contribution.factor?, Contribution.boost?, List.filterMap_cons]

end Articulation

namespace Note

variable (settings : Settings) (note : Note)

def contributions : List Contribution :=
  (note.articulations settings).flatMap
    (Articulation.contributions settings.coefficients note.primaryPitch?)

/-- The factors of the note's duration. -/
def factors : List Binary64 := (note.contributions settings).filterMap Contribution.factor?

/-- The boosts of the note's velocity. -/
def boosts : List Binary64 := (note.contributions settings).filterMap Contribution.boost?

/-- What the note adds up to in the dimension of an effect is too large to be finite. -/
def Overflows : Effect → Prop
  | .duration _ => (note.factors settings).foldl (· * ·) 1 = infinite false
  | .velocity _ => (note.boosts settings).foldl (· + ·) 0 = infinite false
  | .glide _ => False

instance (effect : Effect) : Decidable (note.Overflows settings effect) := by
  unfold Overflows
  split <;> infer_instance

theorem length_articulations_le :
    (note.articulations settings).length ≤ note.entries.length := by
  have hreadings := List.length_filterMap_le Reading.articulation? (note.readings settings)
  rwa [readings, List.length_map] at hreadings

theorem length_factors_le : (note.factors settings).length ≤ note.entries.length := by
  have hbounds := Articulation.contributions_bounds settings.coefficients note.primaryPitch?
  have hlength := length_flatMap_le (fun a => (hbounds a).1) (note.articulations settings)
  rw [factors, contributions, List.filterMap_flatMap]
  have harticulations := note.length_articulations_le settings
  omega

theorem length_boosts_le : (note.boosts settings).length ≤ 2 * note.entries.length := by
  have hbounds := Articulation.contributions_bounds settings.coefficients note.primaryPitch?
  have hlength := length_flatMap_le (fun a => (hbounds a).2.1) (note.articulations settings)
  rw [boosts, contributions, List.filterMap_flatMap]
  have harticulations := note.length_articulations_le settings
  omega

variable {settings : Settings} {note : Note}

theorem within_of_mem_factors {factor : Binary64} (hsound : settings.coefficients.fault? = none)
    (htwo : ∀ entry ∈ settings.coefficients.values, entry.2 ≤ 2)
    (hfactor : factor ∈ note.factors settings) : factor.Within (2 * one) := by
  rw [factors, contributions, List.filterMap_flatMap] at hfactor
  obtain ⟨articulation, -, hfactor⟩ := List.mem_flatMap.1 hfactor
  have hbounds := Articulation.contributions_bounds settings.coefficients note.primaryPitch?
  obtain ⟨entry, hentry, rfl⟩ := List.mem_map.1 ((hbounds articulation).2.2.1 _ hfactor)
  obtain ⟨hfinite, hpos⟩ := Coefficients.fault?_eq_none_iff.1 hsound entry hentry
  exact (within_of_le_two hfinite hpos (htwo entry hentry)).1

theorem within_of_mem_boosts {boost : Binary64} (hsound : settings.coefficients.fault? = none)
    (htwo : ∀ entry ∈ settings.coefficients.values, entry.2 ≤ 2)
    (hboost : boost ∈ note.boosts settings) : boost.Within (1 * one) := by
  rw [boosts, contributions, List.filterMap_flatMap] at hboost
  obtain ⟨articulation, -, hboost⟩ := List.mem_flatMap.1 hboost
  have hbounds := Articulation.contributions_bounds settings.coefficients note.primaryPitch?
  obtain ⟨entry, hentry, rfl⟩ := List.mem_map.1 ((hbounds articulation).2.2.2 _ hboost)
  obtain ⟨hfinite, hpos⟩ := Coefficients.fault?_eq_none_iff.1 hsound entry hentry
  exact (within_of_le_two hfinite hpos (htwo entry hentry)).2

/-- With coefficients of at most two it takes more than a thousand articulations to overflow. -/
theorem not_overflows (hsound : settings.coefficients.fault? = none)
    (htwo : ∀ entry ∈ settings.coefficients.values, entry.2 ≤ 2)
    (hlength : note.entries.length ≤ 1023) (effect : Effect) :
    ¬ note.Overflows settings effect := by
  have hzero : (0 : Binary64).Within (0 * one) := within_ofNat (by decide)
  have hone : (1 : Binary64).Within (2 ^ 0 * one) := within_ofNat (by decide)
  cases effect with
  | duration factor =>
    have hfew : 0 + (note.factors settings).length ≤ 1023 := by
      have hfactors := note.length_factors_le settings
      omega
    obtain ⟨q, hproduct, -⟩ := within_foldl_mul hone
      (fun factor => within_of_mem_factors hsound htwo) hfew
    intro hover
    rw [Overflows, hproduct] at hover
    cases hover
  | velocity boost =>
    have hfew : 0 + (note.boosts settings).length ≤ 2 ^ 53 := by
      have hboosts := note.length_boosts_le settings
      omega
    obtain ⟨q, hsum, -⟩ := within_foldl_add hzero
      (fun boost => within_of_mem_boosts hsound htwo) hfew
    intro hover
    rw [Overflows, hsum] at hover
    cases hover
  | glide glide => exact nofun

end Note

end Espressivo
