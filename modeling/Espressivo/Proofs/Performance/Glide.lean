import Espressivo.Performance.Glide
import Espressivo.Proofs.Binary64.SumProduct

/-!
# The steps of a glide

The steps of a glide lie on the straight line from one pitch to the other, but for their rounding to
whole semitones: the error of the arithmetic before that is far too small to show at the ends, and
since each of its operations is monotone, it never turns a step back.
-/

namespace Espressivo
namespace Glide

open Binary64

variable {glide : Glide} {last step : Nat}

/-! ## The straight line -/

/-- The point after `step` of `last` equal parts of the straight line between the two pitches. -/
def pointAt (glide : Glide) (last step : Nat) : ℚ :=
  glide.origin.toNat + glide.interval * step / last

theorem pointAt_zero (glide : Glide) (last : Nat) : glide.pointAt last 0 = glide.origin.toNat := by
  simp [pointAt]

theorem pointAt_last (hlast : 0 < last) : glide.pointAt last last = glide.target.toNat := by
  have hlast' : (last : ℚ) ≠ 0 := by exact_mod_cast hlast.ne'
  rw [pointAt, mul_div_assoc, div_self hlast', mul_one, interval]
  push_cast
  ring

theorem pointAt_bounds (glide : Glide) (hlast : 0 < last) (hstep : step ≤ last) :
    min (glide.origin.toNat : ℚ) glide.target.toNat ≤ glide.pointAt last step ∧
      glide.pointAt last step ≤ max (glide.origin.toNat : ℚ) glide.target.toNat := by
  have hlast' : (0 : ℚ) < last := Nat.cast_pos.2 hlast
  have hpart : 0 ≤ (step / last : ℚ) := div_nonneg (Nat.cast_nonneg _) hlast'.le
  have hpart' : (step / last : ℚ) ≤ 1 := div_le_one_of_le₀ (Nat.cast_le.2 hstep) hlast'.le
  have hinterval : (glide.interval : ℚ) = glide.target.toNat - glide.origin.toNat := by
    rw [interval, Int.cast_sub, Int.cast_natCast, Int.cast_natCast]
  rw [pointAt, mul_div_assoc, hinterval]
  generalize (step / last : ℚ) = part at hpart hpart' ⊢
  rcases le_total (glide.origin.toNat : ℚ) glide.target.toNat with horder | horder
  · rw [min_eq_left horder, max_eq_right horder]
    constructor <;> nlinarith
  · rw [min_eq_right horder, max_eq_left horder]
    constructor <;> nlinarith

theorem pointAt_within_byte (glide : Glide) (hlast : 0 < last) (hstep : step ≤ last) :
    0 ≤ glide.pointAt last step ∧ glide.pointAt last step ≤ 255 := by
  have hbyte (pitch : UInt8) : (pitch.toNat : ℚ) ≤ 255 := by
    exact_mod_cast Nat.le_of_lt_succ pitch.toNat_lt
  obtain ⟨hlow, hhigh⟩ := pointAt_bounds glide hlast hstep
  exact ⟨(le_min (Nat.cast_nonneg _) (Nat.cast_nonneg _)).trans hlow,
    hhigh.trans (max_le (hbyte _) (hbyte _))⟩

theorem natAbs_interval_le (glide : Glide) : glide.interval.natAbs ≤ 255 := by
  have horigin := glide.origin.toNat_lt
  have htarget := glide.target.toNat_lt
  rw [interval]
  omega

/-! ## Floating point -/

/-- The same point in floating point. -/
def valueAt (glide : Glide) (last step : Nat) : Binary64 :=
  .ofNat glide.origin.toNat +
    (.ofNat glide.target.toNat - .ofNat glide.origin.toNat) * .ofNat step / .ofNat last

theorem pitchAt_eq (glide : Glide) (last step : Nat) :
    glide.pitchAt last step = (glide.valueAt last step).roundToWhole.toUInt8 := rfl

theorem exists_byte_eq (pitch : UInt8) :
    ∃ x : Finite, ofNat pitch.toNat = finite x ∧ x.negative = false ∧
      x.units = pitch.toNat * one :=
  exists_ofNat_eq (Nat.lt_trans pitch.toNat_lt (by decide : 256 < Nat.pow 2 53))

/-- The span is exact. -/
theorem exists_span_eq (glide : Glide) :
    ∃ span : Finite, ofNat glide.target.toNat - ofNat glide.origin.toNat = finite span ∧
      span.position = glide.interval * one := by
  obtain ⟨o, ho, hoNegative, hoUnits⟩ := exists_byte_eq glide.origin
  obtain ⟨t, ht, htNegative, htUnits⟩ := exists_byte_eq glide.target
  have hsum : t.position + o.opposite.position = glide.interval * one := by
    rw [position_opposite, position_eq_signed, position_eq_signed, htNegative, hoNegative, htUnits,
      hoUnits, signed_false, signed_false, interval, Int.sub_mul, Int.natCast_mul, Int.natCast_mul]
    rfl
  have hexact : Representable (t.position + o.opposite.position).natAbs := by
    rw [hsum, Int.natAbs_mul, Int.natAbs_natCast]
    exact representable_mul_one (Nat.lt_of_le_of_lt glide.natAbs_interval_le (by decide))
  obtain ⟨span, hspan, hposition⟩ := exists_add_eq_exact hexact
  rw [ho, ht]
  exact ⟨span, hspan, hposition.trans hsum⟩

/-- A multiple of a span that does not lead down is off by two roundings. -/
theorem exists_multiple_eq {span : Finite} {n : Nat} (hspan : span.negative = false)
    (hunits : span.units = n * one) (hn : n ≤ 2 ^ 8) (hstep : step ≤ 2 ^ 64) :
    ∃ z : Finite, finite span * ofNat step = finite z ∧ z.negative = false ∧
      (z.units = 0 ∨ 3 / 4 ≤ z.toRat) ∧ |z.toRat - n * step| ≤ n * step / 2 ^ 51 := by
  obtain ⟨s, hs, hnegative, hrounds⟩ := rounds_ofNat (by decide) hstep
  have hstep' : (step : ℚ) ≤ 2 ^ 64 := by exact_mod_cast hstep
  have hup := hrounds.le
  have hsUnits : s.units ≤ 2 ^ 65 * one := Nat.le_of_lt <| units_lt_of_toRat_lt hnegative <| by
    push_cast
    linarith
  have hproduct : n * s.units ≤ 2 ^ 73 * one := by
    calc n * s.units ≤ 2 ^ 8 * (2 ^ 65 * one) := Nat.mul_le_mul hn hsUnits
      _ = 2 ^ 73 * one := by rw [← Nat.mul_assoc, ← Nat.pow_add]
  obtain ⟨z, hz, hzNegative, hzRounds⟩ :=
    rounds_mul_of_whole hspan hnegative hunits (representable_power (by decide)) hproduct
  have hnear := Finite.Rounds.scale (Nat.cast_nonneg n) (Nat.cast_nonneg step) hrounds hzRounds
  refine ⟨z, by rw [hs, hz], hzNegative, units_eq_zero_or_le (n := n * step) hzNegative ?_, hnear⟩
  rwa [Nat.cast_mul]

/-- The quotient of values near two numbers is near the quotient of the numbers. -/
theorem abs_div_sub_div_le {a b x y : ℚ} (hy : 0 < y) (ha : |a - x| ≤ x / 2 ^ 51)
    (hb : |b - y| ≤ y / 2 ^ 53) : |a / b - x / y| ≤ x / y / 2 ^ 50 := by
  obtain ⟨haDown, haUp⟩ := abs_le.1 ha
  obtain ⟨hbDown, hbUp⟩ := abs_le.1 hb
  have hbPos : 0 < b := by linarith
  have hx : 0 ≤ x := by linarith
  have hexact : x / y * y = x := div_mul_cancel₀ x hy.ne'
  have hnonneg : 0 ≤ x / y := div_nonneg hx hy.le
  generalize x / y = exact at hexact hnonneg ⊢
  have hscaledUp := mul_le_mul_of_nonneg_left hbUp hnonneg
  have hscaledDown := mul_le_mul_of_nonneg_left hbDown hnonneg
  have hup : a / b ≤ exact * (1 + 1 / 2 ^ 50) := by
    rw [div_le_iff₀ hbPos]
    linarith
  have hdown : exact * (1 - 1 / 2 ^ 50) ≤ a / b := by
    rw [le_div_iff₀ hbPos]
    linarith
  rw [abs_le]
  constructor <;> linarith

/-- A part of a span that does not lead down. -/
theorem exists_part_eq {span : Finite} {n : Nat} (hspan : span.negative = false)
    (hunits : span.units = n * one) (hn : n ≤ 2 ^ 8) (hlast : 0 < last) (hbound : last ≤ 2 ^ 64)
    (hstep : step ≤ last) :
    ∃ q : Finite, finite span * ofNat step / ofNat last = finite q ∧
      |q.toRat - n * step / last| ≤ 1 / 2 ^ 32 := by
  obtain ⟨z, hz, hzNegative, hzLow, hzNear⟩ :=
    exists_multiple_eq hspan hunits hn (Nat.le_trans hstep hbound)
  obtain ⟨m, hm, hmNegative, hmRounds⟩ := rounds_ofNat (by decide) hbound
  have hlast' : (1 : ℚ) ≤ last := by exact_mod_cast hlast
  have hbound' : (last : ℚ) ≤ 2 ^ 64 := by exact_mod_cast hbound
  have hproduct : (n * step : ℚ) ≤ 2 ^ 8 * last := by exact_mod_cast Nat.mul_le_mul hn hstep
  have hexact : (n * step / last : ℚ) ≤ 2 ^ 8 := by rwa [div_le_iff₀ (by linarith)]
  obtain ⟨hdown, hup⟩ := abs_le.1 (abs_div_sub_div_le (by linarith) hzNear hmRounds)
  obtain ⟨-, hzUp⟩ := abs_le.1 hzNear
  have hmUp := hmRounds.le
  have hmDown := hmRounds.ge
  have hmPos : 0 < m.toRat := by linarith
  -- a quotient is near the exact one only if it is zero or not among the smallest values
  have hlow : z.units = 0 ∨ m.toRat ≤ 2 ^ 65 * z.toRat := hzLow.imp_right fun hle => by linarith
  obtain ⟨q, hq, -, hqRounds⟩ := rounds_div hzNegative hmNegative
    (units_pos_of_toRat_pos hmNegative hmPos) hlow (by linarith)
  have hqUp := hqRounds.le
  have hqDown := hqRounds.ge
  refine ⟨q, by rw [hz, hm, hq], ?_⟩
  rw [abs_le]
  constructor <;> linarith

/-- A part of the span, which is negative if the glide leads down. -/
theorem exists_way_eq (glide : Glide) (hlast : 0 < last) (hbound : last ≤ 2 ^ 64)
    (hstep : step ≤ last) :
    ∃ q : Finite, (ofNat glide.target.toNat - ofNat glide.origin.toNat) * ofNat step / ofNat last =
      finite q ∧ |q.toRat - glide.interval * step / last| ≤ 1 / 2 ^ 32 := by
  obtain ⟨span, hspan, hposition⟩ := exists_span_eq glide
  have hunits := units_of_position hposition
  have hsigned := signed_of_position hposition
  have hsmall : glide.interval.natAbs ≤ 2 ^ 8 := Nat.le_succ_of_le glide.natAbs_interval_le
  rw [hspan]
  -- rounding does not look at signs, so the way down is the opposite of a way up
  cases hnegative : span.negative with
  | false =>
    rw [hnegative, signed_false] at hsigned
    rw [← hsigned, Int.cast_natCast]
    exact exists_part_eq hnegative hunits hsmall hlast hbound hstep
  | true =>
    have hopposite : span.opposite.negative = false := by rw [negative_opposite, hnegative]; rfl
    obtain ⟨q, hq, hnear⟩ := exists_part_eq hopposite hunits hsmall hlast hbound hstep
    rw [hnegative, signed_true] at hsigned
    have hexact : (glide.interval * step / last : ℚ) =
        -(glide.interval.natAbs * step / last) := by
      have hcast : (glide.interval : ℚ) = -glide.interval.natAbs := by exact_mod_cast hsigned.symm
      rw [hcast]
      ring
    refine ⟨q.opposite, ?_, ?_⟩
    · rw [finite_eq_neg_opposite, neg_mul, neg_div, hq, neg_finite]
    · rwa [toRat_opposite, hexact, ← neg_sub', abs_neg]

/-- The error of the arithmetic is far less than a semitone. -/
theorem exists_valueAt_eq (glide : Glide) (hlast : 0 < last) (hbound : last ≤ 2 ^ 64)
    (hstep : step ≤ last) :
    ∃ v : Finite, glide.valueAt last step = finite v ∧
      |v.toRat - glide.pointAt last step| ≤ 1 / 2 ^ 31 := by
  obtain ⟨o, ho, hnegative, hunits⟩ := exists_byte_eq glide.origin
  obtain ⟨q, hq, hqNear⟩ := exists_way_eq glide hlast hbound hstep
  have hoRat := toRat_of_whole hnegative hunits
  obtain ⟨hqDown, hqUp⟩ := abs_le.1 hqNear
  obtain ⟨hlow, hhigh⟩ := glide.pointAt_within_byte hlast hstep
  rw [pointAt] at hlow hhigh ⊢
  have hbound : |o.toRat + q.toRat| ≤ 2 ^ 9 := by
    rw [abs_le, hoRat]
    constructor <;> linarith
  obtain ⟨v, hv, hvNear⟩ := exists_add_eq (hbound.trans (by norm_num))
  refine ⟨v, by rw [valueAt, hq, ho, hv], ?_⟩
  obtain ⟨hvDown, hvUp⟩ := abs_le.1 hvNear
  rw [hoRat] at hbound hvDown hvUp
  rw [abs_le]
  constructor <;> linarith

theorem exists_middle_eq (glide : Glide) (hlast : 0 < last) (hbound : last ≤ 2 ^ 64)
    (hstep : step ≤ last) :
    ∃ v : Finite, glide.valueAt last step = finite v ∧
      ((glide.pitchAt last step).toNat : Int) = v.middle ∧
      |(v.middle : ℚ) - glide.pointAt last step| < 51 / 100 := by
  obtain ⟨v, hv, hnear⟩ := exists_valueAt_eq glide hlast hbound hstep
  obtain ⟨w, hw, hposition⟩ := roundToWhole_finite v
  obtain ⟨hlow, hhigh⟩ := glide.pointAt_within_byte hlast hstep
  obtain ⟨hdown, hup⟩ := abs_le.1 hnear
  obtain ⟨hroundDown, hroundUp⟩ := abs_le.1 (abs_middle_sub_toRat_le v)
  have hdistance : |(v.middle : ℚ) - glide.pointAt last step| < 51 / 100 := by
    rw [abs_lt]
    constructor <;> linarith
  have hnonneg : (-1 : ℚ) < v.middle := by linarith
  have hbyte : (v.middle : ℚ) < 256 := by linarith
  have hnonneg' : -1 < v.middle := by exact_mod_cast hnonneg
  have hbyte' : v.middle < 256 := by exact_mod_cast hbyte
  -- the nearest whole number is a byte, so that nothing is cut off at the ends
  obtain ⟨n, hn⟩ := Int.eq_ofNat_of_zero_le (Int.add_one_le_iff.2 hnonneg')
  refine ⟨v, hv, ?_, hdistance⟩
  rw [hn] at hposition hbyte' ⊢
  rw [pitchAt_eq, hv, hw]
  exact congrArg Nat.cast (Finite.toNat_toUInt8 (Int.ofNat_lt.1 hbyte') hposition)

theorem abs_pitchAt_sub_lt (glide : Glide) (hlast : 0 < last) (hbound : last ≤ 2 ^ 64)
    (hstep : step ≤ last) :
    |((glide.pitchAt last step).toNat : ℚ) - glide.pointAt last step| < 51 / 100 := by
  obtain ⟨v, -, hpitch, hnear⟩ := exists_middle_eq glide hlast hbound hstep
  have hcast : ((glide.pitchAt last step).toNat : ℚ) = v.middle := by exact_mod_cast hpitch
  rwa [hcast]

theorem eq_of_abs_sub_lt {p q : UInt8} (hnear : |(p.toNat : ℚ) - q.toNat| < 51 / 100) : p = q := by
  have hone : |(p.toNat : ℚ) - q.toNat| < 1 := hnear.trans (by norm_num)
  have hint : |(p.toNat : Int) - q.toNat| < 1 := by exact_mod_cast hone
  rw [Int.abs_lt_one_iff] at hint
  exact UInt8.toNat_inj.1 (by omega)

theorem pitchAt_zero (glide : Glide) (hlast : 0 < last) (hbound : last ≤ 2 ^ 64) :
    glide.pitchAt last 0 = glide.origin := by
  have hnear := abs_pitchAt_sub_lt glide hlast hbound (Nat.zero_le last)
  rw [pointAt_zero] at hnear
  exact eq_of_abs_sub_lt hnear

theorem pitchAt_last (glide : Glide) (hlast : 0 < last) (hbound : last ≤ 2 ^ 64) :
    glide.pitchAt last last = glide.target := by
  have hnear := abs_pitchAt_sub_lt glide hlast hbound (Nat.le_refl last)
  rw [pointAt_last hlast] at hnear
  exact eq_of_abs_sub_lt hnear

/-! ## Order -/

section

variable {j k : Nat}

theorem part_le_part {span : Finite} (hspan : (0 : Binary64) ≤ finite span) (hlast : 0 < last)
    (hbound : last ≤ 2 ^ 64) (hjk : j ≤ k) (hk : k ≤ last) :
    finite span * ofNat j / ofNat last ≤ finite span * ofNat k / ofNat last := by
  obtain ⟨x, hx, hxNegative, -⟩ :=
    rounds_ofNat (by decide) (Nat.le_trans (Nat.le_trans hjk hk) hbound)
  obtain ⟨y, hy, hyNegative, -⟩ := rounds_ofNat (by decide) (Nat.le_trans hk hbound)
  obtain ⟨m, hm, hmNegative, hmRounds⟩ := rounds_ofNat (by decide) hbound
  have hlast' : (1 : ℚ) ≤ last := by exact_mod_cast hlast
  have hmPos : 0 < m.toRat := by
    have hdown := hmRounds.ge
    linarith
  have hle := ofNat_le_ofNat hjk
  rw [hx, hy] at hle
  rw [hx, hy, hm]
  exact div_le_div hmNegative (units_pos_of_toRat_pos hmNegative hmPos)
    (mul_le_mul_left hspan hle (mul_ne_nan hxNegative span) (mul_ne_nan hyNegative span))

theorem zero_le_of_position {x : Finite} (hposition : 0 ≤ x.position) :
    (0 : Binary64) ≤ finite x :=
  le_iff.2 ⟨0, x.position, position?_zero, rfl, hposition⟩

theorem valueAt_le_valueAt (horder : glide.origin ≤ glide.target) (hlast : 0 < last)
    (hbound : last ≤ 2 ^ 64) (hjk : j ≤ k) (hk : k ≤ last) :
    glide.valueAt last j ≤ glide.valueAt last k := by
  obtain ⟨o, ho, -⟩ := exists_byte_eq glide.origin
  obtain ⟨span, hspan, hposition⟩ := exists_span_eq glide
  have hinterval : 0 ≤ glide.interval := Int.sub_nonneg_of_le (Int.ofNat_le.2 horder)
  have hnonneg : 0 ≤ span.position := by
    rw [hposition]
    exact Int.mul_nonneg hinterval (Int.natCast_nonneg _)
  rw [valueAt, valueAt, hspan, ho]
  exact add_le_add_left o (part_le_part (zero_le_of_position hnonneg) hlast hbound hjk hk)

theorem valueAt_le_valueAt_of_falling (horder : glide.target ≤ glide.origin) (hlast : 0 < last)
    (hbound : last ≤ 2 ^ 64) (hjk : j ≤ k) (hk : k ≤ last) :
    glide.valueAt last k ≤ glide.valueAt last j := by
  obtain ⟨o, ho, -⟩ := exists_byte_eq glide.origin
  obtain ⟨span, hspan, hposition⟩ := exists_span_eq glide
  have hinterval : glide.interval ≤ 0 := Int.sub_nonpos_of_le (Int.ofNat_le.2 horder)
  have hnonneg : 0 ≤ span.opposite.position := by
    rw [position_opposite, hposition, ← Int.neg_mul]
    exact Int.mul_nonneg (Int.neg_nonneg_of_nonpos hinterval) (Int.natCast_nonneg _)
  rw [valueAt, valueAt, hspan, ho, finite_eq_neg_opposite span]
  apply add_le_add_left o
  rw [neg_mul, neg_mul, neg_div, neg_div, Binary64.neg_le_neg_iff]
  exact part_le_part (zero_le_of_position hnonneg) hlast hbound hjk hk

theorem pitchAt_le_pitchAt (hlast : 0 < last) (hbound : last ≤ 2 ^ 64) (hj : j ≤ last)
    (hk : k ≤ last) (hle : glide.valueAt last j ≤ glide.valueAt last k) :
    glide.pitchAt last j ≤ glide.pitchAt last k := by
  obtain ⟨v, hv, hpitchJ, -⟩ := exists_middle_eq glide hlast hbound hj
  obtain ⟨w, hw, hpitchK, -⟩ := exists_middle_eq glide hlast hbound hk
  rw [hv, hw] at hle
  have hmiddle := Finite.middle_mono hle
  rw [← hpitchJ, ← hpitchK] at hmiddle
  exact UInt8.le_iff_toNat_le.2 (Int.ofNat_le.1 hmiddle)

end

/-! ## Steps -/

section

variable {subdivisions : Nat}

/-- There are two parts at least, and no more than fit into a machine word. -/
theorem exists_last_eq (hfits : subdivisions < UInt64.size) :
    ∃ last, max subdivisions minSubdivisions = last + 1 ∧ 0 < last ∧ last ≤ 2 ^ 64 := by
  have hsize : UInt64.size = 2 ^ 64 := rfl
  refine ⟨max subdivisions minSubdivisions - 1, ?_⟩
  rw [minSubdivisions]
  omega

theorem steps_eq (glide : Glide) (hlast : max subdivisions minSubdivisions = last + 1) :
    glide.steps subdivisions = (List.range (last + 1)).map (glide.pitchAt last) := by
  rw [steps, hlast, Nat.add_sub_cancel]

/-- A relation of earlier pitches to later ones holds along the steps and between their ends. -/
theorem steps_related {rel : UInt8 → UInt8 → Prop} (hlast : 0 < last) (hbound : last ≤ 2 ^ 64)
    (hrel : ∀ j k, j ≤ k → k ≤ last → rel (glide.pitchAt last j) (glide.pitchAt last k)) :
    ((List.range (last + 1)).map (glide.pitchAt last)).Pairwise rel ∧
      ∀ pitch ∈ (List.range (last + 1)).map (glide.pitchAt last),
        rel glide.origin pitch ∧ rel pitch glide.target := by
  constructor
  · rw [List.pairwise_map]
    refine List.pairwise_lt_range.imp_of_mem fun {j k} _ hk hjk => ?_
    exact hrel j k (Nat.le_of_lt hjk) (Nat.le_of_lt_succ (List.mem_range.1 hk))
  · intro pitch hpitch
    obtain ⟨k, hk, rfl⟩ := List.mem_map.1 hpitch
    have hstep : k ≤ last := Nat.le_of_lt_succ (List.mem_range.1 hk)
    have horigin := hrel 0 k (Nat.zero_le k) hstep
    have htarget := hrel k last hstep (Nat.le_refl last)
    rw [pitchAt_zero glide hlast hbound] at horigin
    rw [pitchAt_last glide hlast hbound] at htarget
    exact ⟨horigin, htarget⟩

theorem steps_rise (glide : Glide) (horder : glide.origin ≤ glide.target)
    (hfits : subdivisions < UInt64.size) :
    (glide.steps subdivisions).Pairwise (· ≤ ·) ∧
      ∀ pitch ∈ glide.steps subdivisions, glide.origin ≤ pitch ∧ pitch ≤ glide.target := by
  obtain ⟨last, hcount, hlast, hbound⟩ := exists_last_eq hfits
  rw [steps_eq glide hcount]
  exact steps_related hlast hbound fun j k hjk hk =>
    pitchAt_le_pitchAt hlast hbound (Nat.le_trans hjk hk) hk
      (valueAt_le_valueAt horder hlast hbound hjk hk)

theorem steps_fall (glide : Glide) (horder : glide.target ≤ glide.origin)
    (hfits : subdivisions < UInt64.size) :
    (glide.steps subdivisions).Pairwise (· ≥ ·) ∧
      ∀ pitch ∈ glide.steps subdivisions, glide.origin ≥ pitch ∧ pitch ≥ glide.target := by
  obtain ⟨last, hcount, hlast, hbound⟩ := exists_last_eq hfits
  rw [steps_eq glide hcount]
  exact steps_related hlast hbound fun j k hjk hk =>
    pitchAt_le_pitchAt hlast hbound hk (Nat.le_trans hjk hk)
      (valueAt_le_valueAt_of_falling horder hlast hbound hjk hk)

/-- No step is above both ends. -/
theorem le_of_mem_steps {glide : Glide} {pitch bound : UInt8} (horigin : glide.origin ≤ bound)
    (htarget : glide.target ≤ bound) (hfits : subdivisions < UInt64.size)
    (hpitch : pitch ∈ glide.steps subdivisions) : pitch ≤ bound := by
  rcases UInt8.le_total glide.origin glide.target with horder | horder
  · exact UInt8.le_trans ((steps_rise glide horder hfits).2 pitch hpitch).2 htarget
  · exact UInt8.le_trans ((steps_fall glide horder hfits).2 pitch hpitch).1 horigin

/-- The steps of a glide are as many as asked for, but three at least. They start at one pitch, end
at the other, never turn back or leave the range between them, and are off the straight line by no
more than the rounding to a semitone. -/
theorem steps_follow (glide : Glide) (hfits : subdivisions < UInt64.size) :
    let count := max subdivisions minSubdivisions
    let steps := glide.steps subdivisions
    steps.length = count ∧ steps.head? = some glide.origin ∧ steps.getLast? = some glide.target ∧
    (glide.origin ≤ glide.target → steps.Pairwise (· ≤ ·) ∧
      ∀ pitch ∈ steps, glide.origin ≤ pitch ∧ pitch ≤ glide.target) ∧
    (glide.target ≤ glide.origin → steps.Pairwise (· ≥ ·) ∧
      ∀ pitch ∈ steps, glide.origin ≥ pitch ∧ pitch ≥ glide.target) ∧
    ∀ step pitch, steps[step]? = some pitch →
      |(pitch.toNat : ℚ) - glide.pointAt (count - 1) step| < 51 / 100 := by
  obtain ⟨last, hcount, hlast, hbound⟩ := exists_last_eq hfits
  refine ⟨?_, ?_, ?_, fun horder => steps_rise glide horder hfits,
    fun horder => steps_fall glide horder hfits, ?_⟩
  all_goals rw [steps_eq glide hcount]
  · rw [List.length_map, List.length_range, hcount]
  · rw [List.head?_map, List.head?_range, if_neg (Nat.succ_ne_zero last), Option.map_some,
      pitchAt_zero glide hlast hbound]
  · rw [List.getLast?_map, List.getLast?_range, if_neg (Nat.succ_ne_zero last), Option.map_some,
      Nat.add_sub_cancel, pitchAt_last glide hlast hbound]
  · intro step pitch hpitch
    rw [hcount, Nat.add_sub_cancel]
    rw [List.getElem?_map, Option.map_eq_some_iff] at hpitch
    obtain ⟨k, hk, rfl⟩ := hpitch
    obtain ⟨hstep, rfl⟩ := List.getElem?_eq_some_iff.1 hk
    rw [List.length_range] at hstep
    rw [List.getElem_range]
    exact abs_pitchAt_sub_lt glide hlast hbound (Nat.le_of_lt_succ hstep)

/-- Half a semitone between the ends is rounded up, also on the way down. -/
theorem steps_follow_falling :
    let glide : Glide := ⟨.glissando, 61, 60⟩
    0 < UInt64.size ∧ glide.target ≤ glide.origin ∧ glide.steps 0 = [61, 61, 60] ∧
      (glide.steps 0).Pairwise (· ≥ ·) ∧ glide.pointAt 2 1 = 121 / 2 ∧
      |(61 : ℚ) - glide.pointAt 2 1| < 51 / 100 := by
  intro glide
  have horder : glide.target ≤ glide.origin := by decide
  have hsteps : glide.steps 0 = [61, 61, 60] := by decide +kernel
  have hmiddle : (glide.steps 0)[1]? = some 61 := by rw [hsteps]; rfl
  have hpoint : glide.pointAt 2 1 = 121 / 2 := by
    show ((61 : Nat) : ℚ) + (-1 : Int) * (1 : Nat) / (2 : Nat) = 121 / 2
    norm_num
  obtain ⟨-, -, -, -, hfalling, hnear⟩ := steps_follow glide (by decide : 0 < UInt64.size)
  exact ⟨by decide, horder, hsteps, (hfalling horder).1, hpoint, hnear 1 61 hmiddle⟩

end

end Glide
end Espressivo
