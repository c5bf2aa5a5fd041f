import Espressivo.Proofs.Binary64.Whole

/-!
# Values that are not negative

What is not below zero stays so under the operations that take a value to a multiple of something
positive. A negative zero counts as zero here, and infinity is not excluded.
-/

namespace Espressivo
namespace Binary64

variable {x y : Binary64}

/-! ## Order -/

theorem position?_zero : (0 : Binary64).position? = some 0 := by
  rw [zero_eq]
  rfl

theorem zero_lt_finite_iff {x : Finite} : (0 : Binary64) < finite x ↔ 0 < x.position := by
  rw [lt_iff, position?_zero]
  simp [position?]

theorem zero_le_finite_iff {x : Finite} :
    (0 : Binary64) ≤ finite x ↔ (x.negative → x.units = 0) := by
  rw [le_iff, position?_zero]
  cases hnegative : x.negative with
  | false => simp [position?, Finite.position, hnegative]
  | true => simp [position?, Finite.position, hnegative]

/-- The only value that is at least zero and not finite is infinity. -/
theorem eq_infinite_of_not_isFinite (hx : 0 ≤ x) (hfinite : ¬ x.isFinite) : x = infinite false := by
  cases x with
  | nan => exact absurd rfl (ne_nan_of_le_right hx)
  | infinite negative =>
    cases negative with
    | false => rfl
    | true =>
      obtain ⟨a, b, ha, hb, hab⟩ := le_iff.1 hx
      rw [position?_zero, Option.some.injEq] at ha
      have hlimit : (-limit : Int) = b := Option.some.inj hb
      have hpos : (0 : Int) < limit := Int.natCast_pos.2 limit_pos
      omega
  | finite x => exact absurd rfl hfinite

theorem exists_finite (hfinite : x.isFinite) : ∃ q, x = finite q := by
  cases x with
  | finite q => exact ⟨q, rfl⟩
  | _ => cases hfinite

theorem ne_nan_of_isFinite (hfinite : x.isFinite) : x ≠ nan := by
  rintro rfl
  cases hfinite

theorem zero_ne_nan : (0 : Binary64) ≠ nan := by
  rw [zero_eq]
  exact nofun

theorem not_le_zero_iff (hfinite : x.isFinite) : ¬ x ≤ 0 ↔ 0 < x :=
  ⟨(lt_or_le zero_ne_nan (ne_nan_of_isFinite hfinite)).resolve_right, fun hlt hle =>
    not_lt_of_le hle hlt⟩

theorem not_lt_zero_iff (hfinite : x.isFinite) : ¬ x < 0 ↔ 0 ≤ x :=
  ⟨(lt_or_le (ne_nan_of_isFinite hfinite) zero_ne_nan).resolve_left, not_lt_of_le⟩

/-- A positive finite value has no sign and is no zero. -/
theorem exists_finite_of_pos (hfinite : x.isFinite) (hpos : 0 < x) :
    ∃ q : Finite, x = finite q ∧ q.negative = false ∧ 0 < q.units := by
  obtain ⟨q, rfl⟩ := exists_finite hfinite
  have hposition := zero_lt_finite_iff.1 hpos
  unfold Finite.position at hposition
  cases hnegative : q.negative with
  | true =>
    simp only [hnegative, if_true] at hposition
    omega
  | false =>
    simp only [hnegative, Bool.false_eq_true, if_false] at hposition
    exact ⟨q, rfl, hnegative, by omega⟩

theorem units_le_of_le {x : Finite} {bound : Nat} {hbound : Representable bound}
    (hx : (0 : Binary64) ≤ finite x) (hle : finite x ≤ finite ⟨false, bound, hbound⟩) :
    x.units ≤ bound := by
  have hle : x.position ≤ (bound : Int) := hle
  have hunits : x.units ≤ x.position := by
    unfold Finite.position
    split
    · rename_i hnegative
      rw [zero_le_finite_iff.1 hx hnegative]
      omega
    · exact Int.le_refl _
  omega

/-! ## Operations -/

theorem zero_le_round {negative : Bool} {num den : Nat} (hsign : negative → num = 0) :
    0 ≤ round negative num den := by
  cases hround : round negative num den with
  | nan =>
    unfold round at hround
    split at hround <;> cases hround
  | infinite sign =>
    have hsign' : sign = negative := by
      unfold round at hround
      split at hround
      · cases hround
      · cases hround
        rfl
    cases negative with
    | false =>
      rw [hsign', le_iff, position?_zero]
      exact ⟨0, limit, rfl, rfl, Int.natCast_nonneg _⟩
    | true =>
      rw [hsign rfl, round_zero] at hround
      cases hround
  | finite x =>
    obtain ⟨hnegative, hunits⟩ := round_eq_finite_iff.1 hround
    refine zero_le_finite_iff.2 fun hx => ?_
    rw [hunits, hsign (hnegative ▸ hx), nearest_zero]

theorem zero_le_div {x q : Finite} (hx : (0 : Binary64) ≤ finite x) (hnegative : q.negative = false)
    (hunits : 0 < q.units) : 0 ≤ finite x / finite q := by
  rw [finite_div_finite (Nat.ne_of_gt hunits), hnegative, Bool.bne_false]
  exact zero_le_round fun hsign => by rw [zero_le_finite_iff.1 hx hsign, Nat.zero_mul]

theorem zero_le_mul {q : Finite} (hx : 0 ≤ x) (hnegative : q.negative = false)
    (hunits : 0 < q.units) : 0 ≤ x * finite q := by
  cases x with
  | nan => exact absurd rfl (ne_nan_of_le_right hx)
  | infinite sign =>
    show 0 ≤ (if q.units = 0 then nan else infinite (sign != q.negative))
    rw [if_neg (Nat.ne_of_gt hunits), hnegative, Bool.bne_false]
    exact hx
  | finite x =>
    show 0 ≤ round (x.negative != q.negative) (x.units * q.units) one
    rw [hnegative, Bool.bne_false]
    exact zero_le_round fun hsign => by rw [zero_le_finite_iff.1 hx hsign, Nat.zero_mul]

theorem zero_le_mapWhole {rounding : Finite → Nat}
    (hzero : ∀ x : Finite, x.units = 0 → rounding x = 0) (hx : 0 ≤ x) :
    0 ≤ mapWhole rounding x := by
  cases x with
  | nan => exact hx
  | infinite sign => exact hx
  | finite x =>
    exact zero_le_round fun hsign => by rw [hzero x (zero_le_finite_iff.1 hx hsign), Nat.zero_mul]

theorem zero_le_roundToWhole (hx : 0 ≤ x) : 0 ≤ x.roundToWhole :=
  zero_le_mapWhole (fun _ => wholeNearest_eq_zero) hx

theorem zero_le_floor (hx : 0 ≤ x) : 0 ≤ x.floor := by
  refine zero_le_mapWhole (fun x hunits => ?_) hx
  split
  · exact wholeUp_eq_zero hunits
  · exact whole_eq_zero hunits

theorem zero_le_ceil (hx : 0 ≤ x) : 0 ≤ x.ceil := by
  refine zero_le_mapWhole (fun x hunits => ?_) hx
  split
  · exact whole_eq_zero hunits
  · exact wholeUp_eq_zero hunits

/-! ## Adding zero -/

/-- Adding zero changes nothing but the sign of a negative zero. -/
theorem add_zero_eq (hx : x ≠ zero true) : x + 0 = x := by
  rw [zero_eq]
  cases x with
  | nan => rfl
  | infinite sign => rfl
  | finite x =>
    show x.add ⟨false, 0, representable_zero⟩ = finite x
    have hsum : x.position + Finite.position ⟨false, 0, representable_zero⟩ = x.position :=
      Int.add_zero _
    simp only [Finite.add, hsum]
    by_cases hposition : x.position = 0
    · have hunits : x.units = 0 := by
        unfold Finite.position at hposition
        split at hposition <;> omega
      rw [if_pos hposition, Bool.and_false, eq_zero_of_units_eq_zero hunits]
      rw [eq_zero_of_units_eq_zero hunits] at hx
      cases hnegative : x.negative with
      | false => rfl
      | true => exact absurd (by rw [hnegative]) hx
    · have habs : x.position.natAbs = x.units := by
        unfold Finite.position
        split <;> omega
      have hsign : decide (x.position < 0) = x.negative := by
        unfold Finite.position at hposition ⊢
        cases hnegative : x.negative with
        | false => simp
        | true =>
          simp only [hnegative, if_true] at hposition ⊢
          exact decide_eq_true (by omega)
      rw [if_neg hposition, habs, hsign, round_of_representable x.negative x.representable]

theorem isFinite_add_zero (x : Binary64) : (x + 0).isFinite = x.isFinite := by
  by_cases hx : x = zero true
  · rw [hx, zero_add_zero, zero_eq]
    rfl
  · rw [add_zero_eq hx]

theorem zero_le_add_zero (hx : 0 ≤ x) : 0 ≤ x + 0 := by
  by_cases hzero : x = zero true
  · rw [hzero, zero_add_zero, le_iff, position?_zero]
    exact ⟨0, 0, rfl, rfl, Int.le_refl 0⟩
  · rwa [add_zero_eq hzero]

end Binary64
end Espressivo
