import Espressivo.Binary64.Basic

/-!
# The order of binary floating point

Comparisons of values are comparisons of their positions. Only what is not a number has no position,
so that away from it the order is a linear one, but for the two zeros.
-/

namespace Espressivo
namespace Binary64

variable {x y z : Binary64}

theorem compares_iff {rel : Int → Int → Prop} :
    Compares rel x y ↔ ∃ a b, x.position? = some a ∧ y.position? = some b ∧ rel a b := by
  unfold Compares
  cases x.position? <;> cases y.position? <;> simp

theorem lt_iff : x < y ↔ ∃ a b, x.position? = some a ∧ y.position? = some b ∧ a < b :=
  compares_iff

theorem le_iff : x ≤ y ↔ ∃ a b, x.position? = some a ∧ y.position? = some b ∧ a ≤ b :=
  compares_iff

theorem position?_eq_none_iff : x.position? = none ↔ x = nan := by
  cases x with
  | nan => exact iff_of_true rfl rfl
  | infinite negative => exact iff_of_false nofun nofun
  | finite x => exact iff_of_false nofun nofun

theorem le_of_lt (hlt : x < y) : x ≤ y := by
  obtain ⟨a, b, hx, hy, hab⟩ := lt_iff.1 hlt
  exact le_iff.2 ⟨a, b, hx, hy, Int.le_of_lt hab⟩

/-- Everything but what is not a number is at most itself. -/
theorem le_self_iff : x ≤ x ↔ x ≠ nan := by
  rw [ne_eq, ← position?_eq_none_iff, le_iff]
  cases x.position? <;> simp

theorem ne_nan_of_le_left (hle : x ≤ y) : x ≠ nan := by
  obtain ⟨a, b, hx, -, -⟩ := le_iff.1 hle
  rw [ne_eq, ← position?_eq_none_iff, hx]
  exact nofun

theorem ne_nan_of_le_right (hle : x ≤ y) : y ≠ nan := by
  obtain ⟨a, b, -, hy, -⟩ := le_iff.1 hle
  rw [ne_eq, ← position?_eq_none_iff, hy]
  exact nofun

theorem ne_nan_of_lt (hlt : x < y) : y ≠ nan := ne_nan_of_le_right (le_of_lt hlt)

theorem not_lt_of_le (hle : x ≤ y) : ¬ y < x := by
  intro hlt
  obtain ⟨a, b, hx, hy, hab⟩ := le_iff.1 hle
  obtain ⟨b', a', hy', hx', hba⟩ := lt_iff.1 hlt
  rw [hx] at hx'
  rw [hy] at hy'
  cases hx'
  cases hy'
  exact Int.not_lt.2 hab hba

/-- Of two numbers one is at most the other. -/
theorem lt_or_le (hx : x ≠ nan) (hy : y ≠ nan) : x < y ∨ y ≤ x := by
  rw [ne_eq, ← position?_eq_none_iff] at hx hy
  obtain ⟨a, ha⟩ := Option.ne_none_iff_exists'.1 hx
  obtain ⟨b, hb⟩ := Option.ne_none_iff_exists'.1 hy
  rcases Int.lt_or_le a b with hab | hba
  · exact Or.inl (lt_iff.2 ⟨a, b, ha, hb, hab⟩)
  · exact Or.inr (le_iff.2 ⟨b, a, hb, ha, hba⟩)

theorem le_trans (hxy : x ≤ y) (hyz : y ≤ z) : x ≤ z := by
  obtain ⟨a, b, hx, hy, hab⟩ := le_iff.1 hxy
  obtain ⟨b', c, hy', hz, hbc⟩ := le_iff.1 hyz
  rw [hy] at hy'
  cases hy'
  exact le_iff.2 ⟨a, c, hx, hz, Int.le_trans hab hbc⟩

theorem lt_of_le_of_lt (hxy : x ≤ y) (hyz : y < z) : x < z := by
  obtain ⟨a, b, hx, hy, hab⟩ := le_iff.1 hxy
  obtain ⟨b', c, hy', hz, hbc⟩ := lt_iff.1 hyz
  rw [hy] at hy'
  cases hy'
  exact lt_iff.2 ⟨a, c, hx, hz, Int.lt_of_le_of_lt hab hbc⟩

theorem lt_of_lt_of_le (hxy : x < y) (hyz : y ≤ z) : x < z := by
  obtain ⟨a, b, hx, hy, hab⟩ := lt_iff.1 hxy
  obtain ⟨b', c, hy', hz, hbc⟩ := le_iff.1 hyz
  rw [hy] at hy'
  cases hy'
  exact lt_iff.2 ⟨a, c, hx, hz, Int.lt_of_lt_of_le hab hbc⟩

end Binary64
end Espressivo
