import Mathlib.Data.List.Basic
import Mathlib.Data.List.Induction
import Espressivo.Text.Numeral

/-!
# Reading numerals

A run of digits reads as the number that it stands for, if this is below `2 ^ 32`. So the decimal
digits of such a number read back as the number itself.
-/

namespace Espressivo
namespace Text

theorem le_ofDigitChars (text : List Char) (number : Nat) :
    number ≤ Nat.ofDigitChars 10 text number := by
  induction text generalizing number with
  | nil => exact Nat.le_refl number
  | cons c rest ih =>
    rw [Nat.ofDigitChars_cons]
    exact Nat.le_trans (by omega) (ih _)

/-- Digits are read one by one, and no number on the way is above the last one. -/
theorem readDigits_eq_ok_iff {number n : Nat} (hnumber : number < UInt32.size) (text : List Char) :
    readDigits number text = .ok n ↔
      (∀ c ∈ text, c.isDigit) ∧ Nat.ofDigitChars 10 text number = n ∧ n < UInt32.size := by
  induction text generalizing number with
  | nil =>
    rw [readDigits, Nat.ofDigitChars_nil, Except.ok.injEq]
    constructor
    · rintro rfl
      exact ⟨by simp, rfl, hnumber⟩
    · exact fun h => h.2.1
  | cons c rest ih =>
    rw [readDigits, Nat.ofDigitChars_cons, List.forall_mem_cons]
    have hvalue : 10 * number + (c.toNat - '0'.toNat) = 10 * number + digitValue c := rfl
    rw [hvalue]
    by_cases hdigit : c.isDigit
    · by_cases hlarge : UInt32.size ≤ 10 * number + digitValue c
      · have hle := le_ofDigitChars rest (10 * number + digitValue c)
        rw [if_neg (not_not_intro hdigit), if_pos hlarge]
        exact iff_of_false nofun fun h => by omega
      · rw [if_neg (not_not_intro hdigit), if_neg hlarge, ih (Nat.lt_of_not_le hlarge)]
        simp only [hdigit, true_and]
    · rw [if_pos hdigit]
      exact iff_of_false nofun fun h => hdigit h.1.1

theorem isDigit_of_mem_toDigits {n : Nat} {c : Char} (hc : c ∈ Nat.toDigits 10 n) : c.isDigit :=
  Nat.isDigit_of_mem_toDigits (by decide) (by decide) hc

/-- A text that starts with a digit has no sign. -/
theorem readNumeral_cons_of_isDigit {c : Char} (hc : c.isDigit) (rest : List Char) :
    readNumeral (c :: rest) = readDigits 0 (c :: rest) := by
  unfold readNumeral
  split
  · contradiction
  · rename_i heq
    cases heq
    cases hc
  · rename_i heq
    cases heq
    cases hc
  · rfl

theorem exists_toDigits_eq_cons (n : Nat) :
    ∃ c rest, Nat.toDigits 10 n = c :: rest ∧ c.isDigit := by
  obtain ⟨c, rest, hdigits⟩ := List.exists_cons_of_ne_nil (Nat.toDigits_ne_nil (n := n) (b := 10))
  exact ⟨c, rest, hdigits, isDigit_of_mem_toDigits (hdigits ▸ List.mem_cons_self)⟩

theorem exists_getLast?_toDigits (n : Nat) :
    ∃ c, (Nat.toDigits 10 n).getLast? = some c ∧ c.isDigit := by
  have hlast := List.getLast?_eq_some_getLast (Nat.toDigits_ne_nil (n := n) (b := 10))
  exact ⟨_, hlast, isDigit_of_mem_toDigits (List.getLast_mem _)⟩

theorem readNumeral_toDigits_append {n m : Nat} (rest : List Char) :
    readNumeral (Nat.toDigits 10 n ++ rest) = .ok m ↔
      (∀ c ∈ rest, c.isDigit) ∧ Nat.ofDigitChars 10 rest n = m ∧ m < UInt32.size := by
  obtain ⟨c, tail, hdigits, hc⟩ := exists_toDigits_eq_cons n
  have hread : readNumeral (Nat.toDigits 10 n ++ rest) =
      readDigits 0 (Nat.toDigits 10 n ++ rest) := by
    rw [hdigits]
    exact readNumeral_cons_of_isDigit hc (tail ++ rest)
  rw [hread, readDigits_eq_ok_iff (by decide), Nat.ofDigitChars_append,
    Nat.ofDigitChars_ten_toDigits, List.forall_mem_append]
  exact and_congr_left fun _ => and_iff_right fun c => isDigit_of_mem_toDigits

theorem readNumeral_toDigits {n : Nat} (hn : n < UInt32.size) :
    readNumeral (Nat.toDigits 10 n) = .ok n := by
  have hread := readNumeral_toDigits_append (n := n) (m := n) []
  rw [List.append_nil] at hread
  exact hread.2 ⟨by simp, rfl, hn⟩

/-- A numeral is a run of digits that may start with zeros, with a plus sign or without. -/
theorem readNumeral_eq_ok_iff {text : List Char} {n : Nat} :
    readNumeral text = .ok n ↔ ∃ (isSigned : Bool) (digits : List Char),
      text = (if isSigned then ['+'] else []) ++ digits ∧ digits ≠ [] ∧
        (∀ c ∈ digits, c.isDigit) ∧ Nat.ofDigitChars 10 digits 0 = n ∧ n < UInt32.size := by
  constructor
  · intro hread
    unfold readNumeral at hread
    split at hread
    · cases hread
    · cases hread
    · rename_i digits hsign
      exact ⟨true, digits, rfl, fun hnil => hsign hnil,
        (readDigits_eq_ok_iff (by decide) digits).1 hread⟩
    · rename_i hnil hsign hsigned
      exact ⟨false, text, rfl, fun heq => hnil heq,
        (readDigits_eq_ok_iff (by decide) text).1 hread⟩
  · rintro ⟨isSigned, digits, rfl, hnil, hdigits⟩
    obtain ⟨c, rest, rfl⟩ := List.exists_cons_of_ne_nil hnil
    have hread := (readDigits_eq_ok_iff (by decide) (c :: rest)).2 hdigits
    cases isSigned with
    | true => exact hread
    | false =>
      exact (readNumeral_cons_of_isDigit (hdigits.1 c List.mem_cons_self) rest).trans hread

/-! ## Leading zeros -/

theorem digitValue_lt {c : Char} (hc : c.isDigit) : digitValue c < 10 := by
  rw [Char.isDigit, Bool.and_eq_true, decide_eq_true_iff, decide_eq_true_iff] at hc
  have hhigh : c.toNat ≤ 57 := UInt32.le_iff_toNat_le.1 hc.2
  show c.toNat - 48 < 10
  omega

theorem digitChar_digitValue {c : Char} (hc : c.isDigit) : (digitValue c).digitChar = c := by
  have hlt := digitValue_lt hc
  rw [Char.isDigit, Bool.and_eq_true, decide_eq_true_iff, decide_eq_true_iff] at hc
  have hlow : 48 ≤ c.toNat := UInt32.le_iff_toNat_le.1 hc.1
  have hvalue : digitValue c = c.toNat - 48 := rfl
  apply Char.toNat_inj.1
  rw [Nat.toNat_digitChar_of_lt_ten hlt]
  omega

theorem head?_toDigits_ne_zero {n : Nat} (hn : 0 < n) : (Nat.toDigits 10 n).head? ≠ some '0' := by
  induction n using Nat.strongRecOn with
  | ind n ih =>
    rw [Nat.toDigits_eq_if (by decide)]
    split
    · rename_i hsmall
      intro hzero
      have hdigit : n.digitChar = '0' := Option.some.inj hzero
      rw [Nat.digitChar_eq_zero] at hdigit
      omega
    · rename_i hlarge
      have hrest : 0 < n / 10 := by omega
      rw [List.head?_append_of_ne_nil _ Nat.toDigits_ne_nil]
      exact ih (n / 10) (by omega) hrest

/-- Digits without a leading zero are the decimal digits of the number that they stand for. -/
theorem toDigits_ofDigitChars {text : List Char} (hdigits : ∀ c ∈ text, c.isDigit)
    (hleading : text.head? ≠ some '0') (hnil : text ≠ []) :
    Nat.toDigits 10 (Nat.ofDigitChars 10 text 0) = text := by
  induction text using List.reverseRecOn with
  | nil => exact absurd rfl hnil
  | append_singleton front c ih =>
    obtain ⟨hfront, hc⟩ := List.forall_mem_append.1 hdigits
    have hdigit := hc c List.mem_cons_self
    have hlast : Nat.toDigits 10 (digitValue c) = [c] := by
      rw [Nat.toDigits_of_lt_base (digitValue_lt hdigit), digitChar_digitValue hdigit]
    have hvalue : Nat.ofDigitChars 10 (front ++ [c]) 0 =
        10 * Nat.ofDigitChars 10 front 0 + digitValue c := by
      rw [Nat.ofDigitChars_append, Nat.ofDigitChars_cons, Nat.ofDigitChars_nil]
      rfl
    rw [hvalue]
    by_cases hempty : front = []
    · rw [hempty, Nat.ofDigitChars_nil, Nat.mul_zero, Nat.zero_add, hlast]
      rfl
    · rw [List.head?_append_of_ne_nil _ hempty] at hleading
      have hrest := ih hfront hleading hempty
      have hpos : 0 < Nat.ofDigitChars 10 front 0 := by
        refine Nat.pos_of_ne_zero fun hzero => hleading ?_
        rw [← hrest, hzero]
        rfl
      rw [← Nat.toDigits_append_toDigits (by decide) hpos (digitValue_lt hdigit), hrest, hlast]

end Text
end Espressivo

