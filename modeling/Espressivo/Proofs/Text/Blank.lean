import Mathlib.Data.List.DropRight
import Espressivo.Text.Casing

/-!
# Blanks around a text

Blanks around a text that starts and ends with other characters are removed, and nothing else. The
case of letters does not matter for what is blank.
-/

namespace Espressivo
namespace Text

theorem dropWhile_append_of_all {test : Char → Bool} {run rest : List Char}
    (hrun : ∀ c ∈ run, test c) : (run ++ rest).dropWhile test = rest.dropWhile test := by
  induction run with
  | nil => rfl
  | cons c tail ih =>
    obtain ⟨hc, htail⟩ := List.forall_mem_cons.1 hrun
    rw [List.cons_append, List.dropWhile_cons_of_pos hc, ih htail]

theorem dropWhile_of_head? {test : Char → Bool} {text : List Char} {c : Char}
    (hhead : text.head? = some c) (hc : ¬ test c) : text.dropWhile test = text := by
  obtain ⟨rest, rfl⟩ := List.head?_eq_some_iff.1 hhead
  exact List.dropWhile_cons_of_neg hc

theorem dropRightWhile_append {test : Char → Bool} {text run : List Char} {c : Char}
    (hlast : text.getLast? = some c) (hc : ¬ test c) (hrun : ∀ c ∈ run, test c) :
    dropRightWhile test (text ++ run) = text := by
  have hhead : text.reverse.head? = some c := by rw [List.head?_reverse, hlast]
  have hrun' : ∀ c ∈ run.reverse, test c := fun c h => hrun c (List.mem_reverse.1 h)
  rw [dropRightWhile, List.reverse_append, dropWhile_append_of_all hrun',
    dropWhile_of_head? hhead hc, List.reverse_reverse]

theorem exists_dropRightWhile_append (test : Char → Bool) (text : List Char) :
    ∃ run, text = dropRightWhile test text ++ run ∧ ∀ c ∈ run, test c :=
  ⟨text.rtakeWhile test, List.rdropWhile_append_rtakeWhile.symm,
    fun _ => List.mem_rtakeWhile_imp⟩

theorem trim_append {before body after : List Char} {first last : Char}
    (hfirst : body.head? = some first) (hlast : body.getLast? = some last)
    (hfirstBlank : ¬ isBlank first) (hlastBlank : ¬ isBlank last)
    (hbefore : ∀ c ∈ before, isBlank c) (hafter : ∀ c ∈ after, isBlank c) :
    trim (before ++ body ++ after) = body := by
  have hhead : (body ++ after).head? = some first := by rw [List.head?_append, hfirst]; rfl
  rw [trim, List.append_assoc, dropWhile_append_of_all hbefore,
    dropWhile_of_head? hhead hfirstBlank, dropRightWhile_append hlast hlastBlank hafter]

/-- The visible characters of ASCII are not blank. -/
theorem isBlank_of_visible {c : Char} (hlow : 0x20 < c.toNat) (hhigh : c.toNat < 0x7F) :
    isBlank c = false := by
  simp only [isBlank, inRanges, blankRanges, List.any_cons, List.any_nil, Bool.or_false,
    Bool.or_eq_false_iff, Bool.and_eq_false_iff, decide_eq_false_iff_not]
  omega

theorem isBlank_of_isDigit {c : Char} (hc : c.isDigit) : isBlank c = false := by
  rw [Char.isDigit, Bool.and_eq_true, decide_eq_true_iff, decide_eq_true_iff] at hc
  have hlow : 48 ≤ c.toNat := UInt32.le_iff_toNat_le.1 hc.1
  have hhigh : c.toNat ≤ 57 := UInt32.le_iff_toNat_le.1 hc.2
  exact isBlank_of_visible (by omega) (by omega)

theorem isBlank_toLower (c : Char) : isBlank c.toLower = isBlank c := by
  by_cases hupper : c.val ≥ 'A'.val ∧ c.val ≤ 'Z'.val
  · have hlow : 65 ≤ c.toNat := UInt32.le_iff_toNat_le.1 hupper.1
    have hhigh : c.toNat ≤ 90 := UInt32.le_iff_toNat_le.1 hupper.2
    have hlower : c.toLower.toNat = c.toNat + 32 := by
      have hshifted : c.toLower = ⟨c.val + 32, _⟩ := dif_pos hupper
      rw [hshifted]
      show (c.val + 32).toNat = c.val.toNat + 32
      have hval : c.val.toNat ≤ 90 := hhigh
      have hshift : (32 : UInt32).toNat = 32 := rfl
      rw [UInt32.toNat_add, hshift]
      exact Nat.mod_eq_of_lt (by omega)
    rw [isBlank_of_visible (by omega) (by omega), isBlank_of_visible (by omega) (by omega)]
  · have hsame : c.toLower = c := dif_neg hupper
    rw [hsame]

/-- Whatever the case of its letters, a text without blanks at its ends is what is left of it. -/
theorem asciiLowercase_trim_append {before body after letters : List Char} {first last : Char}
    (hletters : asciiLowercase body = letters) (hfirst : letters.head? = some first)
    (hlast : letters.getLast? = some last) (hfirstBlank : ¬ isBlank first)
    (hlastBlank : ¬ isBlank last) (hbefore : ∀ c ∈ before, isBlank c)
    (hafter : ∀ c ∈ after, isBlank c) :
    asciiLowercase (trim (before ++ body ++ after)) = letters := by
  rw [← hletters, asciiLowercase, List.head?_map] at hfirst
  rw [← hletters, asciiLowercase, List.getLast?_map] at hlast
  obtain ⟨c, hhead, rfl⟩ := Option.map_eq_some_iff.1 hfirst
  obtain ⟨d, hend, rfl⟩ := Option.map_eq_some_iff.1 hlast
  rw [isBlank_toLower] at hfirstBlank hlastBlank
  rw [trim_append hhead hend hfirstBlank hlastBlank hbefore hafter, hletters]

end Text
end Espressivo
