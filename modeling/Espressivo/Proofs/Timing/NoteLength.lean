import Espressivo.Timing.NoteLength
import Espressivo.Proofs.Text.Numeral
import Espressivo.Proofs.Timing.Fraction
import Espressivo.Proofs.Timing.Validity

/-!
# What note lengths denote

Every suffix is canonical: nothing, a whole number from two on, or a reduced fraction, in plain
decimal digits. It denotes the snapped duration if this lies between the tolerance of the search for
a fraction and `2 ^ 63`; outside of that range there is no suffix, which denotes one quarter.
-/

namespace Espressivo
namespace NoteLength

open Binary64

/-! ## Canonical suffixes -/

/-- The decimal digits of a positive number, without a sign or leading zeros. -/
structure IsNumeral (text : List Char) (n : Nat) : Prop where
  pos : 0 < n
  digits : ∀ c ∈ text, c.isDigit
  leading : text.head? ≠ some '0'
  value : Nat.ofDigitChars 10 text 0 = n

/-- The canonical suffixes, each with the length that it denotes. -/
inductive Denotes : List Char → Rat → Prop
  | unit : Denotes [] 1
  | whole {digits : List Char} {n : Nat} (hdigits : IsNumeral digits n) (hn : 2 ≤ n) :
    Denotes digits n
  | ratio {numerator denominator : List Char} {p q : Nat} (hnumerator : IsNumeral numerator p)
    (hdenominator : IsNumeral denominator q) (hq : 2 ≤ q) (hreduced : p.Coprime q) :
    Denotes (numerator ++ '/' :: denominator) (p / q)

theorem isNumeral_toDigits {n : Nat} (hn : 0 < n) : IsNumeral (Nat.toDigits 10 n) n where
  pos := hn
  digits := fun _ hc => Text.isDigit_of_mem_toDigits hc
  leading := Text.head?_toDigits_ne_zero hn
  value := Nat.ofDigitChars_ten_toDigits

theorem toList_toString_natCast (n : Nat) : (toString (n : Int)).toList = Nat.toDigits 10 n :=
  Nat.toList_repr

theorem toList_ofFraction_natCast {n : Nat} (hn : 2 ≤ n) :
    (ofFraction n).toList = Nat.toDigits 10 n := by
  have hpos : ¬ (n : Int) ≤ 0 := by omega
  have hunit : (n : Int) ≠ 1 := by omega
  rw [ofFraction, Rat.num_natCast, Rat.den_natCast, if_neg hpos, if_pos rfl, if_neg hunit,
    toList_toString_natCast]

theorem toList_ofFraction_div {p q : Nat} (hp : 0 < p) (hq : 2 ≤ q) (hreduced : p.Coprime q) :
    (ofFraction (p / q)).toList = Nat.toDigits 10 p ++ '/' :: Nat.toDigits 10 q := by
  have hqPos : (0 : Int) < q := by omega
  have hnum : (p / q : Rat).num = p := Rat.num_div_eq_of_coprime hqPos hreduced
  have hden : (p / q : Rat).den = q :=
    Int.ofNat_inj.1 (Rat.den_div_eq_of_coprime (a := p) hqPos hreduced)
  have hpos : ¬ (p : Int) ≤ 0 := by omega
  rw [ofFraction, hnum, if_neg hpos, hden, if_neg (by omega)]
  show (toString (p / q : Rat).num ++ "/" ++ toString (p / q : Rat).den).toList = _
  rw [hnum, hden, String.toList_append, String.toList_append, toList_toString_natCast,
    Nat.toString_eq_repr, Nat.toList_repr]
  exact List.append_assoc ..

/-- A positive fraction is written as what it is. -/
theorem denotes_ofFraction {fraction : Rat} (hpos : 0 < fraction) :
    Denotes (ofFraction fraction).toList fraction := by
  obtain ⟨p, hp⟩ := Int.eq_ofNat_of_zero_le (Rat.num_pos.2 hpos).le
  have hnum : 0 < p := Int.natCast_pos.1 (hp ▸ Rat.num_pos.2 hpos)
  have hreduced := fraction.reduced
  have hden := fraction.den_pos
  have hvalue := Rat.num_div_den fraction
  rw [hp, Int.natAbs_natCast] at hreduced
  rw [hp, Int.cast_natCast] at hvalue
  generalize fraction.den = q at hreduced hden hvalue
  rw [← hvalue]
  by_cases hwhole : q = 1
  · rw [hwhole, Nat.cast_one, div_one]
    by_cases hunit : p = 1
    · rw [hunit, Nat.cast_one]
      exact .unit
    · rw [toList_ofFraction_natCast (by omega)]
      exact .whole (isNumeral_toDigits hnum) (by omega)
  · rw [toList_ofFraction_div hnum (by omega) hreduced]
    exact .ratio (isNumeral_toDigits hnum) (isNumeral_toDigits hden) (by omega) hreduced

/-- A fraction that is not positive has no suffix. -/
theorem ofFraction_of_not_pos {fraction : Rat} (hfraction : ¬ 0 < fraction) :
    ofFraction fraction = "" :=
  if_pos (not_lt.1 fun hnum => hfraction (Rat.num_pos.1 hnum))

theorem IsNumeral.ne_nil {text : List Char} {n : Nat} (htext : IsNumeral text n) : text ≠ [] := by
  rintro rfl
  exact htext.pos.ne htext.value

theorem IsNumeral.slash_notMem {text : List Char} {n : Nat} (htext : IsNumeral text n) :
    '/' ∉ text :=
  fun hslash => Bool.noConfusion (htext.digits '/' hslash)

theorem Denotes.forms {text : List Char} {length : Rat} (hlength : Denotes text length) :
    (text = [] ∧ length = 1) ∨ (∃ n : Nat, IsNumeral text n ∧ length = n) ∨
      ∃ (numerator denominator : List Char) (p q : Nat), text = numerator ++ '/' :: denominator ∧
        IsNumeral numerator p ∧ IsNumeral denominator q ∧ length = p / q := by
  cases hlength with
  | unit => exact Or.inl ⟨rfl, rfl⟩
  | whole hdigits => exact Or.inr (Or.inl ⟨_, hdigits, rfl⟩)
  | ratio hnumerator hdenominator =>
    exact Or.inr (Or.inr ⟨_, _, _, _, rfl, hnumerator, hdenominator, rfl⟩)

/-- A text denotes one length at most. -/
theorem Denotes.unique {text : List Char} {length other : Rat} (hlength : Denotes text length)
    (hother : Denotes text other) : length = other := by
  rcases hlength.forms with ⟨rfl, rfl⟩ | ⟨n, hn, rfl⟩ | ⟨a, b, p, q, rfl, hp, hq, rfl⟩ <;>
    rcases hother.forms with ⟨htext, rfl⟩ | ⟨m, hm, rfl⟩ | ⟨c, d, r, s, htext, hr, hs, rfl⟩
  · rfl
  · exact absurd rfl hm.ne_nil
  · simp at htext
  · exact absurd htext hn.ne_nil
  · rw [← hn.value, hm.value]
  · exact absurd (by simp [htext]) hn.slash_notMem
  · simp at htext
  · exact absurd (by simp) hm.slash_notMem
  · obtain ⟨rfl, -, rfl⟩ :=
      (List.append_cons_inj_of_notMem hp.slash_notMem hq.slash_notMem).1 htext
    rw [← hp.value, ← hq.value, hr.value, hs.value]

theorem IsNumeral.eq_toDigits {text : List Char} {n : Nat} (htext : IsNumeral text n) :
    text = Nat.toDigits 10 n := by
  rw [← htext.value]
  exact (Text.toDigits_ofDigitChars htext.digits htext.leading htext.ne_nil).symm

/-- A length has one canonical text, which is the one that is written. -/
theorem denotes_iff {text : List Char} {length : Rat} :
    Denotes text length ↔ 0 < length ∧ text = (ofFraction length).toList := by
  constructor
  · intro hlength
    cases hlength with
    | unit => exact ⟨zero_lt_one, rfl⟩
    | whole hdigits hn =>
      rw [toList_ofFraction_natCast hn]
      exact ⟨Nat.cast_pos.2 hdigits.pos, hdigits.eq_toDigits⟩
    | ratio hnumerator hdenominator hq hreduced =>
      rw [toList_ofFraction_div hnumerator.pos hq hreduced, ← hnumerator.eq_toDigits,
        ← hdenominator.eq_toDigits]
      exact ⟨div_pos (Nat.cast_pos.2 hnumerator.pos) (Nat.cast_pos.2 hdenominator.pos), rfl⟩
  · rintro ⟨hpos, rfl⟩
    exact denotes_ofFraction hpos

/-! ## Written lengths -/

/-- The length that is written for a duration: the fraction of the snapped duration, if it has a
positive one, and one quarter otherwise. -/
def written (grid : Grid) (duration : Binary64) : Rat :=
  if ¬ duration.isFinite ∨ duration ≤ 0 then 1
  else ((Fraction.ofBinary64? (snapDuration grid .nearest duration)).filter (0 < ·)).getD 1

theorem written_pos (grid : Grid) (duration : Binary64) : 0 < written grid duration := by
  unfold written
  split
  · exact zero_lt_one
  · cases hfraction :
        (Fraction.ofBinary64? (snapDuration grid .nearest duration)).filter (0 < ·) with
    | none => exact zero_lt_one
    | some fraction => exact of_decide_eq_true (Option.filter_eq_some_iff.1 hfraction).2

theorem suffix_eq_ofFraction (grid : Grid) (duration : Binary64) :
    suffix grid duration = ofFraction (written grid duration) := by
  unfold suffix written
  split
  · rfl
  · cases Fraction.ofBinary64? (snapDuration grid .nearest duration) with
    | none => rfl
    | some fraction =>
      by_cases hfraction : 0 < fraction
      · have hfilter : (some fraction).filter (0 < ·) = some fraction :=
          if_pos (decide_eq_true hfraction)
        rw [hfilter]
        rfl
      · have hfilter : (some fraction).filter (0 < ·) = none :=
          if_neg (ne_true_of_eq_false (decide_eq_false hfraction))
        rw [hfilter]
        exact ofFraction_of_not_pos hfraction

/-- Every suffix is the one canonical text of the length that is written, for any duration on any
grid, and denotes no other length. -/
theorem suffix_canonical (grid : Grid) (duration : Binary64) :
    (∀ text, Denotes text (written grid duration) ↔ text = (suffix grid duration).toList) ∧
      ∀ length, Denotes (suffix grid duration).toList length ↔ length = written grid duration := by
  have hsuffix : Denotes (suffix grid duration).toList (written grid duration) := by
    rw [suffix_eq_ofFraction]
    exact denotes_ofFraction (written_pos grid duration)
  constructor
  · intro text
    rw [denotes_iff, suffix_eq_ofFraction]
    exact and_iff_right (written_pos grid duration)
  · intro length
    constructor
    · exact fun hlength => hlength.unique hsuffix
    · rintro rfl
      exact hsuffix

/-! ## Snapped lengths -/

section

variable {grid : Grid} {duration : Binary64} {snapped : Finite}

theorem suffix_of_pos (hduration : duration.isFinite) (hpos : 0 < duration) :
    suffix grid duration =
      ((Fraction.ofBinary64? (snapDuration grid .nearest duration)).map ofFraction).getD "" :=
  if_neg fun hinvalid => hinvalid.elim (· hduration) ((not_le_zero_iff hduration).2 hpos)

/-- A suffix denotes the snapped duration, up to rounding errors, from the tolerance of the search
for a fraction up to `2 ^ 63` quarter notes. Shorter and longer durations have no suffix. -/
theorem denotes_suffix (hduration : duration.isFinite) (hpos : 0 < duration)
    (hsnapped : snapDuration grid .nearest duration = finite snapped) :
    (1e-9 ≤ finite snapped ∧ finite snapped < (9223372036854775808 : Binary64) →
      ∃ length, Denotes (suffix grid duration).toList length ∧
        |length - snapped.toRat| < 1 / 10 ^ 9 + snapped.toRat / 2 ^ 51) ∧
    (¬ (1e-9 ≤ finite snapped ∧ finite snapped < (9223372036854775808 : Binary64)) →
      suffix grid duration = "") := by
  have hsnap : (snap grid .nearest duration).isFinite :=
    (isFinite_snap_iff hduration).2 ((isFinite_snapDuration_iff hduration).1 (hsnapped ▸ rfl))
  have hsnappedPos := zero_lt_snapDuration hpos hsnap
  rw [hsnapped] at hsnappedPos
  obtain ⟨x, hx, hnegative, -⟩ := exists_finite_of_pos rfl hsnappedPos
  obtain rfl := Binary64.finite.inj hx
  obtain ⟨tolerance, htolerance, -⟩ := Fraction.exists_tolerance_eq
  obtain ⟨limit, hlimit, hlimitRat⟩ := Fraction.exists_two_pow_eq
  rw [suffix_of_pos hduration hpos, hsnapped, hlimit, ← toRat_lt_toRat_iff, hlimitRat]
  constructor
  · rintro ⟨hlow, hhigh⟩
    obtain ⟨fraction, hfraction, hfractionPos, hnear⟩ :=
      Fraction.exists_ofBinary64?_eq hnegative hlow hhigh
    rw [hfraction]
    exact ⟨fraction, denotes_ofFraction hfractionPos, hnear⟩
  · intro hrange
    rcases lt_or_le (x := finite snapped) (y := 1e-9) nofun (htolerance ▸ nofun) with hsmall | hlow
    · rw [Fraction.ofBinary64?_of_small hnegative hsmall]
      rfl
    · rw [Fraction.ofBinary64?_of_large hnegative (not_lt.1 fun hhigh => hrange ⟨hlow, hhigh⟩)]
      rfl

theorem denotes_suffix_sixteenth :
    let snapped : Finite := (0.25 : Binary64).toFinite?.get (by decide +kernel)
    snapDuration ⟨0.25⟩ .nearest 0.3 = finite snapped ∧
      1e-9 ≤ finite snapped ∧ finite snapped < (9223372036854775808 : Binary64) ∧
      ∃ length, Denotes (suffix ⟨0.25⟩ 0.3).toList length ∧
        |length - snapped.toRat| < 1 / 10 ^ 9 + snapped.toRat / 2 ^ 51 := by
  intro snapped
  have hsnapped : snapDuration ⟨0.25⟩ .nearest 0.3 = finite snapped := by decide +kernel
  have hlow : 1e-9 ≤ finite snapped := by decide +kernel
  have hhigh : finite snapped < (9223372036854775808 : Binary64) := by decide +kernel
  have hsuffix := denotes_suffix (by decide +kernel) (by decide +kernel) hsnapped
  exact ⟨hsnapped, hlow, hhigh, hsuffix.1 ⟨hlow, hhigh⟩⟩

/-- A note of `2 ^ (-31)` quarters, on a grid of that size, has no suffix and so the length one. -/
theorem exists_suffix_not_near :
    ¬ ∀ (grid : Grid) (duration : Binary64) (snapped : Finite), duration.isFinite → 0 < duration →
      grid.IsUsable → snapDuration grid .nearest duration = finite snapped →
      ∃ length, Denotes (suffix grid duration).toList length ∧
        |length - snapped.toRat| ≤ 1 / 10 ^ 9 := by
  intro hclaim
  obtain ⟨snapped, hsnapped, hnegative, hunits⟩ := exists_finite_of_units
    (snapDuration ⟨4.656612873077393e-10⟩ .nearest 4.656612873077393e-10)
    (fun units => units * 2 ≤ one) (by decide +kernel)
  have hsmall := toRat_le_of_units_le hnegative (by decide) hunits
  obtain ⟨length, hlength, hnear⟩ := hclaim _ _ snapped (by decide +kernel) (by decide +kernel)
    (by decide +kernel) hsnapped
  have hsuffix : suffix ⟨4.656612873077393e-10⟩ 4.656612873077393e-10 = "" := by decide +kernel
  rw [hsuffix] at hlength
  rw [hlength.unique .unit] at hnear
  have hup := (abs_le.1 hnear).2
  push_cast at hsmall
  linarith

end

end NoteLength
end Espressivo
