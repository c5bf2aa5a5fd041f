import Mathlib.Algebra.Ring.Nat
import Espressivo.Proofs.Text.Blank

/-!
# Lower case twice

What stands for a letter in lower case has no lower case of its own and is not blank, so that a text
is in lower case and without blanks around it after both are done once. To see this of the tables,
their code points are gathered in sets, each a number whose bits are its members; the whole table is
compared by one operation on numbers.
-/

namespace Espressivo
namespace Text

/-! ## Sets of code points -/

/-- The set of `count` code points at regular distances. -/
def progression (first step : Nat) : Nat → Nat
  | 0 => 0
  | count + 1 => progression first step count ||| 2 ^ (first + count * step)

theorem testBit_progression {first step count code : Nat} :
    (progression first step count).testBit code ↔ ∃ place < count, code = first + place * step := by
  induction count with
  | zero => simp [progression]
  | succ count ih =>
    rw [progression, Nat.testBit_or, Bool.or_eq_true, ih, Nat.testBit_two_pow, decide_eq_true_iff]
    constructor
    · rintro (⟨place, hplace, rfl⟩ | rfl)
      · exact ⟨place, Nat.lt_succ_of_lt hplace, rfl⟩
      · exact ⟨count, Nat.lt_succ_self count, rfl⟩
    · rintro ⟨place, hplace, rfl⟩
      rcases Nat.lt_succ_iff_lt_or_eq.1 hplace with hlt | rfl
      · exact Or.inl ⟨place, hlt, rfl⟩
      · exact Or.inr rfl

def union (sets : List Nat) : Nat := sets.foldr (· ||| ·) 0

theorem testBit_union {sets : List Nat} {code : Nat} :
    (union sets).testBit code ↔ ∃ set ∈ sets, set.testBit code := by
  induction sets with
  | nil => simp [union]
  | cons set rest ih =>
    show (set ||| union rest).testBit code ↔ _
    rw [Nat.testBit_or, Bool.or_eq_true, ih, List.exists_mem_cons_iff]

/-- The letters that have a lower case of one character. -/
def capitals : Nat :=
  union (lowercaseRuns.map fun run => progression run.first run.step run.count)

/-- The lower cases of these letters. -/
def smalls : Nat :=
  union (lowercaseRuns.map fun run => progression run.target run.step run.count)

def blanks : Nat :=
  union (blankRanges.map fun range => progression range.1 1 (range.2 + 1 - range.1))

theorem smalls_disjoint : smalls &&& union [capitals, progression 'İ'.toNat 1 1, blanks] = 0 := by
  decide +kernel

/-- No lower case is in a set that was left out. -/
theorem not_testBit_of_small {code set : Nat} (hcode : smalls.testBit code)
    (hset : set ∈ [capitals, progression 'İ'.toNat 1 1, blanks]) : ¬ set.testBit code := by
  intro hmem
  have hboth : (smalls &&& union [capitals, progression 'İ'.toNat 1 1, blanks]).testBit code := by
    rw [Nat.testBit_and, Bool.and_eq_true]
    exact ⟨hcode, testBit_union.2 ⟨set, hset, hmem⟩⟩
  rw [smalls_disjoint, Nat.zero_testBit] at hboth
  cases hboth

theorem testBit_blanks {c : Char} (hc : isBlank c) : blanks.testBit c.toNat := by
  obtain ⟨range, hrange, hin⟩ := List.any_eq_true.1 hc
  rw [Bool.and_eq_true, decide_eq_true_iff, decide_eq_true_iff] at hin
  refine testBit_union.2 ⟨_, List.mem_map_of_mem hrange, testBit_progression.2 ?_⟩
  exact ⟨c.toNat - range.1, by omega, by omega⟩

/-! ## Single letters -/

/-- The code point of the lower case of a letter. -/
def lowercaseCode? (code : Nat) : Option Nat := lowercaseRuns.findSome? fun run => run.lower? code

theorem CaseRun.exists_of_lower? {run : CaseRun} {code target : Nat}
    (hlower : run.lower? code = some target) :
    ∃ place < run.count, code = run.first + place * run.step ∧
      target = run.target + place * run.step := by
  unfold CaseRun.lower? at hlower
  dsimp only at hlower
  split at hlower
  · rename_i hcode
    obtain ⟨hfirst, hstep, hcount⟩ := hcode
    have hplace := Nat.div_add_mod' (code - run.first) run.step
    rw [hstep, Nat.add_zero] at hplace
    cases hlower
    exact ⟨(code - run.first) / run.step, hcount, by omega, by omega⟩
  · cases hlower

theorem testBit_of_lowercaseCode? {code target : Nat} (hlower : lowercaseCode? code = some target) :
    capitals.testBit code ∧ smalls.testBit target := by
  obtain ⟨run, hrun, hlower⟩ := List.exists_of_findSome?_eq_some hlower
  obtain ⟨place, hplace, hcode, htarget⟩ := run.exists_of_lower? hlower
  exact ⟨testBit_union.2
      ⟨_, List.mem_map_of_mem hrun, testBit_progression.2 ⟨place, hplace, hcode⟩⟩,
    testBit_union.2
      ⟨_, List.mem_map_of_mem hrun, testBit_progression.2 ⟨place, hplace, htarget⟩⟩⟩

theorem lowercaseCode?_of_small {code : Nat} (hcode : smalls.testBit code) :
    lowercaseCode? code = none := by
  refine Option.eq_none_iff_forall_ne_some.2 fun target hlower => ?_
  exact not_testBit_of_small hcode List.mem_cons_self (testBit_of_lowercaseCode? hlower).1

/-- The character is its own lower case. -/
def IsLower (c : Char) : Prop := lowercaseChar c = [c]

instance (c : Char) : Decidable (IsLower c) := inferInstanceAs (Decidable (_ = _))

theorem lowercaseChar_of_ne {c : Char} (hc : c ≠ 'İ') :
    lowercaseChar c = [((lowercaseCode? c.toNat).map Char.ofNat).getD c] :=
  if_neg hc

theorem isLower_of_small {c : Char} (hc : smalls.testBit c.toNat) : IsLower c := by
  have hne : c ≠ 'İ' := by
    rintro rfl
    exact not_testBit_of_small hc (List.mem_cons_of_mem _ List.mem_cons_self)
      (testBit_progression.2 ⟨0, Nat.one_pos, rfl⟩)
  rw [IsLower, lowercaseChar_of_ne hne, lowercaseCode?_of_small hc]
  rfl

theorem not_isBlank_of_small {c : Char} (hc : smalls.testBit c.toNat) : ¬ isBlank c :=
  fun hblank => not_testBit_of_small hc (by simp) (testBit_blanks hblank)

/-- A code point that is none of a character counts as zero. -/
theorem toNat_ofNat (code : Nat) : (Char.ofNat code).toNat = code ∨ Char.ofNat code = '\x00' := by
  by_cases hvalid : code.isValidChar
  · left
    rw [Char.ofNat, dif_pos hvalid]
    rfl
  · right
    rw [Char.ofNat, dif_neg hvalid]
    rfl

theorem of_mem_lowercaseChar {c d : Char} (hd : d ∈ lowercaseChar c) :
    IsLower d ∧ (isBlank d → isBlank c) := by
  by_cases hdotted : c = 'İ'
  · have hpair : ∀ d ∈ ['i', '\u0307'], IsLower d ∧ ¬ isBlank d := by
      rw [List.forall_mem_cons, List.forall_mem_singleton]
      decide +kernel
    rw [hdotted] at hd
    obtain ⟨hlower, hblank⟩ := hpair d hd
    exact ⟨hlower, fun h => absurd h hblank⟩
  · have hsingle := lowercaseChar_of_ne hdotted
    cases hcode : lowercaseCode? c.toNat with
    | none =>
      rw [hcode] at hsingle
      rw [hsingle, List.mem_singleton] at hd
      rw [hd]
      exact ⟨hsingle, id⟩
    | some target =>
      have hsmall := (testBit_of_lowercaseCode? hcode).2
      rw [hcode] at hsingle
      rw [hsingle, List.mem_singleton] at hd
      have hvalue : d = Char.ofNat target := hd
      rcases toNat_ofNat target with hvalid | hzero
      · rw [← hvalue] at hvalid
        rw [← hvalid] at hsmall
        exact ⟨isLower_of_small hsmall, fun h => absurd h (not_isBlank_of_small hsmall)⟩
      · rw [hvalue, hzero]
        exact ⟨by decide +kernel, fun h => absurd h (by decide)⟩

theorem lowercaseChar_ne_nil (c : Char) : lowercaseChar c ≠ [] := by
  unfold lowercaseChar
  split <;> exact List.cons_ne_nil _ _

/-! ## Texts -/

/-- What stands for a letter in lower case, between those before it, backwards, and those after. -/
def lowercaseBetween (before : List Char) (c : Char) (rest : List Char) : List Char :=
  if c = 'Σ' ∧ startsCased before ∧ ¬ startsCased rest then ['ς'] else lowercaseChar c

theorem lowercaseAfter_cons (before : List Char) (c : Char) (rest : List Char) :
    lowercaseAfter before (c :: rest) =
      lowercaseBetween before c rest ++ lowercaseAfter (c :: before) rest := rfl

section

variable {before rest text : List Char} {c d : Char}

theorem lowercaseBetween_ne_nil : lowercaseBetween before c rest ≠ [] := by
  unfold lowercaseBetween
  split
  · exact List.cons_ne_nil _ _
  · exact lowercaseChar_ne_nil c

theorem of_mem_lowercaseBetween (hd : d ∈ lowercaseBetween before c rest) :
    IsLower d ∧ (isBlank d → isBlank c) := by
  unfold lowercaseBetween at hd
  split at hd
  · rw [List.mem_singleton] at hd
    rw [hd]
    exact ⟨by decide +kernel, fun h => absurd h (by decide)⟩
  · exact of_mem_lowercaseChar hd

theorem isLower_of_mem_lowercaseAfter (hd : d ∈ lowercaseAfter before text) : IsLower d := by
  induction text generalizing before with
  | nil => cases hd
  | cons c rest ih =>
    rw [lowercaseAfter_cons, List.mem_append] at hd
    exact hd.elim (fun h => (of_mem_lowercaseBetween h).1) ih

/-- Only the capital sigma depends on the letters around it, and it is not in lower case. -/
theorem lowercaseBetween_of_isLower (hc : IsLower c) : lowercaseBetween before c rest = [c] := by
  have hsigma : c ≠ 'Σ' := by
    rintro rfl
    exact absurd hc (by decide +kernel)
  rw [lowercaseBetween, if_neg fun h => hsigma h.1, hc]

theorem lowercaseAfter_of_isLower (htext : ∀ c ∈ text, IsLower c) :
    lowercaseAfter before text = text := by
  induction text generalizing before with
  | nil => rfl
  | cons c rest ih =>
    obtain ⟨hc, hrest⟩ := List.forall_mem_cons.1 htext
    rw [lowercaseAfter_cons, lowercaseBetween_of_isLower hc, ih hrest]
    rfl

theorem lowercase_lowercase (text : List Char) : lowercase (lowercase text) = lowercase text :=
  lowercaseAfter_of_isLower fun _ => isLower_of_mem_lowercaseAfter

/-! ## Ends of texts -/

theorem isBlank_head?_lowercaseAfter (hd : d ∈ (lowercaseAfter before text).head?)
    (hblank : isBlank d) : ∃ c ∈ text.head?, isBlank c := by
  cases text with
  | nil => cases hd
  | cons c rest =>
    rw [lowercaseAfter_cons, List.head?_append_of_ne_nil _ lowercaseBetween_ne_nil] at hd
    exact ⟨c, rfl, (of_mem_lowercaseBetween (List.mem_of_mem_head? hd)).2 hblank⟩

theorem isBlank_getLast?_lowercaseAfter (hd : d ∈ (lowercaseAfter before text).getLast?)
    (hblank : isBlank d) : ∃ c ∈ text.getLast?, isBlank c := by
  induction text generalizing before with
  | nil => cases hd
  | cons c rest ih =>
    rw [lowercaseAfter_cons] at hd
    cases rest with
    | nil =>
      rw [lowercaseAfter, List.append_nil] at hd
      exact ⟨c, rfl, (of_mem_lowercaseBetween (List.mem_of_mem_getLast? hd)).2 hblank⟩
    | cons next later =>
      have hlater : lowercaseAfter (c :: before) (next :: later) ≠ [] :=
        List.append_ne_nil_of_left_ne_nil lowercaseBetween_ne_nil _
      rw [List.getLast?_append_of_ne_nil _ hlater] at hd
      rw [List.getLast?_cons_cons]
      exact ih hd

end

/-- The text neither starts nor ends with a blank. -/
def IsTrimmed (text : List Char) : Prop :=
  (∀ c ∈ text.head?, ¬ isBlank c) ∧ ∀ c ∈ text.getLast?, ¬ isBlank c

theorem isTrimmed_trim (text : List Char) : IsTrimmed (trim text) := by
  constructor
  · intro c hc
    obtain ⟨run, hrun, -⟩ := exists_dropRightWhile_append isBlank (text.dropWhile isBlank)
    have hhead : (text.dropWhile isBlank).head? = some c := by
      rw [hrun, List.head?_append]
      exact congrArg (Option.or · _) hc
    have hfirst := List.head?_dropWhile_not isBlank text
    rw [hhead] at hfirst
    exact Bool.eq_false_iff.1 hfirst
  · intro c hc
    obtain ⟨hne, rfl⟩ := List.mem_getLast?_eq_getLast hc
    exact List.rdropWhile_last_not isBlank (text.dropWhile isBlank) hne

theorem trim_of_isTrimmed {text : List Char} (htext : IsTrimmed text) : trim text = text := by
  cases text with
  | nil => rfl
  | cons first rest =>
    have hlast := List.getLast?_eq_some_getLast (List.cons_ne_nil first rest)
    have htrim := trim_append rfl hlast (htext.1 first rfl) (htext.2 _ hlast)
      (List.forall_mem_nil _) (List.forall_mem_nil _)
    rwa [List.nil_append, List.append_nil] at htrim

theorem IsTrimmed.lowercase {text : List Char} (htext : IsTrimmed text) :
    IsTrimmed (lowercase text) := by
  constructor
  · intro d hd hblank
    obtain ⟨c, hc, hcBlank⟩ := isBlank_head?_lowercaseAfter hd hblank
    exact htext.1 c hc hcBlank
  · intro d hd hblank
    obtain ⟨c, hc, hcBlank⟩ := isBlank_getLast?_lowercaseAfter hd hblank
    exact htext.2 c hc hcBlank

/-- Once trimmed and in lower case, a text stays as it is. -/
theorem lowercase_trim_lowercase_trim (text : List Char) :
    lowercase (trim (lowercase (trim text))) = lowercase (trim text) := by
  rw [trim_of_isTrimmed (isTrimmed_trim text).lowercase, lowercase_lowercase]

end Text
end Espressivo
