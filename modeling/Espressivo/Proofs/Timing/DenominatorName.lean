import Espressivo.Proofs.Text.Blank
import Espressivo.Proofs.Text.Numeral
import Espressivo.Proofs.Timing.Grid

/-!
# Denominators as names of grids

A grid is named by the denominator of its note value, which may be written as a fraction of one,
with the end of an ordinal number and with the mark of a triplet. All these names are read as what
they say, but for the ordinal numbers in `st` without a mark: their last letter is taken for the
mark of a triplet, and what is left is no name.
-/

namespace Espressivo

/-! ## Names -/

/-- How a name says that it means the triplet. -/
inductive TripletMark where
  | none
  | letter
  | word (separators : List Char)
    (separator : ∀ c ∈ separators, c = ' ' ∨ c = '_' ∨ c = '-')

namespace TripletMark

def letters : TripletMark → List Char
  | none => []
  | letter => ['t']
  | word separators _ => separators ++ ['t', 'r', 'i', 'p', 'l', 'e', 't']

/-- The resolution that is meant, given the one that the mark is put to. -/
def apply (quarters : Binary64) : TripletMark → Binary64
  | none => quarters
  | letter => quarters * 2 / 3
  | word _ _ => quarters * 2 / 3

theorem apply_eq (quarters : Binary64) (mark : TripletMark) :
    mark.apply quarters = if mark.letters = [] then quarters else quarters * 2 / 3 := by
  cases mark <;> simp [apply, letters]

/-- A mark that is split off a name makes the grid a triplet. -/
theorem ite_triplet (mark : TripletMark) (grid : Grid) :
    (if ! mark.letters.isEmpty then grid.triplet else grid) = ⟨mark.apply grid.quarters⟩ := by
  cases mark <;> simp [apply, letters, Grid.triplet]

end TripletMark

/-- What may stand behind the digits of a denominator: the end of an ordinal number, or nothing. -/
def ordinalEnds : List (List Char) := [[], ['s', 't'], ['n', 'd'], ['r', 'd'], ['t', 'h']]

/-- The name of a grid by the denominator of its note value. -/
structure DenominatorName where
  denominator : Nat
  /-- The denominator is written below a one. -/
  isFraction : Bool
  /-- The end of an ordinal number, or nothing. -/
  ordinal : List Char
  mark : TripletMark
  pos : 0 < denominator
  fits : denominator < UInt32.size
  ordinal_mem : ordinal ∈ ordinalEnds

namespace DenominatorName

/-- The name without the mark of the triplet. -/
def base (name : DenominatorName) : List Char :=
  (if name.isFraction then ['1', '/'] else []) ++ (Nat.toDigits 10 name.denominator ++ name.ordinal)

/-- The name in lower case. -/
def letters (name : DenominatorName) : List Char := name.base ++ name.mark.letters

/-- The grid that has the name. -/
def grid (name : DenominatorName) : Grid :=
  ⟨name.mark.apply (4 / .ofNat name.denominator)⟩

/-- The text is the name in any case, with any blanks around it. -/
def Spells (name : DenominatorName) (text : String) : Prop :=
  ∃ before body after, text.toList = before ++ body ++ after ∧
    Text.asciiLowercase body = name.letters ∧
    (∀ c ∈ before, Text.isBlank c) ∧ ∀ c ∈ after, Text.isBlank c

/-- The last letter of the ordinal number is taken for the mark of a triplet. -/
def IsMisread (name : DenominatorName) : Prop :=
  name.ordinal = ['s', 't'] ∧ name.mark.letters = []

instance (name : DenominatorName) : Decidable name.IsMisread :=
  inferInstanceAs (Decidable (_ ∧ _))

end DenominatorName

namespace Grid

/-! ## Suffixes -/

theorem withoutSuffix?_eq_some_iff {suffix text base : List Char} :
    withoutSuffix? suffix text = some base ↔ text = base ++ suffix := by
  unfold withoutSuffix?
  by_cases hsuffix : suffix.isSuffixOf text
  · rw [if_pos hsuffix, Option.some.injEq]
    obtain ⟨front, rfl⟩ := List.isSuffixOf_iff_suffix.1 hsuffix
    rw [List.length_append, Nat.add_sub_cancel, List.take_left, List.append_left_inj]
  · rw [if_neg hsuffix]
    refine iff_of_false nofun ?_
    rintro rfl
    exact hsuffix (List.isSuffixOf_iff_suffix.2 (List.suffix_append base suffix))

theorem withoutSuffix?_append (suffix base : List Char) :
    withoutSuffix? suffix (base ++ suffix) = some base :=
  withoutSuffix?_eq_some_iff.2 rfl

theorem withoutSuffix?_append_append (suffix text common : List Char) :
    withoutSuffix? (suffix ++ common) (text ++ common) = withoutSuffix? suffix text := by
  ext base
  rw [withoutSuffix?_eq_some_iff, withoutSuffix?_eq_some_iff, ← List.append_assoc,
    List.append_left_inj]

/-- A text that ends otherwise is left alone. -/
theorem withoutSuffix?_of_getLast?_ne {suffix text : List Char} {c : Char}
    (hsuffix : suffix.getLast? = some c) (htext : text.getLast? ≠ some c) :
    withoutSuffix? suffix text = none := by
  refine Option.eq_none_iff_forall_ne_some.2 fun base hbase => htext ?_
  rw [withoutSuffix?_eq_some_iff.1 hbase, List.getLast?_append, hsuffix]
  rfl

theorem withoutSuffix?_append_of_ne {suffix other : List Char} (base : List Char)
    (hlength : suffix.length = other.length) (hne : other ≠ suffix) :
    withoutSuffix? suffix (base ++ other) = none := by
  refine Option.eq_none_iff_forall_ne_some.2 fun front hfront => hne ?_
  exact List.append_inj_right' (withoutSuffix?_eq_some_iff.1 hfront) hlength.symm

/-! ## Triplets -/

/-- The letter is the mark of a triplet unless it completes the word. -/
theorem splitTriplet_append_letter {base : List Char}
    (hword : withoutSuffix? ['t', 'r', 'i', 'p', 'l', 'e'] base = none) :
    splitTriplet (base ++ ['t']) = (base, true) := by
  have hcommon := withoutSuffix?_append_append ['t', 'r', 'i', 'p', 'l', 'e'] base ['t']
  rw [hword] at hcommon
  have hnone : withoutSuffix? ['t', 'r', 'i', 'p', 'l', 'e', 't'] (base ++ ['t']) = none := hcommon
  rw [splitTriplet, hnone, withoutSuffix?_append]

section

variable {base : List Char} {c : Char} (hlast : base.getLast? = some c)

include hlast

theorem splitTriplet_of_ne (hc : c ≠ 't') : splitTriplet base = (base, false) := by
  have hne : base.getLast? ≠ some 't' := by simpa [hlast] using hc
  rw [splitTriplet, withoutSuffix?_of_getLast?_ne rfl hne, withoutSuffix?_of_getLast?_ne rfl hne]

theorem splitTriplet_letter (hc : c ≠ 'e') : splitTriplet (base ++ ['t']) = (base, true) := by
  have hne : base.getLast? ≠ some 'e' := by simpa [hlast] using hc
  exact splitTriplet_append_letter (withoutSuffix?_of_getLast?_ne rfl hne)

theorem splitTriplet_word {separators : List Char}
    (hseparators : ∀ d ∈ separators, d = ' ' ∨ d = '_' ∨ d = '-')
    (hc : ¬ (c = ' ' ∨ c = '_' ∨ c = '-')) :
    splitTriplet (base ++ (separators ++ ['t', 'r', 'i', 'p', 'l', 'e', 't'])) = (base, true) := by
  rw [splitTriplet, ← List.append_assoc, withoutSuffix?_append]
  dsimp only
  rw [Text.dropRightWhile_append hlast (by simpa using hc) (by simpa using hseparators)]

end

/-! ## Denominators -/

theorem lookup_spellings_cons {c : Char}
    (hc : ∀ entry ∈ NoteValue.spellings, entry.1.toList.head? ≠ some c) (rest : List Char) :
    NoteValue.spellings.lookup (String.ofList (c :: rest)) = none := by
  refine List.lookup_eq_none_iff.2 fun entry hentry => ?_
  rw [bne_iff_ne]
  intro heq
  refine hc entry hentry ?_
  rw [← heq, String.toList_ofList]
  rfl

theorem lookup_spellings_of_isDigit {c : Char} (hc : c.isDigit) (rest : List Char) :
    NoteValue.spellings.lookup (String.ofList (c :: rest)) = none := by
  have hnames : ∀ entry ∈ NoteValue.spellings,
      entry.1.toList.head?.any (fun d => ¬ d.isDigit) := by
    decide
  refine lookup_spellings_cons (fun entry hentry hhead => ?_) rest
  have hletter := hnames entry hentry
  rw [hhead] at hletter
  simp [hc] at hletter

/-- The text without the end of an ordinal number. -/
def withoutOrdinal (text : List Char) : List Char :=
  (ordinals.findSome? fun ordinal => withoutSuffix? ordinal text).getD text

theorem withoutOrdinal_append (base : List Char) {ordinal : List Char}
    (hordinal : ordinal ∈ ordinals) : withoutOrdinal (base ++ ordinal) = base := by
  have hother : ∀ other ∈ ordinals, other ≠ ordinal →
      withoutSuffix? other (base ++ ordinal) = none := by
    intro other hmem hne
    have hlength : ∀ text ∈ ordinals, text.length = 2 := by decide
    exact withoutSuffix?_append_of_ne base
      ((hlength other hmem).trans (hlength ordinal hordinal).symm) hne.symm
  have hsome : (ordinals.findSome? fun other => withoutSuffix? other (base ++ ordinal)) =
      some base := by
    obtain ⟨found, hfound⟩ : ∃ found,
        (ordinals.findSome? fun other => withoutSuffix? other (base ++ ordinal)) = some found := by
      refine Option.isSome_iff_exists.1 (List.findSome?_isSome_iff.2 ⟨ordinal, hordinal, ?_⟩)
      rw [withoutSuffix?_append]
      rfl
    obtain ⟨other, hmem, hbase⟩ := List.exists_of_findSome?_eq_some hfound
    by_cases heq : other = ordinal
    · rw [heq, withoutSuffix?_append] at hbase
      rw [hfound, hbase]
    · rw [hother other hmem heq] at hbase
      cases hbase
  rw [withoutOrdinal, hsome]
  rfl

theorem withoutOrdinal_of_getLast?_ne {text : List Char} {c : Char}
    (hlast : text.getLast? = some c) (hc : c ∉ ['t', 'd', 'h']) : withoutOrdinal text = text := by
  have hends : ∀ ordinal ∈ ordinals, ∃ d ∈ ['t', 'd', 'h'], ordinal.getLast? = some d := by
    simp [ordinals]
  have hnone : (ordinals.findSome? fun ordinal => withoutSuffix? ordinal text) = none := by
    refine List.findSome?_eq_none_iff.2 fun ordinal hordinal => ?_
    obtain ⟨d, hd, hend⟩ := hends ordinal hordinal
    refine withoutSuffix?_of_getLast?_ne hend fun heq => hc ?_
    rw [hlast] at heq
    rwa [Option.some.inj heq]
  rw [withoutOrdinal, hnone]
  rfl

/-- What is no name of a note value is read as a denominator, whether it is below a one or not. -/
theorem ofBase?_of_lookup (isFraction : Bool) {text : List Char}
    (hlookup : NoteValue.spellings.lookup (String.ofList text) = none) (hslash : '/' ∉ text) :
    ofBase? ((if isFraction then ['1', '/'] else []) ++ text) =
      (Text.readNumeral (withoutOrdinal text)).toOption.bind ofDenominator? := by
  cases isFraction with
  | true =>
    show ofBase? ('1' :: '/' :: text) = _
    rw [ofBase?, lookup_spellings_of_isDigit (by decide)]
    rfl
  | false =>
    have hstart : ['1', '/'].isPrefixOf text = false := by
      rw [← Bool.not_eq_true, List.isPrefixOf_iff_prefix]
      exact fun hstart => hslash (hstart.subset (by decide))
    show ofBase? text = _
    rw [ofBase?, hlookup]
    dsimp only
    rw [hstart]
    rfl

/-- What follows a denominator is read on its own, whether the denominator is below a one or not. -/
theorem ofBase?_append (isFraction : Bool) (n : Nat) {rest : List Char} (hrest : '/' ∉ rest) :
    ofBase? ((if isFraction then ['1', '/'] else []) ++ (Nat.toDigits 10 n ++ rest)) =
      (Text.readNumeral (withoutOrdinal (Nat.toDigits 10 n ++ rest))).toOption.bind
        ofDenominator? := by
  obtain ⟨c, tail, hdigits, hc⟩ := Text.exists_toDigits_eq_cons n
  refine ofBase?_of_lookup isFraction ?_ ?_
  · rw [hdigits]
    exact lookup_spellings_of_isDigit hc (tail ++ rest)
  · rw [List.mem_append, not_or]
    exact ⟨fun hmem => absurd (Text.isDigit_of_mem_toDigits hmem) (by decide), hrest⟩

end Grid

namespace DenominatorName

variable (name : DenominatorName)

theorem slash_not_mem_ordinal : '/' ∉ name.ordinal := by
  have hordinals : ∀ ordinal ∈ ordinalEnds, '/' ∉ ordinal := by decide
  exact hordinals _ name.ordinal_mem

theorem exists_head?_base : ∃ c, name.base.head? = some c ∧ c.isDigit := by
  obtain ⟨c, rest, hdigits, hc⟩ := Text.exists_toDigits_eq_cons name.denominator
  rw [base, hdigits]
  cases name.isFraction with
  | true => exact ⟨'1', rfl, by decide⟩
  | false => exact ⟨c, rfl, hc⟩

/-- A name ends with a digit before the end of an ordinal number. -/
theorem exists_getLast?_base : ∃ c, name.base.getLast? = some c ∧
    (c.isDigit ∨ c ∈ ['t', 'd', 'h']) ∧ (c = 't' → name.ordinal = ['s', 't']) := by
  rw [base, ← List.append_assoc, List.getLast?_append]
  rcases List.mem_cons.1 name.ordinal_mem with hnone | hordinal
  · obtain ⟨c, hlast, hc⟩ := Text.exists_getLast?_toDigits name.denominator
    rw [hnone, List.getLast?_append, hlast]
    refine ⟨c, rfl, Or.inl hc, ?_⟩
    rintro rfl
    cases hc
  · have hends : ∀ ordinal ∈ Grid.ordinals, ∃ c ∈ ['t', 'd', 'h'], ordinal.getLast? = some c ∧
        (c = 't' → ordinal = ['s', 't']) := by
      simp [Grid.ordinals]
    obtain ⟨c, hc, hlast, hfirst⟩ := hends _ hordinal
    rw [hlast]
    exact ⟨c, rfl, Or.inr hc, hfirst⟩

theorem ofBase?_base : Grid.ofBase? name.base = some ⟨4 / .ofNat name.denominator⟩ := by
  have hdigits : Grid.withoutOrdinal (Nat.toDigits 10 name.denominator ++ name.ordinal) =
      Nat.toDigits 10 name.denominator := by
    rcases List.mem_cons.1 name.ordinal_mem with hnone | hordinal
    · obtain ⟨c, hlast, hc⟩ := Text.exists_getLast?_toDigits name.denominator
      rw [hnone, List.append_nil]
      refine Grid.withoutOrdinal_of_getLast?_ne hlast fun hmem => ?_
      simp only [List.mem_cons, List.not_mem_nil, or_false] at hmem
      rcases hmem with rfl | rfl | rfl <;> cases hc
    · exact Grid.withoutOrdinal_append _ hordinal
  rw [base, Grid.ofBase?_append _ _ name.slash_not_mem_ordinal, hdigits,
    Text.readNumeral_toDigits name.fits]
  exact Grid.ofDenominator?_of_fits name.pos name.fits

theorem splitTriplet_letters (hread : ¬ name.IsMisread) :
    Grid.splitTriplet name.letters = (name.base, ! name.mark.letters.isEmpty) := by
  obtain ⟨c, hlast, hc, hfirst⟩ := name.exists_getLast?_base
  rw [letters]
  cases hmark : name.mark with
  | none =>
    rw [TripletMark.letters, List.append_nil]
    exact Grid.splitTriplet_of_ne hlast fun ht => hread ⟨hfirst ht, by rw [hmark]; rfl⟩
  | letter =>
    refine Grid.splitTriplet_letter hlast ?_
    rintro rfl
    exact absurd hc (by decide)
  | word separators hseparators =>
    have hempty : (TripletMark.word separators hseparators).letters.isEmpty = false := by
      rw [List.isEmpty_eq_false_iff]
      exact List.append_ne_nil_of_right_ne_nil _ (List.cons_ne_nil _ _)
    rw [hempty]
    refine Grid.splitTriplet_word hlast hseparators ?_
    rintro (rfl | rfl | rfl) <;> exact absurd hc (by decide)

/-- Without its last letter the end of an ordinal number is none. -/
theorem ofBase?_misread (isFraction : Bool) (n : Nat) :
    Grid.ofBase? ((if isFraction then ['1', '/'] else []) ++ (Nat.toDigits 10 n ++ ['s'])) =
      none := by
  have hlast : (Nat.toDigits 10 n ++ ['s']).getLast? = some 's' := List.getLast?_concat
  have hread : (Text.readNumeral (Nat.toDigits 10 n ++ ['s'])).toOption = none := by
    cases hread : Text.readNumeral (Nat.toDigits 10 n ++ ['s']) with
    | error fault => rfl
    | ok m =>
      have hdigit := ((Text.readNumeral_toDigits_append _).1 hread).1 's' (by decide)
      exact absurd hdigit (by decide)
  rw [Grid.ofBase?_append _ _ (by decide), Grid.withoutOrdinal_of_getLast?_ne hlast (by decide),
    hread]
  rfl

theorem splitTriplet_misread (hread : name.IsMisread) :
    Grid.splitTriplet name.letters =
      ((if name.isFraction then ['1', '/'] else []) ++ (Nat.toDigits 10 name.denominator ++ ['s']),
        true) := by
  have hletters : name.letters = (if name.isFraction then ['1', '/'] else []) ++
      (Nat.toDigits 10 name.denominator ++ ['s']) ++ ['t'] := by
    simp only [letters, base, hread.1, hread.2, List.append_nil, List.append_assoc]
    rfl
  rw [hletters]
  refine Grid.splitTriplet_letter (c := 's') ?_ (by decide)
  rw [← List.append_assoc]
  exact List.getLast?_concat

theorem exists_getLast?_letters : ∃ c, name.letters.getLast? = some c ∧ ¬ Text.isBlank c := by
  obtain ⟨c, hlast, hc, -⟩ := name.exists_getLast?_base
  have hblank : ¬ Text.isBlank c := by
    rcases hc with hc | hc
    · rw [Text.isBlank_of_isDigit hc]
      exact Bool.false_ne_true
    · have hletters : ['t', 'd', 'h'].any Text.isBlank = false := by decide
      exact List.any_eq_false.1 hletters c hc
  rw [letters, List.getLast?_append, hlast]
  cases name.mark with
  | none => exact ⟨c, rfl, hblank⟩
  | letter => exact ⟨'t', rfl, by decide⟩
  | word separators _ =>
    rw [TripletMark.letters, List.getLast?_append]
    exact ⟨'t', rfl, by decide⟩

theorem asciiLowercase_trim {text : String} (htext : name.Spells text) :
    Text.asciiLowercase (Text.trim text.toList) = name.letters := by
  obtain ⟨before, body, after, htext, hbody, hbefore, hafter⟩ := htext
  obtain ⟨first, hfirst, hdigit⟩ := name.exists_head?_base
  obtain ⟨last, hlast, hlastBlank⟩ := name.exists_getLast?_letters
  have hhead : name.letters.head? = some first := by
    rw [letters, List.head?_append, hfirst]
    rfl
  have hfirstBlank : ¬ Text.isBlank first := by
    rw [Text.isBlank_of_isDigit hdigit]
    exact Bool.false_ne_true
  rw [htext]
  exact Text.asciiLowercase_trim_append hbody hhead hlast hfirstBlank hlastBlank hbefore hafter

/-- A name is read as the grid that has it, in any case and with any blanks around it, unless it is
misread. -/
theorem ofText?_of_spells {name : DenominatorName} {text : String} (htext : name.Spells text) :
    Grid.ofText? text = if name.IsMisread then none else some name.grid := by
  rw [Grid.ofText?, name.asciiLowercase_trim htext]
  by_cases hread : name.IsMisread
  · rw [if_pos hread, name.splitTriplet_misread hread]
    dsimp only
    rw [ofBase?_misread]
    rfl
  · rw [if_neg hread, name.splitTriplet_letters hread]
    dsimp only
    rw [name.ofBase?_base, grid, Option.map_some, TripletMark.ite_triplet]

theorem ofText?_of_spells_triplet :
    let name : DenominatorName := {
      denominator := 22, isFraction := true, ordinal := ['n', 'd']
      mark := .word ['_', '-', ' '] (by simp)
      pos := by decide, fits := by decide, ordinal_mem := by decide }
    let text := "\t1/22ND_- Triplet "
    name.Spells text ∧ ¬ name.IsMisread ∧ Grid.ofText? text = some name.grid ∧
      name.grid.quarters = 0.12121212121212122 := by
  intro name text
  have htext : name.Spells text :=
    ⟨['\t'], "1/22ND_- Triplet".toList, [' '], by decide +kernel, by decide +kernel,
      List.forall_mem_singleton.2 (by decide), List.forall_mem_singleton.2 (by decide)⟩
  have hread : ¬ name.IsMisread := by decide
  exact ⟨htext, hread, (ofText?_of_spells htext).trans (if_neg hread), by decide +kernel⟩

/-- The first ordinal number is a name of the whole note, and is not read. -/
theorem exists_spells_ofText?_ne :
    ¬ ∀ (name : DenominatorName) (text : String), name.Spells text →
      Grid.ofText? text = some name.grid := by
  intro hclaim
  let name : DenominatorName := {
    denominator := 1, isFraction := false, ordinal := ['s', 't'], mark := .none
    pos := by decide, fits := by decide, ordinal_mem := by decide }
  have htext : name.Spells "1st" :=
    ⟨[], "1st".toList, [], by decide, by decide +kernel, List.forall_mem_nil _,
      List.forall_mem_nil _⟩
  have hread := hclaim name "1st" htext
  have hnone : Grid.ofText? "1st" = none := by decide +kernel
  rw [hnone] at hread
  cases hread

end DenominatorName
end Espressivo
