import Espressivo.Proofs.Json.Decode
import Espressivo.Proofs.Timing.DenominatorName

/-!
# Names of grids

A text is read as a grid exactly if it is a name of one: the name of a note value or a denominator,
and the mark of a triplet or nothing, in any case and with any blanks around. Only a name without a
mark whose last letter looks like one is not read. Times can be snapped to every grid that has a
name.
-/

namespace Espressivo

/-! ## Names -/

/-- A denominator as it may be written: below a one, with a sign, with leading zeros, or with the
end of an ordinal number. -/
structure WrittenDenominator where
  isFraction : Bool
  isSigned : Bool
  digits : List Char
  ordinal : List Char
  digits_isDigit : ∀ c ∈ digits, c.isDigit
  pos : 0 < Nat.ofDigitChars 10 digits 0
  fits : Nat.ofDigitChars 10 digits 0 < UInt32.size
  ordinal_mem : ordinal ∈ ordinalEnds

namespace WrittenDenominator

def number (written : WrittenDenominator) : Nat := Nat.ofDigitChars 10 written.digits 0

def numeral (written : WrittenDenominator) : List Char :=
  (if written.isSigned then ['+'] else []) ++ written.digits

def letters (written : WrittenDenominator) : List Char :=
  (if written.isFraction then ['1', '/'] else []) ++ (written.numeral ++ written.ordinal)

end WrittenDenominator

/-- The names of note values, with their resolutions in quarter notes. -/
def noteValueNames : List (String × Binary64) := [
  ("whole", 4), ("half", 2), ("quarter", 1), ("eighth", 0.5), ("sixteenth", 0.25),
  ("thirty-second", 0.125), ("thirty_second", 0.125), ("thirtysecond", 0.125)]

/-- The name of a grid without the mark of a triplet. -/
inductive GridBase where
  | noteValue (name : String) (resolution : Binary64) (listed : (name, resolution) ∈ noteValueNames)
  | denominator (written : WrittenDenominator)

namespace GridBase

/-- The name in lower case. -/
def letters : GridBase → List Char
  | noteValue name _ _ => name.toList
  | denominator written => written.letters

/-- The resolution that is named, in quarter notes. -/
def quarters : GridBase → Binary64
  | noteValue _ resolution _ => resolution
  | denominator written => 4 / .ofNat written.number

end GridBase

/-! ## Denominators -/

namespace WrittenDenominator

variable (written : WrittenDenominator)

theorem digits_ne_nil : written.digits ≠ [] := fun hnil => by
  have hpos := written.pos
  rw [hnil] at hpos
  exact absurd hpos (by decide)

theorem exists_getLast?_numeral : ∃ c, written.numeral.getLast? = some c ∧ c.isDigit := by
  have hlast := List.getLast?_eq_some_getLast written.digits_ne_nil
  refine ⟨_, ?_, written.digits_isDigit _ (List.getLast_mem written.digits_ne_nil)⟩
  rw [numeral, List.getLast?_append, hlast]
  rfl

/-- The last letter is a digit or the last one of an ordinal number. -/
theorem exists_getLast?_letters :
    ∃ c, written.letters.getLast? = some c ∧ (c.isDigit ∨ c ∈ ['t', 'd', 'h']) := by
  rw [letters, ← List.append_assoc, List.getLast?_append]
  rcases List.mem_cons.1 written.ordinal_mem with hnone | hordinal
  · obtain ⟨c, hlast, hc⟩ := written.exists_getLast?_numeral
    rw [hnone, List.getLast?_append, hlast]
    exact ⟨c, rfl, Or.inl hc⟩
  · have hends : ∀ ordinal ∈ Grid.ordinals,
        ∃ c, ordinal.getLast? = some c ∧ c ∈ ['t', 'd', 'h'] := by
      simp [Grid.ordinals]
    obtain ⟨c, hlast, hc⟩ := hends _ hordinal
    rw [hlast]
    exact ⟨c, rfl, Or.inr hc⟩

theorem slash_not_mem : '/' ∉ written.numeral ++ written.ordinal := by
  have hordinals : ∀ ordinal ∈ ordinalEnds, '/' ∉ ordinal := by decide
  have hsign : '/' ∉ (if written.isSigned then ['+'] else []) := by
    cases written.isSigned <;> decide
  have hdigits : '/' ∉ written.digits := fun hslash =>
    absurd (written.digits_isDigit '/' hslash) (by decide)
  simp only [numeral, List.mem_append, not_or]
  exact ⟨⟨hsign, hdigits⟩, hordinals _ written.ordinal_mem⟩

theorem lookup_spellings :
    NoteValue.spellings.lookup (String.ofList (written.numeral ++ written.ordinal)) = none := by
  obtain ⟨c, rest, hdigits⟩ := List.exists_cons_of_ne_nil written.digits_ne_nil
  have hc := written.digits_isDigit c (hdigits ▸ List.mem_cons_self)
  rw [numeral, hdigits]
  cases written.isSigned with
  | true => exact Grid.lookup_spellings_cons (by decide) _
  | false => exact Grid.lookup_spellings_of_isDigit hc _

theorem readNumeral_numeral : Text.readNumeral written.numeral = .ok written.number :=
  Text.readNumeral_eq_ok_iff.2 ⟨written.isSigned, written.digits, rfl, written.digits_ne_nil,
    written.digits_isDigit, rfl, written.fits⟩

theorem withoutOrdinal_append_ordinal :
    Grid.withoutOrdinal (written.numeral ++ written.ordinal) = written.numeral := by
  rcases List.mem_cons.1 written.ordinal_mem with hnone | hordinal
  · obtain ⟨c, hlast, hc⟩ := written.exists_getLast?_numeral
    rw [hnone, List.append_nil]
    refine Grid.withoutOrdinal_of_getLast?_ne hlast fun hmem => ?_
    simp only [List.mem_cons, List.not_mem_nil, or_false] at hmem
    rcases hmem with rfl | rfl | rfl <;> cases hc
  · exact Grid.withoutOrdinal_append _ hordinal

theorem ofBase?_letters : Grid.ofBase? written.letters = some ⟨4 / .ofNat written.number⟩ := by
  rw [letters, Grid.ofBase?_of_lookup _ written.lookup_spellings written.slash_not_mem,
    written.withoutOrdinal_append_ordinal, written.readNumeral_numeral]
  exact Grid.ofDenominator?_of_fits written.pos written.fits

end WrittenDenominator

namespace Grid

theorem exists_withoutOrdinal_append (text : List Char) :
    ∃ ordinal ∈ [] :: ordinals, text = withoutOrdinal text ++ ordinal := by
  rw [withoutOrdinal]
  cases hfound : ordinals.findSome? fun ordinal => withoutSuffix? ordinal text with
  | none => exact ⟨[], List.mem_cons_self, (List.append_nil text).symm⟩
  | some base =>
    obtain ⟨ordinal, hmem, hbase⟩ := List.exists_of_findSome?_eq_some hfound
    exact ⟨ordinal, List.mem_cons_of_mem _ hmem, withoutSuffix?_eq_some_iff.1 hbase⟩

/-- What is read as a number is one that can be a denominator. -/
theorem exists_written_of_read {isFraction : Bool} {text : List Char} {grid : Grid}
    (hread : (Text.readNumeral (withoutOrdinal text)).toOption.bind ofDenominator? = some grid) :
    ∃ written : WrittenDenominator,
      (if isFraction then ['1', '/'] else []) ++ text = written.letters ∧
        grid = ⟨4 / .ofNat written.number⟩ := by
  obtain ⟨n, hn, hgrid⟩ := Option.bind_eq_some_iff.1 hread
  obtain ⟨isSigned, digits, hnumeral, -, hdigits, hvalue, hfits⟩ :=
    Text.readNumeral_eq_ok_iff.1 (toOption_eq_some_iff.1 hn)
  obtain ⟨ordinal, hordinal, htext⟩ := exists_withoutOrdinal_append text
  have hpos : 0 < n := Nat.pos_of_ne_zero fun hzero => by
    rw [ofDenominator?, if_pos hzero] at hgrid
    cases hgrid
  rw [ofDenominator?_of_fits hpos hfits, Option.some.injEq] at hgrid
  subst hvalue
  refine ⟨⟨isFraction, isSigned, digits, ordinal, hdigits, hpos, hfits, hordinal⟩, ?_, hgrid.symm⟩
  rw [WrittenDenominator.letters, WrittenDenominator.numeral, ← hnumeral, ← htext]

/-! ## Bases -/

/-- A base is read as the grid that has it as its name, and nothing else is read. -/
theorem ofBase?_eq_some_iff {base : List Char} {grid : Grid} :
    ofBase? base = some grid ↔
      ∃ named : GridBase, base = named.letters ∧ grid = ⟨named.quarters⟩ := by
  constructor
  · intro hread
    rw [ofBase?] at hread
    split at hread
    · rename_i value hlookup
      obtain ⟨front, back, hspellings, -⟩ := List.lookup_eq_some_iff.1 hlookup
      have hlisted : (String.ofList base, value) ∈ NoteValue.spellings := by
        rw [hspellings]
        exact List.mem_append_right front List.mem_cons_self
      have hnames : ∀ entry ∈ NoteValue.spellings,
          (entry.1, entry.2.quarters) ∈ noteValueNames := by
        decide +kernel
      exact ⟨.noteValue _ _ (hnames _ hlisted), String.toList_ofList.symm,
        (Option.some.inj hread).symm⟩
    · have hfraction : base = (if ['1', '/'].isPrefixOf base then ['1', '/'] else []) ++
          if ['1', '/'].isPrefixOf base then base.drop 2 else base := by
        split
        · rename_i hstart
          obtain ⟨rest, rfl⟩ := List.isPrefixOf_iff_prefix.1 hstart
          rfl
        · rfl
      obtain ⟨written, hletters, hgrid⟩ := exists_written_of_read hread
      exact ⟨.denominator written, hfraction.trans hletters, hgrid⟩
  · rintro ⟨named, rfl, rfl⟩
    cases named with
    | noteValue name resolution listed =>
      have hread : ∀ entry ∈ noteValueNames, ofBase? entry.1.toList = some ⟨entry.2⟩ := by
        decide +kernel
      have hname : ofBase? name.toList = some ⟨resolution⟩ := hread (name, resolution) listed
      exact hname
    | denominator written => exact written.ofBase?_letters

/-! ## Marks -/

/-- What is split off a name is the mark of a triplet, and what is left without one has no last
letter that looks like it. -/
theorem of_splitTriplet {name base : List Char} {isTriplet : Bool}
    (hsplit : splitTriplet name = (base, isTriplet)) :
    ∃ mark : TripletMark, name = base ++ mark.letters ∧
      isTriplet = (! mark.letters.isEmpty) ∧ (mark.letters = [] → base.getLast? ≠ some 't') := by
  unfold splitTriplet at hsplit
  split at hsplit
  · rename_i front hword
    cases hsplit
    obtain ⟨separators, hfront, hseparators⟩ :=
      Text.exists_dropRightWhile_append (fun c => c = ' ' ∨ c = '_' ∨ c = '-') front
    refine ⟨.word separators (by simpa using hseparators), ?_, ?_, fun hnil => ?_⟩
    · rw [TripletMark.letters, ← List.append_assoc, ← hfront]
      exact withoutSuffix?_eq_some_iff.1 hword
    · simp [TripletMark.letters]
    · exact absurd (List.append_eq_nil_iff.1 hnil).2 (List.cons_ne_nil _ _)
  · split at hsplit
    · rename_i front hletter
      cases hsplit
      exact ⟨.letter, withoutSuffix?_eq_some_iff.1 hletter, rfl,
        fun hnil => absurd hnil (List.cons_ne_nil _ _)⟩
    · rename_i hletter
      cases hsplit
      refine ⟨.none, (List.append_nil name).symm, rfl, fun _ hlast => ?_⟩
      obtain ⟨front, rfl⟩ := List.getLast?_eq_some_iff.1 hlast
      rw [withoutSuffix?_append] at hletter
      cases hletter

end Grid

namespace GridBase

variable (base : GridBase)

theorem exists_getLast?_letters : ∃ c, base.letters.getLast? = some c ∧
    ¬ (c = ' ' ∨ c = '_' ∨ c = '-') := by
  cases base with
  | noteValue name resolution listed =>
    have hlast : ∀ entry ∈ noteValueNames, entry.1.toList.getLast?.any fun c =>
        ¬ (c = ' ' ∨ c = '_' ∨ c = '-') := by
      decide
    obtain ⟨c, hc, hseparator⟩ := (Option.any_eq_true _ _).1 (hlast _ listed)
    exact ⟨c, hc, of_decide_eq_true hseparator⟩
  | denominator written =>
    obtain ⟨c, hlast, hc⟩ := written.exists_getLast?_letters
    refine ⟨c, hlast, ?_⟩
    rintro (rfl | rfl | rfl) <;> exact absurd hc (by decide)

/-- No base ends so that a `t` would complete the word that marks a triplet. -/
theorem withoutSuffix?_letters :
    Grid.withoutSuffix? ['t', 'r', 'i', 'p', 'l', 'e'] base.letters = none := by
  cases base with
  | noteValue name resolution listed =>
    have hwords : ∀ entry ∈ noteValueNames,
        Grid.withoutSuffix? ['t', 'r', 'i', 'p', 'l', 'e'] entry.1.toList = none := by
      decide
    exact hwords _ listed
  | denominator written =>
    obtain ⟨c, hlast, hc⟩ := written.exists_getLast?_letters
    refine Grid.withoutSuffix?_of_getLast?_ne rfl fun heq : written.letters.getLast? = _ => ?_
    rw [hlast, Option.some.injEq] at heq
    rw [heq] at hc
    exact absurd hc (by decide)

/-- A name is split where its mark begins, unless it has none and its last letter looks like one. -/
theorem splitTriplet_letters {mark : TripletMark}
    (hread : mark.letters = [] → base.letters.getLast? ≠ some 't') :
    Grid.splitTriplet (base.letters ++ mark.letters) =
      (base.letters, ! mark.letters.isEmpty) := by
  obtain ⟨c, hlast, hc⟩ := base.exists_getLast?_letters
  cases mark with
  | none =>
    rw [TripletMark.letters, List.append_nil]
    refine Grid.splitTriplet_of_ne hlast ?_
    rintro rfl
    exact hread rfl hlast
  | letter => exact Grid.splitTriplet_append_letter base.withoutSuffix?_letters
  | word separators hseparators =>
    have hempty : (TripletMark.word separators hseparators).letters.isEmpty = false := by
      rw [List.isEmpty_eq_false_iff]
      exact List.append_ne_nil_of_right_ne_nil _ (List.cons_ne_nil _ _)
    rw [hempty]
    exact Grid.splitTriplet_word hlast hseparators hc

/-! ## Texts -/

theorem isModerate : Grid.IsModerate ⟨base.quarters⟩ := by
  cases base with
  | noteValue name resolution listed =>
    have hvalues : ∀ entry ∈ noteValueNames, Grid.IsModerate ⟨entry.2⟩ := by
      decide +kernel
    exact hvalues _ listed
  | denominator written => exact Grid.isModerate_ofDenominator written.pos written.fits

/-- Times can be snapped to a grid that has a name. -/
theorem isUsable_apply (mark : TripletMark) : Grid.IsUsable ⟨mark.apply base.quarters⟩ := by
  cases mark with
  | none => exact base.isModerate.isUsable
  | letter => exact base.isModerate.isUsable_triplet
  | word separators _ => exact base.isModerate.isUsable_triplet

end GridBase

/-- A text is read as a grid if and only if what is left of it in lower case and without the blanks
around it is a name of the grid, with the mark of a triplet or without one, and then the grid is a
usable one. A name that ends in the letter of a mark but has none is not read. -/
theorem Grid.ofText?_eq_some_iff {text : String} {grid : Grid} :
    ofText? text = some grid ↔
      (grid.quarters.isFinite ∧ 0 < grid.quarters) ∧
      ∃ (base : GridBase) (mark : TripletMark),
        Text.asciiLowercase (Text.trim text.toList) = base.letters ++ mark.letters ∧
        grid.quarters = (if mark.letters = [] then base.quarters else base.quarters * 2 / 3) ∧
        (mark.letters = [] → base.letters.getLast? ≠ some 't') := by
  rw [ofText?]
  generalize Text.asciiLowercase (Text.trim text.toList) = letters
  constructor
  · intro hread
    obtain ⟨base, isTriplet, hsplit⟩ : ∃ base isTriplet, splitTriplet letters = (base, isTriplet) :=
      ⟨_, _, rfl⟩
    rw [hsplit] at hread
    obtain ⟨plain, hplain, hgrid⟩ := Option.map_eq_some_iff.1 hread
    obtain ⟨mark, hletters, rfl, hlast⟩ := of_splitTriplet hsplit
    obtain ⟨named, rfl, rfl⟩ := ofBase?_eq_some_iff.1 hplain
    rw [mark.ite_triplet] at hgrid
    subst hgrid
    exact ⟨named.isUsable_apply mark, named, mark, hletters, mark.apply_eq _, hlast⟩
  · -- Splitting leaves the base that is given, so that no other reading has to be excluded.
    rintro ⟨-, base, mark, rfl, hquarters, hread⟩
    rw [base.splitTriplet_letters hread]
    dsimp only
    rw [ofBase?_eq_some_iff.2 ⟨base, rfl, rfl⟩, Option.map_some, mark.ite_triplet, mark.apply_eq,
      ← hquarters]

/-- The triplet of a twelfth, written with all that may stand around its number, and names of the
same note value with and without the letter. -/
theorem Grid.ofText?_eq_some_iff_triplet :
    ofText? "\t1/+012TH _-Triplet " = some ⟨0.2222222222222222⟩ ∧
      ofText? "Thirty-SecondT" = some ⟨0.08333333333333333⟩ ∧
      ofText? " thirty_second" = some ⟨0.125⟩ ∧
      ofText? "1st" = none ∧ ofText? "1/1/4" = none ∧ ofText? "triplet" = none := by
  let twelfth : GridBase := .denominator {
    isFraction := true, isSigned := true, digits := ['0', '1', '2'], ordinal := ['t', 'h']
    digits_isDigit := by simp, pos := by decide, fits := by decide, ordinal_mem := by decide }
  let word : TripletMark := .word [' ', '_', '-'] (by simp)
  refine ⟨ofText?_eq_some_iff.2 ⟨by decide +kernel, twelfth, word, ?_⟩,
    ofText?_eq_some_iff.2 ⟨by decide +kernel,
      .noteValue "thirty-second" 0.125 (by decide +kernel), .letter, ?_⟩,
    ofText?_eq_some_iff.2 ⟨by decide +kernel,
      .noteValue "thirty_second" 0.125 (by decide +kernel), .none, ?_⟩,
    by decide +kernel, by decide +kernel, by decide +kernel⟩
  · decide +kernel
  · decide +kernel
  · decide +kernel

end Espressivo
