import Mathlib.Algebra.Ring.Nat
import Mathlib.Data.List.TakeDrop
import Mathlib.Data.List.TakeWhile
import Espressivo.Proofs.Json.Decode
import Espressivo.Proofs.Text.Blank
import Espressivo.Proofs.Text.Numeral
import Espressivo.Score.Meter

/-!
# Spellings of time signatures

A time signature is made of two numbers in one place only. The text of two numbers, the list of them
and the object with them as its fields all lead there, so that they yield the same time signature or
are refused for the same reason. What is written of a time signature is read as it again.
-/

namespace Espressivo

theorem isPowerOfTwo_iff {n : Nat} : IsPowerOfTwo n ↔ ∃ k, n = 2 ^ k := by
  constructor
  · exact fun hn => ⟨n.log2, hn⟩
  · rintro ⟨k, rfl⟩
    rw [IsPowerOfTwo, Nat.log2_two_pow]
    rfl

namespace TimeSignature

open Dictionary

/-! ## Two numbers -/

theorem ofNumbers_eq_ok_iff {n d : UInt32} {signature : TimeSignature} :
    ofNumbers n d = .ok signature ↔ signature.numerator = n ∧ signature.denominator = d := by
  constructor
  · intro hread
    unfold ofNumbers at hread
    split at hread
    · split at hread
      · cases hread
        exact ⟨rfl, rfl⟩
      · cases hread
    · cases hread
  · rintro ⟨rfl, rfl⟩
    rw [ofNumbers, dif_pos signature.positive, dif_pos signature.powerOfTwo]

theorem exists_ofNumbers_eq_ok_iff {n d : UInt32} :
    (∃ signature, ofNumbers n d = .ok signature) ↔ 0 < n ∧ ∃ k, d.toNat = 2 ^ k := by
  rw [← isPowerOfTwo_iff]
  constructor
  · rintro ⟨signature, hread⟩
    obtain ⟨rfl, rfl⟩ := ofNumbers_eq_ok_iff.1 hread
    exact ⟨signature.positive, signature.powerOfTwo⟩
  · rintro ⟨hpositive, hpower⟩
    exact ⟨⟨n, d, hpositive, hpower⟩, ofNumbers_eq_ok_iff.2 ⟨rfl, rfl⟩⟩

/-! ## Texts -/

/-- The decimal digits of the number, with any blanks around them. -/
def Pads (part : List Char) (n : UInt32) : Prop :=
  ∃ before after, part = before ++ Nat.toDigits 10 n.toNat ++ after ∧
    (∀ c ∈ before, Text.isBlank c) ∧ ∀ c ∈ after, Text.isBlank c

/-- The text of the two numbers, with any blanks around either. -/
def Spells (text : String) (n d : UInt32) : Prop :=
  ∃ first second, text.toList = first ++ '/' :: second ∧ Pads first n ∧ Pads second d

theorem Pads.trim_eq {part : List Char} {n : UInt32} (hpart : Pads part n) :
    Text.trim part = Nat.toDigits 10 n.toNat := by
  obtain ⟨before, after, rfl, hbefore, hafter⟩ := hpart
  obtain ⟨first, rest, hdigits, hfirst⟩ := Text.exists_toDigits_eq_cons n.toNat
  obtain ⟨last, hlast, hlastDigit⟩ := Text.exists_getLast?_toDigits n.toNat
  have hhead : (Nat.toDigits 10 n.toNat).head? = some first := by rw [hdigits]; rfl
  have hblank : ∀ c : Char, c.isDigit → ¬ Text.isBlank c := fun c hc => by
    rw [Text.isBlank_of_isDigit hc]
    exact Bool.false_ne_true
  exact Text.trim_append hhead hlast (hblank first hfirst) (hblank last hlastDigit) hbefore hafter

theorem Pads.readNumeral_eq {part : List Char} {n : UInt32} (hpart : Pads part n) :
    Text.readNumeral (Text.trim part) = .ok n.toNat := by
  rw [hpart.trim_eq]
  exact Text.readNumeral_toDigits n.toNat_lt_size

theorem Pads.slash_not_mem {part : List Char} {n : UInt32} (hpart : Pads part n) : '/' ∉ part := by
  obtain ⟨before, after, rfl, hbefore, hafter⟩ := hpart
  have hslash : ¬ Text.isBlank '/' := by decide
  simp only [List.mem_append, not_or]
  exact ⟨⟨fun hmem => hslash (hbefore _ hmem), fun hmem =>
    absurd (Text.isDigit_of_mem_toDigits hmem) (by decide)⟩, fun hmem => hslash (hafter _ hmem)⟩

/-- The number that a part of a text stands for. -/
def numberOfPart (text : String) (part : List Char) : Except TimeSignatureError UInt32 :=
  match Text.readNumeral (Text.trim part) with
  | .ok n => .ok (.ofNat n)
  | .error error => .error (.notNumeral text error)

theorem numberOfPart_eq_ok_iff {text : String} {part : List Char} {n : UInt32} :
    numberOfPart text part = .ok n ↔
      ∃ m, Text.readNumeral (Text.trim part) = .ok m ∧ UInt32.ofNat m = n := by
  unfold numberOfPart
  cases Text.readNumeral (Text.trim part) <;> simp

/-- A text is parted at its first slash. -/
theorem ofText_eq {text : String} {first second : List Char}
    (htext : text.toList = first ++ '/' :: second) (hslash : '/' ∉ first) :
    ofText text = (do
      let n ← numberOfPart text first
      ofNumbers n (← numberOfPart text second)) := by
  have hfirst : ∀ c ∈ first, decide (c ≠ '/') = true := fun c hc =>
    decide_eq_true fun heq => hslash (heq ▸ hc)
  have hspan : text.toList.span (· ≠ '/') = (first, '/' :: second) := by
    rw [List.span_eq_takeWhile_dropWhile, htext, List.takeWhile_append_of_pos hfirst,
      List.dropWhile_append_of_pos hfirst]
    simp
  rw [ofText, hspan]
  rfl

theorem ofText_of_slash_not_mem {text : String} (hslash : '/' ∉ text.toList) :
    ofText text = .error (.notFraction text) := by
  have hall : ∀ c ∈ text.toList, decide (c ≠ '/') = true := fun c hc =>
    decide_eq_true fun heq => hslash (heq ▸ hc)
  have hspan : text.toList.span (· ≠ '/') = (text.toList, []) := by
    rw [List.span_eq_takeWhile_dropWhile, List.takeWhile_eq_self_iff.2 hall,
      List.dropWhile_eq_nil_iff.2 hall]
  rw [ofText, hspan]

/-- A text is read as what its two numerals say, one before the first slash and one after it. -/
theorem ofText_eq_ok_iff {text : String} {signature : TimeSignature} :
    ofText text = .ok signature ↔ ∃ first second n d, text.toList = first ++ '/' :: second ∧
      '/' ∉ first ∧ Text.readNumeral (Text.trim first) = .ok n ∧
        Text.readNumeral (Text.trim second) = .ok d ∧
          ofNumbers (.ofNat n) (.ofNat d) = .ok signature := by
  constructor
  · intro hread
    by_cases hslash : '/' ∈ text.toList
    · obtain ⟨first, second, htext, hfirst⟩ := List.eq_append_cons_of_mem hslash
      rw [ofText_eq htext hfirst, bind_eq_ok_iff] at hread
      obtain ⟨_, hn, hread⟩ := hread
      obtain ⟨_, hd, hread⟩ := bind_eq_ok_iff.1 hread
      obtain ⟨n, hfirstNumeral, rfl⟩ := numberOfPart_eq_ok_iff.1 hn
      obtain ⟨d, hsecondNumeral, rfl⟩ := numberOfPart_eq_ok_iff.1 hd
      exact ⟨first, second, n, d, htext, hfirst, hfirstNumeral, hsecondNumeral, hread⟩
    · rw [ofText_of_slash_not_mem hslash] at hread
      cases hread
  · rintro ⟨first, second, n, d, htext, hslash, hn, hd, hread⟩
    rw [ofText_eq htext hslash, numberOfPart_eq_ok_iff.2 ⟨n, hn, rfl⟩,
      numberOfPart_eq_ok_iff.2 ⟨d, hd, rfl⟩]
    exact hread

theorem Spells.ofText_eq {text : String} {n d : UInt32} (htext : Spells text n d) :
    ofText text = ofNumbers n d := by
  obtain ⟨first, second, htext, hfirst, hsecond⟩ := htext
  rw [TimeSignature.ofText_eq htext hfirst.slash_not_mem]
  rw [numberOfPart_eq_ok_iff.2 ⟨_, hfirst.readNumeral_eq, UInt32.ofNat_toNat⟩,
    numberOfPart_eq_ok_iff.2 ⟨_, hsecond.readNumeral_eq, UInt32.ofNat_toNat⟩]
  rfl

theorem pads_toDigits (n : UInt32) : Pads (Nat.toDigits 10 n.toNat) n :=
  ⟨[], [], by rw [List.nil_append, List.append_nil], List.forall_mem_nil _, List.forall_mem_nil _⟩

theorem spells_text (signature : TimeSignature) :
    Spells signature.text signature.numerator signature.denominator := by
  refine ⟨_, _, ?_, pads_toDigits signature.numerator, pads_toDigits signature.denominator⟩
  have hnumber : ∀ n : UInt32, (toString n).toList = Nat.toDigits 10 n.toNat :=
    fun n => Nat.toList_repr
  simp only [text, String.toList_append, hnumber]
  exact List.append_assoc ..

/-! ## Documents -/

/-- The value says the two numbers: as a text, as a list or as fields among others. -/
inductive Gives : Json → UInt32 → UInt32 → Prop
  | text {text : String} {n d : UInt32} (htext : Spells text n d) : Gives (.string text) n d
  | pair (n d : UInt32) : Gives (.array [.ofNat n.toNat, .ofNat d.toNat]) n d
  | fields {fields : Dictionary Json} {n d : UInt32}
      (hnumerator : get? "numerator" fields = some (.ofNat n.toNat))
      (hdenominator : get? "denominator" fields = some (.ofNat d.toNat)) :
      Gives (.object fields) n d

theorem pair?_ofNat (n d : UInt32) :
    numbers?.pair? (.ofNat n.toNat) (.ofNat d.toNat) = some (n, d) := by
  rw [numbers?.pair?, Json.Decode.word_ofNat, Json.Decode.word_ofNat]
  show some (UInt32.ofNat n.toNat, UInt32.ofNat d.toNat) = some (n, d)
  rw [UInt32.ofNat_toNat, UInt32.ofNat_toNat]

/-- What is said of numbers that make no time signature is the reason of a decoder. -/
def refusal (error : TimeSignatureError) : Json.DecodeError := .refused error.message

theorem decode_of_numbers? {value : Json} {n d : UInt32} (hnumbers : numbers? value = some (n, d)) :
    decode value = (ofNumbers n d).mapError refusal := by
  unfold decode
  cases value with
  | string text => cases hnumbers
  | _ =>
    dsimp only
    rw [hnumbers]
    rfl

theorem Gives.decode_eq {value : Json} {n d : UInt32} (hvalue : Gives value n d) :
    decode value = (ofNumbers n d).mapError refusal := by
  cases hvalue with
  | text htext =>
    rw [← htext.ofText_eq]
    rfl
  | pair n d => exact decode_of_numbers? (pair?_ofNat n d)
  | fields hnumerator hdenominator =>
    refine decode_of_numbers? ?_
    rw [numbers?, hnumerator, hdenominator, Option.bind_eq_bind, Option.bind_some,
      Option.bind_some, pair?_ofNat]

/-- All spellings of two numbers are read as the same time signature, or none for the same reason.
They are read as one if the first is positive and the second a power of two, also by texts that
spell the numbers in another way, and what is written of it is one of its spellings. -/
theorem spellings_agree (n d : UInt32) :
    (∀ text, Spells text n d → ofText text = ofNumbers n d) ∧
    (∀ value, Gives value n d → decode value = (ofNumbers n d).mapError refusal) ∧
    ((∃ signature, ofNumbers n d = .ok signature) ↔ 0 < n ∧ ∃ k, d.toNat = 2 ^ k) ∧
    (∀ signature, ofNumbers n d = .ok signature →
      signature.numerator = n ∧ signature.denominator = d ∧
        ofText signature.text = .ok signature ∧ decode signature.toJson = .ok signature) ∧
    ∀ text signature, ofText text = .ok signature →
      ∃ p q : UInt32, ofNumbers p q = .ok signature ∧ 0 < p ∧ ∃ k, q.toNat = 2 ^ k := by
  refine ⟨fun text => Spells.ofText_eq, fun value => Gives.decode_eq,
    exists_ofNumbers_eq_ok_iff, fun signature hread => ?_, fun text signature hread => ?_⟩
  · obtain ⟨rfl, rfl⟩ := ofNumbers_eq_ok_iff.1 hread
    have htext := signature.spells_text
    have hdecode := (Gives.text htext).decode_eq
    rw [hread] at hdecode
    exact ⟨rfl, rfl, htext.ofText_eq.trans hread, hdecode⟩
  · obtain ⟨first, second, p, q, -, -, -, -, hnumbers⟩ := ofText_eq_ok_iff.1 hread
    exact ⟨_, _, hnumbers, exists_ofNumbers_eq_ok_iff.1 ⟨signature, hnumbers⟩⟩

theorem spellings_agree_padded :
    let text := "\t6 / 8\n"
    let fields := Json.object [("denominator", .ofNat 8), ("meter", .null), ("numerator", .ofNat 6)]
    Spells text 6 8 ∧ ofText text = ofNumbers 6 8 ∧
      decode fields = (ofNumbers 6 8).mapError refusal ∧
        ∃ signature, ofNumbers 6 8 = .ok signature ∧ decode signature.toJson = .ok signature := by
  intro text fields
  obtain ⟨htexts, hvalues, hread, hwritten, -⟩ := spellings_agree 6 8
  have htext : Spells text 6 8 :=
    ⟨"\t6 ".toList, " 8\n".toList, by decide +kernel,
      ⟨['\t'], [' '], by decide +kernel, List.forall_mem_singleton.2 (by decide),
        List.forall_mem_singleton.2 (by decide)⟩,
      ⟨[' '], ['\n'], by decide +kernel, List.forall_mem_singleton.2 (by decide),
        List.forall_mem_singleton.2 (by decide)⟩⟩
  obtain ⟨signature, hsignature⟩ := hread.2 ⟨by decide, 3, rfl⟩
  exact ⟨htext, htexts text htext, hvalues fields (.fields rfl rfl), signature, hsignature,
    (hwritten signature hsignature).2.2.2⟩

end TimeSignature
end Espressivo
