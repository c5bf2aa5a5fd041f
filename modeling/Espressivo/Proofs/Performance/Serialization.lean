import Espressivo.Proofs.Json.Canonical
import Espressivo.Proofs.Json.Decode
import Espressivo.Proofs.Performance.Overflow
import Espressivo.Proofs.Performance.Ranges

/-!
# Modulations as JSON

A modulation is read from its JSON object again, unless its amount is infinite, which JSON has no
number for. The amounts of compiled notes are finite but for those that overflow.
-/

namespace Espressivo

open Binary64 Dictionary Json.Decode

/-! ## Modulations -/

/-- The amount of an effect, if it has one. -/
def Effect.amount? : Effect → Option Binary64
  | duration factor => some factor
  | velocity boost => some boost
  | glide _ => none

namespace Modulation

variable {fields : Dictionary Json} {name : String} {index : Nat}

theorem optional_eq_of_get? {α : Type} {decode : Json.Decoder α} {value : Json}
    (hget : get? name fields = some value) :
    Json.Decode.optional fields name decode = some <$> decode value := by
  rw [Json.Decode.optional, hget]

theorem amountOfFields_eq {effect : Binary64 → Effect} {amount : Binary64}
    (hamount : get? name fields = some (.ofBinary64 amount))
    (hindex : get? "index" fields = some (.ofNat index)) (hsize : index < UInt64.size) :
    amountOfFields name effect fields =
      if amount.isFinite then .ok ⟨index, effect amount⟩ else .error (.wrongType .null .float) := by
  rw [amountOfFields, optional_eq_of_get? hamount, optional_eq_of_get? hindex, size_ofNat hsize,
    float_ofBinary64_eq]
  split <;> rfl

theorem glideOfFields_eq {glide : Glide} (hsubtype : get? "subtype" fields = some glide.kind.name)
    (horigin : get? "from" fields = some (.ofNat glide.origin.toNat))
    (htarget : get? "to" fields = some (.ofNat glide.target.toNat))
    (hindex : get? "index" fields = some (.ofNat index)) (hsize : index < UInt64.size) :
    glideOfFields fields = .ok ⟨index, .glide glide⟩ := by
  have hkind : setAsideVariant GlideKind.names (.string glide.kind.name) = .ok glide.kind := by
    cases glide.kind <;> rfl
  rw [glideOfFields, optional_eq_of_get? hsubtype, optional_eq_of_get? horigin,
    optional_eq_of_get? htarget, optional_eq_of_get? hindex, size_ofNat hsize, byte_ofNat,
    byte_ofNat, hkind]
  rfl

theorem decode_object {effect : Effect} (htype : get? "type" fields = some (.string effect.name)) :
    decode (.object fields) =
      match effect with
      | .duration _ => amountOfFields "factor" .duration fields
      | .velocity _ => amountOfFields "amountBoost" .velocity fields
      | .glide _ => glideOfFields fields := by
  rw [decode, optional_eq_of_get? htype]
  cases effect <;> rfl

theorem exists_canonical_toJson (m : Modulation) :
    ∃ fields, m.toJson.canonical = .object fields ∧ ∀ name, get? name fields =
      (get? name (("type", Json.string m.effect.name) :: ("index", .ofNat m.index) ::
        m.effect.toFields)).map Json.canonical := by
  refine ⟨_, rfl, fun name => Json.get?_canonical_object ?_⟩
  cases m.effect <;> simp [names, Effect.toFields, Glide.toFields]

/-- A modulation is read as it was written, unless its amount was written as null. -/
theorem decode_canonical_toJson (m : Modulation) (hsize : m.index < UInt64.size) :
    decode m.toJson.canonical =
      if m.effect.amount?.all isFinite then .ok m else .error (.wrongType .null .float) := by
  obtain ⟨fields, hobject, hget⟩ := m.exists_canonical_toJson
  obtain ⟨index, effect⟩ := m
  have htype : get? "type" fields = some (.string effect.name) := hget "type"
  have hindex : get? "index" fields = some (.ofNat index) := hget "index"
  rw [hobject, decode_object htype]
  cases effect with
  | duration factor =>
    have hfactor : get? "factor" fields = some (.ofBinary64 factor) := by
      rw [hget, ← Json.canonical_ofBinary64]
      rfl
    exact amountOfFields_eq hfactor hindex hsize
  | velocity boost =>
    have hboost : get? "amountBoost" fields = some (.ofBinary64 boost) := by
      rw [hget, ← Json.canonical_ofBinary64]
      rfl
    exact amountOfFields_eq hboost hindex hsize
  | glide glide =>
    exact glideOfFields_eq (hget "subtype") (hget "from") (hget "to") hindex hsize

theorem ofBinary64_eq_null_iff {x : Binary64} : Json.ofBinary64 x = .null ↔ ¬ x.isFinite := by
  cases x <;> simp [Json.ofBinary64, isFinite]

/-- Only the amount can be written as null. -/
theorem exists_null_iff (m : Modulation) :
    (∃ name, m.toJson.field? name = some .null) ↔ ¬ m.effect.amount?.all isFinite := by
  obtain ⟨index, effect⟩ := m
  constructor
  · intro ⟨name, hfield⟩
    have hmem : (name, Json.null) ∈ ("type", Json.string effect.name) :: ("index", .ofNat index) ::
      effect.toFields := mem_of_get? hfield
    cases effect <;>
      simp [Effect.toFields, Glide.toFields, Json.ofNat, @eq_comm _ Json.null,
        ofBinary64_eq_null_iff] at hmem
    · simpa [Effect.amount?] using hmem.2
    · simpa [Effect.amount?] using hmem.2
  · intro hinfinite
    cases effect with
    | duration factor =>
      refine ⟨"factor", ?_⟩
      rw [← ofBinary64_eq_null_iff.2 hinfinite]
      rfl
    | velocity boost =>
      refine ⟨"amountBoost", ?_⟩
      rw [← ofBinary64_eq_null_iff.2 hinfinite]
      rfl
    | glide glide => exact absurd rfl hinfinite

end Modulation

/-! ## Amounts -/

section

variable {limit x : Binary64}

theorem raisedTo_infinite (hlimit : limit.isFinite) :
    raisedTo limit (infinite false) = infinite false := by
  cases limit with
  | finite q =>
    refine if_pos (lt_iff.2 ⟨q.position, Binary64.limit, rfl, rfl, ?_⟩)
    have hunits := q.representable.1
    unfold Finite.position
    split <;> omega
  | _ => cases hlimit

theorem isFinite_raisedTo (hlimit : limit.isFinite) (hx : x ≠ infinite false) :
    (raisedTo limit x).isFinite := by
  rw [raisedTo]
  split
  · rename_i hlt
    cases x with
    | finite x => rfl
    | nan => exact absurd rfl (ne_nan_of_lt hlt)
    | infinite negative =>
      cases negative with
      | false => exact absurd rfl hx
      | true =>
        -- Nothing finite is below the negative infinity.
        cases limit with
        | finite q =>
          obtain ⟨a, b, ha, hb, hab⟩ := lt_iff.1 hlt
          have hposition : q.position = a := Option.some.inj ha
          have hlimit : (-Binary64.limit : Int) = b := Option.some.inj hb
          have hunits := q.representable.1
          unfold Finite.position at hposition
          split at hposition <;> omega
        | _ => cases hlimit
  · exact hlimit

end

theorem Coefficients.isFinite_floor (c : Coefficients) : c.floor.isFinite := by
  rw [Coefficients.floor]
  split
  · rename_i hpositive
    exact hpositive.1
  · decide +kernel

theorem isFinite_zero : (0 : Binary64).isFinite := by
  rw [zero_eq]
  rfl

/-- The amount of an effect of a note is infinite if the note overflows, and finite otherwise. -/
theorem Note.amount_of_mem_effects {settings : Settings} {note : Note} {effect : Effect}
    (heffect : effect ∈ (note.combination settings).effects settings.coefficients) :
    if note.Overflows settings effect then effect.amount? = some (infinite false)
      else effect.amount?.all isFinite := by
  rcases Combination.mem_effects_iff.1 heffect with
    ⟨product, hproduct, rfl⟩ | ⟨sum, hsum, rfl⟩ | ⟨glide, -, rfl⟩
  · have hfloor := settings.coefficients.isFinite_floor
    have heq : product = (note.factors settings).foldl (· * ·) 1 :=
      Combination.eq_of_factor? hproduct
    split
    · rename_i hover
      rw [Overflows, ← heq] at hover
      rw [Effect.amount?, hover, raisedTo_infinite hfloor]
    · rename_i hover
      rw [Overflows, ← heq] at hover
      exact isFinite_raisedTo hfloor hover
  · have heq : sum = (note.boosts settings).foldl (· + ·) 0 := Combination.eq_of_boost? hsum
    split
    · rename_i hover
      rw [Overflows, ← heq] at hover
      rw [Effect.amount?, hover, raisedTo_infinite isFinite_zero]
    · rename_i hover
      rw [Overflows, ← heq] at hover
      exact isFinite_raisedTo isFinite_zero hover
  · split
    · rename_i hover
      exact hover.elim
    · rfl

/-! ## Compiled notes -/

/-- A modulation of compiled notes has a finite amount and is read from its JSON object again,
unless its note overflows; then the amount is infinite, and what is written as null is refused. With
coefficients of at most two no note of up to a thousand entries overflows. An index is read as 64
bits, which is enough for every list in memory. -/
theorem compileNotes_toJson {settings : Settings} {context : Context} {notes : List Note}
    {performance : Performance} (hsettings : settings.fault? = none)
    (hlength : notes.length ≤ UInt64.size)
    (hcompiled : compileNotes settings context notes = .ok performance) :
    (∀ m ∈ performance.modulations, ∃ note, notes[m.index]? = some note ∧
      if note.Overflows settings m.effect then
        m.effect.amount? = some (infinite false) ∧ (∃ name, m.toJson.field? name = some .null) ∧
          Modulation.decode m.toJson.canonical = .error (.wrongType .null .float)
      else
        m.effect.amount?.all isFinite ∧ (∀ name, m.toJson.field? name ≠ some .null) ∧
          Modulation.decode m.toJson.canonical = .ok m) ∧
    ((∀ entry ∈ settings.coefficients.values, entry.2 ≤ 2) →
      (∀ note ∈ notes, note.entries.length ≤ 1023) →
        ∀ m ∈ performance.modulations,
          m.effect.amount?.all isFinite ∧ Modulation.decode m.toJson.canonical = .ok m) := by
  obtain ⟨-, rfl⟩ := compileNotes_eq_ok_iff.1 hcompiled
  have hnote : ∀ m ∈ (performFrom settings 0 {} notes).modulations, ∃ note ∈ notes,
      notes[m.index]? = some note ∧ m.index < UInt64.size ∧
        m.effect ∈ (note.combination settings).effects settings.coefficients := by
    intro m hm
    obtain ⟨place, note, hindex, hnote, heffect⟩ := mem_modulations_performFrom hm
    rw [Nat.zero_add] at hindex
    rw [← hindex] at hnote
    have hplace := (List.getElem?_eq_some_iff.1 hnote).1
    exact ⟨note, List.mem_of_getElem? hnote, hnote, by omega, heffect⟩
  constructor
  · intro m hm
    obtain ⟨note, -, hnote, hsize, heffect⟩ := hnote m hm
    have hamount := Note.amount_of_mem_effects heffect
    have hdecode := m.decode_canonical_toJson hsize
    refine ⟨note, hnote, ?_⟩
    split
    · rename_i hover
      rw [if_pos hover] at hamount
      have hinfinite : ¬ m.effect.amount?.all isFinite := by
        rw [hamount]
        exact nofun
      rw [if_neg hinfinite] at hdecode
      exact ⟨hamount, m.exists_null_iff.2 hinfinite, hdecode⟩
    · rename_i hover
      rw [if_neg hover] at hamount
      rw [if_pos hamount] at hdecode
      exact ⟨hamount, fun name hnull => m.exists_null_iff.1 ⟨name, hnull⟩ hamount, hdecode⟩
  · intro htwo hfew m hm
    obtain ⟨note, hmem, -, hsize, heffect⟩ := hnote m hm
    have hsound := Settings.coefficients_fault? hsettings
    have hamount := Note.amount_of_mem_effects heffect
    rw [if_neg (Note.not_overflows hsound htwo (hfew note hmem) m.effect)] at hamount
    have hdecode := m.decode_canonical_toJson hsize
    rw [if_pos hamount] at hdecode
    exact ⟨hamount, hdecode⟩

/-- Two large factors, and the standard ones. -/
theorem compileNotes_toJson_tenuto :
    let settings : Settings := { Settings.standard with
      shorthands := .ofList [("-", .simple .tenuto)] }
    let wide : Settings := { settings with
      coefficients := { Coefficients.standard with tenutoDuration := 1e200 } }
    let note := Note.plain (some (.single 60)) 1 (some (.list [.name "-", .name "-"]))
    let longer : Modulation := ⟨0, .duration (infinite false)⟩
    let louder : Modulation := ⟨0, .velocity 0.6000000000000001⟩
    (∃ performance, compileNotes wide .standard [note] = .ok performance ∧
      performance.modulations = [longer, louder] ∧
      Modulation.decode longer.toJson.canonical = .error (.wrongType .null .float) ∧
      Modulation.decode louder.toJson.canonical = .ok louder) ∧
    ∃ performance, compileNotes settings .standard [note] = .ok performance ∧
      performance.modulations = [⟨0, .duration 2.25⟩, louder] ∧
      ∀ m ∈ performance.modulations, Modulation.decode m.toJson.canonical = .ok m := by
  intro settings wide note longer louder
  have hsound : ∀ sounded ∈ [note], sounded.fault? = none := by decide +kernel
  constructor
  · let performance := performFrom wide 0 {} [note]
    have hcompiled : compileNotes wide .standard [note] = .ok performance :=
      compileNotes_eq_ok_iff.2 ⟨hsound, rfl⟩
    have hmodulations : performance.modulations = [longer, louder] := by decide +kernel
    obtain ⟨hwritten, -⟩ := compileNotes_toJson (by decide +kernel) (by decide) hcompiled
    rw [hmodulations] at hwritten
    obtain ⟨_, -, hlonger⟩ := hwritten longer (by simp)
    obtain ⟨_, -, hlouder⟩ := hwritten louder (by simp)
    split at hlonger
    · split at hlouder
      · exact absurd hlouder.1 (by decide +kernel)
      · exact ⟨performance, hcompiled, hmodulations, hlonger.2.2, hlouder.2.2⟩
    · exact absurd hlonger.1 (by decide +kernel)
  · let performance := performFrom settings 0 {} [note]
    have hcompiled : compileNotes settings .standard [note] = .ok performance :=
      compileNotes_eq_ok_iff.2 ⟨hsound, rfl⟩
    obtain ⟨-, hfinite⟩ := compileNotes_toJson (by decide +kernel) (by decide) hcompiled
    have hagain := hfinite (by decide +kernel) (by decide +kernel)
    exact ⟨performance, hcompiled, by decide +kernel, fun m hm => (hagain m hm).2⟩

/-- The amounts of compiled notes need not be finite. -/
theorem exists_infinite_amount :
    ¬ ∀ (settings : Settings) (context : Context) (notes : List Note) (performance : Performance),
      settings.fault? = none → compileNotes settings context notes = .ok performance →
        ∀ m ∈ performance.modulations, m.effect.amount?.all isFinite := by
  intro hclaim
  let wide : Settings := { Settings.standard with
    coefficients := { Coefficients.standard with tenutoDuration := 1e200 }
    shorthands := .ofList [("-", .simple .tenuto)] }
  let note := Note.plain (some (.single 60)) 1 (some (.list [.name "-", .name "-"]))
  have hcompiled : compileNotes wide .standard [note] = .ok (performFrom wide 0 {} [note]) :=
    compileNotes_eq_ok_iff.2 ⟨by decide +kernel, rfl⟩
  have hfinite := hclaim wide .standard [note] _ (by decide +kernel) hcompiled
  revert hfinite
  decide +kernel

end Espressivo
