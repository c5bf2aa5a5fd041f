import Espressivo.Proofs.Binary64.Rounding
import Espressivo.Proofs.Json.Canonical
import Espressivo.Proofs.Json.Fields
import Espressivo.Proofs.Score.Decode

/-!
# Writing back what was read

A composition is written back as it was read, but for three things: fields of notes that are null
are left out where null stands for nothing, a time that was left out is written as zero, and times
and durations are floating point numbers. What is written back is read as the same composition.
-/

namespace Espressivo

open Binary64 Dictionary Json.Decode

/-! ## Numbers -/

theorem isFinite_ofInt {n : Int} (hrange : (Json.Number.int n).InRange) : (ofInt n).isFinite := by
  obtain ⟨hlow, hhigh⟩ := hrange
  have hbits : n.natAbs ≤ 2 ^ 64 := by
    have h63 : (Nat.pow 2 63 : Int) = 9223372036854775808 := rfl
    have h64 : (Nat.pow 2 64 : Int) = 18446744073709551616 := rfl
    omega
  refine (within_round Nat.one_pos (@representable_power 64 (by decide)) ?_).isFinite
  rw [Nat.mul_one]
  exact Nat.mul_le_mul_right one hbits

namespace Json

variable {value : Json}

/-- A number as a floating point number. -/
def toFloat : Json → Json
  | number n => .ofBinary64 n.toBinary64
  | value => value

theorem ofBinary64_of_float {x : Binary64} (hvalue : float value = .ok x) :
    Json.ofBinary64 x = value.toFloat := by
  cases value with
  | number n =>
    cases hvalue
    rfl
  | _ => cases hvalue

/-- Documents have no number that is too large for a floating point number. -/
theorem isFinite_of_float {x : Binary64} (hvalue : value.WellFormed) (hx : float value = .ok x) :
    x.isFinite := by
  cases hvalue with
  | @number n hrange =>
    cases hx
    cases n with
    | int n => exact isFinite_ofInt hrange
    | float x => rfl
  | _ => cases hx

theorem toFloat_ofBinary64 (x : Binary64) : (Json.ofBinary64 x).toFloat = .ofBinary64 x := by
  cases x <;> rfl

theorem toFloat_ofNat (n : Nat) : (Json.ofNat n).toFloat = .ofBinary64 (.ofNat n) := by
  have hsign : decide ((n : Int) < 0) = false := by simp
  show Json.ofBinary64 (ofWhole (decide ((n : Int) < 0)) (n : Int).natAbs) = _
  rw [hsign, Int.natAbs_natCast]
  rfl

theorem ofNat_of_byte {byte : UInt8} (hvalue : Decode.byte value = .ok byte) :
    Json.ofNat byte.toNat = value := by
  obtain ⟨n, hn, hbyte⟩ := bind_eq_ok_iff.1 hvalue
  cases hbyte
  cases value with
  | number m =>
    cases m with
    | float x => cases hn
    | int m =>
      rw [below] at hn
      split at hn
      · rename_i hrange
        cases hn
        have hsmall : m.toNat < UInt8.size := by omega
        rw [UInt8.toNat_ofNat_of_lt' hsmall, Json.ofNat, Int.toNat_of_nonneg hrange.1]
      · cases hn
  | _ => cases hn

theorem string_of_text {s : String} (hvalue : Decode.text value = .ok s) : string s = value := by
  cases value with
  | string s =>
    cases hvalue
    rfl
  | _ => cases hvalue

end Json

/-! ## Pitches and markings -/

theorem map_ofNat_of_bytes {items : List Json} {bytes : List UInt8}
    (hitems : (items.mapM fun item => (Json.Decode.byte item).toOption) = some bytes) :
    bytes.map (fun byte => Json.ofNat byte.toNat) = items := by
  induction items generalizing bytes with
  | nil =>
    cases hitems
    rfl
  | cons item rest ih =>
    simp only [List.mapM_cons, Option.bind_eq_bind, Option.bind_eq_some_iff] at hitems
    obtain ⟨byte, hbyte, later, hlater, hbytes⟩ := hitems
    cases hbytes
    rw [List.map_cons, ih hlater, Json.ofNat_of_byte (toOption_eq_some_iff.1 hbyte)]

theorem Pitch.toJson_of_decode {value : Json} {pitch : Pitch}
    (hvalue : Pitch.decode value = .ok pitch) : pitch.toJson = value := by
  rw [Pitch.decode] at hvalue
  cases hpitch : Pitch.ofJson? value with
  | none => rw [hpitch] at hvalue; cases hvalue
  | some found =>
    rw [hpitch] at hvalue
    cases hvalue
    unfold Pitch.ofJson? at hpitch
    split at hpitch
    · obtain ⟨bytes, hbytes, hchord⟩ := Option.map_eq_some_iff.1 hpitch
      rw [← hchord, Pitch.toJson, map_ofNat_of_bytes hbytes]
    · obtain ⟨byte, hbyte, hsingle⟩ := Option.map_eq_some_iff.1 hpitch
      rw [← hsingle, Pitch.toJson, Json.ofNat_of_byte (toOption_eq_some_iff.1 hbyte)]

section

variable {value : Json}

theorem Descriptor.canonical_toJson {descriptor : Descriptor} (hvalue : value.WellFormed)
    (hdescriptor : Descriptor.ofJson? value = some descriptor) :
    descriptor.toJson.canonical = value := by
  cases value with
  | object fields =>
    rw [Descriptor.ofJson?] at hdescriptor
    split at hdescriptor
    · rename_i type htype
      cases hdescriptor
      refine hvalue.canonical_record (by simp [names]) (.refl _) hvalue.sorted ?_ fun _ _ => rfl
      intro field hfield
      cases List.mem_singleton.1 hfield
      exact htype
    · cases hdescriptor
  | _ => cases hdescriptor

theorem Entry.canonical_toJson (hvalue : value.WellFormed) :
    (Entry.ofJson value).toJson.canonical = value := by
  unfold Entry.ofJson
  split
  · rfl
  · cases hdescriptor : Descriptor.ofJson? value with
    | some descriptor => exact Descriptor.canonical_toJson hvalue hdescriptor
    | none => exact hvalue.canonical_eq

theorem Markings.canonical_toJson (hvalue : value.WellFormed) :
    (Markings.ofJson value).toJson.canonical = value := by
  cases value with
  | array items =>
    cases hvalue with
    | array hitems =>
      have hkept : ((items.map Entry.ofJson).map Entry.toJson).map Json.canonical = items := by
        rw [List.map_map, List.map_map]
        exact (List.map_congr_left fun item hitem =>
          Entry.canonical_toJson (hitems item hitem)).trans (List.map_id' items)
      show Json.array (Json.canonicalItems _) = _
      rw [Json.canonicalItems_eq_map, hkept]
  | _ => exact Entry.canonical_toJson hvalue

end

/-! ## Tidied notes -/

namespace Json

def isNull : Json → Bool
  | null => true
  | _ => false

/-- The fields of a note where null stands for nothing. -/
def nullableNames : List String := ["articulation", "articulations", "dynamics", "pitch"]

/-- The field is not just there to say that there is nothing. -/
def isStated (field : String × Json) : Bool := !(field.1 ∈ nullableNames && field.2.isNull)

/-- Times and durations are written as floating point numbers. -/
def tidyField (name : String) (value : Json) : Json :=
  if name ∈ ["duration", "time"] then value.toFloat else value

/-- The fields of a note as they are written back. -/
def tidyFields (fields : Dictionary Json) : Dictionary Json :=
  let stated := fields.filter isStated
  let timed := if get? "time" fields = none then put "time" (.ofBinary64 0) stated else stated
  timed.map fun field => (field.1, tidyField field.1 field.2)

def tidyNote : Json → Json
  | object fields => object (tidyFields fields)
  | value => value

section

variable {fields : Dictionary Json} {name : String}

theorem sorted_tidyFields (hsorted : Sorted fields) : Sorted (tidyFields fields) := by
  have hstated : Sorted (fields.filter isStated) := hsorted.filter _
  unfold tidyFields
  dsimp only
  refine Sorted.map ?_ tidyField
  split
  · exact Sorted.put hstated "time" (.ofBinary64 0)
  · exact hstated

theorem get?_tidyFields (hsorted : Sorted fields) (hname : name ≠ "time") :
    get? name (tidyFields fields) =
      ((get? name fields).filter fun value => isStated (name, value)).map (tidyField name) := by
  unfold tidyFields
  dsimp only
  rw [get?_map tidyField, ← hsorted.get?_filter]
  split
  · rw [get?_put_of_ne hname]
  · rfl

theorem get?_tidyFields_time (hsorted : Sorted fields) :
    get? "time" (tidyFields fields) =
      some (((get? "time" fields).map toFloat).getD (.ofBinary64 0)) := by
  unfold tidyFields
  dsimp only
  rw [get?_map tidyField]
  cases hget : get? "time" fields with
  | none =>
    rw [if_pos rfl, get?_put_self, zero_eq]
    rfl
  | some value =>
    rw [if_neg nofun, hsorted.get?_filter, hget]
    rfl

theorem get?_tidyFields_duration (hsorted : Sorted fields) :
    get? "duration" (tidyFields fields) = (get? "duration" fields).map toFloat := by
  rw [get?_tidyFields hsorted (by decide)]
  cases get? "duration" fields <;> rfl

theorem get?_tidyFields_nullable (hsorted : Sorted fields) (hname : name ∈ nullableNames) :
    get? name (tidyFields fields) = (get? name fields).filter fun value => !value.isNull := by
  have hnumber : name ∉ ["duration", "time"] := by
    intro hmem
    simp only [nullableNames, List.mem_cons, List.not_mem_nil, or_false] at hname hmem
    rcases hmem with rfl | rfl <;> simp at hname
  have htime : name ≠ "time" := fun heq => hnumber (by simp [heq])
  have hstated : ∀ value, isStated (name, value) = !value.isNull := by simp [isStated, hname]
  have hfield : tidyField name = id := funext fun value => if_neg hnumber
  rw [get?_tidyFields hsorted htime, hfield, Option.map_id_fun, id]
  simp only [hstated]

theorem get?_tidyFields_other (hsorted : Sorted fields) (hname : name ∉ Note.fieldNames) :
    get? name (tidyFields fields) = get? name fields := by
  simp only [Note.fieldNames, List.mem_cons, List.not_mem_nil, or_false, not_or] at hname
  have hstated : ∀ value, isStated (name, value) = true := by simp [isStated, nullableNames, hname]
  have hfield : tidyField name = id := funext fun value => if_neg (by simp [hname])
  rw [get?_tidyFields hsorted (by simp [hname]), hfield, Option.map_id_fun, id]
  cases get? name fields with
  | none => rfl
  | some value => simp [hstated]

theorem without_tidyFields (hsorted : Sorted fields) :
    without Note.fieldNames (tidyFields fields) = without Note.fieldNames fields := by
  have htidy := (sorted_tidyFields hsorted).without Note.fieldNames
  refine htidy.ext (hsorted.without Note.fieldNames) fun name => ?_
  rw [get?_without, get?_without]
  split
  · rfl
  · rename_i hname
    rw [get?_tidyFields_other hsorted hname]

end

end Json

/-! ## Notes -/

section

variable {α : Type} {decode : Json.Decoder α} {fields : Dictionary Json} {name : String}

theorem nullable_eq (decode : Json.Decoder α) (value : Json) :
    nullable decode value = if value.isNull then .ok none else some <$> decode value := by
  cases value <;> rfl

theorem optionalNullable_eq_ok_iff {found? : Option α} :
    optionalNullable fields name decode = .ok found? ↔
      ((get? name fields).filter fun value => !value.isNull).elim (found? = none)
        fun value => ∃ a, decode value = .ok a ∧ found? = some a := by
  rw [optionalNullable, Json.Decode.optional]
  cases get? name fields with
  | none => simp [bind, Except.bind, pure, Except.pure, eq_comm]
  | some value =>
    simp only [bind_eq_ok_iff, map_eq_ok_iff, pure_eq_ok_iff, nullable_eq, Option.filter_some]
    by_cases hnull : value.isNull
    · simp [hnull, eq_comm]
    · have hmap : some <$> decode value = .ok found? ↔
          ∃ a, decode value = .ok a ∧ found? = some a := by
        rw [map_eq_ok_iff]
        exact exists_congr fun a => and_congr_right fun _ => eq_comm
      simpa [hnull] using hmap

/-- A field is written back as it was stated. -/
theorem get?_of_optionalNullable {encode : α → Json} {found? : Option α}
    (hfields : (Json.object fields).WellFormed)
    (hfound : optionalNullable fields name decode = .ok found?)
    (hencode : ∀ value a, value.WellFormed → decode value = .ok a → (encode a).canonical = value) :
    (get? name fields).filter (fun value => !value.isNull) =
      (found?.map encode).map Json.canonical := by
  rw [optionalNullable_eq_ok_iff] at hfound
  cases hstated : (get? name fields).filter fun value => !value.isNull with
  | none =>
    rw [hstated] at hfound
    rw [show found? = none from hfound]
    rfl
  | some value =>
    rw [hstated] at hfound
    obtain ⟨a, hdecode, rfl⟩ := hfound
    have hvalue := hfields.of_get? (Option.filter_eq_some_iff.1 hstated).1
    exact congrArg some (hencode value a hvalue hdecode).symm

theorem optionalNullable_tidyFields {found? : Option α} (hsorted : Sorted fields)
    (hname : name ∈ Json.nullableNames)
    (hfound : optionalNullable fields name decode = .ok found?) :
    optionalNullable (Json.tidyFields fields) name decode = .ok found? := by
  rw [optionalNullable_eq_ok_iff] at hfound ⊢
  rw [Json.get?_tidyFields_nullable hsorted hname, Option.filter_filter]
  simpa only [Bool.and_self] using hfound

end

section

variable {fields : Dictionary Json} {note : Note}

theorem Note.DecodedFrom.get?_duration (hnote : note.DecodedFrom fields) :
    (get? "duration" fields).map Json.toFloat = some (.ofBinary64 note.duration) := by
  obtain ⟨value, hget, hvalue⟩ := optional_eq_ok_some_iff.1 hnote.duration
  rw [hget, Option.map_some, Json.ofBinary64_of_float hvalue]

theorem Note.DecodedFrom.get?_time (hnote : note.DecodedFrom fields) :
    ((get? "time" fields).map Json.toFloat).getD (.ofBinary64 0) = .ofBinary64 note.time := by
  obtain ⟨time?, hfound, hgetD⟩ := hnote.time
  rw [Json.Decode.optional] at hfound
  cases hget : get? "time" fields with
  | none =>
    rw [hget] at hfound
    cases hfound
    rw [← hgetD]
    rfl
  | some value =>
    rw [hget] at hfound
    obtain ⟨x, hx, rfl⟩ := map_eq_ok_iff.1 hfound
    rw [← hgetD, Option.map_some, Option.getD_some, Option.getD_some, Json.ofBinary64_of_float hx]

theorem Note.DecodedFrom.isFinite_time (hfields : (Json.object fields).WellFormed)
    (hnote : note.DecodedFrom fields) : note.time.isFinite := by
  obtain ⟨time?, hfound, hgetD⟩ := hnote.time
  rw [← hgetD]
  cases time? with
  | none => decide +kernel
  | some x =>
    obtain ⟨value, hget, hx⟩ := optional_eq_ok_some_iff.1 hfound
    exact Json.isFinite_of_float (hfields.of_get? hget) hx

/-- A note is written back with its fields tidied. -/
theorem Note.DecodedFrom.canonical_toJson (hfields : (Json.object fields).WellFormed)
    (hnote : note.DecodedFrom fields) :
    note.toJson.canonical = .object (Json.tidyFields fields) := by
  have hsorted := hfields.sorted
  have hmarkings : ∀ value markings, value.WellFormed →
      (Except.ok (.ofJson value) : Except Json.DecodeError Markings) = .ok markings →
        markings.toJson.canonical = value := by
    intro value markings hvalue hmarkings
    cases hmarkings
    exact Markings.canonical_toJson hvalue
  rw [Note.toJson, ← hnote.extra]
  refine hfields.canonical_record ?distinct ?taken (Json.sorted_tidyFields hsorted) ?own
    fun name hname => Json.get?_tidyFields_other hsorted hname
  case distinct =>
    show List.Nodup ["pitch", "duration", "time", "articulation", "articulations", "dynamics"]
    decide
  case taken =>
    show List.Perm ["pitch", "duration", "time", "articulation", "articulations", "dynamics"]
      Note.fieldNames
    decide
  case own =>
    simp only [List.forall_mem_cons, List.not_mem_nil, false_imp_iff, implies_true, and_true]
    refine ⟨?pitch, ?duration, ?time, ?articulation, ?articulations, ?dynamics⟩
    case pitch =>
      rw [Json.get?_tidyFields_nullable hsorted (by decide)]
      refine get?_of_optionalNullable hfields hnote.pitch fun value pitch hvalue hpitch => ?_
      rw [Pitch.toJson_of_decode hpitch, hvalue.canonical_eq]
    case duration =>
      rw [Json.get?_tidyFields_duration hsorted, hnote.get?_duration, Option.map_some,
        Json.canonical_ofBinary64]
    case time =>
      rw [Json.get?_tidyFields_time hsorted, hnote.get?_time, Option.map_some,
        Json.canonical_ofBinary64]
    case articulation =>
      rw [Json.get?_tidyFields_nullable hsorted (by decide)]
      exact get?_of_optionalNullable hfields hnote.articulation hmarkings
    case articulations =>
      rw [Json.get?_tidyFields_nullable hsorted (by decide)]
      exact get?_of_optionalNullable hfields hnote.articulations hmarkings
    case dynamics =>
      rw [Json.get?_tidyFields_nullable hsorted (by decide)]
      refine get?_of_optionalNullable hfields hnote.dynamics fun value s hvalue hs => ?_
      rw [Json.string_of_text hs, hvalue.canonical_eq]

/-- A note is read again from its tidied fields. -/
theorem Note.DecodedFrom.tidy (hfields : (Json.object fields).WellFormed)
    (hnote : note.DecodedFrom fields) : note.DecodedFrom (Json.tidyFields fields) where
  articulation := optionalNullable_tidyFields hfields.sorted (by decide) hnote.articulation
  articulations := optionalNullable_tidyFields hfields.sorted (by decide) hnote.articulations
  dynamics := optionalNullable_tidyFields hfields.sorted (by decide) hnote.dynamics
  pitch := optionalNullable_tidyFields hfields.sorted (by decide) hnote.pitch
  duration := by
    obtain ⟨value, hget, hvalue⟩ := optional_eq_ok_some_iff.1 hnote.duration
    have hfinite := Json.isFinite_of_float (hfields.of_get? hget) hvalue
    refine optional_eq_ok_some_iff.2 ⟨_, ?_, float_ofBinary64 hfinite⟩
    rw [Json.get?_tidyFields_duration hfields.sorted, hnote.get?_duration]
  time := by
    have hfinite := hnote.isFinite_time hfields
    refine ⟨some note.time, optional_eq_ok_some_iff.2 ⟨_, ?_, float_ofBinary64 hfinite⟩, rfl⟩
    rw [Json.get?_tidyFields_time hfields.sorted, hnote.get?_time]
  extra := (Json.without_tidyFields hfields.sorted).trans hnote.extra

end

theorem Note.canonical_toJson {item : Json} {note : Note} (hitem : item.WellFormed)
    (hnote : Note.decode item = .ok note) :
    note.toJson.canonical = item.tidyNote ∧ Note.decode item.tidyNote = .ok note := by
  obtain ⟨fields, rfl⟩ := Note.object_of_decode hnote
  have hdecoded := Note.decode_object_eq_ok_iff.1 hnote
  exact ⟨hdecoded.canonical_toJson hitem, Note.decode_object_eq_ok_iff.2 (hdecoded.tidy hitem)⟩

/-! ## Lists -/

section

variable {α : Type} {decode : Json.Decoder α} {encode : α → Json} {tidy : Json → Json}
  {items : List Json} {decoded : List α}

theorem mapM_tidy (hitems : ∀ item ∈ items, item.WellFormed)
    (hdecoded : items.mapM decode = .ok decoded)
    (hstep : ∀ item a, item.WellFormed → decode item = .ok a →
      (encode a).canonical = tidy item ∧ decode (tidy item) = .ok a) :
    (decoded.map encode).map Json.canonical = items.map tidy ∧
      (items.map tidy).mapM decode = .ok decoded := by
  rw [mapM_eq_ok_iff] at hdecoded ⊢
  induction hdecoded with
  | nil => exact ⟨rfl, .nil⟩
  | cons ha hrest ih =>
    obtain ⟨hitem, hlater⟩ := List.forall_mem_cons.1 hitems
    obtain ⟨hencode, hdecode⟩ := hstep _ _ hitem ha
    obtain ⟨hencoded, hagain⟩ := ih hlater
    exact ⟨congrArg₂ List.cons hencode hencoded, .cons hdecode hagain⟩

/-- A record with one list, among other fields of an object, is that object with the items of the
list tidied. -/
theorem canonical_listRecord {fields : Dictionary Json} {name : String}
    (hfields : (Json.object fields).WellFormed)
    (hget : get? name fields = some (.array items))
    (hencoded : (decoded.map encode).map Json.canonical = items.map tidy) :
    (Json.record [(name, some (.array (decoded.map encode)))] (without [name] fields)).canonical =
      (Json.object fields).mapField name (Json.mapItems tidy) := by
  rw [Json.mapField_object]
  refine hfields.canonical_record (by simp [names]) (.refl _) ?sorted ?own ?other
  case sorted => exact hfields.sorted.map fun key value =>
    if key = name then Json.mapItems tidy value else value
  case own =>
    intro field hfield
    cases List.mem_singleton.1 hfield
    show get? name _ = some (Json.array (Json.canonicalItems (decoded.map encode)))
    rw [Json.get?_modify_mapItems hget, Json.canonicalItems_eq_map, hencoded]
  case other =>
    intro other hother
    rw [List.mem_singleton] at hother
    exact get?_modify_of_ne hother _ _

end

/-! ## Tracks and compositions -/

namespace Json

def tidyTrack : Json → Json := mapField "notes" (mapItems tidyNote)

def tidyComposition : Json → Json := mapField "tracks" (mapItems tidyTrack)

theorem WellFormed.items {fields : Dictionary Json} {name : String} {items : List Json}
    (hfields : (Json.object fields).WellFormed) (hget : get? name fields = some (.array items)) :
    ∀ item ∈ items, item.WellFormed := by
  cases hfields.of_get? hget with
  | array hitems => exact hitems

end Json

theorem Track.canonical_toJson {document : Json} {track : Track} (hdocument : document.WellFormed)
    (htrack : Track.decode document = .ok track) :
    track.toJson.canonical = document.tidyTrack ∧ Track.decode document.tidyTrack = .ok track := by
  obtain ⟨fields, items, rfl, hitems, hnotes, hextra⟩ := Track.decode_eq_ok_iff.1 htrack
  obtain ⟨hencoded, hagain⟩ := mapM_tidy (hdocument.items hitems) hnotes fun _ _ =>
    Note.canonical_toJson
  constructor
  · rw [Track.toJson, hextra]
    exact canonical_listRecord hdocument hitems hencoded
  · refine Track.decode_eq_ok_iff.2 ⟨_, items.map Json.tidyNote, rfl,
      Json.get?_modify_mapItems hitems _, hagain, ?_⟩
    rw [hextra]
    exact (without_modify (List.mem_singleton_self _) _ _).symm

/-- A composition that was read from a document is written back as the tidied document, from which
it is read again. -/
theorem Composition.toJson_decode {document : Json} {composition : Composition}
    (hdocument : document.WellFormed)
    (hcomposition : Composition.decode document = .ok composition) :
    composition.toJson.canonical = document.tidyComposition ∧
      Composition.decode composition.toJson.canonical = .ok composition := by
  obtain ⟨fields, items, rfl, hitems, htracks, hextra⟩ :=
    Composition.decode_eq_ok_iff.1 hcomposition
  obtain ⟨hencoded, hagain⟩ := mapM_tidy (hdocument.items hitems) htracks fun _ _ =>
    Track.canonical_toJson
  have htidy : composition.toJson.canonical = (Json.object fields).tidyComposition := by
    rw [Composition.toJson, hextra]
    exact canonical_listRecord hdocument hitems hencoded
  refine ⟨htidy, ?_⟩
  rw [htidy]
  refine Composition.decode_eq_ok_iff.2 ⟨_, items.map Json.tidyTrack, rfl,
    Json.get?_modify_mapItems hitems _, hagain, ?_⟩
  rw [hextra]
  exact (without_modify (List.mem_singleton_self _) _ _).symm

/-- A note with a null of each kind, an integer and no time, and one that has everything. -/
theorem Composition.toJson_decode_mixed :
    let markings : Json := .array ["stacc", .object [("target", .ofNat 62), ("type", "gliss")],
      .object [("other", .array [.null])], .null]
    let pitches : Json := .array [.ofNat 60, .ofNat 67]
    let document (notes : List Json) : Json := .object [("title", "study"), ("tracks", .array [
      .object [("name", .null), ("notes", .array notes)]])]
    let given := document [
      .object [("articulation", .null), ("articulations", markings), ("duration", .ofNat 1),
        ("lyric", .null), ("pitch", .null)],
      .object [("articulation", .bool true), ("duration", .ofBinary64 0.5), ("dynamics", "mf"),
        ("pitch", pitches), ("time", .ofNat 3)]]
    let written := document [
      .object [("articulations", markings), ("duration", .ofBinary64 1), ("lyric", .null),
        ("time", .ofBinary64 0)],
      .object [("articulation", .bool true), ("duration", .ofBinary64 0.5), ("dynamics", "mf"),
        ("pitch", pitches), ("time", .ofBinary64 3)]]
    given.WellFormed ∧ ∃ composition, Composition.decode given = .ok composition ∧
      composition.toJson.canonical = written ∧ Composition.decode written = .ok composition := by
  intro markings pitches document given written
  have hgiven : given.WellFormed := by
    simp [given, document, markings, pitches, Json.ofNat, Json.Number.InRange]
    decide +kernel
  have hany : (Composition.decode given).toOption.any fun _ => true := by decide +kernel
  obtain ⟨composition, hdecoded, -⟩ := exists_ok_of_any hany
  obtain ⟨hwritten, hagain⟩ := Composition.toJson_decode hgiven hdecoded
  have htidy : given.tidyComposition = written := by
    have hliteral : ofNat 1 = 1 ∧ ofNat 3 = 3 := ⟨rfl, rfl⟩
    have horder : ¬ "time" < "articulations" ∧ ¬ "time" < "duration" ∧ ¬ "time" < "lyric" := by
      decide +kernel
    simp [given, written, document, pitches, Json.tidyComposition, Json.tidyTrack, Json.mapField,
      Json.mapItems, Json.tidyNote, Json.tidyFields, Json.tidyField, Json.isStated, Json.isNull,
      Json.nullableNames, get?_cons, put_cons, put_nil, Json.toFloat_ofBinary64, Json.toFloat_ofNat,
      hliteral, horder]
  rw [hwritten, htidy] at hagain
  exact ⟨hgiven, composition, hdecoded, hwritten.trans htidy, hagain⟩

end Espressivo
