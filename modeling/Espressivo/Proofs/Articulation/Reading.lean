import Espressivo.Proofs.Binary64.NearestWhole
import Espressivo.Proofs.Performance.Findings

/-!
# Entries on their own

What markings come to is told entry by entry. An entry yields an articulation, or a single finding
that says why it yields none; only a glide whose target has to be rounded yields both. The target of
a glide is any number that is nearest to a pitch that can sound.
-/

namespace Espressivo

open Binary64 Diagnosing

/-- The reading of an entry that stands alone. -/
def Entry.read (table : ShorthandTable) (index : Nat) (entry : Entry) :
    Diagnosing (List Articulation) :=
  (Markings.single entry).read table index

/-- Nothing is read but a finding of the kind about the note at the index. -/
def Diagnosing.Drops (index : Nat) (kind : FindingKind)
    (computation : Diagnosing (List Articulation)) : Prop :=
  ∃ finding : Finding, finding.kind = kind ∧ Yields index computation [] [finding]

/-- The entry is the name, or it is a descriptor of that type. -/
def Entry.Names (name : String) : Entry → Prop
  | .name written => written = name
  | .descriptor written => written.type = name
  | .other _ => False

instance (name : String) (entry : Entry) : Decidable (entry.Names name) :=
  match entry with
  | .name written => inferInstanceAs (Decidable (written = name))
  | .descriptor written => inferInstanceAs (Decidable (written.type = name))
  | .other _ => inferInstanceAs (Decidable False)

/-- The value is a number that is less than a half away from the pitches that can sound. -/
def Json.IsTarget (value : Json) : Prop :=
  ∃ n, value = .number n ∧ -0.5 < n.toBinary64 ∧ n.toBinary64 < 127.5

theorem yields_read_entry (table : ShorthandTable) (index : Nat) (entry : Entry) :
    Yields index (entry.read table index) (Reading.ofEntry table entry).articulation?.toList
      (Reading.ofEntry table entry).finding?.toList := by
  have hentries := yields_readEntries table index [entry]
  rw [List.map_singleton, articulationsOf_cons, findingsOf_cons] at hentries
  simp only [articulationsOf, findingsOf, List.filterMap_nil, List.append_nil] at hentries
  exact hentries

/-! ## Targets -/

namespace Reading

/-- The halves around the range of the pitches that can sound are values. -/
theorem exists_halves : ∃ low high : Finite, (-0.5 : Binary64) = low ∧ (127.5 : Binary64) = high ∧
    2 * low.position = -one ∧ 2 * high.position = 2 * ((127 : Nat) * one) + one := by
  have hlow : (-0.5 : Binary64).toFinite?.map Finite.position =
      some (-((one / 2 : Nat) : Int)) := by
    decide +kernel
  have hhigh : (127.5 : Binary64).toFinite?.map Finite.position =
      some ((127 * one + one / 2 : Nat) : Int) := by
    decide +kernel
  have hhalf : 2 * (one / 2) = one := by decide +kernel
  obtain ⟨low, hlowValue, hlowPosition⟩ := Option.map_eq_some_iff.1 hlow
  obtain ⟨high, hhighValue, hhighPosition⟩ := Option.map_eq_some_iff.1 hhigh
  refine ⟨low, high, eq_of_toFinite? hlowValue, eq_of_toFinite? hhighValue, ?_, ?_⟩
  · rw [hlowPosition]
    omega
  · rw [hhighPosition]
    omega

variable (kind : GlideKind)

theorem isTarget_number_iff (n : Json.Number) :
    (Json.number n).IsTarget ↔
      0 ≤ n.toBinary64.roundToWhole ∧ n.toBinary64.roundToWhole ≤ .ofNat maxPitch.toNat := by
  obtain ⟨low, high, hlow, hhigh, hlowPosition, hhighPosition⟩ := exists_halves
  have hmax : maxPitch.toNat < Nat.pow 2 53 := by decide
  rw [roundToWhole_within_iff hmax hlowPosition hhighPosition, ← hlow, ← hhigh]
  constructor
  · rintro ⟨m, ⟨⟩, hrange⟩
    exact hrange
  · exact fun hrange => ⟨n, rfl, hrange⟩

theorem ofTarget_of_not_isTarget {value : Json} (hvalue : ¬ value.IsTarget) :
    ofTarget kind value = dropped (.unusableTarget kind value) := by
  cases value with
  | number n =>
    rw [isTarget_number_iff] at hvalue
    exact if_neg hvalue
  | _ => rfl

/-- A target leads to the pitch that it rounds to, and rounding is reported if it changes it. -/
theorem ofTarget_of_isTarget {n : Json.Number} (hlower : -0.5 < n.toBinary64)
    (hupper : n.toBinary64 < 127.5) :
    ∃ (target : Finite) (pitch : UInt8), n.toBinary64 = target ∧ pitch ≤ maxPitch ∧
      (∀ m : Int, target.RoundsTo m ↔ m = pitch.toNat) ∧
      ofTarget kind (.number n) = {
        articulation? := some (.glide kind pitch)
        finding? :=
          if target.IsWhole then none
          else some (.roundedTarget kind target (roundToWhole target)) } := by
  obtain ⟨low, high, hlow, hhigh, hlowPosition, hhighPosition⟩ := exists_halves
  have hrange := (isTarget_number_iff n).1 ⟨n, rfl, hlower, hupper⟩
  rw [hlow] at hlower
  rw [hhigh] at hupper
  obtain ⟨target, htarget⟩ := exists_finite_of_between hlower hupper
  rw [htarget] at hlower hupper hrange
  obtain ⟨hzero, hmax⟩ := (between_halves_iff hlowPosition hhighPosition).1 ⟨hlower, hupper⟩
  obtain ⟨rounded, hrounded, hposition⟩ := roundToWhole_finite target
  obtain ⟨pitch, hpitch⟩ := Int.eq_ofNat_of_zero_le hzero
  rw [hpitch] at hposition hmax
  have hsize : pitch < UInt8.size := Nat.lt_of_le_of_lt (Int.ofNat_le.1 hmax) (by decide)
  have hbyte := Finite.toNat_toUInt8 hsize hposition
  have hwhole : (finite rounded).SameNumber (finite target) ↔ target.IsWhole := by
    rw [← target.position_eq_middle_mul_one_iff, hpitch, ← hposition]
    exact eq_comm
  refine ⟨target, (finite rounded).toUInt8, htarget, ?_, fun m => ?_, ?_⟩
  · rw [UInt8.le_iff_toNat_le, hbyte]
    exact Int.ofNat_le.1 hmax
  · rw [target.roundsTo_iff, hpitch, hbyte]
  · rw [ofTarget, htarget]
    rw [hrounded] at hrange
    simp only [hrounded, if_pos hrange, hwhole]

end Reading

/-! ## Single entries -/

theorem Diagnosing.Drops.fst_run_eq_nil {index : Nat} {kind : FindingKind}
    {computation : Diagnosing (List Articulation)} (hdrops : Drops index kind computation)
    (earlier : List Diagnostic) : (computation.run earlier).1 = [] := by
  obtain ⟨finding, -, hyields⟩ := hdrops
  rw [hyields]

section

variable {table : ShorthandTable} {index : Nat} {entry : Entry}

theorem yields_of_accepted {articulation : Articulation}
    (haccepted : Reading.ofEntry table entry = .accepted articulation) :
    Yields index (entry.read table index) [articulation] [] := by
  have hentry := yields_read_entry table index entry
  rw [haccepted] at hentry
  exact hentry

theorem drops_of_dropped {finding : Finding}
    (hdropped : Reading.ofEntry table entry = .dropped finding) :
    Drops index finding.kind (entry.read table index) := by
  have hentry := yields_read_entry table index entry
  rw [hdropped] at hentry
  exact ⟨finding, rfl, hentry⟩

theorem Entry.Names.ofEntry_eq {name : String} (hnames : entry.Names name)
    {kind : SimpleArticulation} (hkind : table.lookup? name = some (.simple kind)) :
    Reading.ofEntry table entry = .accepted (.simple kind) := by
  cases entry with
  | name written =>
    cases hnames
    simp only [Reading.ofEntry, Reading.ofName, hkind]
  | descriptor descriptor =>
    cases hnames
    simp only [Reading.ofEntry, Reading.ofDescriptor, hkind]
  | other value => cases hnames

theorem Entry.Names.drops_of_unknown {name : String} (hnames : entry.Names name)
    (hunknown : table.lookup? name = none) :
    Drops index .unknownArticulation (entry.read table index) := by
  cases entry with
  | name written =>
    cases hnames
    have hdropped : Reading.ofEntry table (.name name) = .dropped (.unknownName name) := by
      simp only [Reading.ofEntry, Reading.ofName, hunknown]
    exact drops_of_dropped hdropped
  | descriptor descriptor =>
    cases hnames
    have hdropped : Reading.ofEntry table (.descriptor descriptor) =
        .dropped (.unknownType descriptor.type) := by
      simp only [Reading.ofEntry, Reading.ofDescriptor, hunknown]
    exact drops_of_dropped hdropped
  | other value => cases hnames

variable (descriptor : Descriptor) {kind : GlideKind}

theorem drops_of_missing_target (hkind : table.lookup? descriptor.type = some (.glide kind))
    (htarget : Dictionary.get? "target" descriptor.parameters = none) :
    Drops index .missingParameter ((Entry.descriptor descriptor).read table index) := by
  have hdropped : Reading.ofEntry table (.descriptor descriptor) =
      .dropped (.missingTarget kind) := by
    simp only [Reading.ofEntry, Reading.ofDescriptor, hkind, htarget]
  exact drops_of_dropped hdropped

theorem ofEntry_of_target (hkind : table.lookup? descriptor.type = some (.glide kind))
    {value : Json} (hvalue : Dictionary.get? "target" descriptor.parameters = some value) :
    Reading.ofEntry table (.descriptor descriptor) = Reading.ofTarget kind value := by
  simp only [Reading.ofEntry, Reading.ofDescriptor, hkind, hvalue]

theorem drops_of_not_isTarget (hkind : table.lookup? descriptor.type = some (.glide kind))
    {value : Json} (hvalue : Dictionary.get? "target" descriptor.parameters = some value)
    (htarget : ¬ value.IsTarget) :
    Drops index .invalidParameter ((Entry.descriptor descriptor).read table index) := by
  have hdropped := ofEntry_of_target descriptor hkind hvalue
  rw [Reading.ofTarget_of_not_isTarget kind htarget] at hdropped
  exact drops_of_dropped hdropped

theorem yields_of_target (hkind : table.lookup? descriptor.type = some (.glide kind))
    {n : Json.Number} (hn : Dictionary.get? "target" descriptor.parameters = some (.number n))
    (hlower : -0.5 < n.toBinary64) (hupper : n.toBinary64 < 127.5) :
    ∃ (target : Finite) (pitch : UInt8) (finding : Finding), n.toBinary64 = target ∧
      (∀ m : Int, target.RoundsTo m ↔ m = pitch.toNat) ∧ pitch ≤ 127 ∧
      finding.kind = .invalidParameter ∧
      Yields index ((Entry.descriptor descriptor).read table index) [.glide kind pitch]
        (if target.IsWhole then [] else [finding]) := by
  obtain ⟨target, pitch, htarget, hpitch, hrounds, hreading⟩ :=
    Reading.ofTarget_of_isTarget kind hlower hupper
  refine ⟨target, pitch, .roundedTarget kind target (roundToWhole target), htarget, hrounds,
    hpitch, rfl, ?_⟩
  have hentry := yields_read_entry table index (.descriptor descriptor)
  rw [ofEntry_of_target descriptor hkind hn, hreading] at hentry
  by_cases hwhole : target.IsWhole
  · rw [if_pos hwhole] at hentry ⊢
    exact hentry
  · rw [if_neg hwhole] at hentry ⊢
    exact hentry

end

/-! ## Main results -/

/-- A descriptor of a glide is kept if its target is a number less than a half away from the pitches
that can sound. The pitch is then the whole number nearest to it, a half being rounded away from
zero, and the rounding of a number that is not whole is reported. Without such a target the
descriptor is dropped. -/
theorem Entry.read_glide {table : ShorthandTable} {descriptor : Descriptor} {kind : GlideKind}
    (hkind : table.lookup? descriptor.type = some (.glide kind)) (index : Nat) :
    let target? := Dictionary.get? "target" descriptor.parameters
    let reading := (Entry.descriptor descriptor).read table index
    (∀ earlier, (reading.run earlier).1 ≠ [] ↔
      ∃ n, target? = some (.number n) ∧ -0.5 < n.toBinary64 ∧ n.toBinary64 < 127.5) ∧
    (∀ n, target? = some (.number n) → -0.5 < n.toBinary64 → n.toBinary64 < 127.5 →
      ∃ (target : Finite) (pitch : UInt8) (finding : Finding), n.toBinary64 = target ∧
        (∀ m : Int, target.RoundsTo m ↔ m = pitch.toNat) ∧ pitch ≤ 127 ∧
        finding.kind = .invalidParameter ∧
        Yields index reading [.glide kind pitch] (if target.IsWhole then [] else [finding])) ∧
    (target? = none → Drops index .missingParameter reading) ∧
    (∀ value, target? = some value →
      (¬ ∃ n, value = .number n ∧ -0.5 < n.toBinary64 ∧ n.toBinary64 < 127.5) →
      Drops index .invalidParameter reading) := by
  intro target? reading
  have hmissing : target? = none → Drops index .missingParameter reading :=
    drops_of_missing_target descriptor hkind
  have hunusable : ∀ value, target? = some value → ¬ value.IsTarget →
      Drops index .invalidParameter reading :=
    fun _ => drops_of_not_isTarget descriptor hkind
  refine ⟨fun earlier => ⟨fun hkept => ?_, ?_⟩, fun n => yields_of_target descriptor hkind,
    hmissing, hunusable⟩
  · cases htarget : target? with
    | none => exact absurd ((hmissing htarget).fst_run_eq_nil earlier) hkept
    | some value =>
      by_contra hnone
      refine hkept ((hunusable value htarget ?_).fst_run_eq_nil earlier)
      rintro ⟨n, rfl, hrange⟩
      exact hnone ⟨n, rfl, hrange⟩
  · rintro ⟨n, hn, hlower, hupper⟩
    obtain ⟨target, pitch, finding, -, -, -, -, hyields⟩ :=
      yields_of_target descriptor hkind hn hlower hupper
    rw [hyields]
    exact List.cons_ne_nil _ _

/-- Half way between two pitches the upper one is taken; above the last pitch there is none. -/
theorem Entry.read_glide_halves :
    let table : ShorthandTable := .ofList [("/", .glide .glissando)]
    let half : Finite := (126.5 : Binary64).toFinite?.get (by decide +kernel)
    let whole : Finite := (60 : Binary64).toFinite?.get (by decide +kernel)
    let glide (parameters : Dictionary Json) : Diagnosing (List Articulation) :=
      (Entry.descriptor ⟨" / ", parameters⟩).read table 3
    table.lookup? " / " = some (.glide .glissando) ∧
      half.RoundsTo 127 ∧ ¬ half.IsWhole ∧ whole.RoundsTo 60 ∧ whole.IsWhole ∧
      (∃ finding : Finding, finding.kind = .invalidParameter ∧
        Yields 3 (glide [("target", .number (.float half))]) [.glide .glissando 127] [finding]) ∧
      Yields 3 (glide [("target", .number (.float whole))]) [.glide .glissando 60] [] ∧
      Drops 3 .invalidParameter (glide [("target", .ofNat 128)]) ∧
      Drops 3 .missingParameter (glide []) := by
  intro table half whole glide
  have hkind : table.lookup? " / " = some (.glide .glissando) := by decide +kernel
  have hkept : ∀ (x : Finite) (pitch : UInt8), -0.5 < finite x → finite x < 127.5 →
      x.RoundsTo pitch.toNat → ∃ finding : Finding, finding.kind = .invalidParameter ∧
        Yields 3 (glide [("target", .number (.float x))]) [.glide .glissando pitch]
          (if x.IsWhole then [] else [finding]) := by
    intro x pitch hlower hupper hpitch
    let descriptor : Descriptor := ⟨" / ", [("target", .number (.float x))]⟩
    have hread := @read_glide table descriptor .glissando hkind 3
    obtain ⟨target, rounded, finding, htarget, hrounds, -, hfinding, hyields⟩ :=
      hread.2.1 (.float x) rfl hlower hupper
    cases htarget
    rw [UInt8.toNat_inj.1 (Int.ofNat_inj.1 ((hrounds pitch.toNat).1 hpitch))]
    exact ⟨finding, hfinding, hyields⟩
  have hhalf : half.RoundsTo 127 := by decide +kernel
  have hwhole : whole.RoundsTo 60 := by decide +kernel
  have hhalfWhole : ¬ half.IsWhole := by decide +kernel
  have hwholeWhole : whole.IsWhole := by decide +kernel
  refine ⟨hkind, hhalf, hhalfWhole, hwhole, hwholeWhole, ?_, ?_, ?_, ?_⟩
  · obtain ⟨finding, hfinding, hread⟩ :=
      hkept half 127 (by decide +kernel) (by decide +kernel) hhalf
    rw [if_neg hhalfWhole] at hread
    exact ⟨finding, hfinding, hread⟩
  · obtain ⟨finding, -, hread⟩ := hkept whole 60 (by decide +kernel) (by decide +kernel) hwhole
    rwa [if_pos hwholeWhole] at hread
  · have hread := @read_glide table ⟨" / ", [("target", .ofNat 128)]⟩ .glissando hkind 3
    refine hread.2.2.2 (.ofNat 128) rfl ?_
    rintro ⟨n, ⟨⟩, -, hupper⟩
    revert hupper
    decide +kernel
  · exact (@read_glide table ⟨" / ", []⟩ .glissando hkind 3).2.2.1 rfl

/-- Markings are read entry by entry, in order, and after the diagnostics so far. Each entry yields
an articulation, a glide with one finding, or one finding alone. A name and a descriptor of that
type yield the same unless the name stands for a glide, which is dropped if it has no target. -/
theorem Markings.read_entrywise (table : ShorthandTable) (index : Nat) :
    (∀ (markings : Markings) (earlier : List Diagnostic),
      (markings.read table index).run earlier =
        (markings.entries.flatMap fun entry => ((entry.read table index).run []).1,
          earlier ++ markings.entries.flatMap fun entry => ((entry.read table index).run []).2)) ∧
    (∀ entry : Entry,
      (∃ articulation, Yields index (entry.read table index) [articulation] []) ∨
      (∃ (kind : GlideKind) (pitch : UInt8) (finding : Finding),
        finding.kind = .invalidParameter ∧
        Yields index (entry.read table index) [.glide kind pitch] [finding]) ∨
      ∃ kind, Drops index kind (entry.read table index)) ∧
    ∀ (name : String) (parameters : Dictionary Json),
      let named := (Entry.name name).read table index
      let described := (Entry.descriptor ⟨name, parameters⟩).read table index
      (∀ kind, table.lookup? name = some (.simple kind) →
        Yields index named [.simple kind] [] ∧ Yields index described [.simple kind] []) ∧
      (table.lookup? name = none →
        Drops index .unknownArticulation named ∧ Drops index .unknownArticulation described) ∧
      (∀ kind, table.lookup? name = some (.glide kind) →
        Drops index .missingParameter named ∧
        (Dictionary.get? "target" parameters = none →
          Drops index .missingParameter described) ∧
        ∀ value, Dictionary.get? "target" parameters = some value →
          (value.IsTarget → ∃ pitch findings,
            Yields index described [.glide kind pitch] findings) ∧
          (¬ value.IsTarget → Drops index .invalidParameter described)) := by
  refine ⟨fun markings earlier => ?_, fun entry => ?_, fun name parameters => ?_⟩
  · have halone : ∀ entry : Entry, (entry.read table index).run [] = _ :=
      fun entry => yields_read_entry table index entry []
    rw [read, yields_readEntries]
    simp only [halone, articulationsOf, findingsOf, List.filterMap_eq_flatMap_toList,
      List.flatMap_map, List.map_flatMap, List.nil_append]
  · have hentry := yields_read_entry table index entry
    have hsettled := Reading.settled_ofEntry table entry
    generalize Reading.ofEntry table entry = reading at hentry hsettled
    cases hsettled with
    | accepted articulation => exact Or.inl ⟨articulation, hentry⟩
    | rounded kind pitch target rounded => exact Or.inr (Or.inl ⟨kind, pitch, _, rfl, hentry⟩)
    | dropped hdrops => exact Or.inr (Or.inr ⟨_, _, rfl, hentry⟩)
  · have hnamed : (Entry.name name).Names name := rfl
    have hdescribed : (Entry.descriptor ⟨name, parameters⟩).Names name := rfl
    refine ⟨fun kind hkind => ?simple, fun hkind => ?unknown, fun kind hkind => ?glide⟩
    case simple =>
      exact ⟨yields_of_accepted (hnamed.ofEntry_eq hkind),
        yields_of_accepted (hdescribed.ofEntry_eq hkind)⟩
    case unknown =>
      exact ⟨hnamed.drops_of_unknown hkind, hdescribed.drops_of_unknown hkind⟩
    case glide =>
      have hname : Reading.ofEntry table (.name name) =
          .dropped (.nameWithoutTarget name kind) := by
        simp only [Reading.ofEntry, Reading.ofName, hkind]
      let descriptor : Descriptor := ⟨name, parameters⟩
      refine ⟨drops_of_dropped hname, drops_of_missing_target descriptor hkind,
        fun value hvalue => ⟨?_, drops_of_not_isTarget descriptor hkind hvalue⟩⟩
      rintro ⟨n, rfl, hlower, hupper⟩
      obtain ⟨_, pitch, _, -, -, -, -, hyields⟩ :=
        yields_of_target descriptor hkind hvalue hlower hupper
      exact ⟨pitch, _, hyields⟩

/-- A name for a simple articulation, one for a glide, and one that stands for nothing, each on its
own and all of them in a list that is read after a diagnostic about an earlier note. -/
theorem Markings.read_entrywise_mixed :
    let table : ShorthandTable := .ofList [(".", .simple .staccato), ("/", .glide .glissando)]
    let parameters : Dictionary Json := [("target", .ofNat 62)]
    let named (name : String) := (Entry.name name).read table 3
    let described (name : String) := (Entry.descriptor ⟨name, parameters⟩).read table 3
    let earlier : List Diagnostic := [⟨2, .unknownName "!"⟩]
    let several : Markings := .list [.descriptor ⟨"/", parameters⟩, .name "?", .name ".", .name "/",
      .descriptor ⟨"/", [("target", .ofBinary64 61.75)]⟩]
    table.lookup? "." = some (.simple .staccato) ∧ table.lookup? "?" = none ∧
      table.lookup? "/" = some (.glide .glissando) ∧
      Yields 3 (named ".") [.simple .staccato] [] ∧
      Yields 3 (described ".") [.simple .staccato] [] ∧
      Drops 3 .unknownArticulation (named "?") ∧ Drops 3 .unknownArticulation (described "?") ∧
      Drops 3 .missingParameter (named "/") ∧
      (∃ pitch findings, Yields 3 (described "/") [.glide .glissando pitch] findings) ∧
      Drops 3 .missingParameter ((Entry.descriptor ⟨"/", []⟩).read table 3) ∧
      Drops 3 .invalidParameter ((Entry.descriptor ⟨"/", [("target", .null)]⟩).read table 3) ∧
      ((several.read table 3).run earlier).1 =
        [.glide .glissando 62, .simple .staccato, .glide .glissando 62] ∧
      (((several.read table 3).run earlier).2.map fun d => (d.index, d.finding.kind)) =
        [(2, .unknownArticulation), (3, .unknownArticulation), (3, .missingParameter),
          (3, .invalidParameter)] := by
  intro table parameters named described earlier several
  have hsimple : table.lookup? "." = some (.simple .staccato) := by decide +kernel
  have hunknown : table.lookup? "?" = none := by decide +kernel
  have hglide : table.lookup? "/" = some (.glide .glissando) := by decide +kernel
  obtain ⟨hrun, -, hread⟩ := read_entrywise table 3
  obtain ⟨hnamedSimple, hdescribedSimple⟩ := (hread "." parameters).1 _ hsimple
  obtain ⟨hnamedUnknown, hdescribedUnknown⟩ := (hread "?" parameters).2.1 hunknown
  obtain ⟨hnamedGlide, -, htarget⟩ := (hread "/" parameters).2.2 _ hglide
  have hpitch : (Json.ofNat 62).IsTarget := ⟨_, rfl, by decide +kernel, by decide +kernel⟩
  have hnull : ¬ Json.null.IsTarget := fun ⟨_, hnumber, _⟩ => nomatch hnumber
  refine ⟨hsimple, hunknown, hglide, hnamedSimple, hdescribedSimple, hnamedUnknown,
    hdescribedUnknown, hnamedGlide, (htarget _ rfl).1 hpitch,
    ((hread "/" []).2.2 _ hglide).2.1 rfl,
    (((hread "/" [("target", .null)]).2.2 _ hglide).2.2 _ rfl).2 hnull, ?_, ?_⟩
  · rw [hrun]
    decide +kernel
  · rw [hrun]
    decide +kernel

end Espressivo
