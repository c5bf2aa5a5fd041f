import Espressivo.Proofs.Articulation.Shorthand
import Espressivo.Proofs.Json.Canonical
import Espressivo.Proofs.Json.Decode
import Espressivo.Proofs.Performance.Overflow
import Espressivo.Settings.Text

/-!
# Settings as JSON

Settings that can be used are read from their JSON value again, names and all: a name in its form is
kept as it is.
-/

namespace Espressivo

open Json.Decode

/-! ## Shorthands -/

namespace ShorthandTable

/-- The tables that can be made: from names in any order, a dictionary's among them, from a JSON
value or from text. -/
inductive IsBuilt : ShorthandTable → Prop where
  | ofList (names : List (String × ArticulationKind)) : IsBuilt (.ofList names)
  | decoded {value : Json} {table : ShorthandTable} (hdecode : decode value = .ok table) :
    IsBuilt table
  | read {text rest : List Char} {table : ShorthandTable}
    (hread : StateT.run Settings.shorthandsReader text = .ok (table, rest)) : IsBuilt table

theorem IsBuilt.isNormal {table : ShorthandTable} (hbuilt : table.IsBuilt) : table.IsNormal := by
  cases hbuilt with
  | ofList names => exact isNormal_ofList names
  | @decoded value _ hdecode =>
    cases value with
    | object fields =>
      obtain ⟨names, -, hnames⟩ := bind_eq_ok_iff.1 hdecode
      rw [← pure_eq_ok_iff.1 hnames]
      exact isNormal_ofList names
    | _ => cases hdecode
  | read hread =>
    obtain ⟨⟨names, later⟩, -, hnames⟩ := bind_eq_ok_iff.1 hread
    cases hnames
    exact isNormal_ofList _

theorem canonical_toJson (table : ShorthandTable) : table.toJson.canonical = table.toJson := by
  have hsorted := table.sorted.map fun _ kind => Json.string kind.name
  refine Json.WellFormed.canonical_eq (.object hsorted fun field hfield => ?_)
  obtain ⟨entry, -, rfl⟩ := List.mem_map.1 hfield
  exact .string _

theorem variant_name (kind : ArticulationKind) :
    variant ArticulationKind.names (.string kind.name) = .ok kind := by
  cases kind with
  | simple kind => cases kind <;> rfl
  | glide kind => cases kind <;> rfl

theorem IsNormal.decode_canonical_toJson {table : ShorthandTable} (hnormal : table.IsNormal) :
    decode table.toJson.canonical = .ok table := by
  rw [canonical_toJson]
  refine bind_eq_ok_iff.2 ⟨table.entries, ?_, pure_eq_ok_iff.2 hnormal.ofList_entries⟩
  rw [mapM_eq_ok_iff, List.forall₂_map_left_iff, List.forall₂_same]
  intro entry hentry
  rw [variant_name]
  rfl

end ShorthandTable

/-! ## Coefficients -/

namespace Coefficients

theorem canonical_toJson (c : Coefficients) : c.toJson.canonical = .object [
    ("accentVelocityFactor", .ofBinary64 c.accentVelocity),
    ("maxCombinedVelocity", .ofBinary64 c.maxVelocity),
    ("minDurationFactor", .ofBinary64 c.minDuration),
    ("staccatoDurationFactor", .ofBinary64 c.staccatoDuration),
    ("tenutoDurationFactor", .ofBinary64 c.tenutoDuration),
    ("tenutoVelocityFactor", .ofBinary64 c.tenutoVelocity)] := by
  simp only [toJson, values, List.map_cons, List.map_nil, Json.canonical, Json.canonicalFields,
    Json.canonical_ofBinary64, Dictionary.ofList, List.foldl_cons, List.foldl_nil, Dictionary.put,
    String.reduceLT, String.reduceEq, if_true, if_false]

theorem decode_canonical_toJson {c : Coefficients} (hsound : c.fault? = none) :
    decode c.toJson.canonical = .ok c := by
  have hfinite : ∀ entry ∈ c.values, float (.ofBinary64 entry.2) = .ok entry.2 :=
    fun entry hentry => float_ofBinary64 (fault?_eq_none_iff.1 hsound entry hentry).1
  simp only [values, List.forall_mem_cons] at hfinite
  obtain ⟨hstaccato, htenuto, htenutoVelocity, haccent, hmax, hmin, -⟩ := hfinite
  rw [canonical_toJson, decode]
  refine .trans (recordWith_object_cons rfl haccent) ?_
  refine .trans (recordWith_object_cons rfl hmax) ?_
  refine .trans (recordWith_object_cons rfl hmin) ?_
  refine .trans (recordWith_object_cons rfl hstaccato) ?_
  refine .trans (recordWith_object_cons rfl htenuto) ?_
  refine .trans (recordWith_object_cons rfl htenutoVelocity) ?_
  exact recordWith_object_nil

end Coefficients

namespace Settings

theorem canonical_toJson (settings : Settings) : settings.toJson.canonical = .object [
    ("coefficients", settings.coefficients.toJson.canonical),
    ("minGlideSubdivisions", .ofNat settings.minGlideSubdivisions.toNat),
    ("shorthands", settings.shorthands.toJson.canonical)] := by
  simp only [toJson, Json.canonical, Json.canonicalFields, Json.ofNat, Dictionary.ofList,
    List.foldl_cons, List.foldl_nil, Dictionary.put, String.reduceLT, String.reduceEq, if_true,
    if_false]

theorem decode_canonical_toJson {settings : Settings} (hsound : settings.fault? = none)
    (hnormal : settings.shorthands.IsNormal) :
    decode settings.toJson.canonical = .ok settings := by
  have hcoefficients := Coefficients.decode_canonical_toJson (coefficients_fault? hsound)
  have hshorthands := hnormal.decode_canonical_toJson
  have hcount := size_ofNat settings.minGlideSubdivisions.toNat_lt_size
  rw [canonical_toJson, decode]
  refine .trans (recordWith_object_cons rfl hcoefficients) ?_
  refine .trans (recordWith_object_cons rfl hcount) ?_
  refine .trans (recordWith_object_cons rfl hshorthands) ?_
  rw [recordWith_object_nil, UInt64.ofNat_toNat]

/-- Usable settings are read as they were written and are usable again. On the way each name is
brought into its form once more, which changes no name and leaves all entries in their places. -/
theorem decode_toJson {settings : Settings} (hsound : settings.fault? = none)
    (hbuilt : settings.shorthands.IsBuilt) :
    (∃ decoded, decode settings.toJson.canonical = .ok decoded ∧ decoded = settings ∧
      decoded.fault? = none) ∧
    (∀ name ∈ Dictionary.names settings.shorthands.entries, ShorthandTable.normalize name = name) ∧
    (ShorthandTable.ofList settings.shorthands.entries).entries = settings.shorthands.entries := by
  have hnormal := hbuilt.isNormal
  refine ⟨⟨settings, decode_canonical_toJson hsound hnormal, rfl, hsound⟩, hnormal, ?_⟩
  rw [hnormal.ofList_entries]

/-- Names whose lower case has another length, or another letter at the end of a word. -/
theorem decode_toJson_casing :
    let table := ShorthandTable.ofList [(" ΟΔΟΣ ", .simple .accent), ("İ", .simple .legato)]
    let settings := { standard with shorthands := table }
    settings.fault? = none ∧ table.IsBuilt ∧ decode settings.toJson.canonical = .ok settings ∧
      Dictionary.names table.entries = ["i̇", "οδος"] := by
  intro table settings
  have hsound : settings.fault? = none := by decide +kernel
  have hbuilt : table.IsBuilt := .ofList _
  obtain ⟨⟨decoded, hdecoded, hsame, -⟩, -⟩ := decode_toJson hsound hbuilt
  rw [hsame] at hdecoded
  exact ⟨hsound, hbuilt, hdecoded, by decide +kernel⟩

end Settings
end Espressivo
