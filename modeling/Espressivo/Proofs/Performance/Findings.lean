import Espressivo.Proofs.Performance.Combination
import Espressivo.Proofs.Performance.Notes

/-!
# Where findings come from

Three stages report findings about a note, and the kind of a finding tells which one it was: the
reading of an entry, the start of a glide, or the choice among glides. Of the glides of a note the
first is kept, and each later one leaves a finding that names both.
-/

namespace Espressivo

/-! ## Entries -/

namespace Finding

/-- The target of a glide was rounded, so that the glide is performed all the same. -/
def isRounding : Finding → Bool
  | roundedTarget _ _ _ => true
  | _ => false

/-- An entry was dropped when it was read. -/
def dropsEntry (finding : Finding) : Bool :=
  match finding.kind with
  | .unknownArticulation | .missingParameter => true
  | .invalidParameter => !finding.isRounding
  | .pitchOnRest | .pitchConflict => false

end Finding

theorem Finding.filter_kind {findings : List Finding} {kind : FindingKind}
    (choice : FindingKind → Bool) (hkind : ∀ finding, finding ∈ findings → finding.kind = kind) :
    findings.filter (choice ·.kind) = if choice kind then findings else [] := by
  by_cases hchoice : choice kind
  · rw [if_pos hchoice]
    exact List.filter_eq_self.2 fun finding hfinding => by rwa [hkind finding hfinding]
  · rw [if_neg hchoice]
    exact List.filter_eq_nil_iff.2 fun finding hfinding => by rwa [hkind finding hfinding]

/-- Findings of the kind come from reading an entry. -/
def FindingKind.isOfEntry : FindingKind → Bool
  | unknownArticulation | missingParameter | invalidParameter => true
  | pitchOnRest | pitchConflict => false

theorem Finding.isOfEntry_of_dropsEntry {finding : Finding} (hdrops : finding.dropsEntry) :
    finding.kind.isOfEntry := by
  rw [dropsEntry] at hdrops
  cases hkind : finding.kind with
  | unknownArticulation => rfl
  | missingParameter => rfl
  | invalidParameter => rfl
  | pitchOnRest => simp [hkind] at hdrops
  | pitchConflict => simp [hkind] at hdrops

namespace Reading

/-- An entry comes to an articulation, to a glide with a rounded target, or to a finding that says
why it was dropped. -/
inductive Settled : Reading → Prop
  | accepted (articulation : Articulation) : Settled (accepted articulation)
  | rounded (kind : GlideKind) (pitch : UInt8) (target rounded : Binary64) :
    Settled ⟨some (.glide kind pitch), some (.roundedTarget kind target rounded)⟩
  | dropped {finding : Finding} (hdrops : finding.dropsEntry) : Settled (dropped finding)

theorem settled_ofTarget (kind : GlideKind) (value : Json) : (ofTarget kind value).Settled := by
  cases value with
  | number n =>
    rw [ofTarget]
    split
    · split
      · exact .accepted _
      · exact .rounded ..
    · exact .dropped rfl
  | _ => exact .dropped rfl

theorem settled_ofEntry (table : ShorthandTable) (entry : Entry) :
    (ofEntry table entry).Settled := by
  cases entry with
  | name name =>
    rw [ofEntry, ofName]
    split
    · exact .accepted _
    · exact .dropped rfl
    · exact .dropped rfl
  | descriptor descriptor =>
    rw [ofEntry, ofDescriptor]
    split
    · exact .accepted _
    · split
      · exact settled_ofTarget ..
      · exact .dropped rfl
    · exact .dropped rfl
  | other value => exact .dropped rfl

theorem Settled.isOfEntry {reading : Reading} (hsettled : reading.Settled) {finding : Finding}
    (hfinding : reading.finding? = some finding) : finding.kind.isOfEntry := by
  cases hsettled with
  | accepted articulation => cases hfinding
  | rounded kind pitch target rounded =>
    cases hfinding
    rfl
  | dropped hdrops =>
    cases hfinding
    exact Finding.isOfEntry_of_dropsEntry hdrops

end Reading

theorem Note.settled_of_mem_readings {settings : Settings} {note : Note} {reading : Reading}
    (hreading : reading ∈ note.readings settings) : reading.Settled := by
  obtain ⟨entry, -, rfl⟩ := List.mem_map.1 hreading
  exact Reading.settled_ofEntry _ entry

theorem Note.isOfEntry_of_mem_readings {settings : Settings} {note : Note} {finding : Finding}
    (hfinding : finding ∈ findingsOf (note.readings settings)) : finding.kind.isOfEntry := by
  obtain ⟨reading, hreading, hfound⟩ := List.mem_filterMap.1 hfinding
  exact (Note.settled_of_mem_readings hreading).isOfEntry hfound

/-! ## Glides -/

namespace Combination

/-- The findings about all glides but the first. -/
def conflicts : List Glide → List Finding
  | [] => []
  | first :: later => later.map (.secondGlide · first)

theorem kind_of_mem_conflicts {glides : List Glide} {finding : Finding}
    (hfinding : finding ∈ conflicts glides) : finding.kind = .pitchConflict := by
  cases glides with
  | nil => cases hfinding
  | cons first later =>
    obtain ⟨dropped, -, rfl⟩ := List.mem_map.1 hfinding
    rfl

/-- The first glide is kept, and there is one finding for each of the others. -/
theorem length_head?_add_length_conflicts (glides : List Glide) :
    glides.head?.toList.length + (conflicts glides).length = glides.length := by
  cases glides with
  | nil => rfl
  | cons first later => simp [conflicts, Nat.add_comm]

theorem findings_add (combination : Combination) (contribution : Contribution) :
    (combination.add contribution).findings =
      combination.findings ++
        conflicts (combination.glide?.toList ++ contribution.glide?.toList) := by
  cases contribution with
  | duration factor => cases combination.glide? <;> simp [add, Contribution.glide?, conflicts]
  | velocity boost => cases combination.glide? <;> simp [add, Contribution.glide?, conflicts]
  | glide glide =>
    cases hglide : combination.glide? <;> simp [add, Contribution.glide?, conflicts, hglide]
  | phrasing mark =>
    rw [add]
    split <;> cases combination.glide? <;> simp [Contribution.glide?, conflicts]

theorem conflicts_append (first : Option Glide) (second : Option Glide) (later : List Glide) :
    conflicts (first.toList ++ second.toList) ++ conflicts ((first.or second).toList ++ later) =
      conflicts (first.toList ++ (second.toList ++ later)) := by
  cases first <;> cases second <;> simp [conflicts]

theorem findings_foldl_add (contributions : List Contribution) (combination : Combination) :
    (contributions.foldl add combination).findings =
      combination.findings ++
        conflicts (combination.glide?.toList ++ contributions.filterMap Contribution.glide?) := by
  induction contributions generalizing combination with
  | nil => cases combination.glide? <;> simp [conflicts]
  | cons contribution rest ih =>
    rw [List.foldl_cons, ih, findings_add, glide?_add, List.append_assoc, conflicts_append,
      filterMap_cons_eq_append]

theorem findings_ofContributions (contributions : List Contribution) :
    (ofContributions contributions).findings =
      conflicts (contributions.filterMap Contribution.glide?) := by
  rw [ofContributions, findings_foldl_add, List.nil_append]
  rfl

end Combination

namespace Articulation

/-- The glide from a pitch that an articulation asks for. -/
def glideFrom? (origin : UInt8) : Articulation → Option Glide
  | simple _ => none
  | glide kind target => some ⟨kind, origin, target⟩

theorem filterMap_glide?_contributions (c : Coefficients) (origin? : Option UInt8)
    (articulation : Articulation) :
    (articulation.contributions c origin?).filterMap Contribution.glide? =
      (origin?.bind articulation.glideFrom?).toList := by
  cases articulation with
  | simple kind => cases kind <;> cases origin? <;> rfl
  | glide kind target => cases origin? <;> rfl

theorem kind_of_mem_findings {origin? : Option UInt8} {articulation : Articulation}
    {finding : Finding} (hfinding : finding ∈ articulation.findings origin?) :
    finding.kind = .pitchOnRest := by
  cases articulation with
  | simple kind => cases hfinding
  | glide kind target =>
    cases origin? with
    | none =>
      rw [List.mem_singleton.1 hfinding]
      rfl
    | some origin => cases hfinding

end Articulation

/-! ## Notes -/

namespace Note

variable (settings : Settings) (note : Note)

/-- The glides that start from the note, in order. -/
def glides : List Glide :=
  (note.articulations settings).filterMap fun articulation =>
    note.primaryPitch?.bind (articulation.glideFrom? ·)

theorem filterMap_glide?_contributions :
    ((note.articulations settings).flatMap
      (Articulation.contributions settings.coefficients note.primaryPitch?)).filterMap
        Contribution.glide? = note.glides settings := by
  rw [List.filterMap_flatMap, glides, List.filterMap_eq_flatMap_toList]
  simp only [Articulation.filterMap_glide?_contributions]

theorem glide?_combination : (note.combination settings).glide? = (note.glides settings).head? := by
  rw [combination, Combination.glide?_ofContributions, ← List.head?_filterMap,
    filterMap_glide?_contributions]

theorem findings_combination :
    (note.combination settings).findings = Combination.conflicts (note.glides settings) := by
  rw [combination, Combination.findings_ofContributions, filterMap_glide?_contributions]

/-! The kinds of the findings separate the three stages. -/

/-- The findings about glides on a rest. -/
def restFindings : List Finding :=
  (note.articulations settings).flatMap (Articulation.findings note.primaryPitch?)

theorem kind_of_mem_restFindings {finding : Finding}
    (hfinding : finding ∈ note.restFindings settings) : finding.kind = .pitchOnRest := by
  obtain ⟨articulation, -, hmem⟩ := List.mem_flatMap.1 hfinding
  exact Articulation.kind_of_mem_findings hmem

theorem findings_eq :
    note.findings settings = findingsOf (note.readings settings) ++ note.restFindings settings ++
      Combination.conflicts (note.glides settings) := by
  rw [findings, findings_combination, restFindings]

/-- Choosing findings by their kind takes or leaves the later stages as a whole. -/
theorem filter_kind_findings (choice : FindingKind → Bool) :
    (note.findings settings).filter (choice ·.kind) =
      (findingsOf (note.readings settings)).filter (choice ·.kind) ++
        (if choice .pitchOnRest then note.restFindings settings else []) ++
        (if choice .pitchConflict then Combination.conflicts (note.glides settings) else []) := by
  have hrest := Finding.filter_kind choice fun _ => kind_of_mem_restFindings settings note
  have hconflicts : (Combination.conflicts (note.glides settings)).filter (choice ·.kind) =
      if choice .pitchConflict then Combination.conflicts (note.glides settings) else [] :=
    Finding.filter_kind choice fun _ => Combination.kind_of_mem_conflicts
  rw [findings_eq, List.filter_append, List.filter_append, hrest, hconflicts]

theorem filter_isOfEntry_findings :
    (note.findings settings).filter (·.kind.isOfEntry) = findingsOf (note.readings settings) := by
  have hself : (findingsOf (note.readings settings)).filter (·.kind.isOfEntry) =
      findingsOf (note.readings settings) :=
    List.filter_eq_self.2 fun finding hfinding => isOfEntry_of_mem_readings hfinding
  rw [filter_kind_findings, hself]
  simp [FindingKind.isOfEntry]

/-- Reading entries finds nothing of a kind that is not of entries. -/
theorem filter_readings_eq_nil {kind : FindingKind} (hkind : kind.isOfEntry = false) :
    (findingsOf (note.readings settings)).filter (·.kind = kind) = [] := by
  refine List.filter_eq_nil_iff.2 fun finding hfinding heq => ?_
  have hentry := isOfEntry_of_mem_readings hfinding
  rw [of_decide_eq_true heq, hkind] at hentry
  cases hentry

theorem filter_pitchOnRest_findings :
    (note.findings settings).filter (·.kind = .pitchOnRest) = note.restFindings settings := by
  rw [filter_kind_findings settings note (· = .pitchOnRest), filter_readings_eq_nil _ _ rfl]
  simp

theorem filter_pitchConflict_findings :
    (note.findings settings).filter (·.kind = .pitchConflict) =
      Combination.conflicts (note.glides settings) := by
  rw [filter_kind_findings settings note (· = .pitchConflict), filter_readings_eq_nil _ _ rfl]
  simp

end Note
end Espressivo
