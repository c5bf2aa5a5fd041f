import Espressivo.Proofs.Json.Fields
import Espressivo.Proofs.Json.Path

/-!
# What snapping leaves alone in documents

Whether a value of a document is changed depends on the path to it alone. Each step leads from a
value in one role to a value in another, and only the times and the durations of notes are taken to
the grid; all other values keep their outlines, whether the document is well made or not.
-/

namespace Espressivo

open Json (Step)

variable {grid : Grid} {mode : SnapMode}

/-! ## Steps into changed values -/

namespace Json

variable {name : String} {f : Json → Json} {step : Step} {value : Json}

theorem child?_mapField :
    (mapField name f value).child? step =
      (value.child? step).map (if step = .field name then f else id) := by
  cases value with
  | object fields =>
    cases step with
    | field other =>
      rw [mapField_object]
      refine (Dictionary.get?_modify name other f fields).trans ?_
      by_cases hother : other = name
      · simp [hother, child?]
      · simp [hother, child?]
    | item place => rfl
  | array items => cases step <;> simp [mapField, child?]
  | _ => cases step <;> rfl

theorem child?_mapItems :
    (mapItems f value).child? step =
      (value.child? step).map (match step with | .field _ => id | .item _ => f) := by
  cases value with
  | array items =>
    cases step with
    | field name => rfl
    | item place => exact List.getElem?_map
  | object fields => cases step <;> simp [mapItems, child?]
  | _ => cases step <;> rfl

/-- A changed number is a number, or null if it became infinite. -/
theorem Number.after_cases (n : Number) (x : Binary64) :
    n.after x = null ∨ ∃ result, n.after x = number result := by
  unfold Number.after
  split
  · split
    · exact Or.inr ⟨_, rfl⟩
    · exact Or.inr ⟨_, rfl⟩
  · cases x with
    | finite x => exact Or.inr ⟨_, rfl⟩
    | _ => exact Or.inl rfl

theorem child?_mapNumber (f : Binary64 → Binary64) :
    (mapNumber f value).child? step = value.child? step := by
  cases value with
  | number n =>
    rw [mapNumber]
    rcases n.after_cases (f n.toBinary64) with hafter | ⟨result, hafter⟩ <;> rw [hafter] <;>
      cases step <;> rfl
  | _ => rfl

theorem outline_mapField : (mapField name f value).outline = value.outline := by
  cases value with
  | object fields =>
    refine congrArg Outline.object ?_
    rw [Dictionary.names, List.map_map]
    rfl
  | _ => rfl

theorem outline_mapItems : (mapItems f value).outline = value.outline := by
  cases value with
  | array items => exact congrArg Outline.array (List.length_map ..)
  | _ => rfl

end Json

/-- What a value is in a document, as far as snapping is concerned. -/
inductive Role where
  | composition
  | tracks
  | track
  | notes
  | note
  | time
  | duration
  | other
deriving DecidableEq

namespace Role

/-- The role of the value that a step leads to. -/
def next : Role → Step → Role
  | composition, .field name => if name = "tracks" then tracks else other
  | tracks, .item _ => track
  | track, .field name => if name = "notes" then notes else other
  | notes, .item _ => note
  | note, .field name =>
    if name = "time" then time else if name = "duration" then duration else other
  | _, _ => other

/-- The role of the value that a path leads to. -/
def after (role : Role) (path : List Step) : Role := path.foldl next role

/-- Snaps a value in its role. -/
def snap (grid : Grid) (mode : SnapMode) : Role → Json → Json
  | composition => Json.snapComposition grid mode
  | tracks => Json.mapItems (Json.snapTrack grid mode)
  | track => Json.snapTrack grid mode
  | notes => Json.mapItems (Json.snapNote grid mode)
  | note => Json.snapNote grid mode
  | time => Json.snap grid mode
  | duration => Json.snapDuration grid mode
  | other => id

theorem child?_snap (role : Role) (step : Step) (value : Json) :
    (role.snap grid mode value).child? step =
      (value.child? step).map ((role.next step).snap grid mode) := by
  cases role with
  | composition =>
    rw [snap, Json.snapComposition, Json.child?_mapField]
    cases step with
    | field name => by_cases hname : name = "tracks" <;> simp [next, snap, hname]
    | item place => rfl
  | tracks =>
    rw [snap, Json.child?_mapItems]
    cases step <;> rfl
  | track =>
    rw [snap, Json.snapTrack, Json.child?_mapField]
    cases step with
    | field name => by_cases hname : name = "notes" <;> simp [next, snap, hname]
    | item place => rfl
  | notes =>
    rw [snap, Json.child?_mapItems]
    cases step <;> rfl
  | note =>
    rw [snap, Json.snapNote, Json.child?_mapField, Json.child?_mapField]
    cases step with
    | field name =>
      by_cases htime : name = "time"
      · simp [next, snap, htime]
      · by_cases hduration : name = "duration" <;> simp [next, snap, htime, hduration]
    | item place => simp [next, snap]
  | time =>
    rw [snap, Json.snap, Json.child?_mapNumber]
    cases step <;> simp [next, snap]
  | duration =>
    rw [snap, Json.snapDuration, Json.child?_mapNumber]
    cases step <;> simp [next, snap]
  | other => cases step <;> simp [next, snap]

/-- Where a path leads after the first steps of it depends on nothing but their role. -/
theorem after_append (role : Role) (front back : List Step) :
    role.after (front ++ back) = (role.after front).after back :=
  List.foldl_append

/-- What snapping does to a value on a path is what it does to a value in its role. -/
theorem at?_snap (role : Role) (path : List Step) (value : Json) :
    (role.snap grid mode value).at? path =
      (value.at? path).map ((role.after path).snap grid mode) := by
  induction path generalizing role value with
  | nil => rfl
  | cons step path ih =>
    rw [Json.at?_cons, Json.at?_cons, child?_snap]
    cases value.child? step with
    | none => rfl
    | some child => exact ih (role.next step) child

/-- The value is a time of a note, as a number. -/
def IsTime (role : Role) (value : Json) : Prop :=
  (role = time ∨ role = duration) ∧ ∃ n, value = .number n

theorem outline_snap {role : Role} {value : Json} (hvalue : ¬ role.IsTime value) :
    (role.snap grid mode value).outline = value.outline := by
  cases role with
  | composition => exact Json.outline_mapField
  | tracks => exact Json.outline_mapItems
  | track => exact Json.outline_mapField
  | notes => exact Json.outline_mapItems
  | note => exact Json.outline_mapField.trans Json.outline_mapField
  | time =>
    cases value with
    | number n => exact absurd ⟨Or.inl rfl, n, rfl⟩ hvalue
    | _ => rfl
  | duration =>
    cases value with
    | number n => exact absurd ⟨Or.inr rfl, n, rfl⟩ hvalue
    | _ => rfl
  | other => rfl

/-- A well-formed value without times in it stays as it is. -/
theorem snap_eq_self {role : Role} {value : Json} (hvalue : value.WellFormed)
    (hnone : ∀ path found, value.at? path = some found → ¬ (role.after path).IsTime found) :
    role.snap grid mode value = value := by
  refine hvalue.eq_of_alike fun path => ?_
  rw [at?_snap]
  cases hfound : value.at? path with
  | none => rfl
  | some found => exact congrArg some (outline_snap (hnone path found hfound))

/-! ## Paths to notes -/

/-- The steps that lead from one role to another. -/
inductive Leads : Role → Step → Role → Prop
  | tracks : Leads composition (.field "tracks") tracks
  | track (i : Nat) : Leads tracks (.item i) track
  | notes : Leads track (.field "notes") notes
  | note (j : Nat) : Leads notes (.item j) note
  | time : Leads note (.field "time") time
  | duration : Leads note (.field "duration") duration

theorem leads_next {role : Role} {step : Step} (hnext : role.next step ≠ other) :
    Leads role step (role.next step) := by
  cases role with
  | composition =>
    cases step with
    | field name =>
      by_cases hname : name = "tracks"
      · subst hname
        exact .tracks
      · exact absurd (if_neg hname) hnext
    | item place => exact absurd rfl hnext
  | tracks =>
    cases step with
    | field name => exact absurd rfl hnext
    | item place => exact .track place
  | track =>
    cases step with
    | field name =>
      by_cases hname : name = "notes"
      · subst hname
        exact .notes
      · exact absurd (if_neg hname) hnext
    | item place => exact absurd rfl hnext
  | notes =>
    cases step with
    | field name => exact absurd rfl hnext
    | item place => exact .note place
  | note =>
    cases step with
    | field name =>
      by_cases htime : name = "time"
      · subst htime
        exact .time
      · by_cases hduration : name = "duration"
        · subst hduration
          exact .duration
        · exact absurd ((if_neg htime).trans (if_neg hduration)) hnext
    | item place => exact absurd rfl hnext
  | _ => exact absurd rfl hnext

/-- A path that leads to a role is empty, or its last step leads to that role from another one. -/
theorem after_cases {start target : Role} {path : List Step} (hpath : start.after path = target)
    (htarget : target ≠ other) :
    path = [] ∧ start = target ∨
      ∃ front role step, path = front ++ [step] ∧ start.after front = role ∧
        Leads role step target := by
  rcases List.eq_nil_or_concat path with rfl | ⟨front, step, rfl⟩
  · exact Or.inl ⟨rfl, hpath⟩
  · rw [List.concat_eq_append, after_append] at hpath
    subst hpath
    exact Or.inr ⟨front, _, step, List.concat_eq_append, rfl, leads_next htarget⟩

theorem after_eq_composition {start : Role} {path : List Step}
    (hpath : start.after path = composition) : path = [] ∧ start = composition := by
  rcases after_cases hpath nofun with hstart | ⟨front, role, step, -, -, hlast⟩
  · exact hstart
  · cases hlast

/-- A track is where the path starts, or an item of the tracks of a composition. -/
theorem after_eq_track {start : Role} {path : List Step} (hpath : start.after path = track)
    (hstart : start ≠ tracks) :
    path = [] ∧ start = track ∨
      ∃ i, path = [.field "tracks", .item i] ∧ start = composition := by
  rcases after_cases hpath nofun with hnil | ⟨front, role, step, rfl, htracks, hlast⟩
  · exact Or.inl hnil
  · cases hlast with
    | track i =>
      rcases after_cases htracks nofun with ⟨-, heq⟩ | ⟨front, role, step, rfl, hfront, hlast⟩
      · exact absurd heq hstart
      · cases hlast with
        | tracks =>
          obtain ⟨rfl, rfl⟩ := after_eq_composition hfront
          exact Or.inr ⟨i, rfl, rfl⟩

/-- A note is an item of the notes of a track. -/
theorem after_eq_note {start : Role} {path : List Step} (hpath : start.after path = note)
    (hnotes : start ≠ notes) (hnote : start ≠ note) :
    ∃ front j, path = front ++ [.field "notes", .item j] ∧ start.after front = track := by
  rcases after_cases hpath nofun with ⟨-, heq⟩ | ⟨front, role, step, rfl, hitems, hlast⟩
  · exact absurd heq hnote
  · cases hlast with
    | note j =>
      rcases after_cases hitems nofun with ⟨-, heq⟩ | ⟨front, role, step, rfl, htrack, hlast⟩
      · exact absurd heq hnotes
      · cases hlast with
        | notes => exact ⟨front, j, List.append_assoc .., htrack⟩

theorem track_after_eq_note_iff {path : List Step} :
    track.after path = note ↔ ∃ j, path = [.field "notes", .item j] := by
  constructor
  · intro hpath
    obtain ⟨front, j, rfl, htrack⟩ := after_eq_note hpath nofun nofun
    rcases after_eq_track htrack nofun with ⟨rfl, -⟩ | ⟨i, -, hstart⟩
    · exact ⟨j, rfl⟩
    · cases hstart
  · rintro ⟨j, rfl⟩
    rfl

theorem composition_after_eq_note_iff {path : List Step} :
    composition.after path = note ↔
      ∃ i j, path = [.field "tracks", .item i, .field "notes", .item j] := by
  constructor
  · intro hpath
    obtain ⟨front, j, rfl, htrack⟩ := after_eq_note hpath nofun nofun
    rcases after_eq_track htrack nofun with ⟨-, hstart⟩ | ⟨i, rfl, -⟩
    · cases hstart
    · exact ⟨i, j, rfl⟩
  · rintro ⟨i, j, rfl⟩
    rfl

end Role

/-! ## Times of notes -/

namespace Json

variable {isNote : List Step → Prop} {document : Json} {path : List Step}

/-- The path leads to a number that is the time or the duration of a note. -/
def HoldsTime (isNote : List Step → Prop) (document : Json) (path : List Step) : Prop :=
  ∃ note n, isNote note ∧ (path = note ++ [.field "time"] ∨ path = note ++ [.field "duration"]) ∧
    document.at? path = some (number n)

/-- The times and the durations of the notes on some paths are snapped, where they are numbers, and
nothing else is changed: all other values keep their outlines, and a value of a well-formed document
that has no times in it is the same as before. -/
structure TimesSnapped (grid : Grid) (mode : SnapMode) (isNote : List Step → Prop)
    (before after : Json) : Prop where
  time : ∀ note n, isNote note → before.at? (note ++ [.field "time"]) = some (number n) →
    after.at? (note ++ [.field "time"]) = some (Json.snap grid mode (number n))
  duration : ∀ note n, isNote note → before.at? (note ++ [.field "duration"]) = some (number n) →
    after.at? (note ++ [.field "duration"]) = some (Json.snapDuration grid mode (number n))
  outline : ∀ path, ¬ HoldsTime isNote before path →
    (after.at? path).map outline = (before.at? path).map outline
  kept : before.WellFormed → ∀ path value, before.at? path = some value →
    (∀ rest, ¬ HoldsTime isNote before (path ++ rest)) → after.at? path = some value

/-- A time in a role is the time of a note on some path. -/
theorem holdsTime_of_isTime {role : Role} {found : Json} (htime : role ≠ .time)
    (hduration : role ≠ .duration) (hfound : document.at? path = some found)
    (hisTime : (role.after path).IsTime found) :
    HoldsTime (fun note => role.after note = .note) document path := by
  obtain ⟨hrole, n, rfl⟩ := hisTime
  rcases hrole with hrole | hrole
  · rcases Role.after_cases hrole nofun with ⟨-, heq⟩ | ⟨note, last, step, rfl, hnote, hlast⟩
    · exact absurd heq htime
    · cases hlast with
      | time => exact ⟨note, n, hnote, Or.inl rfl, hfound⟩
  · rcases Role.after_cases hrole nofun with ⟨-, heq⟩ | ⟨note, last, step, rfl, hnote, hlast⟩
    · exact absurd heq hduration
    · cases hlast with
      | duration => exact ⟨note, n, hnote, Or.inr rfl, hfound⟩

theorem timesSnapped_snap {role : Role} (htime : role ≠ .time) (hduration : role ≠ .duration)
    (document : Json) :
    TimesSnapped grid mode (fun note => role.after note = .note) document
      (role.snap grid mode document) where
  time note n hnote hfound := by
    rw [Role.at?_snap, hfound, Role.after_append, hnote]
    rfl
  duration note n hnote hfound := by
    rw [Role.at?_snap, hfound, Role.after_append, hnote]
    rfl
  outline path hnone := by
    rw [Role.at?_snap]
    cases hfound : document.at? path with
    | none => rfl
    | some found =>
      refine congrArg some (Role.outline_snap fun hisTime => hnone ?_)
      exact holdsTime_of_isTime htime hduration hfound hisTime
  kept hdocument path value hvalue hnone := by
    rw [Role.at?_snap, hvalue]
    refine congrArg some (Role.snap_eq_self (hdocument.of_at? hvalue) fun rest found hfound => ?_)
    rw [← Role.after_append]
    intro hisTime
    refine hnone rest (holdsTime_of_isTime htime hduration ?_ hisTime)
    rw [at?_append, hvalue]
    exact hfound

/-- Snapping a composition changes the numbers in `tracks[i].notes[j].time` and
`tracks[i].notes[j].duration` and nothing else, and snapping a track those in `notes[j].time` and
`notes[j].duration`, whatever the document is. -/
theorem timesSnapped_snapComposition (grid : Grid) (mode : SnapMode) (document : Json) :
    TimesSnapped grid mode
      (fun note => ∃ i j, note = [.field "tracks", .item i, .field "notes", .item j])
      document (document.snapComposition grid mode) ∧
    TimesSnapped grid mode (fun note => ∃ j, note = [.field "notes", .item j])
      document (document.snapTrack grid mode) := by
  simp only [← Role.composition_after_eq_note_iff, ← Role.track_after_eq_note_iff]
  have hcomposition : Role.composition ≠ .time ∧ Role.composition ≠ .duration := by decide
  have htrack : Role.track ≠ .time ∧ Role.track ≠ .duration := by decide
  exact ⟨timesSnapped_snap hcomposition.1 hcomposition.2 document,
    timesSnapped_snap htrack.1 htrack.2 document⟩

/-- A track that is no object and one whose notes are no list stay as they are beside a track with
a time that is snapped. -/
theorem timesSnapped_snapComposition_mixed :
    let silent : Json := .object [("notes", .string "none")]
    let note : Json := .object [("duration", .string "long"), ("time", .ofNat 3)]
    let track : Json := .object [("notes", .array [.null, note])]
    let document : Json := .object [("tracks", .array [.bool true, silent, track])]
    let snapped : Json := document.snapComposition ⟨2⟩ .floor
    document.WellFormed ∧ snapped.at? [.field "tracks", .item 0] = some (.bool true) ∧
      snapped.at? [.field "tracks", .item 1] = some silent ∧
      snapped.at? [.field "tracks", .item 2, .field "notes", .item 1, .field "time"] =
        some (Json.snap ⟨2⟩ .floor (.ofNat 3)) := by
  intro silent note track document snapped
  have hnote : note.WellFormed :=
    wellFormed_object_iff.2 ⟨by decide +kernel, by simp [ofNat, Number.InRange]⟩
  have hdocument : document.WellFormed := by
    simp [document, track, silent, Dictionary.Sorted, hnote]
  have hsnapped := (timesSnapped_snapComposition ⟨2⟩ .floor document).1
  have hnone : ∀ i < 2, ∀ rest, ¬ HoldsTime
      (fun note => ∃ i j, note = [.field "tracks", .item i, .field "notes", .item j])
      document ([.field "tracks", .item i] ++ rest) := by
    rintro i hi rest ⟨note, n, ⟨i, j, rfl⟩, heq | heq, hfound⟩ <;> cases heq <;>
      rcases (by omega : i = 0 ∨ i = 1) with rfl | rfl <;> cases hfound
  refine ⟨hdocument, hsnapped.kept hdocument _ _ rfl (hnone 0 (by decide)),
    hsnapped.kept hdocument _ _ rfl (hnone 1 (by decide)),
    hsnapped.time _ _ ⟨2, 1, rfl⟩ rfl⟩

end Json
end Espressivo
