import Espressivo.Proofs.Json.Canonical

/-!
# Paths into values

A path leads from a value to one of those in it, by the names of fields and the places of items. A
well-formed value is known by the outlines of all values that paths lead to.
-/

namespace Espressivo
namespace Json

open Dictionary

/-- A step into a value: to the field of a name, or to the item at a place. -/
inductive Step where
  | field (name : String)
  | item (place : Nat)
deriving DecidableEq

/-- The value that a step leads to. -/
def child? : Step → Json → Option Json
  | .field name, object fields => get? name fields
  | .item place, array items => items[place]?
  | _, _ => none

/-- The value that a path leads to. -/
def at? : List Step → Json → Option Json
  | [], value => some value
  | step :: path, value => (value.child? step).bind (at? path)

/-- What a value is, apart from the values in it: the length of a list and the names in an object,
in their order. -/
inductive Outline where
  | null
  | bool (b : Bool)
  | number (n : Number)
  | string (s : String)
  | array (length : Nat)
  | object (names : List String)
deriving DecidableEq

def outline : Json → Outline
  | null => .null
  | bool b => .bool b
  | number n => .number n
  | string s => .string s
  | array items => .array items.length
  | object fields => .object (names fields)

variable {value other : Json} {step : Step}

@[simp] theorem at?_nil (value : Json) : value.at? [] = some value := rfl

theorem at?_cons (step : Step) (path : List Step) (value : Json) :
    value.at? (step :: path) = (value.child? step).bind (at? path) := rfl

theorem at?_append (front back : List Step) (value : Json) :
    value.at? (front ++ back) = (value.at? front).bind (at? back) := by
  induction front generalizing value with
  | nil => rfl
  | cons step front ih =>
    rw [List.cons_append, at?_cons, at?_cons]
    cases value.child? step with
    | none => rfl
    | some child => exact ih child

/-- The same outlines are found on all paths into both values. -/
def Alike (value other : Json) : Prop :=
  ∀ path, (value.at? path).map outline = (other.at? path).map outline

/-- A step into values that are alike leads to the same value, if what is alike to the value that it
leads to in one of them is that value. -/
theorem Alike.child?_eq (halike : value.Alike other) (step : Step)
    (hchild : ∀ child found, other.child? step = some found → child.Alike found → child = found) :
    value.child? step = other.child? step := by
  have hroot := halike [step]
  simp only [at?_cons] at hroot
  cases hother : other.child? step with
  | none =>
    cases hvalue : value.child? step with
    | none => rfl
    | some child => simp [hvalue, hother] at hroot
  | some found =>
    cases hvalue : value.child? step with
    | none => simp [hvalue, hother] at hroot
    | some child =>
      refine congrArg some (hchild child found hother fun path => ?_)
      have hpath := halike (step :: path)
      simpa only [at?_cons, hvalue, hother, Option.bind_some] using hpath

theorem Alike.outline_eq (halike : value.Alike other) : value.outline = other.outline :=
  Option.some.inj (halike [])

theorem sorted_of_names_eq {fields others : Dictionary Json} (hsorted : Sorted others)
    (hnames : names fields = names others) : Sorted fields := by
  have hothers : (names others).Pairwise (· < ·) := List.pairwise_map.2 hsorted
  rw [← hnames] at hothers
  exact List.pairwise_map.1 hothers

/-- A well-formed value is known by the outlines on its paths. -/
theorem WellFormed.eq_of_alike (hother : other.WellFormed) (halike : value.Alike other) :
    value = other := by
  have hroot := halike.outline_eq
  induction hother generalizing value with
  | @array others hitems ih =>
    cases value with
    | array items =>
      refine congrArg Json.array (List.ext_getElem? fun place => ?_)
      refine halike.child?_eq (.item place) fun child found hfound hchild => ?_
      exact ih found (List.mem_of_getElem? hfound) hchild hchild.outline_eq
    | _ => cases hroot
  | @object others hsorted hfields ih =>
    cases value with
    | object fields =>
      have hnames : names fields = names others := Outline.object.inj hroot
      refine congrArg Json.object ((sorted_of_names_eq hsorted hnames).ext hsorted fun name => ?_)
      refine halike.child?_eq (.field name) fun child found hfound hchild => ?_
      exact ih (name, found) (mem_of_get? hfound) hchild hchild.outline_eq
    | _ => cases hroot
  | _ =>
    cases value <;> cases hroot
    rfl

theorem WellFormed.of_child? (hvalue : value.WellFormed) {child : Json}
    (hchild : value.child? step = some child) : child.WellFormed := by
  cases hvalue with
  | array hitems =>
    cases step with
    | field name => cases hchild
    | item place => exact hitems child (List.mem_of_getElem? hchild)
  | object hsorted hfields =>
    cases step with
    | field name => exact hfields (name, child) (mem_of_get? hchild)
    | item place => cases hchild
  | _ => cases step <;> cases hchild

theorem WellFormed.of_at? {path : List Step} {found : Json} (hvalue : value.WellFormed)
    (hfound : value.at? path = some found) : found.WellFormed := by
  induction path generalizing value with
  | nil =>
    cases hfound
    exact hvalue
  | cons step path ih =>
    rw [at?_cons, Option.bind_eq_some_iff] at hfound
    obtain ⟨child, hchild, hfound⟩ := hfound
    exact ih (hvalue.of_child? hchild) hfound

end Json
end Espressivo
