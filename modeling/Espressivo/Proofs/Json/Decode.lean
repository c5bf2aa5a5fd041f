import Mathlib.Data.List.Forall2
import Espressivo.Json.Decode

/-!
# When decoders succeed

One equivalence for each way in which decoders are put together, from which it can be read off when
a record is decoded and to what. Numbers are decoded as they were written.
-/

namespace Espressivo

theorem bind_eq_ok_iff {ε α β : Type} {result : Except ε α} {next : α → Except ε β} {b : β} :
    result >>= next = .ok b ↔ ∃ a, result = .ok a ∧ next a = .ok b := by
  cases result with
  | error error => simp [bind, Except.bind]
  | ok a => simp [bind, Except.bind]

theorem map_eq_ok_iff {ε α β : Type} {result : Except ε α} {f : α → β} {b : β} :
    f <$> result = .ok b ↔ ∃ a, result = .ok a ∧ f a = b := by
  cases result with
  | error error => simp [Functor.map, Except.map]
  | ok a => simp [Functor.map, Except.map]

theorem pure_eq_ok_iff {ε α : Type} {a b : α} : (pure a : Except ε α) = .ok b ↔ a = b := by
  simp [pure, Except.pure]

theorem toOption_eq_some_iff {ε α : Type} {result : Except ε α} {a : α} :
    result.toOption = some a ↔ result = .ok a := by
  cases result <;> simp [Except.toOption]

/-- A result that is known by a test on it. -/
theorem exists_ok_of_any {ε α : Type} {result : Except ε α} {test : α → Bool}
    (hany : result.toOption.any test) : ∃ a, result = .ok a ∧ test a := by
  cases result with
  | error error => cases hany
  | ok a => exact ⟨a, rfl, hany⟩

/-- A list is decoded item by item. -/
theorem mapM_eq_ok_iff {ε α β : Type} {decode : α → Except ε β} {items : List α}
    {decoded : List β} :
    items.mapM decode = .ok decoded ↔
      List.Forall₂ (fun item b => decode item = .ok b) items decoded := by
  induction items generalizing decoded with
  | nil => rw [List.mapM_nil, pure_eq_ok_iff, List.forall₂_nil_left_iff, eq_comm]
  | cons item rest ih =>
    simp only [List.mapM_cons, bind_eq_ok_iff, pure_eq_ok_iff, ih, List.forall₂_cons_left_iff]
    constructor
    · intro ⟨b, hb, later, hlater, heq⟩
      exact ⟨b, later, hb, hlater, heq.symm⟩
    · intro ⟨b, later, hb, hlater, heq⟩
      exact ⟨b, hb, later, hlater, heq.symm⟩

section

variable {ε α β : Type} {decode : α → Except ε β} {items : List α} {f : α → α}

/-- Changing the items changes what is decoded, if it does so for each item. -/
theorem mapM_map_eq_ok {g : β → β} {decoded : List β} (hdecoded : items.mapM decode = .ok decoded)
    (hstep : ∀ item, ∀ b ∈ decoded, decode item = .ok b → decode (f item) = .ok (g b)) :
    (items.map f).mapM decode = .ok (decoded.map g) := by
  rw [mapM_eq_ok_iff] at hdecoded ⊢
  induction hdecoded with
  | nil => exact .nil
  | cons hb hrest ih =>
    obtain ⟨hfirst, hlater⟩ := List.forall_mem_cons.1 fun b hmem item => hstep item b hmem
    exact .cons (hfirst _ hb) (ih fun item b hmem => hlater b hmem item)

/-- What is decoded from items that agree in some respect is related if it is for each item. -/
theorem forall₂_of_mapM {γ : Type} {view : α → γ} {rel : β → β → Prop} {others : List α}
    {before after : List β} (hview : items.map view = others.map view)
    (hbefore : items.mapM decode = .ok before) (hafter : others.mapM decode = .ok after)
    (hstep : ∀ item other a b, view item = view other → decode item = .ok a →
      decode other = .ok b → rel a b) : List.Forall₂ rel before after := by
  rw [mapM_eq_ok_iff] at hbefore hafter
  induction hbefore generalizing others after with
  | nil =>
    cases List.map_eq_nil_iff.1 hview.symm
    cases hafter
    exact .nil
  | cons ha hrest ih =>
    cases hafter with
    | nil => cases hview
    | cons hb hlater =>
      obtain ⟨hfirst, hitems⟩ := List.cons.inj hview
      exact .cons (hstep _ _ _ _ hfirst ha hb) (ih hitems hlater)

end

namespace Json.Decode

variable {α : Type} {decode : Decoder α} {fields : Dictionary Json} {name : String} {a : α}

theorem list_eq_ok_iff {value : Json} {decoded : List α} :
    list decode value = .ok decoded ↔
      ∃ items, value = .array items ∧ items.mapM decode = .ok decoded := by
  cases value <;> simp [list]

theorem optional_eq_ok_some_iff :
    optional fields name decode = .ok (some a) ↔
      ∃ value, Dictionary.get? name fields = some value ∧ decode value = .ok a := by
  rw [optional]
  cases Dictionary.get? name fields with
  | none => simp
  | some value => simp [map_eq_ok_iff]

/-- A field that is decoded in another way, if the present value allows it. -/
theorem optional_eq_ok_map {β : Type} {decode' : Decoder β} {f : α → β} {found? : Option α}
    (hfound : optional fields name decode = .ok found?)
    (hstep : ∀ value a, found? = some a → decode value = .ok a → decode' value = .ok (f a)) :
    optional fields name decode' = .ok (found?.map f) := by
  rw [optional] at hfound ⊢
  cases hget : Dictionary.get? name fields with
  | none =>
    rw [hget] at hfound
    cases hfound
    rfl
  | some value =>
    rw [hget] at hfound
    obtain ⟨a, ha, rfl⟩ := map_eq_ok_iff.1 hfound
    exact map_eq_ok_iff.2 ⟨f a, hstep value a rfl ha, rfl⟩

theorem required_eq_ok_iff {found? : Option α} :
    required name found? = .ok a ↔ found? = some a := by
  cases found? <;> simp [required]

/-- A field that has to be present and to hold a list, in what follows on it. -/
theorem requiredList_bind_eq_ok_iff {β : Type} {next : List α → Except DecodeError β} {b : β} :
    (do
      let found? ← optional fields name (list decode)
      next (← required name found?)) = .ok b ↔
      ∃ items decoded, Dictionary.get? name fields = some (.array items) ∧
        items.mapM decode = .ok decoded ∧ next decoded = .ok b := by
  simp only [bind_eq_ok_iff, required_eq_ok_iff]
  constructor
  · intro ⟨found?, hfound, decoded, hsome, hnext⟩
    rw [hsome, optional_eq_ok_some_iff] at hfound
    obtain ⟨value, hvalue, hlist⟩ := hfound
    obtain ⟨items, rfl, hitems⟩ := list_eq_ok_iff.1 hlist
    exact ⟨items, decoded, hvalue, hitems, hnext⟩
  · intro ⟨items, decoded, hvalue, hitems, hnext⟩
    have hlist := list_eq_ok_iff.2 ⟨items, rfl, hitems⟩
    exact ⟨some decoded, optional_eq_ok_some_iff.2 ⟨_, hvalue, hlist⟩, decoded, rfl, hnext⟩

/-! ## Numbers -/

theorem below_ofNat {n bound : Nat} {expected : Expected} (hn : n < bound) :
    below bound expected (Json.ofNat n) = .ok n := by
  have hrange : 0 ≤ (n : Int) ∧ (n : Int) < (bound : Int) := by omega
  rw [Json.ofNat, below, if_pos hrange, Int.toNat_natCast]

theorem size_ofNat {n : Nat} (hn : n < UInt64.size) : size (Json.ofNat n) = .ok n := below_ofNat hn

theorem word_ofNat (n : UInt32) : word (Json.ofNat n.toNat) = .ok n.toNat :=
  below_ofNat n.toNat_lt_size

theorem byte_ofNat (n : UInt8) : byte (Json.ofNat n.toNat) = .ok n := by
  rw [byte, below_ofNat n.toNat_lt_size]
  exact congrArg Except.ok UInt8.ofNat_toNat

theorem float_ofBinary64_eq (x : Binary64) :
    float (.ofBinary64 x) = if x.isFinite then .ok x else .error (.wrongType .null .float) := by
  cases x <;> rfl

theorem float_ofBinary64 {x : Binary64} (hx : x.isFinite) : float (.ofBinary64 x) = .ok x := by
  rw [float_ofBinary64_eq, if_pos hx]

/-! ## Records -/

/-- A record with defaults is decoded field by field. -/
theorem recordWith_object_cons {σ : Type} {setters : List (Setter σ)} {type : String} {defaults : σ}
    {set : α → σ → σ} {value : Json} {rest : List (String × Json)}
    (hset : setters.lookup name = some (setter name decode set).2) (hvalue : decode value = .ok a) :
    recordWith type setters defaults (.object ((name, value) :: rest)) =
      recordWith type setters (set a defaults) (.object rest) := by
  have hupdate : (setter name decode set).2 value = .ok (set a) :=
    map_eq_ok_iff.2 ⟨a, hvalue, rfl⟩
  rw [recordWith, List.foldlM_cons, hset]
  dsimp only
  rw [hupdate]
  rfl

theorem recordWith_object_nil {σ : Type} {setters : List (Setter σ)} {type : String} {record : σ} :
    recordWith type setters record (.object []) = .ok record := rfl

end Json.Decode
end Espressivo
