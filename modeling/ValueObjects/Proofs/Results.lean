import Mathlib.Data.List.Forall2
import ValueObjects.Emit.Identifier

namespace ValueObjects

theorem ok_bind (value : α) (next : α → Except ε β) : Except.ok value >>= next = next value :=
  rfl

theorem error_bind (failure : ε) (next : α → Except ε β) :
    Except.error failure >>= next = .error failure :=
  rfl

theorem toOption_eq_some {result : Except ε α} : result.toOption = some value ↔ result = .ok value := by
  cases result <;> simp [Except.toOption]

/-- A result that is no failure is a value. -/
theorem ok_of_isSome {result : Except ε α} (ends : result.toOption.isSome = true) :
    ∃ value, result = .ok value := by
  obtain ⟨value, found⟩ := Option.isSome_iff_exists.mp ends
  exact ⟨value, toOption_eq_some.mp found⟩

theorem bind_eq_ok {first : Except ε α} {next : α → Except ε β} :
    first >>= next = .ok result ↔ ∃ value, first = .ok value ∧ next value = .ok result := by
  cases first with
  | error failure => simp [bind, Except.bind]
  | ok value => simp [bind, Except.bind]

theorem bind_eq_error {first : Except ε α} {next : α → Except ε β} {failure : ε} :
    first >>= next = .error failure ↔
      first = .error failure ∨ ∃ value, first = .ok value ∧ next value = .error failure := by
  cases first with
  | error cause => simp [bind, Except.bind]
  | ok value => simp [bind, Except.bind]

/-- A list of steps succeeds exactly if each step does. -/
theorem mapM_eq_ok {step : α → Except ε β} {items : List α} {results : List β} :
    items.mapM step = .ok results ↔
      List.Forall₂ (fun item result => step item = .ok result) items results := by
  induction items generalizing results with
  | nil =>
    cases results with
    | nil => simp [pure, Except.pure]
    | cons result results => simp [pure, Except.pure]
  | cons item items ih =>
    rw [List.mapM_cons, bind_eq_ok, List.forall₂_cons_left_iff]
    constructor
    · rintro ⟨value, made, later⟩
      obtain ⟨values, rest, whole⟩ := bind_eq_ok.mp later
      cases whole
      exact ⟨value, values, made, ih.mp rest, rfl⟩
    · rintro ⟨value, values, made, rest, rfl⟩
      exact ⟨value, made, bind_eq_ok.mpr ⟨values, ih.mpr rest, rfl⟩⟩

/-- A list of steps fails with the failure of the first step that fails. -/
theorem mapM_eq_error {step : α → Except ε β} {items : List α} {failure : ε} :
    items.mapM step = .error failure ↔
      ∃ before item after, items = before ++ item :: after ∧
        (∀ earlier ∈ before, ∃ result, step earlier = .ok result) ∧ step item = .error failure := by
  induction items with
  | nil => simp [pure, Except.pure]
  | cons item items ih =>
    rw [List.mapM_cons]
    cases made : step item with
    | error cause =>
      rw [error_bind]
      constructor
      · intro same
        exact ⟨[], item, items, rfl, by simp, made.trans (by simpa using same)⟩
      · rintro ⟨before, other, after, split, ends, failed⟩
        cases before with
        | nil =>
          cases split
          simpa [made] using failed
        | cons first before =>
          cases split
          obtain ⟨result, succeeded⟩ := ends item List.mem_cons_self
          cases made.symm.trans succeeded
    | ok value =>
      have later : (do let values ← items.mapM step; return value :: values) = .error failure ↔
          items.mapM step = .error failure := by
        cases items.mapM step <;> simp [bind, Except.bind, pure, Except.pure]
      rw [ok_bind, later, ih]
      constructor
      · rintro ⟨before, other, after, rfl, ends, failed⟩
        refine ⟨item :: before, other, after, rfl, ?_, failed⟩
        simpa [made] using ends
      · rintro ⟨before, other, after, split, ends, failed⟩
        cases before with
        | nil =>
          cases split
          cases made.symm.trans failed
        | cons first before =>
          cases split
          exact ⟨before, other, after, rfl, fun earlier member =>
            ends earlier (List.mem_cons_of_mem _ member), failed⟩

theorem Forall₂.right_of_mem {items : List α} {results : List β} {relation : α → β → Prop}
    (related : List.Forall₂ relation items results) (member : item ∈ items) :
    ∃ result ∈ results, relation item result := by
  induction related with
  | nil => cases member
  | cons first _ ih =>
    rcases List.mem_cons.mp member with rfl | later
    · exact ⟨_, List.mem_cons_self, first⟩
    · obtain ⟨result, present, found⟩ := ih later
      exact ⟨result, List.mem_cons_of_mem _ present, found⟩

/-- Related lists agree in what related items agree in. -/
theorem Forall₂.map_eq {relation : α → β → Prop} {items : List α} {results : List β} {f : α → γ}
    {g : β → γ} (related : List.Forall₂ relation items results)
    (same : ∀ item ∈ items, ∀ result, relation item result → f item = g result) :
    items.map f = results.map g := by
  induction related with
  | nil => rfl
  | cons first _ ih =>
    rw [List.map_cons, List.map_cons, same _ List.mem_cons_self _ first]
    rw [ih fun item among => same item (List.mem_cons_of_mem _ among)]

/-- A list of steps succeeds if each of them does. -/
theorem mapM_ends_iff {step : α → Except ε β} {items : List α} :
    (∃ results, items.mapM step = .ok results) ↔
      ∀ item ∈ items, ∃ result, step item = .ok result := by
  constructor
  · rintro ⟨results, made⟩ item member
    obtain ⟨result, _, found⟩ := Forall₂.right_of_mem (mapM_eq_ok.mp made) member
    exact ⟨result, found⟩
  · intro each
    cases run : items.mapM step with
    | ok results => exact ⟨results, rfl⟩
    | error failure =>
      obtain ⟨before, item, after, rfl, _, failed⟩ := mapM_eq_error.mp run
      obtain ⟨result, succeeded⟩ := each item (by simp)
      cases failed.symm.trans succeeded

theorem result_of_mem {step : α → Except ε β} {items : List α} {results : List β}
    (run : items.mapM step = .ok results) (member : item ∈ items) :
    ∃ result ∈ results, step item = .ok result :=
  Forall₂.right_of_mem (mapM_eq_ok.mp run) member

theorem item_of_mem {step : α → Except ε β} {items : List α} {results : List β}
    (run : items.mapM step = .ok results) (member : result ∈ results) :
    ∃ item ∈ items, step item = .ok result :=
  Forall₂.right_of_mem (mapM_eq_ok.mp run).flip member

namespace Emit

theorem identifier_eq_ok : identifier name use = .ok spelled ↔ Grammar.name? name = some spelled := by
  unfold identifier
  cases Grammar.name? name with
  | none => simp
  | some found => simp

/-- A path can be written down only if each of its names is an identifier. -/
theorem names_of_path (made : CratePath.of scope? name = .ok path) :
    ∀ step ∈ name :: (scope?.map Naming.steps).getD [], ∃ spelled, Grammar.name? step = some spelled := by
  obtain ⟨leading, found, later⟩ := bind_eq_ok.mp made
  obtain ⟨last, named, _⟩ := bind_eq_ok.mp later
  intro step member
  rcases List.mem_cons.mp member with rfl | inner
  · exact ⟨last, identifier_eq_ok.mp named⟩
  · cases scope? with
    | none => cases inner
    | some scope =>
      obtain ⟨spelled, _, read⟩ := result_of_mem found inner
      exact ⟨spelled, identifier_eq_ok.mp read⟩

end Emit

end ValueObjects
