import ValueObjects.Converter

namespace ValueObjects

variable {τ W P Model Provider A B : Type} {Value : τ → Type}

/-- The capability as it is derived: what is taken out of a wrapper is what was put in. -/
structure Capability.IsDerived (capability : Capability W P) : Prop where
  payload_eq : ∀ wrapper, capability.payload wrapper = capability.intoPayload wrapper
  ofPayload_intoPayload : ∀ wrapper, capability.ofPayload (capability.intoPayload wrapper) = wrapper
  intoPayload_ofPayload : ∀ payload, capability.intoPayload (capability.ofPayload payload) = payload

/-- Whether each direction of a converter undoes the other. -/
structure ValueConverter.Inverts (converter : ValueConverter Model Provider) : Prop where
  ofProvider_toProvider : ∀ value, converter.ofProvider (converter.toProvider value) = value
  toProvider_ofProvider : ∀ value, converter.toProvider (converter.ofProvider value) = value

/-- Whether a missing wrapper is told from each wrapper, and these by their payloads, of which a
missing one is one. -/
structure Capability.KeepsApart (capability : Capability W P) : Prop where
  missing : ∀ model, capability.nullableConverter.toProvider model = none ↔ model = none
  present : ∀ model payload, capability.nullableConverter.toProvider model = some payload ↔
    model = some (capability.ofPayload payload)

namespace Capability.IsDerived

variable {capability : Capability W P} (derived : capability.IsDerived)

include derived

theorem ofPayload_payload (wrapper : W) :
    capability.ofPayload (capability.payload wrapper) = wrapper := by
  rw [derived.payload_eq, derived.ofPayload_intoPayload]

theorem payload_ofPayload (payload : P) :
    capability.payload (capability.ofPayload payload) = payload := by
  rw [derived.payload_eq, derived.intoPayload_ofPayload]

theorem inverts : capability.converter.Inverts where
  ofProvider_toProvider := derived.ofPayload_payload
  toProvider_ofProvider := derived.payload_ofPayload

theorem nullable_inverts : capability.nullableConverter.Inverts where
  ofProvider_toProvider model := by
    cases model with
    | none => rfl
    | some wrapper => exact congrArg some (derived.ofPayload_payload wrapper)
  toProvider_ofProvider provider := by
    cases provider with
    | none => rfl
    | some payload => exact congrArg some (derived.payload_ofPayload payload)

theorem keepsApart : capability.KeepsApart where
  missing _ := Option.map_eq_none_iff
  present model payload := by
    constructor
    · intro converted
      rw [← derived.nullable_inverts.ofProvider_toProvider model, converted]
      rfl
    · rintro rfl
      exact derived.nullable_inverts.toProvider_ofProvider (some payload)

end Capability.IsDerived

/-- The capability of each wrapper is the derived one. -/
theorem Wrapped.isDerived (wrapper : Wrapper) : (Wrapped.capability wrapper).IsDerived where
  payload_eq _ := rfl
  ofPayload_intoPayload _ := rfl
  intoPayload_ofPayload _ := rfl

section

variable [DecidableEq τ]

namespace Tag

theorem unbox?_box (tag : Tag Value A) (value : A) : tag.unbox? (tag.box value) = some value := by
  obtain ⟨type, rfl⟩ := tag
  exact congrArg (Option.map id) (Boxed.as?_own type value)

theorem isSome_unbox? (tag : Tag Value A) (boxed : Boxed Value) :
    (tag.unbox? boxed).isSome = true ↔ boxed.type = tag.type := by
  rw [unbox?, Option.isSome_map, Boxed.as?, Option.isSome_dite]

end Tag

/-- Whether values that carry their types are converted as a converter does, if they are of its
types and converted to them, and refused otherwise. -/
structure BoundConverter.Performs (bound : BoundConverter Value)
    (converter : ValueConverter Model Provider) (model : Tag Value Model)
    (provider : Tag Value Provider) : Prop where
  toProvider : ∀ value, bound.convertTo? model provider value = some (converter.toProvider value)
  ofProvider : ∀ value, bound.convertFrom? provider model value = some (converter.ofProvider value)
  toProvider_iff : ∀ {A B : Type} (asked : Tag Value A) (wanted : Tag Value B) (value : A),
    (bound.convertTo? asked wanted value).isSome = true ↔
      asked.type = model.type ∧ wanted.type = provider.type
  ofProvider_iff : ∀ {A B : Type} (asked : Tag Value A) (wanted : Tag Value B) (value : A),
    (bound.convertFrom? asked wanted value).isSome = true ↔
      asked.type = provider.type ∧ wanted.type = model.type

/-- A value goes through two conversions of its type: from the given one and to the wanted one. -/
theorem isSome_through (given : Tag Value Model) (made : Tag Value Provider)
    (convert : Model → Provider) (asked : Tag Value A) (wanted : Tag Value B) (value : A) :
    (((given.unbox? (asked.box value)).map fun found => made.box (convert found)).bind
      wanted.unbox?).isSome = true ↔ asked.type = given.type ∧ wanted.type = made.type := by
  have first := given.isSome_unbox? (asked.box value)
  cases found : given.unbox? (asked.box value) with
  | none =>
    rw [found] at first
    have other : asked.type ≠ given.type := fun same => Bool.false_ne_true (first.mpr same)
    simp [other]
  | some model =>
    rw [found] at first
    have own : asked.type = given.type := first.mp rfl
    have second := wanted.isSome_unbox? (made.box (convert model))
    rw [Option.map_some, Option.bind_some, second, eq_comm]
    exact (and_iff_right own).symm

/-- A converter that is bound to a property does what it did before. -/
theorem ValueConverter.performs_bind (converter : ValueConverter Model Provider)
    (entity property : String) (model : Tag Value Model) (provider : Tag Value Provider) :
    (converter.bind entity property model provider).Performs converter model provider where
  toProvider value := by
    simp only [BoundConverter.convertTo?, bind, Tag.unbox?_box, Option.map_some,
      Option.bind_some]
  ofProvider value := by
    simp only [BoundConverter.convertFrom?, bind, Tag.unbox?_box, Option.map_some,
      Option.bind_some]
  toProvider_iff := isSome_through model provider converter.toProvider
  ofProvider_iff := isSome_through provider model converter.ofProvider

/-- Both converters of a wrapper whose capability is derived undo what they do, the nullable one
keeps apart what it is given, and bound to a property they convert exactly the values of their own
types, to their own types, as before. -/
theorem converters_keep_values {capability : Capability W P} (derived : capability.IsDerived) :
    capability.converter.Inverts ∧ capability.nullableConverter.Inverts ∧
    capability.KeepsApart ∧
    ∀ entity property,
      (∀ (wrapper : Tag Value W) (payload : Tag Value P),
        (capability.converter.bind entity property wrapper payload).Performs
          capability.converter wrapper payload) ∧
      ∀ (wrapper : Tag Value (Option W)) (payload : Tag Value (Option P)),
        (capability.nullableConverter.bind entity property wrapper payload).Performs
          capability.nullableConverter wrapper payload :=
  ⟨derived.inverts, derived.nullable_inverts, derived.keepsApart, fun entity property =>
    ⟨capability.converter.performs_bind entity property,
      capability.nullableConverter.performs_bind entity property⟩⟩

end

/-- A wrapper of whole numbers that may be missing. -/
def quantity : Wrapper :=
  ⟨"shop", "catalog", "Quantity", .option (.scalar (.number .i32))⟩

/-- A stock that may be missing, of a quantity that may be missing itself. -/
def stock : ConverterEntry :=
  ⟨"crate::catalog::Product", "stock", ⟨quantity, true⟩⟩

/-- A missing stock, one of a missing quantity and one of a quantity stay apart, also by the entry
of the property, which converts stocks to their own type and nothing else. -/
theorem converters_keep_values_stock :
    (Wrapped.capability quantity).IsDerived ∧
    (∀ model, stock.converter.toProvider model = none ↔ model = none) ∧
    (∀ model, stock.converter.toProvider model = some none ↔ model = some ⟨none⟩) ∧
    (∀ value, stock.toProvider? ⟨stock.converter.model, value⟩ stock.converter.provider =
      some (stock.converter.toProvider value)) ∧
    ∀ (model : Dynamic) (provider : ValueType), (stock.toProvider? model provider).isSome = true ↔
      model.type = stock.converter.model ∧ provider = stock.converter.provider := by
  have derived := Wrapped.isDerived quantity
  obtain ⟨_, _, apart, performs⟩ :=
    @converters_keep_values _ _ _ ValueType.Value _ _ derived
  have own := (performs stock.entity stock.property).2
    ⟨stock.converter.model, rfl⟩ ⟨stock.converter.provider, rfl⟩
  refine ⟨derived, apart.missing, fun model => apart.present model none, own.toProvider, ?_⟩
  intro model provider
  exact own.toProvider_iff ⟨model.type, rfl⟩ ⟨provider, rfl⟩ model.value

end ValueObjects
