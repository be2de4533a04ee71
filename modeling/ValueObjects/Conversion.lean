import ValueObjects.Dynamic

namespace ValueObjects

/-- The capability of a wrapper: its payload is looked at, taken out and put in. -/
structure Capability (W P : Type) where
  payload : W → P
  intoPayload : W → P
  ofPayload : P → W

structure ValueConverter (Model Provider : Type) where
  toProvider : Model → Provider
  ofProvider : Provider → Model

namespace Capability

variable {W P : Type}

def converter (capability : Capability W P) : ValueConverter W P where
  toProvider := capability.payload
  ofProvider := capability.ofPayload

def nullableConverter (capability : Capability W P) : ValueConverter (Option W) (Option P) where
  toProvider := Option.map capability.payload
  ofProvider := Option.map capability.ofPayload

end Capability

/-- A converter that is bound to a property of an entity. The types of its values are no longer
known: the values carry them. -/
structure BoundConverter {τ : Type} (Value : τ → Type) where
  entity : String
  property : String
  toProvider? : Boxed Value → Option (Boxed Value)
  ofProvider? : Boxed Value → Option (Boxed Value)

section

variable {τ : Type} [DecidableEq τ] {Value : τ → Type} {Model Provider : Type}

/-- Binds a converter to a property; a value that is not of the converter's type is refused. -/
def ValueConverter.bind (converter : ValueConverter Model Provider) (entity property : String)
    (model : Tag Value Model) (provider : Tag Value Provider) : BoundConverter Value where
  entity := entity
  property := property
  toProvider? boxed :=
    (model.unbox? boxed).map fun value => provider.box (converter.toProvider value)
  ofProvider? boxed :=
    (provider.unbox? boxed).map fun value => model.box (converter.ofProvider value)

namespace BoundConverter

def convertTo? (bound : BoundConverter Value) (model : Tag Value Model)
    (provider : Tag Value Provider) (value : Model) : Option Provider :=
  (bound.toProvider? (model.box value)).bind provider.unbox?

def convertFrom? (bound : BoundConverter Value) (provider : Tag Value Provider)
    (model : Tag Value Model) (value : Provider) : Option Model :=
  (bound.ofProvider? (provider.box value)).bind model.unbox?

end BoundConverter

end

end ValueObjects
