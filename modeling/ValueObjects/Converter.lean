import ValueObjects.Conversion

namespace ValueObjects

def Wrapped.capability (wrapper : Wrapper) :
    Capability (Wrapped wrapper) wrapper.payload.Value where
  payload := Wrapped.payload
  intoPayload := Wrapped.payload
  ofPayload := Wrapped.mk

/-- The converter of a wrapper, or of options of it. -/
structure Converter where
  wrapper : Wrapper
  nullable : Bool
  deriving DecidableEq, Repr

namespace Converter

def model (converter : Converter) : ValueType :=
  if converter.nullable then .optional converter.wrapper else .wrapper converter.wrapper

def provider (converter : Converter) : ValueType :=
  if converter.nullable then .payload (.option converter.wrapper.payload)
  else .payload converter.wrapper.payload

def typed : (converter : Converter) →
    ValueConverter converter.model.Value converter.provider.Value
  | ⟨wrapper, false⟩ => (Wrapped.capability wrapper).converter
  | ⟨wrapper, true⟩ => (Wrapped.capability wrapper).nullableConverter

def toProvider (converter : Converter) : converter.model.Value → converter.provider.Value :=
  converter.typed.toProvider

def ofProvider (converter : Converter) : converter.provider.Value → converter.model.Value :=
  converter.typed.ofProvider

end Converter

structure ConverterEntry where
  entity : String
  property : String
  converter : Converter
  deriving DecidableEq, Repr

namespace ConverterEntry

def bound (entry : ConverterEntry) : BoundConverter ValueType.Value :=
  entry.converter.typed.bind entry.entity entry.property
    ⟨entry.converter.model, rfl⟩ ⟨entry.converter.provider, rfl⟩

/-- Converts a value to the type asked for; both types have to be those of the converter. -/
def toProvider? (entry : ConverterEntry) (model : Dynamic) (provider : ValueType) :
    Option provider.Value :=
  entry.bound.convertTo? ⟨model.type, rfl⟩ ⟨provider, rfl⟩ model.value

def ofProvider? (entry : ConverterEntry) (provider : Dynamic) (model : ValueType) :
    Option model.Value :=
  entry.bound.convertFrom? ⟨provider.type, rfl⟩ ⟨model, rfl⟩ provider.value

end ConverterEntry

end ValueObjects
