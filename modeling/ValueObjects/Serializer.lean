import ValueObjects.Dynamic
import ValueObjects.Text.Quoted

namespace ValueObjects

/-- Why a wrapper is not written or read: its payload cannot be written, the stored value is no
payload, or no serializer is known. The type is named by its path in the first two. -/
inductive DocumentFailure where
  | unwritable (path : String)
  | unreadable (path : String)
  | notRegistered (typeName : String)
  deriving DecidableEq, Repr

/-- The wording of a failure, as far as it does not come from elsewhere. -/
def DocumentFailure.message : DocumentFailure → String
  | .unwritable path => "cannot serialize " ++ path ++ " to BSON"
  | .unreadable path => "cannot deserialize " ++ path ++ " from BSON"
  | .notRegistered typeName => "no document serializer registered for " ++ typeName

namespace Wrapped

def toBson {wrapper : Wrapper} (value : Wrapped wrapper) : Except DocumentFailure Bson :=
  match Bson.ofPayload? wrapper.payload value.payload with
  | some bson => .ok bson
  | none => .error (.unwritable wrapper.path)

def ofBson (wrapper : Wrapper) (bson : Bson) : Except DocumentFailure (Wrapped wrapper) :=
  match Bson.toPayload? bson wrapper.payload with
  | some payload => .ok ⟨payload⟩
  | none => .error (.unreadable wrapper.path)

end Wrapped

structure DocumentSerializer (type : ValueType) where
  toBson : type.Value → Except DocumentFailure Bson
  ofBson : Bson → Except DocumentFailure type.Value

def DocumentSerializer.ofWrapper (wrapper : Wrapper) : DocumentSerializer (.wrapper wrapper) where
  toBson value := Wrapped.toBson value
  ofBson bson := Wrapped.ofBson wrapper bson

structure Serializer where
  typeName : String
  encode : Dynamic → Option (Except DocumentFailure Bson)
  decode : Bson → Except DocumentFailure Dynamic

def DocumentSerializer.erased {type : ValueType} (own : DocumentSerializer type) : Serializer where
  typeName := type.fullName
  encode value := (value.as? type).map own.toBson
  decode bson := (own.ofBson bson).map fun value => ⟨type, value⟩

/-- The serializers that are known, by type, and the order in which they came to be known. -/
structure SerializerRegistry where
  serializers : List (ValueType × Serializer)
  order : List ValueType

namespace SerializerRegistry

def empty : SerializerRegistry := ⟨[], []⟩

def find? (registry : SerializerRegistry) (type : ValueType) : Option Serializer :=
  registry.serializers.lookup type

def isRegistered (registry : SerializerRegistry) (type : ValueType) : Bool :=
  (registry.find? type).isSome

/-- Registers a serializer for its type; tells whether there was none before. -/
def register (registry : SerializerRegistry) {type : ValueType} (own : DocumentSerializer type) :
    Bool × SerializerRegistry :=
  if registry.isRegistered type then (false, registry)
  else (true, ⟨(type, own.erased) :: registry.serializers, registry.order ++ [type]⟩)

def registerAll (registry : SerializerRegistry) (wrappers : List Wrapper) : SerializerRegistry :=
  wrappers.foldl (fun registry wrapper => (registry.register (.ofWrapper wrapper)).2) registry

def require (registry : SerializerRegistry) (type : ValueType) :
    Except DocumentFailure Serializer :=
  match registry.find? type with
  | some serializer => .ok serializer
  | none => .error (.notRegistered type.fullName)

def encode (registry : SerializerRegistry) (type : ValueType) (value : type.Value) :
    Except DocumentFailure Bson := do
  let serializer ← registry.require type
  (serializer.encode ⟨type, value⟩).getD (.error (.notRegistered type.fullName))

def decode (registry : SerializerRegistry) (type : ValueType) (bson : Bson) :
    Except DocumentFailure type.Value := do
  let serializer ← registry.require type
  match (← serializer.decode bson).as? type with
  | some value => return value
  | none => throw (.notRegistered type.fullName)

def typeNames (registry : SerializerRegistry) : List String :=
  (registry.order.filterMap registry.find?).map Serializer.typeName

def size (registry : SerializerRegistry) : Nat :=
  registry.order.length

def isEmpty (registry : SerializerRegistry) : Bool :=
  registry.order.isEmpty

def shown (registry : SerializerRegistry) : String :=
  "[" ++ String.intercalate ", " (registry.typeNames.map Text.quote) ++ "]"

end SerializerRegistry

end ValueObjects
