import ValueObjects.Bson
import ValueObjects.Descriptor
import ValueObjects.Naming

namespace ValueObjects

/-- The full name of a payload type at run time. -/
def Scalar.fullName : Scalar → String
  | .number .decimal => "rust_decimal::decimal::Decimal"
  | .number type => type.display
  | .boolean => "bool"
  | .character => "char"
  | .text => "alloc::string::String"
  | .uuid => "uuid::Uuid"
  | .documentId => "bson::oid::ObjectId"
  | .custom type => type.fullName

def optionName (held : String) : String :=
  "core::option::Option<" ++ held ++ ">"

def PayloadType.fullName : PayloadType → String
  | .scalar type => type.fullName
  | .option payload => optionName payload.fullName

structure Wrapper where
  home : String
  scope : String
  name : String
  payload : PayloadType
  deriving DecidableEq, Repr

structure Wrapped (wrapper : Wrapper) where
  payload : wrapper.payload.Value

namespace Wrapper

def fullName (wrapper : Wrapper) : String :=
  wrapper.home ++ "::" ++ wrapper.scope ++ "::" ++ wrapper.name

/-- What the generator finds the wrapper as. -/
def descriptor (wrapper : Wrapper) : Descriptor :=
  ⟨wrapper.name, wrapper.payload.display, some wrapper.scope, false, true⟩

def path (wrapper : Wrapper) : String :=
  wrapper.descriptor.path

def accessor (wrapper : Wrapper) : String :=
  Naming.snakeCase wrapper.name

end Wrapper

/-- A text that can be read at all: it is there and not empty. -/
def readable? (text? : Option String) : Option String :=
  text?.filter (!·.isEmpty)

structure ParseFailure where
  typeName : String
  input : String
  deriving DecidableEq, Repr

def ParseFailure.message (failure : ParseFailure) : String :=
  "cannot parse `" ++ failure.input ++ "` as " ++ failure.typeName

namespace Wrapped

variable {wrapper : Wrapper}

instance : DecidableEq (Wrapped wrapper) := fun a b =>
  if h : a.payload = b.payload then .isTrue (by cases a; cases b; simp_all)
  else .isFalse fun same => h (congrArg Wrapped.payload same)

def read? (wrapper : Wrapper) (culture? : Option Culture) (text? : Option String) :
    Option (Wrapped wrapper) := do
  let text ← readable? text?
  let payload ← wrapper.payload.read? culture? text.toList
  return ⟨payload⟩

def parse (wrapper : Wrapper) (culture? : Option Culture) (text : String) :
    Except ParseFailure (Wrapped wrapper) :=
  match read? wrapper culture? (some text) with
  | some value => .ok value
  | none => .error ⟨wrapper.fullName, text⟩

def display (layout : Layout) (value : Wrapped wrapper) : String :=
  String.ofList (wrapper.payload.render layout value.payload)

def equal (a b : Wrapped wrapper) : Bool :=
  wrapper.payload.equal a.payload b.payload

def compare? (a b : Wrapped wrapper) : Option Ordering :=
  wrapper.payload.compare? a.payload b.payload

def add? (a b : Wrapped wrapper) : Option (Wrapped wrapper) :=
  (wrapper.payload.add? a.payload b.payload).map Wrapped.mk

def sub? (a b : Wrapped wrapper) : Option (Wrapped wrapper) :=
  (wrapper.payload.sub? a.payload b.payload).map Wrapped.mk

end Wrapped

end ValueObjects
