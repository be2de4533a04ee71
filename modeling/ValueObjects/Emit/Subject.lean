import ValueObjects.Descriptor
import ValueObjects.Emit.Code
import ValueObjects.Emit.Identifier
import ValueObjects.Kind

namespace ValueObjects.Emit

inductive TypeName where
  /-- A type of the standard library or of the runtime, from its root. -/
  | rooted (steps : List String)
  | primitive (name : String)
  /-- A type that is spelled as it was found: it means the same everywhere. -/
  | spelled (ty : Ty)
  /-- The payload type that the wrapper itself declares. -/
  | declared (wrapper : CratePath)
  | option (inner : TypeName)

namespace TypeName

def rootedTokens (steps : List String) : List Token :=
  steps.flatMap fun step => Token.operator [':', ':'] ++ [.ident step]

def tokens : TypeName → List Token
  | .rooted steps => rootedTokens steps
  | .primitive name => [.ident name]
  | .spelled ty => ty.tokens
  | .declared wrapper => code ["<", wrapper.tokens, "as ::valuegen::Value>::Payload"]
  | .option inner => code ["::core::option::Option<", inner.tokens, ">"]

end TypeName

structure Subject where
  descriptor : Descriptor
  classification : Classification
  wrapper : CratePath
  /-- The payload, or what it may hold if it is nullable. -/
  inner : TypeName

def beginsAtCrate (display : String) : Bool :=
  "crate::".toList.isPrefixOf display.toList

/-- The type of a payload that has no kind of its own. -/
def otherPayload (wrapper : CratePath) (display : String) : Except Failure TypeName :=
  if display == "bool" || display == "char" || beginsAtCrate display then
    match Grammar.type? display with
    | some ty => .ok (.spelled ty)
    | none => .error (.invalidPayload (Token.render wrapper.tokens) display)
  else
    .ok (.declared wrapper)

def payloadType (kind : Kind) (wrapper : CratePath) (display : String) :
    Except Failure TypeName :=
  match kind with
  | .string => .ok (.rooted ["std", "string", "String"])
  | .numeric .decimal => .ok (.rooted ["valuegen", "rust_decimal", "Decimal"])
  | .numeric type => .ok (.primitive type.display)
  | .identifier => .ok (.rooted ["valuegen", "uuid", "Uuid"])
  | .documentId => .ok (.rooted ["valuegen", "bson", "oid", "ObjectId"])
  | .other => otherPayload wrapper display

namespace Subject

/-- Checks that a wrapper can be named and that its payload is a type. -/
def of (descriptor : Descriptor) (classification : Classification) : Except Failure Subject := do
  let wrapper ← CratePath.of descriptor.scope? descriptor.typeName
  if (Grammar.type? descriptor.payload).isNone then
    throw (.invalidPayload descriptor.typeName descriptor.payload)
  let inner ← payloadType classification.kind wrapper classification.inner
  return ⟨descriptor, classification, wrapper, inner⟩

def payload (subject : Subject) : TypeName :=
  if subject.classification.nullable then .option subject.inner else subject.inner

def typeName (subject : Subject) : String :=
  subject.descriptor.path

end Subject

end ValueObjects.Emit
