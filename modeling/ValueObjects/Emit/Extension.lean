import ValueObjects.Emit.Subject

namespace ValueObjects.Emit

/-- Wrappers that share a payload type, in descriptor order, under a name for the type. -/
structure Group where
  payload : String
  name : String
  members : List Descriptor
  deriving DecidableEq, Repr

structure Accessor where
  method : String
  wrapper : CratePath
  path : String

structure Extension where
  holder : String
  trait : String
  display : String
  payload : TypeName
  accessors : List Accessor

namespace Extension

def ownMethods : List String := ["new", "payload"]

/-- The module path in front of an accessor that would share its name with another method. -/
def scopeName : Option String → String
  | some path => "_".intercalate ((Naming.steps path).map Naming.snakeCase)
  | none => "crate"

/-- The name of a member's accessor: its type name, after its module path if the name is taken. -/
def accessorName (members : List Descriptor) (member : Descriptor) : String :=
  let base := Naming.snakeCase member.typeName
  let shared := members.countP fun other => Naming.snakeCase other.typeName == base
  if shared > 1 || ownMethods.contains base then scopeName member.scope? ++ "_" ++ base
  else base

def accessor (members : List Descriptor) (subject : Subject) : Except Failure Accessor := do
  let method ← methodIdentifier (accessorName members subject.descriptor)
  return ⟨method, subject.wrapper, subject.typeName⟩

def traitName (group : Group) : String :=
  group.name ++ "AsExt"

/-- The extension of a group whose members are checked; none if the group is empty. -/
def of (group : Group) (subjects : List Subject) : Except Stop (Option Extension) := do
  let holder ← Stop.lift (identifier ("As" ++ group.name) "extension struct")
  let trait := traitName group
  if !isWord trait then
    throw (.abort trait)
  match subjects with
  | [] => return none
  | first :: _ =>
    let accessors ← Stop.lift (subjects.mapM (accessor group.members))
    return some ⟨holder, trait, group.payload, first.payload, accessors⟩

def accessorTokens (payload : List Token) (accessor : Accessor) : List Token :=
  let wrapper := accessor.wrapper.tokens
  code [
    documented ("The payload as `" ++ accessor.path ++ "`."), inlined,
    "pub fn", [Token.ident accessor.method], parens ["&self"], "->", wrapper, braces [
      "<", wrapper, "as ::core::convert::From<", payload, ">>::from", parens [
        "::core::clone::Clone::clone", parens ["&self.value"]]]]

def tokens (ext : Extension) : List Token :=
  let holder := [Token.ident ext.holder]
  let trait := [Token.ident ext.trait]
  let payload := ext.payload.tokens
  code [
    documented ("Wrapper accessors for a `" ++ ext.display ++ "` payload."),
    "pub struct", holder, braces ["value:", payload, ","],
    "impl", holder, braces [
      inlined, "pub fn new", parens ["value:", payload], "-> Self", braces [
        "Self", braces ["value"]],
      inlined, "pub fn payload", parens ["&self"], "-> &", payload, braces ["&self.value"],
      ext.accessors.flatMap (accessorTokens payload)],
    documented ("`.wrap()` for `" ++ ext.display ++ "` payloads."),
    "pub trait", trait, braces ["fn wrap", parens ["&self"], "->", holder, ";"],
    "impl", trait, "for", payload, braces [
      inlined, "fn wrap", parens ["&self"], "->", holder, braces [
        holder, "::new", parens ["::core::clone::Clone::clone", parens ["self"]]]]]

end Extension

end ValueObjects.Emit
