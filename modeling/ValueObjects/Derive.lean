import ValueObjects.Discovery.Candidates
import ValueObjects.Emit.Code
import ValueObjects.Grammar
import ValueObjects.Token.Printer

namespace ValueObjects.Derive

open Grammar

/-- A declaration that the capability is derived for; it has to be a structure. -/
inductive Subject where
  | struct (decl : StructDecl)
  | other (attrs : List Attribute) (isGeneric : Bool)

namespace Subject

def attrs : Subject → List Attribute
  | .struct decl => decl.attrs
  | .other found _ => found

def isGeneric : Subject → Bool
  | .struct decl => decl.isGeneric
  | .other _ generic => generic

end Subject

def subject (rules : Rules) : Reader Subject := do
  let attrs ← outerAttributes rules
  let _ ← visibility
  if ← word? "struct" then
    let name ← name
    let generic ← isGeneric rules
    let (_, fields) ← structBody rules
    return .struct ⟨attrs, name, generic, fields⟩
  else if ← word? "enum" then
    let _ ← name
    let generic ← isGeneric rules
    enumBody rules
    return .other attrs generic
  else
    word "union"
    let _ ← name
    let generic ← isGeneric rules
    unionBody rules
    return .other attrs generic

inductive Refusal where
  /-- The declaration or a list of options is malformed. -/
  | malformed
  /-- The options are given as a value and not as a list. -/
  | optionsAsValue
  | unknownOption (key : String)
  /-- The path to the runtime is a literal other than a text. -/
  | notAPath
  /-- The path to the runtime is no path. -/
  | invalidPath
  | generic
  | notAStruct
  | notOneField
  deriving DecidableEq, Repr

namespace Refusal

def attributeName : String := "value"

def optionName : String := "crate"

/-- The wording of a refusal; that of a malformed text comes from elsewhere. -/
def message : Refusal → Option String
  | .malformed => none
  | .optionsAsValue => some "#[value] must be #[value(...)] or #[value] (not name-value)"
  | .unknownOption key => some ("unknown attribute `" ++ key ++ "`, expected one of: crate")
  | .notAPath => some "expected a path for `crate`"
  | .invalidPath => some "invalid path for `crate`"
  | .generic =>
    some ("This derive does not support generic parameters; " ++
      "the payload must be a concrete type")
  | .notAStruct => some "This derive can only be used on structs"
  | .notOneField =>
    some "This derive requires a struct with exactly one field (the payload)"

end Refusal

/-- The value of an option: a literal, with its text if it is a token of its own, or the tokens up
to the next comma. -/
inductive OptionValue where
  | literal (text : Option String)
  | tokens (tokens : List Token)

/-- The tokens up to a comma or the end; there has to be one. -/
def untilComma : Reader OptionValue := do
  let tokens ← collectWhile (fun tokens => !tokens.isEmpty && !atMark "," tokens) do
    match ← upcoming with
    | token :: rest =>
      consume [token] rest
      return token
    | [] => fail
  if tokens.isEmpty then fail
  return .tokens tokens

def option : Reader (String × OptionValue) := do
  let key ← anyName
  mark "="
  if atLiteral (← upcoming) then
    return (key, .literal (← literal))
  else
    return (key, ← untilComma)

def optionsOf (attr : Attribute) : Except Refusal (List (String × OptionValue)) :=
  if !attr.isNamed Refusal.attributeName then .ok []
  else match attr.body with
    | .word => .ok []
    | .value _ => .error .optionsAsValue
    | .list tokens =>
      match read (fun _ => commaList option) tokens with
      | some (options, _) => .ok options
      | none => .error .malformed

def options (attrs : List Attribute) : Except Refusal (List (String × OptionValue)) := do
  return (← attrs.mapM optionsOf).flatten

def pathOf? (tokens : List Token) : Option QualifiedPath :=
  read (fun rules => Grammar.path rules false) tokens

def plainText? (literal : String) : Option String :=
  match Literal.textual? literal.toList with
  | some (body, []) => some (String.ofList body)
  | _ => none

def optionPath : OptionValue → Except Refusal QualifiedPath
  | .literal (some text) =>
    if literalKind text == .string then
      match (plainText? text).bind fun body => (Lexer.tokens? body).bind pathOf? with
      | some path => .ok path
      | none => .error .invalidPath
    else .error .notAPath
  | .literal none => .error .notAPath
  | .tokens tokens =>
    match pathOf? tokens with
    | some path => .ok path
    | none => .error .invalidPath

def runtimePath (options : List (String × OptionValue)) : Except Refusal (List Token) := do
  match options.find? (·.1 != Refusal.optionName) with
  | some (key, _) => throw (.unknownOption key)
  | none =>
    match options.lookup Refusal.optionName with
    | some value => return (← optionPath value).ty.tokens
    | none => return Emit.phrase "::valuegen"

structure Expansion where
  runtime : List Token
  name : String
  /-- The field's name, or none if it is known by its position. -/
  member : Option String
  payload : Ty

def expand (subject : Subject) : Except Refusal Expansion := do
  let found ← options subject.attrs
  let runtime ← runtimePath found
  if subject.isGeneric then
    throw .generic
  match subject with
  | .other .. => throw .notAStruct
  | .struct decl =>
    match decl.fields.list with
    | [field] => return ⟨runtime, decl.name, field.name, field.ty⟩
    | _ => throw .notOneField

namespace Expansion

open Emit

def tokens (expansion : Expansion) : List Token :=
  let member : List Token := match expansion.member with
    | some name => [.ident name]
    | none => [.literal "0"]
  code [
    "impl", expansion.runtime, "::Value for", [Token.ident expansion.name], braces [
      "type Payload =", expansion.payload.tokens, ";",
      inlined, "fn payload", parens ["&self"], "-> &Self::Payload", braces ["&self.", member],
      inlined, "fn into_payload", parens ["self"], "-> Self::Payload", braces ["self.", member],
      inlined, "fn from_payload", parens ["payload: Self::Payload"], "-> Self", braces [
        "Self", braces [member, ": payload"]]]]

end Expansion

def expandText (text : String) : Except Refusal Expansion :=
  match readText subject text with
  | some subject => expand subject
  | none => .error .malformed

end ValueObjects.Derive
