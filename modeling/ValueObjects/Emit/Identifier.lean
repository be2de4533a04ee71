import ValueObjects.Failure
import ValueObjects.Naming

namespace ValueObjects.Emit

/-- The name as an identifier; `use` tells what it is to name. -/
def identifier (name use : String) : Except Failure String :=
  match Grammar.name? name with
  | some identifier => .ok identifier
  | none => .error (.invalidIdentifier name use)

/-- The name as a method: a reserved word becomes a raw identifier, or gets an underscore if it
has no raw form. -/
def methodIdentifier (name : String) : Except Failure String :=
  match Grammar.name? name with
  | some identifier => .ok identifier
  | none =>
    match Grammar.name? ("r#" ++ name) with
    | some identifier => .ok identifier
    | none => identifier (name ++ "_") "method name"

structure CratePath where
  steps : List String
  deriving DecidableEq, Repr

namespace CratePath

/-- The path of a type in a module; every step has to be an identifier. -/
def of (scope? : Option String) (name : String) : Except Failure CratePath := do
  let leading := match scope? with
    | some path => Naming.steps path
    | none => []
  let steps ← leading.mapM (identifier · "namespace")
  let last ← identifier name "type name"
  return ⟨steps ++ [last]⟩

def tokens (path : CratePath) : List Token :=
  .ident "crate" :: path.steps.flatMap fun step => Token.operator [':', ':'] ++ [.ident step]

end CratePath

def isWord (text : String) : Bool :=
  match text.toList with
  | c :: rest => Text.isIdentStart c && rest.all Text.isIdentContinue
  | [] => false

end ValueObjects.Emit
