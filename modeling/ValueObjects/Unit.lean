import ValueObjects.Failure
import ValueObjects.Grammar
import ValueObjects.Token.Printer

namespace ValueObjects

inductive UnitKind where
  | operators
  | parsing
  | extensions
  | relational
  | entityConverters
  | document
  | registration
  deriving DecidableEq, Repr

/-- What tells the units of one stem apart in their names. -/
def UnitKind.suffix : UnitKind → String
  | operators => "operators"
  | parsing => "parse"
  | extensions => "extensions"
  | relational => "relational"
  | entityConverters => "entity_converters"
  | document => "document"
  | registration => "registration"

def header : String := "// @generated by valuegen-build; do not edit."

structure GeneratedUnit where
  name : String
  kind : UnitKind
  contents : String
  deriving DecidableEq, Repr

namespace GeneratedUnit

def nameOf (stem : String) (kind : UnitKind) : String :=
  stem ++ "." ++ kind.suffix ++ ".rs"

/-- Writes tokens as a unit; they have to make up a source file. -/
def render (stem : String) (kind : UnitKind) (tokens : List Token) :
    Except Failure GeneratedUnit :=
  let name := nameOf stem kind
  match Grammar.items? tokens with
  | some _ => .ok ⟨name, kind, header ++ "\n" ++ Token.render tokens ++ "\n"⟩
  | none => .error (.invalidOutput name)

def items? (unit : GeneratedUnit) : Option (List Item) :=
  Grammar.sourceItems? unit.contents

end GeneratedUnit

end ValueObjects
