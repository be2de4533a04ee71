import ValueObjects.Grammar
import ValueObjects.Text.CaseMap
import ValueObjects.Text.Letter
import ValueObjects.Token.Printer

namespace ValueObjects.Naming

open Text

/-- A name without the mark of a raw identifier. -/
def unraw (name : String) : String :=
  match name.toList with
  | 'r' :: '#' :: rest => String.ofList rest
  | _ => name

def cutAt (test : Char → Bool) : List Char → List (List Char)
  | [] => [[]]
  | c :: rest =>
    if test c then [] :: cutAt test rest
    else match cutAt test rest with
      | [] => [[c]]
      | piece :: pieces => (c :: piece) :: pieces

def pieces (test : Char → Bool) (text : List Char) : List (List Char) :=
  (cutAt test text).filter (!·.isEmpty)

def capitalized : List Char → List Char
  | [] => []
  | c :: rest => upper c ++ rest

/-- Words joined with each first letter in upper case; an underscore separates words. -/
def upperCamel (name : String) : String :=
  String.ofList ((pieces (· == '_') (unraw name).toList).flatMap capitalized)

/-- The name of a text that is no type: its ASCII words joined. -/
def fallbackName (text : List Char) : String :=
  String.join <| (pieces (fun c => !(c.isAlphanum || c == '_')) text).map fun piece =>
    upperCamel (String.ofList piece)

mutual

/-- The name of a type: the names of its parts joined, of a path only the last step unless
`full`. -/
def typeName (full : Bool) : Ty → String
  | .path _ segments => pathName full segments ++ argumentsName full segments
  | .qualified _ _ _ segments => pathName full segments ++ argumentsName full segments
  | .reference _ _ elem => "Ref" ++ typeName full elem
  | .slice elem => "Slice" ++ typeName full elem
  | .array elem _ => "Array" ++ typeName full elem
  | .tuple [] _ => "Unit"
  | .tuple elems _ => "Tuple" ++ typeNames full elems
  | .paren elem => typeName full elem
  | .group elem => typeName full elem
  | .pointer mutable elem => fallbackName (Token.spell.spellAll (Ty.pointer mutable elem).tokens)
  | .verbatim tokens => fallbackName (Token.spell.spellAll tokens)

def typeNames (full : Bool) : List Ty → String
  | [] => ""
  | ty :: rest => typeName full ty ++ typeNames full rest

def pathName (full : Bool) : List Segment → String
  | [] => ""
  | [.mk name _] => upperCamel name
  | .mk name _ :: rest => (if full then upperCamel name else "") ++ pathName full rest

def argumentsName (full : Bool) : List Segment → String
  | [] => ""
  | [.mk _ (.angle _ arguments _)] => argumentNames full arguments
  | [.mk _ .none] => ""
  | _ :: rest => argumentsName full rest

def argumentNames (full : Bool) : List Argument → String
  | [] => ""
  | .type ty :: rest => typeName full ty ++ argumentNames full rest
  | _ :: rest => argumentNames full rest

end

def payloadName (full : Bool) (display : String) : String :=
  match Grammar.type? display with
  | some ty => typeName full ty
  | none => fallbackName display.toList

def simpleName (display : String) : String :=
  payloadName false display

def fullName (display : String) : String :=
  payloadName true display

/-- Whether a word begins at a character in upper case, by its neighbours. -/
def isBoundary (before after : Option Char) : Bool :=
  match before with
  | none => false
  | some before =>
    if before == '_' then false
    else if isLowercase before || before.isDigit then true
    else if isUppercase before then after.any isLowercase
    else false

def snakeAfter (before : Option Char) : List Char → List Char
  | [] => []
  | c :: rest =>
    let word :=
      if isUppercase c then
        (if isBoundary before rest.head? then ['_'] else []) ++ lower c
      else [c]
    word ++ snakeAfter (some c) rest

def snakeCase (name : String) : String :=
  String.ofList (snakeAfter none (unraw name).toList)

def cutSteps : List Char → List (List Char)
  | [] => [[]]
  | ':' :: ':' :: rest => [] :: cutSteps rest
  | c :: rest =>
    match cutSteps rest with
    | [] => [[c]]
    | step :: steps => (c :: step) :: steps

def steps (path : String) : List String :=
  (cutSteps path.toList).map String.ofList

def joinSteps (steps : List String) : String :=
  "::".intercalate steps

/-- The name of a module path; the crate root has one of its own. -/
def namespaceName : Option String → String
  | some path => String.join ((steps path).map upperCamel)
  | none => "Crate"

end ValueObjects.Naming
