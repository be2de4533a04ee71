import ValueObjects.Token

namespace ValueObjects

mutual

/-- A type expression. Forms whose parts nothing looks at are kept as their tokens. -/
inductive Ty where
  /-- A path; `rooted` if it begins with two colons. -/
  | path (rooted : Bool) (segments : List Segment)
  /-- A path into a type: the first `position` segments name the trait that the type is seen as. -/
  | qualified (self : Ty) (position : Nat) (rooted : Bool) (segments : List Segment)
  | reference (lifetime : Option String) (mutable : Bool) (elem : Ty)
  | pointer (mutable : Bool) (elem : Ty)
  | slice (elem : Ty)
  | array (elem : Ty) (length : List Token)
  /-- A tuple; `trailing` if a comma follows the last element. -/
  | tuple (elems : List Ty) (trailing : Bool)
  | paren (elem : Ty)
  /-- A type that was put in as a whole, with no mark around it. No text is read as one. -/
  | group (elem : Ty)
  | verbatim (tokens : List Token)

inductive Segment where
  | mk (name : String) (arguments : Arguments)

/-- The generic arguments of a step: none, or a list between angle brackets, after two colons if
`turbofish`. -/
inductive Arguments where
  | none
  | angle (turbofish : Bool) (arguments : List Argument) (trailing : Bool)

inductive Argument where
  | lifetime (name : String)
  | type (ty : Ty)
  | other (tokens : List Token)

end

instance : Inhabited Ty := ⟨.verbatim []⟩

namespace Segment

def name : Segment → String
  | .mk name _ => name

def arguments : Segment → Arguments
  | .mk _ arguments => arguments

def plain (name : String) : Segment :=
  .mk name .none

end Segment

def Arguments.isNone : Arguments → Bool
  | .none => true
  | .angle .. => false

namespace Token

def comma : Token := .punct ',' .alone

def pathSeparator : List Token := operator [':', ':']

end Token

open Token

def punctuated (trailing : Bool) : List α → List (α × Bool)
  | [] => []
  | [last] => [(last, trailing)]
  | next :: rest => (next, true) :: punctuated trailing rest

def commaSeparated (trailing : Bool) (elems : List (List Token)) : List Token :=
  (punctuated trailing elems).flatMap fun (elem, separated) =>
    if separated then elem ++ [comma] else elem

/-- Arguments in writing order: lifetimes stand before all others, and a comma is put in where
the reordering would leave two arguments side by side. -/
def argumentTokens (trailing : Bool) (arguments : List (Bool × List Token)) : List Token :=
  let pairs := punctuated trailing arguments
  let lifetimes := pairs.filter fun ((first, _), _) => first
  let others := pairs.filter fun ((first, _), _) => !first
  let start := lifetimes.flatMap fun ((_, tokens), separated) =>
    if separated then tokens ++ [comma] else tokens
  let separated := match lifetimes.getLast? with
    | some (_, separated) => separated
    | none => true
  let step := fun (written, separated) ((_, tokens), follows) =>
    (written ++ (if separated then [] else [comma]) ++ tokens ++
      (if follows then [comma] else []), follows)
  (others.foldl step (start, separated)).1

def joinSteps : List (List Token) → List Token
  | [] => []
  | [step] => step
  | step :: rest => step ++ pathSeparator ++ joinSteps rest

mutual

def Ty.tokens : Ty → List Token
  | .path rooted segments =>
    (if rooted then pathSeparator else []) ++ joinSteps (Segment.tokensOf segments)
  | .qualified self position rooted segments =>
    let steps := Segment.tokensOf segments
    let root := if rooted then pathSeparator else []
    let inside := steps.take position
    let outside := steps.drop position
    [.punct '<' .alone] ++ self.tokens ++
    (if inside.isEmpty then [.punct '>' .alone] ++ root
     else [.ident "as"] ++ root ++ joinSteps inside ++ [.punct '>' .alone] ++
       (if outside.isEmpty then [] else pathSeparator)) ++
    joinSteps outside
  | .reference lifetime mutable elem =>
    [.punct '&' .alone] ++
    (match lifetime with
     | some name => Token.lifetime name
     | none => []) ++
    (if mutable then [.ident "mut"] else []) ++ elem.tokens
  | .pointer mutable elem =>
    [.punct '*' .alone, .ident (if mutable then "mut" else "const")] ++ elem.tokens
  | .slice elem => [.group .bracket elem.tokens]
  | .array elem length => [.group .bracket (elem.tokens ++ [.punct ';' .alone] ++ length)]
  | .tuple elems trailing => [.group .parenthesis (commaSeparated trailing (Ty.tokensOf elems))]
  | .paren elem => [.group .parenthesis elem.tokens]
  | .group elem => elem.tokens
  | .verbatim tokens => tokens

def Ty.tokensOf : List Ty → List (List Token)
  | [] => []
  | ty :: rest => ty.tokens :: Ty.tokensOf rest

def Segment.tokens : Segment → List Token
  | .mk name arguments => .ident name :: arguments.tokens

def Segment.tokensOf : List Segment → List (List Token)
  | [] => []
  | segment :: rest => segment.tokens :: Segment.tokensOf rest

def Arguments.tokens : Arguments → List Token
  | .none => []
  | .angle turbofish arguments trailing =>
    (if turbofish then pathSeparator else []) ++ [.punct '<' .alone] ++
    argumentTokens trailing (Argument.tokensOf arguments) ++ [.punct '>' .alone]

def Argument.tokens : Argument → Bool × List Token
  | .lifetime name => (true, Token.lifetime name)
  | .type ty => (false, ty.tokens)
  | .other tokens => (false, tokens)

def Argument.tokensOf : List Argument → List (Bool × List Token)
  | [] => []
  | argument :: rest => argument.tokens :: Argument.tokensOf rest

end

end ValueObjects
