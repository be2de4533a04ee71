namespace ValueObjects

inductive Spacing where
  | alone
  | joint
  deriving DecidableEq, Repr

inductive Delimiter where
  | parenthesis
  | bracket
  | brace
  deriving DecidableEq, Repr

/-- A token. A literal and an identifier are kept as they are written; the brackets of a group
enclose its body. -/
inductive Token where
  | ident (name : String)
  | punct (mark : Char) (spacing : Spacing)
  | literal (text : String)
  | group (delimiter : Delimiter) (body : List Token)
  deriving Repr, Inhabited

namespace Token

def size : Token → Nat
  | .group _ body => 1 + sizes body
  | _ => 1
where
  sizes : List Token → Nat
    | [] => 0
    | token :: rest => size token + sizes rest

/-- Whether nothing may stand between this token and the next. -/
def isJoint : Token → Bool
  | .punct _ .joint => true
  | _ => false

/-- The characters of an operator, joined inside and free at the end. -/
def operator : List Char → List Token
  | [] => []
  | [mark] => [.punct mark .alone]
  | mark :: rest => .punct mark .joint :: operator rest

def lifetime (name : String) : List Token :=
  [.punct '\'' .joint, .ident name]

end Token

end ValueObjects
