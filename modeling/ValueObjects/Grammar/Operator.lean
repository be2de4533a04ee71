import ValueObjects.Grammar.Rules

namespace ValueObjects.Grammar

/-- The operators between two operands; of two that begin alike the longer stands first. -/
def binaryOperators : List (String × Precedence) := [
  ("+=", .assign), ("-=", .assign), ("*=", .assign), ("/=", .assign), ("%=", .assign),
  ("^=", .assign), ("&=", .assign), ("|=", .assign), ("<<=", .assign), (">>=", .assign),
  ("&&", .and), ("||", .or), ("<<", .shift), (">>", .shift), ("==", .compare), ("<=", .compare),
  ("!=", .compare), (">=", .compare), ("+", .sum), ("-", .sum), ("*", .product), ("/", .product),
  ("%", .product), ("^", .bitXor), ("&", .bitAnd), ("|", .bitOr), ("<", .compare), (">", .compare)]

def operator? (tokens : List Token) : Option (String × Precedence) :=
  binaryOperators.find? fun (mark, _) => atMark mark tokens

/-- Whether an assignment follows; an arrow or a comparison is none. -/
def atAssign (tokens : List Token) : Bool :=
  atMark "=" tokens && !atMark "==" tokens && !atMark "=>" tokens

def precedenceAt (tokens : List Token) : Precedence :=
  match operator? tokens with
  | some (_, precedence) => precedence
  | none =>
    if atMark "=" tokens && !atMark "=>" tokens then .assign
    else if atMark ".." tokens then .range
    else if atWord "as" tokens then .cast
    else .lowest

def atExpr (tokens : List Token) : Bool :=
  (atAnyName tokens && !atWord "as" tokens) || atGroup .parenthesis tokens ||
  atGroup .bracket tokens || atGroup .brace tokens || atLiteral tokens ||
  (atMark "!" tokens && !atMark "!=" tokens) ||
  (atMark "-" tokens && !atMark "-=" tokens && !atMark "->" tokens) ||
  (atMark "*" tokens && !atMark "*=" tokens) || (atMark "|" tokens && !atMark "|=" tokens) ||
  (atMark "&" tokens && !atMark "&=" tokens) || atMark ".." tokens ||
  (atMark "<" tokens && !atMark "<=" tokens && !atMark "<<=" tokens) || atMark "::" tokens ||
  atLifetime tokens || atMark "#" tokens

/-- Whether a range without an end is over. -/
def atRangeEnd (structs : Bool) (tokens : List Token) : Bool :=
  tokens.isEmpty || (atMark "." tokens && !atMark ".." tokens) ||
  (!structs && atGroup .brace tokens) || atWord "as" tokens ||
  [",", ";", "?", "=>", "=", "+", "/", "%", "^", ">", "<=", "!=", "-=", "*=", "&=", "|=", "<<="].any
    (atMark · tokens)

def atTrailer (tokens : List Token) : Bool :=
  (atMark "." tokens && !atMark ".." tokens) || atMark "?" tokens || atGroup .bracket tokens ||
  atGroup .parenthesis tokens

end ValueObjects.Grammar
