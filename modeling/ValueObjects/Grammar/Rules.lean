import ValueObjects.Declaration
import ValueObjects.Grammar.Cursor
/-!
The readers that the grammar's parts use of each other. Each part is written over these; tying
them together gives the grammar.
-/
namespace ValueObjects.Grammar

/-- How tightly an operator binds, loosest first. -/
inductive Precedence where
  | lowest
  | assign
  | range
  | or
  | and
  | binding
  | compare
  | bitOr
  | bitXor
  | bitAnd
  | shift
  | sum
  | product
  | cast
  deriving DecidableEq

def Precedence.rank : Precedence → Nat
  | .lowest => 0
  | .assign => 1
  | .range => 2
  | .or => 3
  | .and => 4
  | .binding => 5
  | .compare => 6
  | .bitOr => 7
  | .bitXor => 8
  | .bitAnd => 9
  | .shift => 10
  | .sum => 11
  | .product => 12
  | .cast => 13

inductive ExprKind where
  | range
  | comparison
  /-- A block, a loop, a branch: a statement of its own. -/
  | block
  /-- A macro call; `braced` if its arguments stand between braces. -/
  | call (braced : Bool)
  | other
  deriving DecidableEq

/-- An expression; `closing` if it ends in a brace. A single literal keeps its text. -/
structure Expr where
  kind : ExprKind
  closing : Bool
  literal : Option String

namespace Expr

def plain : Expr := ⟨.other, false, none⟩

def endingIn (last : Expr) : Expr := ⟨.other, last.closing, none⟩

def block : Expr := ⟨.block, true, none⟩

def needsSemicolon (expr : Expr) : Bool :=
  match expr.kind with
  | .block => false
  | .call braced => !braced
  | _ => true

def needsComma (expr : Expr) : Bool :=
  expr.kind != .block

end Expr

/-- What the grammar asks of a pattern: whether it is a range without one of its ends. -/
structure Pattern where
  isOpenRange : Bool

structure Rules where
  /-- A type; with `true`, bounds may be added to it. -/
  type : Bool → Reader Ty
  /-- One bound of a type; with `true`, it may list what an abstract type captures. Tells whether
  it is a trait. -/
  bound : Bool → Reader Bool
  /-- An expression; with `true`, a structure may be built in it. -/
  expr : Bool → Reader Expr
  unary : Bool → Reader Expr
  /-- What follows an operand, as far as it binds at least as tightly as given. -/
  climb : Expr → Bool → Precedence → Reader Expr
  boundary : Reader Expr
  /-- A pattern without alternatives. -/
  pattern : Reader Pattern
  statements : Reader Unit
  /-- A declaration after its attributes. -/
  item : List Attribute → Reader Item
  /-- What a `use` declaration names; with `true`, from the root. Tells whether a root is
  named inside. -/
  useTree : Bool → Reader Bool

end ValueObjects.Grammar
