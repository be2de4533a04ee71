import ValueObjects.Grammar.Item
import ValueObjects.Token.Lexer

namespace ValueObjects.Grammar

def rules : Nat → Rules
  | 0 => {
      type := fun _ => fail
      bound := fun _ => fail
      expr := fun _ => fail
      unary := fun _ => fail
      climb := fun _ _ _ => fail
      boundary := fail
      pattern := fail
      statements := fail
      item := fun _ => fail
      useTree := fun _ => fail }
  | depth + 1 => {
      type := fun plus => ty (rules depth) plus
      bound := fun capturing => bound (rules depth) capturing
      expr := fun structs => expr (rules depth) structs
      unary := fun structs => unary (rules depth) structs
      climb := fun left structs base => climb (rules depth) left structs base
      boundary := fun cursor => boundaryExpr (rules depth) cursor
      pattern := fun cursor => pattern (rules depth) cursor
      statements := fun cursor => statements (rules depth) cursor
      item := fun attrs => item (rules depth) attrs
      useTree := fun fromRoot => useTree (rules depth) fromRoot }

/-- Recursion deep enough for the tokens. -/
def rulesFor (tokens : List Token) : Rules :=
  rules (16 * (Token.size.sizes tokens + 4))

def read (part : Rules → Reader α) (tokens : List Token) : Option α :=
  complete (part (rulesFor tokens)) tokens

def readText (part : Rules → Reader α) (text : String) : Option α :=
  (Lexer.tokens? text).bind (read part)

def type? (text : String) : Option Ty :=
  readText (fun rules => rules.type true) text

def name? (text : String) : Option String :=
  readText (fun _ => name) text

/-- The declarations of a file, after the attributes that apply to the file. -/
def file (rules : Rules) : Reader (List Item) := do
  let _ ← innerAttributes rules
  collectAll do
    rules.item (← outerAttributes rules)

def items? (tokens : List Token) : Option (List Item) :=
  read file tokens

/-- Leaves out a line that names an interpreter; an attribute is no such line. -/
def pastInterpreter : List Char → List Char
  | '#' :: '!' :: rest =>
    match Lexer.pastGaps (rest.length + 1) rest with
    | '[' :: _ => '#' :: '!' :: rest
    | _ => rest.dropWhile (· != '\n')
  | text => text

def sourceItems? (text : String) : Option (List Item) :=
  let text := pastInterpreter (Lexer.pastOrderMark text.toList)
  (Lexer.tokens? (String.ofList text)).bind items?

end ValueObjects.Grammar
