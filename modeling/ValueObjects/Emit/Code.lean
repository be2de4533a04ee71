import ValueObjects.Token
import ValueObjects.Text.Quoted
/-!
Source code in pieces: fixed text is cut into tokens where it stands, and tokens made elsewhere go
in between. Brackets are written as groups.
-/
namespace ValueObjects.Emit

inductive Piece where
  | text (text : String)
  | tokens (tokens : List Token)

instance : Coe String Piece := ⟨.text⟩

instance : Coe (List Token) Piece := ⟨.tokens⟩

/-- The operators of more than one character, longer before shorter. -/
def longOperators : List (List Char) :=
  ["...", "..=", "<<=", ">>=", "::", "->", "=>", "==", "!=", "<=", ">=", "&&", "||", "<<", ">>",
    "..", "+=", "-=", "*=", "/="].map String.toList

def isWordChar (c : Char) : Bool :=
  c.isAlphanum || c == '_'

/-- Cuts fixed text into tokens. An operator is as long as it can be. -/
def cut : Nat → List Char → List Token
  | 0, _ => []
  | _, [] => []
  | fuel + 1, c :: rest =>
    if c == ' ' then cut fuel rest
    else if isWordChar c then
      let name := String.ofList (c :: rest.takeWhile isWordChar)
      .ident name :: cut fuel (rest.dropWhile isWordChar)
    else if c == '\'' then
      Token.lifetime (String.ofList (rest.takeWhile isWordChar)) ++
        cut fuel (rest.dropWhile isWordChar)
    else
      match longOperators.find? (·.isPrefixOf (c :: rest)) with
      | some operator => Token.operator operator ++ cut fuel ((c :: rest).drop operator.length)
      | none => .punct c .alone :: cut fuel rest

def phrase (text : String) : List Token :=
  cut (text.length + 1) text.toList

def Piece.code : Piece → List Token
  | .text fixed => phrase fixed
  | .tokens made => made

def code (pieces : List Piece) : List Token :=
  pieces.flatMap Piece.code

def parens (pieces : List Piece) : List Token :=
  [.group .parenthesis (code pieces)]

def braces (pieces : List Piece) : List Token :=
  [.group .brace (code pieces)]

def brackets (pieces : List Piece) : List Token :=
  [.group .bracket (code pieces)]

def stringLiteral (text : String) : List Token :=
  [.literal (Text.quoteLiteral text)]

def documented (text : String) : List Token :=
  code ["#", brackets ["doc =", stringLiteral text]]

def inlined : List Token :=
  code ["#", brackets ["inline"]]

end ValueObjects.Emit
