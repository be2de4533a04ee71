import ValueObjects.Text.Hex
import ValueObjects.Text.Printable

namespace ValueObjects.Text

def codeEscape (c : Char) : List Char :=
  ['\\', 'u', '{'] ++ hex c.toNat ++ ['}']

def escaped (c : Char) : List Char :=
  match c with
  | '\x00' => ['\\', '0']
  | '\t' => ['\\', 't']
  | '\r' => ['\\', 'r']
  | '\n' => ['\\', 'n']
  | '\\' => ['\\', '\\']
  | '"' => ['\\', '"']
  | c => if isPrintable c then [c] else codeEscape c

def quote (text : String) : String :=
  String.ofList ('"' :: text.toList.flatMap escaped ++ ['"'])

/-- The text as a string literal. A null before an octal digit is written in two digits, so that
it is not taken for an octal escape. -/
def literalBody : List Char → List Char
  | [] => []
  | '\x00' :: next :: rest =>
    (if '0' ≤ next && next ≤ '7' then ['\\', 'x', '0', '0'] else ['\\', '0']) ++
      literalBody (next :: rest)
  | c :: rest => escaped c ++ literalBody rest

def quoteLiteral (text : String) : String :=
  String.ofList ('"' :: literalBody text.toList ++ ['"'])

end ValueObjects.Text
