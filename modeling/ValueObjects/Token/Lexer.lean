import ValueObjects.Text.Blank
import ValueObjects.Text.Quoted
import ValueObjects.Token
import ValueObjects.Token.Literal

namespace ValueObjects.Lexer

open Text Literal

inductive Lexeme where
  | leaf (token : Token)
  | opening (delimiter : Delimiter)
  | closing (delimiter : Delimiter)

def line : List Char → List Char × List Char
  | [] => ([], [])
  | '\n' :: rest => ([], '\n' :: rest)
  | '\r' :: '\n' :: rest => ([], '\r' :: '\n' :: rest)
  | c :: rest => let (cs, after) := line rest; (c :: cs, after)

/-- The body of a block comment, in which comments nest, after `depth` openings. -/
def block? (depth : Nat) : List Char → Option (List Char × List Char)
  | '/' :: '*' :: rest =>
    (block? (depth + 1) rest).map fun (cs, after) => ('/' :: '*' :: cs, after)
  | '*' :: '/' :: rest =>
    match depth with
    | 0 => some ([], rest)
    | depth + 1 => (block? depth rest).map fun (cs, after) => ('*' :: '/' :: cs, after)
  | c :: rest => (block? depth rest).map fun (cs, after) => (c :: cs, after)
  | [] => none

/-- Marks that set the direction of text count as blank. -/
def isGap (c : Char) : Bool :=
  isBlank c || c == '\u200e' || c == '\u200f'

/-- A comment that is not documentation, at the head of the text. -/
def pastComment? : List Char → Option (List Char)
  | '/' :: '/' :: '/' :: '/' :: rest => some (line rest).2
  | '/' :: '/' :: '/' :: _ => none
  | '/' :: '/' :: '!' :: _ => none
  | '/' :: '/' :: rest => some (line rest).2
  | '/' :: '*' :: '*' :: '/' :: rest => some rest
  | '/' :: '*' :: '*' :: '*' :: rest => (block? 0 ('*' :: '*' :: rest)).map (·.2)
  | '/' :: '*' :: '*' :: _ => none
  | '/' :: '*' :: '!' :: _ => none
  | '/' :: '*' :: rest => (block? 0 rest).map (·.2)
  | _ => none

def pastGaps : Nat → List Char → List Char
  | 0, text => text
  | fuel + 1, text =>
    match pastComment? text with
    | some rest => pastGaps fuel rest
    | none =>
      match text with
      | c :: rest => if isGap c then pastGaps fuel rest else text
      | [] => []

def returnsPaired : List Char → Bool
  | '\r' :: '\n' :: rest => returnsPaired rest
  | '\r' :: _ => false
  | _ :: rest => returnsPaired rest
  | [] => true

/-- A documentation comment: its text, whether it documents what encloses it, and what follows. -/
def documentation? (text : List Char) : Option (List Char × Bool × List Char) :=
  let found := match text with
    | '/' :: '/' :: '!' :: rest => let (cs, after) := line rest; some (cs, true, after)
    | '/' :: '*' :: '!' :: rest => (block? 0 rest).map fun (cs, after) => (cs, true, after)
    | '/' :: '/' :: '/' :: '/' :: _ => none
    | '/' :: '/' :: '/' :: rest => let (cs, after) := line rest; some (cs, false, after)
    | '/' :: '*' :: '*' :: '*' :: _ => none
    | '/' :: '*' :: '*' :: rest => (block? 0 rest).map fun (cs, after) => (cs, false, after)
    | _ => none
  found.filter fun (cs, _, _) => returnsPaired cs

def documented (body : List Char) (inner : Bool) : List Lexeme :=
  [.leaf (.punct '#' .alone)] ++ (if inner then [.leaf (.punct '!' .alone)] else []) ++
  [.opening .bracket, .leaf (.ident "doc"), .leaf (.punct '=' .alone),
    .leaf (.literal (quoteLiteral (String.ofList body))), .closing .bracket]

def marks : List Char := "~!@#$%^&*-=+|;:,<.>/?'".toList

/-- The operator character at the head of the text, unless a comment begins there. -/
def mark? : List Char → Option (Char × List Char)
  | '/' :: '/' :: _ => none
  | '/' :: '*' :: _ => none
  | c :: rest => if marks.contains c then some (c, rest) else none
  | [] => none

def neverRaw : List String := ["_", "super", "self", "Self", "crate"]

def plainName? : List Char → Option (String × List Char)
  | c :: rest =>
    if isIdentStart c then
      some (String.ofList (c :: rest.takeWhile isIdentContinue), rest.dropWhile isIdentContinue)
    else none
  | [] => none

def name? : List Char → Option (String × List Char)
  | 'r' :: '#' :: rest =>
    match plainName? rest with
    | some (name, after) => if neverRaw.contains name then none else some ("r#" ++ name, after)
    | none => none
  | text => plainName? text

/-- Beginnings of quoted text that are not taken for a word when the quoted text is malformed. -/
def quotedStarts : List (List Char) :=
  ["r\"", "r#\"", "r##", "b\"", "b'", "br\"", "br#", "c\"", "cr\"", "cr#"].map String.toList

def ident? (text : List Char) : Option (Token × List Char) :=
  if quotedStarts.any (·.isPrefixOf text) then none
  else (name? text).map fun (name, rest) => (.ident name, rest)

/-- An operator character. An apostrophe is one only before the word of a lifetime. -/
def punct? (text : List Char) : Option (Token × List Char) :=
  match mark? text with
  | some ('\'', rest) =>
    match name? rest with
    | some (_, after) =>
      let closes := ['\''].isPrefixOf after
      let raw := ['#'].isPrefixOf after && !(['r', '#'].isPrefixOf rest)
      if closes || raw then none else some (.punct '\'' .joint, rest)
    | none => none
  | some (mark, rest) =>
    some (.punct mark (if (mark? rest).isSome then .joint else .alone), rest)
  | none => none

/-- The marker that stands in for tokens that could not be produced. -/
def errorMarker : List Char := "(/*ERROR*/)".toList

def leaf? (text : List Char) : Option (Token × List Char) :=
  match scan? text with
  | some rest => some (.literal (String.ofList (text.take (text.length - rest.length))), rest)
  | none =>
    (punct? text) <|> (ident? text) <|>
    ((errorMarker.isPrefixOf? text).map fun rest => (.literal (String.ofList errorMarker), rest))

def bracket? (text : List Char) : Option (Lexeme × List Char) :=
  match text with
  | '(' :: rest =>
    if errorMarker.isPrefixOf text then none else some (.opening .parenthesis, rest)
  | '[' :: rest => some (.opening .bracket, rest)
  | '\x7b' :: rest => some (.opening .brace, rest)
  | ')' :: rest => some (.closing .parenthesis, rest)
  | ']' :: rest => some (.closing .bracket, rest)
  | '\x7d' :: rest => some (.closing .brace, rest)
  | _ => none

def lexemes : Nat → List Char → Option (List Lexeme)
  | 0, _ => none
  | fuel + 1, text =>
    let text := pastGaps (fuel + 1) text
    match documentation? text with
    | some (body, inner, rest) => (lexemes fuel rest).map (documented body inner ++ ·)
    | none =>
      if text.isEmpty then some []
      else match bracket? text with
        | some (lexeme, rest) => (lexemes fuel rest).map (lexeme :: ·)
        | none =>
          match leaf? text with
          | some (token, rest) => (lexemes fuel rest).map (.leaf token :: ·)
          | none => none

/-- Matches brackets. `groups` holds the groups still open, innermost first, each with the tokens
read before it; `tokens` are those of the innermost, latest first. -/
def assemble (groups : List (Delimiter × List Token)) (tokens : List Token) :
    List Lexeme → Option (List Token)
  | [] => if groups.isEmpty then some tokens.reverse else none
  | .leaf token :: rest => assemble groups (token :: tokens) rest
  | .opening delimiter :: rest => assemble ((delimiter, tokens) :: groups) [] rest
  | .closing delimiter :: rest =>
    match groups with
    | (opened, before) :: groups =>
      if opened = delimiter then
        assemble groups (.group delimiter tokens.reverse :: before) rest
      else none
    | [] => none

def pastOrderMark : List Char → List Char
  | '\ufeff' :: rest => rest
  | text => text

def tokens? (text : String) : Option (List Token) :=
  let text := pastOrderMark text.toList
  (lexemes (text.length + 1) text).bind (assemble [] [])

end ValueObjects.Lexer
