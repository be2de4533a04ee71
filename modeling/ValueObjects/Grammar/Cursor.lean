import ValueObjects.Token.Literal
import ValueObjects.Token
/-!
Readers of token sequences. A reader consumes tokens from the front and records them as it took
them apart: an operator of the grammar is joined inside and free at its end, whatever followed it
in the text.
-/
namespace ValueObjects.Grammar

/-- The tokens to come and those already read, latest first. -/
structure Cursor where
  rest : List Token
  done : List Token

abbrev Reader := StateT Cursor Option

/-! Looking at the tokens to come. -/

/-- Whether the tokens begin with the operator. Its characters are joined; what its last
character is joined to does not matter. -/
def startsWith : List Char → List Token → Bool
  | [], _ => true
  | [mark], .punct c _ :: _ => mark == c
  | mark :: marks, .punct c .joint :: rest => mark == c && startsWith marks rest
  | _, _ => false

def atMark (mark : String) (tokens : List Token) : Bool :=
  startsWith mark.toList tokens

def atWord (word : String) : List Token → Bool
  | .ident name :: _ => name == word
  | _ => false

def reserved : List String := [
  "_", "abstract", "as", "async", "await", "become", "box", "break", "const", "continue", "crate",
  "do", "dyn", "else", "enum", "extern", "false", "final", "fn", "for", "if", "impl", "in", "let",
  "loop", "macro", "match", "mod", "move", "mut", "override", "priv", "pub", "ref", "return",
  "Self", "self", "static", "struct", "super", "trait", "true", "try", "type", "typeof", "unsafe",
  "unsized", "use", "virtual", "where", "while", "yield"]

def atName : List Token → Bool
  | .ident name :: _ => !reserved.contains name
  | _ => false

def atAnyName : List Token → Bool
  | .ident _ :: _ => true
  | _ => false

def atLifetime : List Token → Bool
  | .punct '\'' .joint :: .ident _ :: _ => true
  | _ => false

def atGroup (delimiter : Delimiter) : List Token → Bool
  | .group d _ :: _ => d == delimiter
  | _ => false

/-- Whether a literal can be negated: only numerals can. -/
def isNumeral (text : String) : Bool :=
  match text.toList with
  | c :: _ => c.isDigit
  | [] => false

/-- Whether a literal follows: a token of its own, a truth value or a negated numeral. -/
def atLiteral : List Token → Bool
  | .literal _ :: _ => true
  | .ident name :: _ => name == "true" || name == "false"
  | .punct '-' _ :: .literal text :: _ => isNumeral text
  | _ => false

def literalKind (text : String) : Literal.Kind :=
  Literal.kind text.toList

def atLiteralOf (kind : Literal.Kind) : List Token → Bool
  | .literal text :: _ => literalKind text == kind
  | _ => false

def atPathWord (tokens : List Token) : Bool :=
  atWord "self" tokens || atWord "Self" tokens || atWord "super" tokens || atWord "crate" tokens

/-- The tokens after the next one; a lifetime counts as one. -/
def skip : List Token → List Token
  | .punct '\'' .joint :: .ident _ :: rest => rest
  | _ :: rest => rest
  | [] => []

/-! Reading. -/

def fail : Reader α := fun _ => none

def upcoming : Reader (List Token) := do
  return (← get).rest

def consume (tokens rest : List Token) : Reader Unit :=
  modify fun cursor => { rest := rest, done := tokens.reverse ++ cursor.done }

def require (test : List Token → Bool) : Reader Unit := do
  if test (← upcoming) then return () else fail

def mark (text : String) : Reader Unit := do
  let rest ← upcoming
  if atMark text rest then
    consume (Token.operator text.toList) (rest.drop text.length)
  else fail

def mark? (text : String) : Reader Bool := do
  if atMark text (← upcoming) then
    mark text
    return true
  else return false

def word (text : String) : Reader Unit := do
  match ← upcoming with
  | .ident name :: rest => if name == text then consume [.ident name] rest else fail
  | _ => fail

def word? (text : String) : Reader Bool := do
  if atWord text (← upcoming) then
    word text
    return true
  else return false

def anyName : Reader String := do
  match ← upcoming with
  | .ident name :: rest =>
    consume [.ident name] rest
    return name
  | _ => fail

def name : Reader String := do
  require atName
  anyName

def lifetime : Reader String := do
  match ← upcoming with
  | .punct '\'' .joint :: .ident name :: rest =>
    consume (Token.lifetime name) rest
    return name
  | _ => fail

def lifetime? : Reader (Option String) := do
  if atLifetime (← upcoming) then return some (← lifetime) else return none

/-- Reads a literal, a truth value or a negated numeral; gives the text of a literal that is a
token of its own. -/
def literal : Reader (Option String) := do
  match ← upcoming with
  | .literal text :: rest =>
    consume [.literal text] rest
    return some text
  | .ident name :: rest =>
    if name == "true" || name == "false" then
      consume [.ident name] rest
      return none
    else fail
  | .punct '-' _ :: .literal text :: rest =>
    if isNumeral text then
      consume [.punct '-' .alone, .literal text] rest
      return none
    else fail
  | _ => fail

def literalOf (kind : Literal.Kind) : Reader String := do
  match ← upcoming with
  | .literal text :: rest =>
    if literalKind text == kind then
      consume [.literal text] rest
      return text
    else fail
  | _ => fail

/-- Reads a group whose body the reader takes to its end. -/
def inside (delimiter : Delimiter) (body : Reader α) : Reader α := do
  match ← upcoming with
  | .group d tokens :: rest =>
    if d == delimiter then
      match body ⟨tokens, []⟩ with
      | some (result, ⟨[], done⟩) =>
        consume [.group d done.reverse] rest
        return result
      | _ => fail
    else fail
  | _ => fail

def anyGroup : Reader (Delimiter × List Token) := do
  match ← upcoming with
  | .group delimiter tokens :: rest =>
    consume [.group delimiter tokens] rest
    return (delimiter, tokens)
  | _ => fail

/-- Leaves the cursor where it was if the reader fails. -/
def attempt (reader : Reader α) : Reader (Option α) := fun cursor =>
  match reader cursor with
  | some (result, after) => some (some result, after)
  | none => some (none, cursor)

def captured (reader : Reader α) : Reader (α × List Token) := fun cursor =>
  match reader ⟨cursor.rest, []⟩ with
  | some (result, after) =>
    some ((result, after.done.reverse), ⟨after.rest, after.done ++ cursor.done⟩)
  | none => none

/-- Tells what a reader would give, without moving. -/
def ahead (reader : Reader α) : Reader (Option α) := fun cursor =>
  match reader cursor with
  | some (result, _) => some (some result, cursor)
  | none => some (none, cursor)

def atEnd : Reader Bool := do
  return (← upcoming).isEmpty

def loop (step : Reader (Option α)) : Nat → Reader (List α)
  | 0 => fail
  | fuel + 1 => do
    match ← step with
    | some result => return result :: (← loop step fuel)
    | none => return []

/-- Runs the step until it gives nothing. Each step that gives something consumes a token. -/
def collect (step : Reader (Option α)) : Reader (List α) := do
  loop step ((← upcoming).length + 1)

def collectWhile (test : List Token → Bool) (reader : Reader α) : Reader (List α) :=
  collect do
    if test (← upcoming) then return some (← reader) else return none

def collectAll (reader : Reader α) : Reader (List α) :=
  collectWhile (fun tokens => !tokens.isEmpty) reader

/-- Reads elements separated by the operator until the test holds where an element or the
operator could follow; tells whether the operator came last. -/
def separated (operator : String) (stop : List Token → Bool) (elem : Reader α) :
    Reader (List α × Bool) := do
  let pairs ← collect do
    if stop (← upcoming) then return none
    let result ← elem
    if stop (← upcoming) then return some (result, false)
    mark operator
    return some (result, true)
  let trailing := match pairs.getLast? with
    | some (_, trailing) => trailing
    | none => false
  return (pairs.map (·.1), trailing)

/-- Reads elements for as long as the operator follows each, and ends early where the test holds
after an operator; at most `fuel` elements. -/
def seriesUpTo (operator : String) (stop : List Token → Bool) (elem : Reader α) :
    Nat → Reader (List α)
  | 0 => fail
  | fuel + 1 => do
    if stop (← upcoming) then return []
    let first ← elem
    if ← mark? operator then
      return first :: (← seriesUpTo operator stop elem fuel)
    else
      return [first]

/-- Reads elements for as long as the operator follows each; the test may end the series after an
operator or before the first element. -/
def series (operator : String) (stop : List Token → Bool) (elem : Reader α) :
    Reader (List α) := do
  seriesUpTo operator stop elem ((← upcoming).length + 1)

def commaList (elem : Reader α) : Reader (List α × Bool) :=
  separated "," List.isEmpty elem

def complete (reader : Reader α) (tokens : List Token) : Option α :=
  match reader ⟨tokens, []⟩ with
  | some (result, ⟨[], _⟩) => some result
  | _ => none

end ValueObjects.Grammar
