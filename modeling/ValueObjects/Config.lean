import ValueObjects.Text.Hex

namespace ValueObjects

/-- Which adapters are generated; both unless the configuration says otherwise. -/
structure Config where
  document : Bool := true
  relational : Bool := true
  deriving DecidableEq, Repr

namespace Config

inductive Adapter where
  | document
  | relational
  deriving DecidableEq, Repr

def Adapter.key : Adapter → String
  | .document => "generate_document_store_adapter"
  | .relational => "generate_relational_adapter"

def adapter? (key : List Char) : Option Adapter :=
  [Adapter.document, .relational].find? (·.key.toList == key)

def set (config : Config) : Adapter → Bool → Config
  | .document, value => { config with document := value }
  | .relational, value => { config with relational := value }

def isSpace (c : Char) : Bool :=
  c == ' ' || c == '\t'

def skipSpaces (text : List Char) : List Char :=
  text.dropWhile isSpace

/-- Whether `c` may stand in a comment or a quoted key. -/
def isVisible (c : Char) : Bool :=
  c == '\t' || (0x20 ≤ c.toNat && c.toNat != 0x7f)

def isBareKeyChar (c : Char) : Bool :=
  c.isAlphanum || c == '_' || c == '-'

def code? (value : Nat) : Nat → List Char → Option (Char × List Char)
  | 0, rest => if value.isValidChar then some (Char.ofNat value, rest) else none
  | count + 1, c :: rest =>
    match Text.hexDigit? c with
    | some digit => code? (16 * value + digit) count rest
    | none => none
  | _ + 1, [] => none

def escape? : List Char → Option (Char × List Char)
  | 'b' :: rest => some ('\x08', rest)
  | 'e' :: rest => some ('\x1b', rest)
  | 't' :: rest => some ('\t', rest)
  | 'n' :: rest => some ('\n', rest)
  | 'f' :: rest => some ('\x0c', rest)
  | 'r' :: rest => some ('\r', rest)
  | '"' :: rest => some ('"', rest)
  | '\\' :: rest => some ('\\', rest)
  | 'x' :: rest => code? 0 2 rest
  | 'u' :: rest => code? 0 4 rest
  | 'U' :: rest => code? 0 8 rest
  | _ => none

def quotedKey? : Nat → List Char → Option (List Char × List Char)
  | 0, _ => none
  | _ + 1, [] => none
  | _ + 1, '"' :: rest => some ([], rest)
  | fuel + 1, '\\' :: rest =>
    match escape? rest with
    | some (c, rest) => (quotedKey? fuel rest).map fun (cs, rest) => (c :: cs, rest)
    | none => none
  | fuel + 1, c :: rest =>
    if isVisible c then (quotedKey? fuel rest).map fun (cs, rest) => (c :: cs, rest) else none

def literalKey? : List Char → Option (List Char × List Char)
  | [] => none
  | '\'' :: rest => some ([], rest)
  | c :: rest =>
    if isVisible c then (literalKey? rest).map fun (cs, rest) => (c :: cs, rest) else none

def key? : List Char → Option (List Char × List Char)
  | '"' :: rest => quotedKey? (rest.length + 1) rest
  | '\'' :: rest => literalKey? rest
  | text => some (text.takeWhile isBareKeyChar, text.dropWhile isBareKeyChar)

def isLineEnd (text : List Char) : Bool :=
  match skipSpaces text with
  | [] => true
  | '#' :: rest => rest.all isVisible
  | _ => false

def flag? (text : List Char) : Option Bool :=
  match "true".toList.isPrefixOf? text with
  | some rest => if isLineEnd rest then some true else none
  | none =>
    match "false".toList.isPrefixOf? text with
    | some rest => if isLineEnd rest then some false else none
    | none => none

def setting? (line : List Char) : Option (Adapter × Bool) :=
  match key? (skipSpaces line) with
  | some (key, rest) =>
    match adapter? key, skipSpaces rest with
    | some adapter, '=' :: rest => (flag? (skipSpaces rest)).map (adapter, ·)
    | _, _ => none
  | none => none

/-- The lines of a text; a carriage return belongs to the line feed after it. -/
def lines : List Char → List (List Char)
  | [] => [[]]
  | '\r' :: '\n' :: rest => [] :: lines rest
  | '\n' :: rest => [] :: lines rest
  | c :: rest =>
    match lines rest with
    | [] => [[c]]
    | line :: more => (c :: line) :: more

/-- Sets the switches of the lines one after another; no switch is set twice. -/
def applyLines (config : Config) (seen : List Adapter) : List (List Char) → Option Config
  | [] => some config
  | line :: rest =>
    if isLineEnd line then applyLines config seen rest
    else match setting? line with
      | some (adapter, value) =>
        if seen.contains adapter then none
        else applyLines (config.set adapter value) (adapter :: seen) rest
      | none => none

/-- The configuration that a text gives: each line is blank, a comment, or sets one switch. -/
def ofText? (text : String) : Option Config :=
  let chars := match text.toList with
    | '\ufeff' :: rest => rest
    | chars => chars
  applyLines {} [] (lines chars)

end Config

end ValueObjects
