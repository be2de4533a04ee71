import ValueObjects.Text.Hex
import ValueObjects.Text.Identifier

namespace ValueObjects.Literal

open Text

def word? : List Char → Option (List Char)
  | c :: rest => if isIdentStart c then some (rest.dropWhile isIdentContinue) else none
  | [] => none

/-- A literal may end in a word that names its type. -/
def pastSuffix (text : List Char) : List Char :=
  (word? text).getD text

inductive Alphabet where
  | unicode
  | ascii
  | nonzero
  deriving DecidableEq

def Alphabet.admits : Alphabet → Char → Bool
  | .unicode, _ => true
  | .ascii, c => c.toNat < 128
  | .nonzero, c => c != '\x00'

/-- The code of a `\x` escape: two digits, and the escape's value is restricted by the alphabet. -/
def byteEscape? (alphabet : Alphabet) : List Char → Option (Nat × List Char)
  | high :: low :: rest =>
    let code := 16 * hexValue high + hexValue low
    let fits := match alphabet with
      | .unicode => code < 128
      | .ascii => true
      | .nonzero => code != 0
    if isHexDigit high && isHexDigit low && fits then some (code, rest) else none
  | _ => none

/-- The digits of a `\u` escape up to its closing brace: one to six, underscores between them. -/
def codeDigits? (code count : Nat) : List Char → Option (Nat × List Char)
  | c :: rest =>
    if isHexDigit c then
      if count = 6 then none else codeDigits? (16 * code + hexValue c) (count + 1) rest
    else if c == '_' && count > 0 then codeDigits? code count rest
    else if c == '\x7d' && count > 0 && code.isValidChar then some (code, rest)
    else none
  | [] => none

def codeEscape? : List Char → Option (Nat × List Char)
  | '\x7b' :: rest => codeDigits? 0 0 rest
  | _ => none

/-- After a backslash at a line's end the blanks that follow are left out; another character has
to come. -/
def pastBlanks? : List Char → Option (List Char)
  | '\r' :: '\n' :: rest => pastBlanks? rest
  | ' ' :: rest => pastBlanks? rest
  | '\t' :: rest => pastBlanks? rest
  | '\n' :: rest => pastBlanks? rest
  | '\r' :: _ => none
  | [] => none
  | rest => some rest

def quotedChar? (alphabet : Alphabet) : List Char → Option (Option Char × List Char)
  | '\r' :: '\n' :: rest => some (some '\n', rest)
  | '\r' :: _ => none
  | '\\' :: 'x' :: rest =>
    (byteEscape? alphabet rest).map fun (code, rest) => (some (Char.ofNat code), rest)
  | '\\' :: 'u' :: rest =>
    if alphabet == .ascii then none
    else match codeEscape? rest with
      | some (code, rest) =>
        if alphabet == .nonzero && code == 0 then none else some (some (Char.ofNat code), rest)
      | none => none
  | '\\' :: 'n' :: rest => some (some '\n', rest)
  | '\\' :: 'r' :: rest => some (some '\r', rest)
  | '\\' :: 't' :: rest => some (some '\t', rest)
  | '\\' :: '\\' :: rest => some (some '\\', rest)
  | '\\' :: '\'' :: rest => some (some '\'', rest)
  | '\\' :: '"' :: rest => some (some '"', rest)
  | '\\' :: '0' :: rest => if alphabet == .nonzero then none else some (some '\x00', rest)
  | '\\' :: '\n' :: rest => (pastBlanks? rest).map fun rest => (none, rest)
  | '\\' :: '\r' :: '\n' :: rest => (pastBlanks? rest).map fun rest => (none, rest)
  | '\\' :: _ => none
  | c :: rest => if alphabet.admits c then some (some c, rest) else none
  | [] => none

def quoted? (alphabet : Alphabet) : Nat → List Char → Option (List Char × List Char)
  | 0, _ => none
  | _ + 1, '"' :: rest => some ([], rest)
  | fuel + 1, text =>
    match quotedChar? alphabet text with
    | some (some c, rest) => (quoted? alphabet fuel rest).map fun (cs, rest) => (c :: cs, rest)
    | some (none, rest) => quoted? alphabet fuel rest
    | none => none

def rawBody? (alphabet : Alphabet) (delimiter : List Char) :
    List Char → Option (List Char × List Char)
  | '\r' :: '\n' :: rest =>
    (rawBody? alphabet delimiter rest).map fun (cs, rest) => ('\r' :: '\n' :: cs, rest)
  | '\r' :: _ => none
  | c :: rest =>
    match if c == '"' then delimiter.isPrefixOf? rest else none with
    | some rest => some ([], rest)
    | none =>
      if alphabet.admits c then
        (rawBody? alphabet delimiter rest).map fun (cs, rest) => (c :: cs, rest)
      else none
  | [] => none

/-- A raw text after its letter: up to 255 number signs, and the text between double quotes. -/
def raw? (alphabet : Alphabet) (text : List Char) : Option (List Char × List Char) :=
  let delimiter := text.takeWhile (· == '#')
  match text.dropWhile (· == '#') with
  | '"' :: rest => if delimiter.length ≤ 255 then rawBody? alphabet delimiter rest else none
  | _ => none

def textual? : List Char → Option (List Char × List Char)
  | '"' :: rest => quoted? .unicode (rest.length + 1) rest
  | 'r' :: rest => raw? .unicode rest
  | 'b' :: '"' :: rest => quoted? .ascii (rest.length + 1) rest
  | 'b' :: 'r' :: rest => raw? .ascii rest
  | 'c' :: '"' :: rest => quoted? .nonzero (rest.length + 1) rest
  | 'c' :: 'r' :: rest => raw? .nonzero rest
  | _ => none

/-- One character between apostrophes; of a byte it is a plain ASCII character or escape. -/
def character? (alphabet : Alphabet) (text : List Char) : Option (List Char) :=
  let inner := match text with
    | '\\' :: '\n' :: _ => none
    | '\\' :: '\r' :: _ => none
    | '\\' :: _ => (quotedChar? alphabet text).map (·.2)
    | c :: rest => if alphabet == .ascii && c.toNat ≥ 128 then none else some rest
    | [] => none
  match inner with
  | some ('\'' :: rest) => some rest
  | _ => none

/-- Digits and underscores, and one point that no further point or word follows. -/
def mantissa? (point : Bool) : List Char → Option (Bool × List Char)
  | '.' :: rest =>
    if point then some (point, '.' :: rest)
    else match rest with
      | c :: _ => if c == '.' || isIdentStart c then none else mantissa? true rest
      | [] => some (true, rest)
  | c :: rest => if c.isDigit || c == '_' then mantissa? point rest else some (point, c :: rest)
  | [] => some (point, [])

/-- The exponent after its letter: an optional sign, underscores, and at least one digit. -/
def exponent? (signed digits : Bool) : List Char → Option (List Char)
  | c :: rest =>
    if c == '+' || c == '-' then
      if digits then some (c :: rest) else if signed then none else exponent? true digits rest
    else if c.isDigit then exponent? signed true rest
    else if c == '_' then exponent? signed digits rest
    else if digits then some (c :: rest) else none
  | [] => if digits then some [] else none

def float? : List Char → Option (List Char)
  | first :: text =>
    if !first.isDigit then none
    else match mantissa? false text with
      | some (point, rest) =>
        match rest with
        | e :: after =>
          if e == 'e' || e == 'E' then
            match exponent? false false after with
            | some rest => some rest
            | none => if point then some (e :: after) else none
          else if point then some rest else none
        | [] => if point then some [] else none
      | none => none
  | [] => none

def digits? (base : Nat) (empty : Bool) : List Char → Option (List Char)
  | c :: rest =>
    if c.isDigit then
      if hexValue c ≥ base then none else digits? base false rest
    else if isHexDigit c then
      if hexValue c ≥ base then (if empty then none else some (c :: rest))
      else digits? base false rest
    else if c == '_' then
      if empty && base = 10 then none else digits? base empty rest
    else if empty then none else some (c :: rest)
  | [] => if empty then none else some []

def whole? : List Char → Option (List Char)
  | '0' :: 'x' :: rest => digits? 16 true rest
  | '0' :: 'o' :: rest => digits? 8 true rest
  | '0' :: 'b' :: rest => digits? 2 true rest
  | text => digits? 10 true text

def closed? (rest : List Char) : Option (List Char) :=
  let rest := pastSuffix rest
  match rest with
  | c :: _ => if isIdentContinue c then none else some rest
  | [] => some rest

def scan? (text : List Char) : Option (List Char) :=
  ((textual? text).map fun (_, rest) => pastSuffix rest) <|>
  ((['b', '\''].isPrefixOf? text).bind fun rest => (character? .ascii rest).map pastSuffix) <|>
  ((['\''].isPrefixOf? text).bind fun rest => (character? .unicode rest).map pastSuffix) <|>
  ((float? text).bind closed?) <|>
  ((whole? text).bind closed?)

/-- What a literal denotes, as far as its first characters tell. -/
inductive Kind where
  | string
  | whole
  | float
  | other
  deriving DecidableEq

def startsExponent (text : List Char) : Bool :=
  match text.dropWhile (· == '_') with
  | c :: _ => c.isDigit || c == '+' || c == '-'
  | [] => false

def kind : List Char → Kind
  | '"' :: _ => .string
  | 'r' :: _ => .string
  | '0' :: 'x' :: _ => .whole
  | '0' :: 'o' :: _ => .whole
  | '0' :: 'b' :: _ => .whole
  | c :: rest =>
    if !c.isDigit then .other
    else match rest.dropWhile fun c => c.isDigit || c == '_' with
      | '.' :: _ => .float
      | 'e' :: rest => if startsExponent rest then .float else .whole
      | 'E' :: rest => if startsExponent rest then .float else .whole
      | _ => .whole
  | [] => .other

def stringValue? (text : List Char) : Option (List Char) :=
  if kind text = .string then (textual? text).map (·.1) else none

def decimalParts (text : List Char) : List Char × List Char :=
  let isPart := fun c : Char => c.isDigit || c == '_'
  ((text.takeWhile isPart).filter Char.isDigit, text.dropWhile isPart)

end ValueObjects.Literal
