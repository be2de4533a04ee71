import ValueObjects.Number.Decimal
import ValueObjects.Number.Integer

namespace ValueObjects.Number.Decimal

/-- What has been read of a number: its digits so far, how many of them are decimals, whether its
point and a digit have been seen. -/
structure Progress where
  mantissa : Nat := 0
  scale : Nat := 0
  point : Bool := false
  hasDigit : Bool := false
  deriving DecidableEq, Repr

namespace Progress

/-- The mantissas that take up more than one word when they go on. -/
def wordLimit : Nat := (Nat.pow 2 64 - 1) / 10 - 255

def push (progress : Progress) (digit : Nat) : Progress :=
  { progress with
    mantissa := 10 * progress.mantissa + digit
    scale := if progress.point then progress.scale + 1 else 0
    hasDigit := true }

/-- The mantissa rounded up; it gives up a decimal if there is no room. -/
def up? (mantissa scale : Nat) : Option (Nat × Nat) :=
  if mantissa + 1 < mantissaLimit then some (mantissa + 1, scale)
  else match scale with
    | 0 => none
    | scale + 1 => some ((mantissa + 5) / 10, scale)

/-- Whether a character may stand behind the digits that there is room for. -/
def trails (c : Char) : Bool :=
  c.isDigit || c == '.' || c == '_'

/-- Rounds by the character after the last digit that there is room for. No other characters may
follow than within a number. -/
def round? (progress : Progress) (next : Char) (rest : List Char) : Option (Nat × Nat) :=
  if !(next :: rest).all trails then none
  else if next.isDigit && 5 ≤ next.toNat - '0'.toNat then up? progress.mantissa progress.scale
  else some (progress.mantissa, progress.scale)

def isFull (progress : Progress) : Bool :=
  progress.point && maxScale ≤ progress.scale

end Progress

open Progress

/-- Reads on through digits, one point, and underscores after the first digit. Once there is no
room for a digit, the number is rounded; the order of what follows is not looked at. -/
def readDigits? (progress : Progress) : List Char → Option (Nat × Nat)
  | [] => if progress.hasDigit then some (progress.mantissa, progress.scale) else none
  | c :: rest =>
    let wide := wordLimit ≤ progress.mantissa
    if c.isDigit then
      let after := progress.push (c.toNat - '0'.toNat)
      if progress.isFull then progress.round? c rest
      else if mantissaLimit ≤ after.mantissa then
        if progress.point then progress.round? c rest else none
      else readDigits? after rest
    else if progress.isFull && !(wide && c == '_') then progress.round? c rest
    else if c == '.' && !progress.point then readDigits? { progress with point := true } rest
    else if c == '_' && progress.hasDigit then readDigits? progress rest
    else none

def plain? (text : List Char) : Option Decimal := do
  let (negative, rest) := signed text
  let (mantissa, scale) ← readDigits? {} rest
  unsignedZero? negative mantissa scale

def cutExponent? : List Char → Option (List Char × List Char)
  | [] => none
  | c :: rest =>
    if c == 'e' || c == 'E' then some ([], rest)
    else (cutExponent? rest).map fun (before, after) => (c :: before, after)

def exponentValue? (text : List Char) : Option Nat :=
  (Integer.read? ⟨false, 32⟩ text).map fun n => n.val.toNat

/-- The number times a power of ten, which takes decimals away before it adds zeros. -/
def raise? (a : Decimal) (exponent : Nat) : Option Decimal :=
  if exponent ≤ a.scale then ofParts? a.negative a.mantissa (a.scale - exponent)
  else if maxScale < exponent then none
  else unsignedZero? a.negative (a.mantissa * Nat.pow 10 (exponent - a.scale)) 0

def scientific? (text : List Char) : Option Decimal := do
  let (before, after) ← cutExponent? text
  let base ← plain? before
  match after with
  | '-' :: digits =>
    let exponent ← exponentValue? digits
    ofParts? base.negative base.mantissa (base.scale + exponent)
  | digits => raise? base (← exponentValue? digits)

def read? (text : List Char) : Option Decimal :=
  plain? text <|> scientific? text

end ValueObjects.Number.Decimal
