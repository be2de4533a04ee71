import ValueObjects.Number.Binary

namespace ValueObjects.Number

/-- A numeral as it is written: `digits * 10 ^ exponent`. -/
structure Numeral where
  digits : List Char
  exponent : Int

namespace Numeral

/-- Exponents from here on are not read to their last digit; they are beyond all ranges. -/
def exponentLimit : Nat := 0x10000

def ofExponentDigits (digits : List Char) : Nat :=
  digits.foldl (fun n c => if n < exponentLimit then 10 * n + (c.toNat - '0'.toNat) else n) 0

def exponent? : List Char → Option Int
  | [] => some 0
  | mark :: rest =>
    let (negative, digits) := signed rest
    if (mark == 'e' || mark == 'E') && !digits.isEmpty && digits.all Char.isDigit then
      some (if negative then -(ofExponentDigits digits : Int) else ofExponentDigits digits)
    else none

/-- Reads a numeral without a sign: digits with at most one point among them, and an exponent. -/
def read? (text : List Char) : Option Numeral := do
  let (whole, rest) := leadingDigits text
  let (decimals, rest) := match rest with
    | '.' :: rest => leadingDigits rest
    | _ => ([], rest)
  if whole.isEmpty && decimals.isEmpty then none
  let exponent ← exponent? rest
  return ⟨whole ++ decimals, exponent - decimals.length⟩

end Numeral

namespace Binary

variable {precision : Precision}

/-- A power of ten beyond which there is no number but zero and infinity. -/
def decimalLimit : Int := 400

def ofNumeral (precision : Precision) (negative : Bool) (numeral : Numeral) : Binary precision :=
  let n := ofDigits numeral.digits
  let size : Int := (digits n).length + numeral.exponent
  if n = 0 || size < -decimalLimit then .finite negative 0 precision.least
  else if decimalLimit < size then .infinite negative
  else ofRatio precision negative (n * Nat.pow 10 numeral.exponent.toNat)
    (Nat.pow 10 (-numeral.exponent).toNat)

def ofWord? (negative : Bool) (text : List Char) : Option (Binary precision) :=
  let word := text.map Char.toLower
  if word == "inf".toList || word == "infinity".toList then some (.infinite negative)
  else if word == "nan".toList then some .notANumber
  else none

def read? (precision : Precision) (text : List Char) : Option (Binary precision) :=
  let (negative, rest) := signed text
  match Numeral.read? rest with
  | some numeral => some (ofNumeral precision negative numeral)
  | none => ofWord? negative rest

end Binary

end ValueObjects.Number
