namespace ValueObjects.Text

def hexDigit? (c : Char) : Option Nat :=
  if c.isDigit then some (c.toNat - '0'.toNat)
  else if 'a' ≤ c && c ≤ 'f' then some (c.toNat - 'a'.toNat + 10)
  else if 'A' ≤ c && c ≤ 'F' then some (c.toNat - 'A'.toNat + 10)
  else none

def isHexDigit (c : Char) : Bool :=
  (hexDigit? c).isSome

def hexValue (c : Char) : Nat :=
  (hexDigit? c).getD 0

/-- The digits of `n` in base sixteen, lowercase and without leading zeros. -/
def hex (n : Nat) : List Char :=
  Nat.toDigits 16 n

end ValueObjects.Text
