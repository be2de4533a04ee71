import ValueObjects.Number.Binary

namespace ValueObjects.Number.Binary

/-- A number in decimal units: it is `amount` units of `10 ^ -places`, and the distance to the
number above is `gap` of them. -/
structure Expansion where
  amount : Nat
  gap : Nat
  places : Nat

def expansion (mantissa : Nat) (exponent : Int) : Expansion :=
  let places := (-exponent).toNat
  let gap := Nat.pow 2 exponent.toNat * Nat.pow 5 places
  ⟨mantissa * gap, gap, places⟩

/-- Whether a decimal below the number is still nearest to it. The number below a power of two is
only half as far away. -/
def reachesBelow (precision : Precision) (mantissa : Nat) (number : Expansion) (low : Nat) :
    Bool :=
  let half := if mantissa = Nat.pow 2 (precision.bits - 1) then number.gap else 2 * number.gap
  if mantissa % 2 = 0 then 4 * number.amount ≤ 4 * low + half
  else 4 * number.amount < 4 * low + half

def reachesAbove (mantissa : Nat) (number : Expansion) (high : Nat) : Bool :=
  if mantissa % 2 = 0 then 2 * high ≤ 2 * number.amount + number.gap
  else 2 * high < 2 * number.amount + number.gap

/-- The nearest decimal that is a multiple of `grid` and identifies the number; of two equally
near, the greater. -/
def onGrid? (precision : Precision) (mantissa : Nat) (number : Expansion) (grid : Nat) :
    Option Nat :=
  let low := number.amount / grid * grid
  let high := low + grid
  match reachesBelow precision mantissa number low, reachesAbove mantissa number high with
  | true, true => some (if 2 * (number.amount - low) < grid then low else high)
  | true, false => some low
  | false, true => some high
  | false, false => none

/-- Tries grids of `10 ^ power` and finer. The finest holds the number itself. -/
def searchGrids (precision : Precision) (mantissa : Nat) (number : Expansion) : Nat → Nat
  | 0 => number.amount
  | power + 1 =>
    match onGrid? precision mantissa number (Nat.pow 10 power) with
    | some found => found
    | none => searchGrids precision mantissa number power

def shortest (precision : Precision) (mantissa : Nat) (exponent : Int) : List Char :=
  let number := expansion mantissa exponent
  let found := searchGrids precision mantissa number (digits number.amount).length
  let (amount, places) := dropZeros found number.places
  pointed amount places

def fixed (mantissa : Nat) (exponent : Int) (places : Nat) : List Char :=
  let number := expansion mantissa exponent
  if number.places ≤ places then
    pointed (number.amount * Nat.pow 10 (places - number.places)) places
  else pointed (roundEven number.amount (Nat.pow 10 (number.places - places))) places

end ValueObjects.Number.Binary
