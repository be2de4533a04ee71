import ValueObjects.Number.Digits

namespace ValueObjects.Number

def Decimal.mantissaLimit : Nat := Nat.pow 2 96

def Decimal.maxScale : Nat := 28

structure Decimal where
  negative : Bool
  mantissa : Nat
  scale : Nat
  mantissa_lt : mantissa < Decimal.mantissaLimit
  scale_le : scale ≤ Decimal.maxScale
  deriving DecidableEq

namespace Decimal

def ofParts? (negative : Bool) (mantissa scale : Nat) : Option Decimal :=
  if inRange : mantissa < mantissaLimit ∧ scale ≤ maxScale then
    some ⟨negative, mantissa, scale, inRange.1, inRange.2⟩
  else none

/-- A decimal by its parts, where zero has no sign. -/
def unsignedZero? (negative : Bool) (mantissa scale : Nat) : Option Decimal :=
  ofParts? (negative && mantissa != 0) mantissa scale

def neg (a : Decimal) : Decimal :=
  { a with negative := !a.negative }

def aligned (a : Decimal) (scale : Nat) : Int :=
  let n : Int := (a.mantissa * Nat.pow 10 (scale - a.scale) : Nat)
  if a.negative then -n else n

def compare (a b : Decimal) : Ordering :=
  let scale := max a.scale b.scale
  Ord.compare (a.aligned scale) (b.aligned scale)

/-- Rounds `n / d` to a mantissa, giving up as few of the decimals as possible. -/
def fit? (n : Nat) : Nat → Nat → Option (Nat × Nat)
  | d, 0 =>
    let mantissa := roundEven n d
    if mantissa < mantissaLimit then some (mantissa, 0) else none
  | d, scale + 1 =>
    if n / d < mantissaLimit then
      let mantissa := roundEven n d
      if mantissa < mantissaLimit then some (mantissa, scale + 1)
      else some (roundEven mantissa 10, scale)
    else fit? n (d * 10) scale

/-- A zero that is left of two numbers keeps the sign of the first if 32 bits hold them. -/
def emptied? (a : Decimal) (scale : Nat) : Option Decimal :=
  ofParts? (a.negative && (a.aligned scale).natAbs < Nat.pow 2 32) 0 scale

def sum? (a b : Decimal) : Option Decimal :=
  let scale := max a.scale b.scale
  let sum := a.aligned scale + b.aligned scale
  if sum = 0 then emptied? a scale
  else do
    let (mantissa, scale) ← fit? sum.natAbs 1 scale
    ofParts? (sum < 0) mantissa scale

/-- The sum, if there is room for it. Adding zero changes nothing, not even the number of
decimals. -/
def add? (a b : Decimal) : Option Decimal :=
  if a.mantissa = 0 then some b
  else if b.mantissa = 0 then some a
  else sum? a b

def sub? (a b : Decimal) : Option Decimal :=
  if b.mantissa = 0 then some (if a.mantissa = 0 then b else a)
  else if a.mantissa = 0 then some b.neg
  else sum? a b.neg

/-- The digits of a number with `places` decimals: those that it has are cut off or filled up. -/
def text (a : Decimal) (places : Nat) : List Char :=
  if a.scale ≤ places then pointed (a.mantissa * Nat.pow 10 (places - a.scale)) places
  else pointed (a.mantissa / Nat.pow 10 (a.scale - places)) places

end Decimal

end ValueObjects.Number
