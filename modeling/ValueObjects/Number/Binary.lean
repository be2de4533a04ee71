import ValueObjects.Number.Digits
/-!
Binary floating-point numbers. Every operation gives the exact result rounded once, to the nearest
number and of two to the even one.
-/
namespace ValueObjects.Number

inductive Precision where
  | single
  | double
  deriving DecidableEq, Repr

namespace Precision

def bits : Precision → Nat
  | .single => 24
  | .double => 53

def least : Precision → Int
  | .single => -149
  | .double => -1074

def greatest : Precision → Int
  | .single => 104
  | .double => 971

end Precision

/-- A number of a precision. A finite one is `mantissa * 2 ^ exponent`; its mantissa has all bits
of the precision unless its exponent is the least. -/
inductive Binary (precision : Precision) where
  | notANumber
  | infinite (negative : Bool)
  | finite (negative : Bool) (mantissa : Nat) (exponent : Int)
  deriving DecidableEq, Repr

namespace Binary

variable {precision : Precision}

/-- The exponent `e` with `2 ^ e ≤ n / d < 2 ^ (e + 1)`. -/
def log2 (n d : Nat) : Int :=
  let e : Int := (n.log2 : Int) - d.log2
  if d * Nat.pow 2 e.toNat ≤ n * Nat.pow 2 (-e).toNat then e else e - 1

def ofRatio (precision : Precision) (negative : Bool) (n d : Nat) : Binary precision :=
  if n = 0 then .finite negative 0 precision.least
  else
    let exponent := max precision.least (log2 n d - (precision.bits - 1))
    let mantissa := roundEven (n * Nat.pow 2 (-exponent).toNat) (d * Nat.pow 2 exponent.toNat)
    let (mantissa, exponent) :=
      if mantissa < Nat.pow 2 precision.bits then (mantissa, exponent)
      else (mantissa / 2, exponent + 1)
    if precision.greatest < exponent then .infinite negative
    else .finite negative mantissa exponent

def ofScaled (precision : Precision) (negative : Bool) (n : Nat) (exponent : Int) :
    Binary precision :=
  ofRatio precision negative (n * Nat.pow 2 exponent.toNat) (Nat.pow 2 (-exponent).toNat)

def ofInt (precision : Precision) (n : Int) : Binary precision :=
  ofRatio precision (n < 0) n.natAbs 1

def convert (target : Precision) : Binary precision → Binary target
  | .notANumber => .notANumber
  | .infinite negative => .infinite negative
  | .finite negative mantissa exponent => ofScaled target negative mantissa exponent

def neg : Binary precision → Binary precision
  | .notANumber => .notANumber
  | .infinite negative => .infinite (!negative)
  | .finite negative mantissa exponent => .finite (!negative) mantissa exponent

/-- A mantissa with its sign, for a smaller exponent. -/
def aligned (negative : Bool) (mantissa : Nat) (exponent common : Int) : Int :=
  let n : Int := (mantissa * Nat.pow 2 (exponent - common).toNat : Nat)
  if negative then -n else n

/-- The sum. It is a negative zero only if both numbers are. -/
def add : Binary precision → Binary precision → Binary precision
  | .notANumber, _ => .notANumber
  | _, .notANumber => .notANumber
  | .infinite a, .infinite b => if a = b then .infinite a else .notANumber
  | .infinite a, .finite .. => .infinite a
  | .finite .., .infinite b => .infinite b
  | .finite a m p, .finite b n q =>
    let common := min p q
    let sum := aligned a m p common + aligned b n q common
    ofScaled precision (if sum = 0 then a && b else sum < 0) sum.natAbs common

def sub (a b : Binary precision) : Binary precision :=
  add a (neg b)

def compare? : Binary precision → Binary precision → Option Ordering
  | .notANumber, _ => none
  | _, .notANumber => none
  | .infinite a, .infinite b => some (compare b a)
  | .infinite a, .finite .. => some (if a then .lt else .gt)
  | .finite .., .infinite b => some (if b then .gt else .lt)
  | .finite a m p, .finite b n q =>
    let common := min p q
    some (compare (aligned a m p common) (aligned b n q common))

end Binary

end ValueObjects.Number
