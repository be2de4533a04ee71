import ValueObjects.Number.Digits

namespace ValueObjects.Number

structure IntegerForm where
  signed : Bool
  bits : Nat
  deriving DecidableEq, Repr

namespace IntegerForm

def low (form : IntegerForm) : Int :=
  if form.signed then -(Nat.pow 2 (form.bits - 1) : Int) else 0

def high (form : IntegerForm) : Int :=
  (Nat.pow 2 (if form.signed then form.bits - 1 else form.bits) : Int) - 1

end IntegerForm

abbrev Integer (form : IntegerForm) : Type :=
  { n : Int // form.low ≤ n ∧ n ≤ form.high }

namespace Integer

variable {form : IntegerForm}

def ofInt? (form : IntegerForm) (n : Int) : Option (Integer form) :=
  if inRange : form.low ≤ n ∧ n ≤ form.high then some ⟨n, inRange⟩ else none

/-- A text without its sign, and whether that is a minus. A minus is a sign only where there are
negative numbers. -/
def unsigned (form : IntegerForm) (text : List Char) : Bool × List Char :=
  match signed text with
  | (true, rest) => if form.signed then (true, rest) else (false, text)
  | found => found

/-- Reads a sign and at least one digit, and nothing else. -/
def read? (form : IntegerForm) (text : List Char) : Option (Integer form) :=
  let (negative, rest) := unsigned form text
  if rest.isEmpty || !rest.all Char.isDigit then none
  else ofInt? form (if negative then -(ofDigits rest : Int) else ofDigits rest)

def add? (a b : Integer form) : Option (Integer form) :=
  ofInt? form (a.val + b.val)

def sub? (a b : Integer form) : Option (Integer form) :=
  ofInt? form (a.val - b.val)

end Integer

end ValueObjects.Number
