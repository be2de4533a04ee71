namespace ValueObjects.Text

/-- A set of characters. The bounds ascend; a code point belongs to the set when an odd number
of bounds is at or below it. -/
structure CharSet where
  bounds : List Nat

namespace CharSet

def side (code : Nat) : List Nat → Bool → Bool
  | [], inside => inside
  | bound :: rest, inside => if code < bound then inside else side code rest (!inside)

def contains (set : CharSet) (c : Char) : Bool :=
  side c.toNat set.bounds false

end CharSet

end ValueObjects.Text
