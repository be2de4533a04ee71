namespace ValueObjects

inductive Alignment where
  | left
  | center
  | right
  deriving DecidableEq, Repr

/-- A layout. The plain one shows a value as it is. -/
structure Layout where
  fill : Char := ' '
  alignment? : Option Alignment := none
  plus : Bool := false
  /-- Whether numbers are filled with zeros behind their sign. -/
  zeros : Bool := false
  width : Nat := 0
  /-- The decimals of a number, or the greatest length of a text. -/
  precision? : Option Nat := none
  deriving DecidableEq, Repr

namespace Layout

/-- A field of the width with the text in it; without an alignment it keeps to the side `given`. -/
def place (layout : Layout) (given : Alignment) (text : List Char) : List Char :=
  let missing := layout.width - text.length
  let before := match layout.alignment?.getD given with
    | .left => 0
    | .center => missing / 2
    | .right => missing
  List.replicate before layout.fill ++ text ++ List.replicate (missing - before) layout.fill

/-- A text is cut to the precision. -/
def showText (layout : Layout) (text : List Char) : List Char :=
  layout.place .left <| match layout.precision? with
    | some length => text.take length
    | none => text

def signOf (layout : Layout) (negative : Bool) : List Char :=
  if negative then ['-'] else if layout.plus then ['+'] else []

def showNumber (layout : Layout) (sign digits : List Char) : List Char :=
  if layout.zeros then
    sign ++ List.replicate (layout.width - (sign.length + digits.length)) '0' ++ digits
  else layout.place .right (sign ++ digits)

end Layout

end ValueObjects
