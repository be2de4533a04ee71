import ValueObjects.Culture
import ValueObjects.Kind
import ValueObjects.Layout
import ValueObjects.Number.Binary.Reading
import ValueObjects.Number.Binary.Shortest
import ValueObjects.Number.Decimal.Reading
import ValueObjects.Text.Blank

namespace ValueObjects.Number

inductive Form where
  | integer (form : IntegerForm)
  | binary (precision : Precision)
  | decimal
  deriving DecidableEq, Repr

def Form.Value : Form → Type
  | .integer form => Integer form
  | .binary precision => Binary precision
  | .decimal => Decimal

namespace Form

instance (form : Form) : DecidableEq form.Value :=
  match form with
  | .integer form => inferInstanceAs (DecidableEq (Integer form))
  | .binary precision => inferInstanceAs (DecidableEq (Binary precision))
  | .decimal => inferInstanceAs (DecidableEq Decimal)

/-- Reads a number whose decimal separator, if it has one, is a point. -/
def readNormalized? : (form : Form) → List Char → Option form.Value
  | .integer form => Integer.read? form
  | .binary precision => Binary.read? precision
  | .decimal => Decimal.read?

def compare? : (form : Form) → form.Value → form.Value → Option Ordering
  | .integer _, a, b => some (compare a.val b.val)
  | .binary _, a, b => Binary.compare? a b
  | .decimal, a, b => some (Decimal.compare a b)

def add? : (form : Form) → form.Value → form.Value → Option form.Value
  | .integer _, a, b => Integer.add? a b
  | .binary _, a, b => some (Binary.add a b)
  | .decimal, a, b => Decimal.add? a b

def sub? : (form : Form) → form.Value → form.Value → Option form.Value
  | .integer _, a, b => Integer.sub? a b
  | .binary _, a, b => some (Binary.sub a b)
  | .decimal, a, b => Decimal.sub? a b

end Form

/-- Shows a floating-point number: in the fewest digits that identify it, or in the decimals that
the layout asks for. -/
def Binary.display (layout : Layout) : Binary precision → List Char
  | .notANumber => layout.showNumber [] "NaN".toList
  | .infinite negative => layout.showNumber (layout.signOf negative) "inf".toList
  | .finite negative mantissa exponent =>
    layout.showNumber (layout.signOf negative) <| match layout.precision? with
      | some places => fixed mantissa exponent places
      | none => shortest precision mantissa exponent

def Form.display (layout : Layout) : (form : Form) → form.Value → List Char
  | .integer _, n => layout.showNumber (layout.signOf (n.val < 0)) (digits n.val.natAbs)
  | .binary _, x => Binary.display layout x
  | .decimal, a =>
    layout.showNumber (layout.signOf a.negative) (a.text (layout.precision?.getD a.scale))

end ValueObjects.Number

namespace ValueObjects.NumericType

open Number

def form : NumericType → Form
  | i8 => .integer ⟨true, 8⟩
  | i16 => .integer ⟨true, 16⟩
  | i32 => .integer ⟨true, 32⟩
  | i64 => .integer ⟨true, 64⟩
  | i128 => .integer ⟨true, 128⟩
  | isize => .integer ⟨true, 64⟩
  | u8 => .integer ⟨false, 8⟩
  | u16 => .integer ⟨false, 16⟩
  | u32 => .integer ⟨false, 32⟩
  | u64 => .integer ⟨false, 64⟩
  | u128 => .integer ⟨false, 128⟩
  | usize => .integer ⟨false, 64⟩
  | f32 => .binary .single
  | f64 => .binary .double
  | decimal => .decimal

/-- Reads a number, with white space around it. The culture's group separator is not accepted; its
decimal separator stands for the point in numbers that may have decimals. -/
def read? (type : NumericType) (culture? : Option Culture) (text : List Char) :
    Option type.form.Value :=
  let culture := culture?.getD Culture.invariant
  let text := Text.trimmed text
  if text.isEmpty || text.contains culture.groupSeparator then none
  else type.form.readNormalized? (if type.isFloating then culture.normalize text else text)

end ValueObjects.NumericType
