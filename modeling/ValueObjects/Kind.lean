namespace ValueObjects

inductive NumericType where
  | i8 | i16 | i32 | i64 | i128 | isize
  | u8 | u16 | u32 | u64 | u128 | usize
  | f32 | f64
  | decimal
  deriving DecidableEq, Repr

namespace NumericType

def all : List NumericType :=
  [i8, i16, i32, i64, i128, isize, u8, u16, u32, u64, u128, usize, f32, f64, decimal]

def display : NumericType → String
  | i8 => "i8"
  | i16 => "i16"
  | i32 => "i32"
  | i64 => "i64"
  | i128 => "i128"
  | isize => "isize"
  | u8 => "u8"
  | u16 => "u16"
  | u32 => "u32"
  | u64 => "u64"
  | u128 => "u128"
  | usize => "usize"
  | f32 => "f32"
  | f64 => "f64"
  | decimal => "rust_decimal::Decimal"

def ofDisplay? (display : String) : Option NumericType :=
  all.find? fun type => type.display == display

def isFloating : NumericType → Bool
  | f32 | f64 | decimal => true
  | _ => false

end NumericType

inductive Kind where
  | string
  | numeric (type : NumericType)
  | identifier
  /-- The key of a stored document. -/
  | documentId
  | other
  deriving DecidableEq, Repr

/-- The kind of a payload that is taken as a whole. -/
def Kind.ofDisplay (display : String) : Kind :=
  if display == "String" then .string
  else if display == "uuid::Uuid" then .identifier
  else if display == "bson::oid::ObjectId" then .documentId
  else match NumericType.ofDisplay? display with
    | some type => .numeric type
    | none => .other

/-- The kind of a payload. A payload is nullable if it is an option of a known kind; then `inner`
is the text of what the option may hold. -/
structure Classification where
  kind : Kind
  nullable : Bool
  inner : String
  deriving DecidableEq, Repr

/-- The text of what an option may hold, by the option's canonical text. -/
def optionInner? (display : String) : Option String :=
  match "Option<".toList.isPrefixOf? display.toList with
  | some inner => if inner.getLast? == some '>' then some (String.ofList inner.dropLast) else none
  | none => none

def classify (display : String) : Classification :=
  let whole : Classification := ⟨.ofDisplay display, false, display⟩
  match optionInner? display with
  | some inner =>
    match Kind.ofDisplay inner with
    | .other => whole
    | kind => ⟨kind, true, inner⟩
  | none => whole

namespace Classification

def numeric? (classification : Classification) : Option NumericType :=
  match classification.kind with
  | .numeric type => some type
  | _ => none

def isNumeric (classification : Classification) : Bool :=
  classification.numeric?.isSome

def supportsOrdering (classification : Classification) : Bool :=
  classification.isNumeric

def supportsAddition (classification : Classification) : Bool :=
  match classification.kind with
  | .numeric _ | .string => true
  | _ => false

def supportsSubtraction (classification : Classification) : Bool :=
  classification.isNumeric

end Classification

/-- The payloads classified so far, each once. -/
structure Classifier where
  known : List (String × Classification)

namespace Classifier

def empty : Classifier := ⟨[]⟩

def size (classifier : Classifier) : Nat :=
  classifier.known.length

def isEmpty (classifier : Classifier) : Bool :=
  classifier.known.isEmpty

def classify (classifier : Classifier) (display : String) : Classification × Classifier :=
  match classifier.known.lookup display with
  | some classification => (classification, classifier)
  | none =>
    let classification := ValueObjects.classify display
    (classification, ⟨(display, classification) :: classifier.known⟩)

end Classifier

end ValueObjects
