import ValueObjects.Payload

namespace ValueObjects

open Number

inductive Bson where
  | null
  | int32 (n : Integer ⟨true, 32⟩)
  | int64 (n : Integer ⟨true, 64⟩)
  | double (x : Binary .double)
  | string (text : String)
  | boolean (b : Bool)
  | documentId (id : DocumentId)
  | uuid (id : Uuid)
  | array (items : List Bson)
  | document (fields : List (String × Bson))

namespace Bson

def integer? : Bson → Option Int
  | .int32 n => some n.val
  | .int64 n => some n.val
  | _ => none

def string? : Bson → Option String
  | .string text => some text
  | _ => none

def keyField : String := "$oid"

/-- Fields with a meaning of their own; a document with one of them is no key. -/
def reservedFields : List String :=
  ["$symbol", "$numberInt", "$numberLong", "$numberDouble", "$numberDecimal", "$binary", "$uuid",
    "$code", "$scope", "$timestamp", "$regularExpression", "$dbPointer", "$date", "$minKey",
    "$maxKey", "$undefined"]

/-- The key that is written as a document. Fields after its digits are not looked at. -/
def keyOfFields? : List (String × Bson) → Option DocumentId
  | [] => none
  | (name, value) :: rest =>
    if name == keyField then value.string?.bind fun text => HexCode.read? 24 text.toList
    else if reservedFields.contains name then none
    else keyOfFields? rest

/-- Whether numbers of the form are written in 32 bits: all are in range, and 32 unsigned bits are
not. -/
def isNarrow (form : IntegerForm) : Bool :=
  form.bits < 32 || (form.signed && form.bits = 32)

/-- Writes a whole number, if it has at most 64 bits and is in the range of 64 signed bits. -/
def ofInteger? (form : IntegerForm) (n : Integer form) : Option Bson :=
  if 64 < form.bits then none
  else if isNarrow form then (Integer.ofInt? ⟨true, 32⟩ n.val).map .int32
  else (Integer.ofInt? ⟨true, 64⟩ n.val).map .int64

def toInteger? (form : IntegerForm) (value : Bson) : Option (Integer form) :=
  if 64 < form.bits then none else value.integer?.bind (Integer.ofInt? form)

def ofNumber? : (form : Form) → form.Value → Option Bson
  | .integer form, n => ofInteger? form n
  | .binary _, x => some (.double (Binary.convert .double x))
  | .decimal, a => some (.string (String.ofList (Form.decimal.display {} a)))

/-- Reads a number from a number of another kind, and a decimal also from its text. -/
def toNumber? (value : Bson) : (form : Form) → Option form.Value
  | .integer form => toInteger? form value
  | .binary precision =>
    match value with
    | .double x => some (Binary.convert precision x)
    | value => value.integer?.map (Binary.ofInt precision)
  | .decimal =>
    match value with
    | .string text => Decimal.read? text.toList
    | .double x => Decimal.plain? (Binary.display {} x)
    | value => value.integer?.bind fun n => Decimal.unsignedZero? (n < 0) n.natAbs 0

def ofScalar? : (scalar : Scalar) → scalar.Value → Option Bson
  | .number type, n => ofNumber? type.form n
  | .boolean, b => some (.boolean b)
  | .character, c => some (.string (String.singleton c))
  | .text, text => some (.string text)
  | .uuid, id => some (.string (String.ofList (Uuid.text id)))
  | .documentId, id => some (.documentId id)
  | .custom _, value => some (.string (CustomText.Value.text value))

def toScalar? (value : Bson) : (scalar : Scalar) → Option scalar.Value
  | .number type => toNumber? value type.form
  | .boolean =>
    match value with
    | .boolean b => some b
    | _ => none
  | .character =>
    match value.string?.map String.toList with
    | some [c] => some c
    | _ => none
  | .text => value.string?
  | .uuid => value.string?.bind fun text => Uuid.read? text.toList
  | .documentId =>
    match value with
    | .documentId id => some id
    | .document fields => keyOfFields? fields
    | value => value.string?.bind fun text => HexCode.read? 24 text.toList
  | .custom type => value.string?.map fun text => (⟨text⟩ : type.Value)

def ofPayload? : (payload : PayloadType) → payload.Value → Option Bson
  | .scalar type, value => ofScalar? type value
  | .option _, none => some .null
  | .option payload, some value => ofPayload? payload value

def toPayload? (value : Bson) : (payload : PayloadType) → Option payload.Value
  | .scalar type => toScalar? value type
  | .option payload =>
    match value with
    | .null => some none
    | value => (toPayload? value payload).map some

end Bson

end ValueObjects
