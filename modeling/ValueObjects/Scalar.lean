import ValueObjects.HexCode
import ValueObjects.Number

namespace ValueObjects

/-- What stands in a place of a text: a capital letter, a given character, or digits. -/
inductive TextPlace where
  | capital
  | just (c : Char)
  | digits
  deriving DecidableEq, Repr

def TextPlace.fit : List TextPlace → List Char → Bool
  | [], text => text.isEmpty
  | .capital :: places, c :: rest => c.isUpper && fit places rest
  | .just given :: places, c :: rest => c == given && fit places rest
  | .digits :: places, c :: rest => c.isDigit && fit places (rest.dropWhile Char.isDigit)
  | _ :: _, [] => false

/-- A type of texts that a crate declares for itself: its canonical text, its full name, and the
form in which its texts are read. -/
structure CustomText where
  display : String
  fullName : String
  form : List TextPlace
  deriving DecidableEq, Repr

/-- A text of a custom type. One that is stored or given as a value is not checked. -/
structure CustomText.Value (type : CustomText) where
  text : String
  deriving DecidableEq

def CustomText.read? (type : CustomText) (text : List Char) : Option type.Value :=
  if TextPlace.fit type.form text then some ⟨String.ofList text⟩ else none

inductive Scalar where
  | number (type : NumericType)
  | boolean
  | character
  | text
  | uuid
  | documentId
  | custom (type : CustomText)
  deriving DecidableEq, Repr

def Scalar.Value : Scalar → Type
  | .number type => type.form.Value
  | .boolean => Bool
  | .character => Char
  | .text => String
  | .uuid => Uuid
  | .documentId => DocumentId
  | .custom type => type.Value

def booleanText (b : Bool) : List Char :=
  if b then "true".toList else "false".toList

def readBoolean? (text : List Char) : Option Bool :=
  let word := text.map Char.toLower
  if word == booleanText true then some true
  else if word == booleanText false then some false
  else none

namespace Scalar

instance (scalar : Scalar) : DecidableEq scalar.Value :=
  match scalar with
  | .number type => inferInstanceAs (DecidableEq type.form.Value)
  | .boolean => inferInstanceAs (DecidableEq Bool)
  | .character => inferInstanceAs (DecidableEq Char)
  | .text => inferInstanceAs (DecidableEq String)
  | .uuid => inferInstanceAs (DecidableEq Uuid)
  | .documentId => inferInstanceAs (DecidableEq DocumentId)
  | .custom type => inferInstanceAs (DecidableEq type.Value)

def display : Scalar → String
  | .number type => type.display
  | .boolean => "bool"
  | .character => "char"
  | .text => "String"
  | .uuid => "uuid::Uuid"
  | .documentId => "bson::oid::ObjectId"
  | .custom type => type.display

/-- Reads a value. White space around it matters only to texts and characters; the culture only to
numbers. -/
def read? (culture? : Option Culture) (content : List Char) :
    (scalar : Scalar) → Option scalar.Value
  | .number type => type.read? culture? content
  | .boolean => readBoolean? (Text.trimmed content)
  | .character =>
    match content with
    | [c] => some c
    | _ => none
  | .text => some (String.ofList content)
  | .uuid => Uuid.read? (Text.trimmed content)
  | .documentId => HexCode.read? 24 (Text.trimmed content)
  | .custom type => type.read? content

/-- Shows a value. The digits of identifiers and keys do not follow the layout. -/
def render (layout : Layout) : (scalar : Scalar) → scalar.Value → List Char
  | .number type, n => type.form.display layout n
  | .boolean, b => layout.showText (booleanText b)
  | .character, c => layout.showText [c]
  | .text, s => layout.showText (String.toList s)
  | .uuid, id => Uuid.text id
  | .documentId, id => HexCode.text id
  | .custom _, value => layout.showText (CustomText.Value.text value).toList

/-- Whether two values are the same value; the not-a-numbers are not. -/
def equal : (scalar : Scalar) → scalar.Value → scalar.Value → Bool
  | .number type, a, b => type.form.compare? a b == some .eq
  | .boolean, a, b => decide (a = b)
  | .character, a, b => decide (a = b)
  | .text, a, b => decide (a = b)
  | .uuid, a, b => decide (a = b)
  | .documentId, a, b => decide (a = b)
  | .custom _, a, b => decide (a = b)

def compare? : (scalar : Scalar) → scalar.Value → scalar.Value → Option Ordering
  | .number type, a, b => type.form.compare? a b
  | _, _, _ => none

/-- The sum of two numbers, or two texts put together; nothing if there is no room or the type has
no sums. -/
def add? : (scalar : Scalar) → scalar.Value → scalar.Value → Option scalar.Value
  | .number type, a, b => type.form.add? a b
  | .text, a, b => some (String.append a b)
  | _, _, _ => none

def sub? : (scalar : Scalar) → scalar.Value → scalar.Value → Option scalar.Value
  | .number type, a, b => type.form.sub? a b
  | _, _, _ => none

end Scalar

end ValueObjects
