import ValueObjects.Scalar

namespace ValueObjects

inductive PayloadType where
  | scalar (type : Scalar)
  | option (payload : PayloadType)
  deriving DecidableEq, Repr

namespace PayloadType

def Value : PayloadType → Type
  | .scalar type => type.Value
  | .option payload => Option payload.Value

instance instDecidableEqValue : (payload : PayloadType) → DecidableEq payload.Value
  | .scalar type => inferInstanceAs (DecidableEq type.Value)
  | .option payload =>
    have := instDecidableEqValue payload
    inferInstanceAs (DecidableEq (Option payload.Value))

def display : PayloadType → String
  | .scalar type => type.display
  | .option payload => "Option<" ++ payload.display ++ ">"

/-- Reads a payload. An option never becomes empty by reading. -/
def read? (culture? : Option Culture) (text : List Char) :
    (payload : PayloadType) → Option payload.Value
  | .scalar type => type.read? culture? text
  | .option payload => (payload.read? culture? text).map some

/-- Shows a payload. An empty option shows nothing, whatever the layout. -/
def render (layout : Layout) : (payload : PayloadType) → payload.Value → List Char
  | .scalar type, value => type.render layout value
  | .option _, none => []
  | .option payload, some value => payload.render layout value

def equal : (payload : PayloadType) → payload.Value → payload.Value → Bool
  | .scalar type, a, b => type.equal a b
  | .option _, none, none => true
  | .option payload, some a, some b => payload.equal a b
  | .option _, _, _ => false

/-- The order of two payloads, if they have one. An empty option comes before the others. -/
def compare? : (payload : PayloadType) → payload.Value → payload.Value → Option Ordering
  | .scalar type, a, b => type.compare? a b
  | .option _, none, none => some .eq
  | .option _, none, some _ => some .lt
  | .option _, some _, none => some .gt
  | .option payload, some a, some b => payload.compare? a b

/-- Lifts an operation to options: the result is empty if either side is. -/
def lift (operation : α → α → Option α) : Option α → Option α → Option (Option α)
  | some a, some b => (operation a b).map some
  | _, _ => some none

def add? : (payload : PayloadType) → payload.Value → payload.Value → Option payload.Value
  | .scalar type => type.add?
  | .option payload => lift payload.add?

def sub? : (payload : PayloadType) → payload.Value → payload.Value → Option payload.Value
  | .scalar type => type.sub?
  | .option payload => lift payload.sub?

end PayloadType

end ValueObjects
