import ValueObjects.Grammar.Type
import ValueObjects.Grammar.Pattern

namespace ValueObjects.Grammar

variable (rules : Rules)

/-- The place that a visibility in parentheses names, if the parentheses hold nothing else. -/
def visibilityScope? (body : List Token) : Bool :=
  match body with
  | [.ident name] => name == "crate" || name == "self" || name == "super"
  | _ => atWord "in" body

def visibility : Reader Bool := do
  if ← word? "pub" then
    match ← upcoming with
    | .group .parenthesis body :: _ =>
      if visibilityScope? body then
        inside .parenthesis do
          if ← word? "in" then
            let _ ← namePath
          else
            let _ ← anyName
    | _ => return true
    return true
  else
    return false

def receiver : Reader Unit := do
  let byRef ← mark? "&"
  if byRef then
    let _ ← lifetime?
  let _ ← word? "mut"
  word "self"
  if !byRef then
    if ← mark? ":" then
      let _ ← rules.type true

inductive Parameter where
  | receiver
  | typed
  | variadic
  deriving DecidableEq

def functionArgument : Reader Parameter := do
  match ← attempt (receiver rules) with
  | some _ => return .receiver
  | none =>
    let tokens ← upcoming
    if atMark "..." tokens then
      mark "..."
      return .variadic
    else if atName tokens && atMark "<" (skip tokens) then
      let _ ← rules.type true
      return .typed
    else
      let _ ← rules.pattern
      mark ":"
      if ← mark? "..." then
        return .variadic
      else
        let _ ← rules.type true
        return .typed

/-- The parameters of a function: a receiver is the first, and nothing follows dots. -/
def functionArguments (first : Bool) : Nat → Reader Unit
  | 0 => fail
  | fuel + 1 => do
    if ← atEnd then return ()
    let _ ← outerAttributes rules
    let kind ← functionArgument rules
    if kind == .receiver && !first then fail
    if ← atEnd then return ()
    mark ","
    if kind == .variadic then
      require List.isEmpty
    else
      functionArguments false fuel

/-- The words before a function; `safe` is one of them only among foreign declarations. -/
def functionWords (foreign : Bool) : Reader Unit := do
  let _ ← word? "const"
  let _ ← word? "async"
  let safe ← if foreign then word? "safe" else pure false
  if !safe then
    let _ ← word? "unsafe"
  abi?

def atFunctionWords (foreign : Bool) : Reader Bool := do
  let found ← ahead (do
    functionWords foreign
    return atWord "fn" (← upcoming))
  return found == some true

def signature (foreign : Bool) : Reader Unit := do
  functionWords foreign
  word "fn"
  let _ ← name
  let _ ← isGeneric rules
  inside .parenthesis do
    functionArguments rules true ((← upcoming).length + 1)
  returnType rules true
  let _ ← whereClause? rules

def function (foreign : Bool) : Reader Unit := do
  signature rules foreign
  if !(← mark? ";") then
    attributedBlock rules

end ValueObjects.Grammar
