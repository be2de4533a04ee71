import ValueObjects.Grammar.Type

namespace ValueObjects.Grammar

variable (rules : Rules)

def plainPattern : Pattern := ⟨false⟩

def atAlternative (tokens : List Token) : Bool :=
  atMark "|" tokens && !atMark "||" tokens && !atMark "|=" tokens

/-- A pattern with its alternatives; a bar may stand before the first. -/
def alternatives : Reader Pattern := do
  let leading ← mark? "|"
  let first ← rules.pattern
  let rest ← collectWhile atAlternative do
    mark "|"
    rules.pattern
  return if leading || !rest.isEmpty then plainPattern else first

/-- The dots of a range; tells whether its end is included. -/
def rangeDots (obsolete : Bool) : Reader Bool := do
  let tokens ← upcoming
  if atMark "..=" tokens then
    mark "..="
    return true
  else if atMark "..." tokens then
    if obsolete then
      mark "..."
      return true
    else fail
  else
    mark ".."
    return false

def constBlock : Reader Unit := do
  word "const"
  attributedBlock rules

def rangeEnd : Reader Bool := do
  let tokens ← upcoming
  if tokens.isEmpty || atMark "|" tokens || atMark "=" tokens ||
      (atMark ":" tokens && !atMark "::" tokens) || atMark "," tokens || atMark ";" tokens ||
      atWord "if" tokens then
    return false
  else if atLiteral tokens then
    let _ ← literal
    return true
  else if atPath tokens then
    let _ ← qualifiedPath rules true
    return true
  else
    constBlock rules
    return true

def rangeTail : Reader Pattern := do
  let included ← rangeDots true
  let ended ← rangeEnd rules
  if included && !ended then fail
  return ⟨!ended⟩

def halfOpenRange : Reader Pattern := do
  let included ← rangeDots false
  let ended ← rangeEnd rules
  if included && !ended then fail
  return ⟨ended⟩

def member : Reader Bool := do
  if atName (← upcoming) then
    let _ ← name
    return true
  else
    let text ← literalOf .whole
    if isIndex text then return false else fail
where
  /-- A position is a numeral without a suffix. -/
  isIndex (text : String) : Bool :=
    match text.toList with
    | '0' :: 'x' :: _ => true
    | '0' :: 'o' :: _ => true
    | '0' :: 'b' :: _ => true
    | chars =>
      let (digits, suffix) := Literal.decimalParts chars
      suffix.isEmpty && (String.ofList digits).toNat?.any (· < 4294967296)

def fieldPattern : Reader Unit := do
  let boxed ← word? "box"
  let byRef ← word? "ref"
  let mutable ← word? "mut"
  if boxed || byRef || mutable then
    let _ ← name
  else
    let named ← member
    if !named || atMark ":" (← upcoming) then
      mark ":"
      let _ ← alternatives rules

def fieldPatterns : Nat → Reader Unit
  | 0 => fail
  | fuel + 1 => do
    if ← atEnd then return ()
    let _ ← outerAttributes rules
    if ← mark? ".." then
      require List.isEmpty
    else
      fieldPattern rules
      if ← atEnd then return ()
      mark ","
      fieldPatterns fuel

def pathPattern : Reader Pattern := do
  let path ← qualifiedPath rules true
  let tokens ← upcoming
  if atMacro path tokens then
    let _ ← macroArguments
    return plainPattern
  else if atGroup .brace tokens then
    inside .brace do
      fieldPatterns rules ((← upcoming).length + 1)
    return plainPattern
  else if atGroup .parenthesis tokens then
    let _ ← inside .parenthesis (commaList (alternatives rules))
    return plainPattern
  else if atMark ".." tokens then
    rangeTail rules
  else
    return plainPattern

def bindingPattern : Reader Pattern := do
  let _ ← word? "ref"
  let _ ← word? "mut"
  if atWord "self" (← upcoming) then
    let _ ← anyName
  else
    let _ ← name
  if ← mark? "@" then
    let _ ← rules.pattern
  return plainPattern

def valuePattern : Reader Pattern := do
  let started ← rangeEnd rules
  if !started then fail
  if atMark ".." (← upcoming) then
    rangeTail rules
  else
    return plainPattern

/-- The patterns of a slice; a range among them has both ends. -/
def slicePattern : Reader Pattern := do
  let (elems, _) ← inside .bracket (commaList (alternatives rules))
  if elems.any (·.isOpenRange) then fail
  return plainPattern

/-- Whether a name begins a pattern that is more than a binding. -/
def atPatternPath (tokens : List Token) : Bool :=
  let next := skip tokens
  (atName tokens && (atMark "::" next || atMark "!" next || atGroup .brace next ||
    atGroup .parenthesis next || atMark ".." next)) ||
  (atWord "self" tokens && atMark "::" next) || atMark "::" tokens || atMark "<" tokens ||
  atWord "Self" tokens || atWord "super" tokens || atWord "crate" tokens

def pattern : Reader Pattern := do
  let tokens ← upcoming
  if atPatternPath tokens then
    pathPattern rules
  else if atWord "_" tokens then
    word "_"
    return plainPattern
  else if atWord "box" tokens then
    word "box"
    let _ ← rules.pattern
    return plainPattern
  else if atMark "-" tokens || atLiteral tokens || atWord "const" tokens then
    valuePattern rules
  else if atWord "ref" tokens || atWord "mut" tokens || atWord "self" tokens || atName tokens then
    bindingPattern rules
  else if atMark "&" tokens then
    mark "&"
    let _ ← word? "mut"
    let _ ← rules.pattern
    return plainPattern
  else if atGroup .parenthesis tokens then
    let _ ← inside .parenthesis (commaList (alternatives rules))
    return plainPattern
  else if atGroup .bracket tokens then
    slicePattern rules
  else if atMark ".." tokens && !atMark "..." tokens then
    halfOpenRange rules
  else
    fail

end ValueObjects.Grammar
