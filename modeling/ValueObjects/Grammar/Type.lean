import ValueObjects.Grammar.Bound

namespace ValueObjects.Grammar

variable (rules : Rules)

def verbatim (reader : Reader Unit) : Reader Ty := do
  let (_, tokens) ← captured reader
  return .verbatim tokens

def atNameOrGap (tokens : List Token) : Bool :=
  atName tokens || atWord "_" tokens

/-- A parameter of a function type; the first may be the receiver. -/
def functionParameter (first : Bool) : Reader Unit := do
  let atMutSelf := fun tokens => first && atWord "mut" tokens && atWord "self" (skip tokens)
  let mutable := atMutSelf (← upcoming)
  if mutable then
    word "mut"
  let tokens ← upcoming
  let receiver := first && atWord "self" tokens
  let named := (atNameOrGap tokens || receiver) && atMark ":" (skip tokens) &&
    !atMark "::" (skip tokens)
  if named then
    let _ ← anyName
    mark ":"
  if !(named && receiver) && atMutSelf (← upcoming) then
    word "mut"
    word "self"
  else if mutable && !named then
    word "self"
  else
    let _ ← rules.type true

def atVariadic (tokens : List Token) : Bool :=
  atMark "..." tokens ||
    (atNameOrGap tokens && atMark ":" (skip tokens) && atMark "..." (skip (skip tokens)))

def variadic : Reader Unit := do
  if !atMark "..." (← upcoming) then
    let _ ← anyName
    mark ":"
  mark "..."
  let _ ← mark? ","

def functionParameters (first : Bool) : Nat → Reader Unit
  | 0 => fail
  | fuel + 1 => do
    if ← atEnd then return ()
    let _ ← outerAttributes rules
    if atVariadic (← upcoming) then
      variadic
      require List.isEmpty
    else
      functionParameter rules first
      if ← atEnd then return ()
      mark ","
      functionParameters false fuel

def abi? : Reader Unit := do
  if ← word? "extern" then
    if atLiteralOf .string (← upcoming) then
      let _ ← literal

def functionType : Reader Unit := do
  let _ ← forLifetimes? rules
  let _ ← word? "unsafe"
  abi?
  word "fn"
  inside .parenthesis do
    functionParameters rules true ((← upcoming).length + 1)
  returnType rules false

/-- A macro call in place of a type, pattern or expression; tells whether its arguments stand
between braces. -/
def macroArguments : Reader Bool := do
  mark "!"
  let (delimiter, _) ← anyGroup
  return delimiter == .brace

def atMacro (path : QualifiedPath) (tokens : List Token) : Bool :=
  path.isPlain && atMark "!" tokens && !atMark "!=" tokens

def pathType (plus lifetimes : Bool) : Reader Ty := do
  let body : Reader (QualifiedPath × Bool) := do
    let path ← qualifiedPath rules false
    if path.self?.isSome then
      return (path, true)
    else if atMacro path (← upcoming) then
      let _ ← macroArguments
      return (path, false)
    else if lifetimes || (plus && atMark "+" (← upcoming)) then
      if plus then
        let _ ← moreBounds rules false
      return (path, false)
    else
      return (path, true)
  let ((path, whole), tokens) ← captured body
  return if whole then path.ty else .verbatim tokens

inductive Enclosed where
  | tuple (elems : List Ty) (trailing : Bool)
  | single (ty : Ty)
  | bound

def enclosed : Reader Enclosed := do
  let tokens ← upcoming
  if tokens.isEmpty then
    return .tuple [] false
  else if atLifetime tokens then
    let (_, written) ← captured (bounds rules true false)
    return .single (.verbatim written)
  else if atMark "?" tokens then
    traitBound rules
    return .bound
  else
    let first ← rules.type true
    if ← mark? "," then
      let (rest, trailing) ← commaList (rules.type true)
      return .tuple (first :: rest) (rest.isEmpty || trailing)
    else
      return .single first

/-- Whether a type in parentheses may be the first of several bounds: a path may, and so may a
trait that is bounded by nothing else. -/
def mayBeBound (ty : Ty) : Bool :=
  match ty with
  | .path .. => true
  | .verbatim tokens => isLoneBound tokens
  | _ => false
where
  isLoneBound (tokens : List Token) : Bool :=
    atWord "for" tokens && tokens.all fun
      | .punct '+' _ => false
      | .ident "fn" => false
      | _ => true

def parenthesized (plus : Bool) : Reader Ty := do
  let body : Reader (Option Ty) := do
    match ← inside .parenthesis (enclosed rules) with
    | .tuple elems trailing => return some (.tuple elems trailing)
    | .bound =>
      if ← mark? "+" then
        let _ ← series "+" (fun _ => false) (rules.bound false)
      return none
    | .single ty =>
      if plus && mayBeBound ty && atMark "+" (← upcoming) then
        mark "+"
        let _ ← series "+" (fun _ => false) (rules.bound false)
        return none
      else
        return some (.paren ty)
  let (found, tokens) ← captured body
  return found.getD (.verbatim tokens)

def bracketed : Reader Ty :=
  inside .bracket do
    let elem ← rules.type true
    if ← mark? ";" then
      let (_, length) ← captured (rules.expr true)
      return .array elem length
    else
      return .slice elem

def pointer : Reader Ty := do
  mark "*"
  let mutable ← if ← word? "const" then pure false else do
    word "mut"
    pure true
  return .pointer mutable (← rules.type false)

def reference : Reader Ty := do
  mark "&"
  let lifetime ← lifetime?
  let mutable ← word? "mut"
  return .reference lifetime mutable (← rules.type false)

def atFunction (tokens : List Token) : Bool :=
  atWord "fn" tokens || atWord "unsafe" tokens || atWord "extern" tokens

def atPath (tokens : List Token) : Bool :=
  atNameOrPathWord tokens || atMark "::" tokens || atMark "<" tokens

def lifetimeType (plus : Bool) : Reader Ty := do
  let after ← ahead (do
    forLifetimes rules
    upcoming)
  match after with
  | some tokens =>
    if atFunction tokens then
      verbatim (functionType rules)
    else if atNameOrPathWord tokens then
      verbatim do
        forLifetimes rules
        let _ ← pathType rules plus true
    else fail
  | none => fail

/-- A type; with `plus`, bounds may be added to a trait. -/
def ty (plus : Bool) : Reader Ty := do
  let tokens ← upcoming
  if atWord "for" tokens then
    lifetimeType rules plus
  else if atGroup .parenthesis tokens then
    parenthesized rules plus
  else if atFunction tokens then
    verbatim (functionType rules)
  else if atPath tokens then
    pathType rules plus false
  else if atWord "dyn" tokens then
    verbatim do
      word "dyn"
      let _ ← mark? "*"
      bounds rules plus false
  else if atGroup .bracket tokens then
    bracketed rules
  else if atMark "*" tokens then
    pointer rules
  else if atMark "&" tokens then
    reference rules
  else if atMark "!" tokens && !atMark "=" tokens then
    verbatim (mark "!")
  else if atWord "impl" tokens then
    verbatim do
      word "impl"
      bounds rules plus true
  else if atWord "_" tokens then
    verbatim (word "_")
  else if atLifetime tokens then
    verbatim (bounds rules true false)
  else
    fail

end ValueObjects.Grammar
