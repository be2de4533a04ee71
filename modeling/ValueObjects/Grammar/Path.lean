import ValueObjects.Grammar.Attribute

namespace ValueObjects.Grammar

/-- A path, and the type that it leads into if it begins with one. -/
structure QualifiedPath where
  self? : Option (Ty × Nat)
  rooted : Bool
  segments : List Segment

namespace QualifiedPath

def ty : QualifiedPath → Ty
  | ⟨some (self, position), rooted, segments⟩ => .qualified self position rooted segments
  | ⟨none, rooted, segments⟩ => .path rooted segments

def isPlain (path : QualifiedPath) : Bool :=
  path.self?.isNone && path.segments.all (·.arguments.isNone)

/-- Whether a list between parentheses may be the arguments of the last step. -/
def takesCall (path : QualifiedPath) : Bool :=
  path.segments.getLast?.any (·.arguments.isNone)

end QualifiedPath

def singleStep? : Ty → Bool
  | .path false [_] => true
  | _ => false

variable (rules : Rules)

def constArgument : Reader Unit := do
  let tokens ← upcoming
  if atLiteral tokens then
    let _ ← literal
  else if atName tokens then
    let _ ← name
  else
    attributedBlock rules

/-- What follows a generic argument that is a single step: a binding to a type or constant, or a
constraint. Tells whether one of them follows. -/
def argumentTail : Reader Bool := do
  if ← mark? "=" then
    let tokens ← upcoming
    if atLiteral tokens || atGroup .brace tokens then
      constArgument rules
    else
      let _ ← rules.type true
    return true
  else if ← mark? ":" then
    let stop := fun tokens => atMark "," tokens || atMark ">" tokens
    let _ ← series "+" stop (rules.bound false)
    return true
  else
    return false

def argument : Reader Argument := do
  let tokens ← upcoming
  if atLifetime tokens && !atMark "+" (skip tokens) then
    return .lifetime (← lifetime)
  else if atLiteral tokens || atGroup .brace tokens then
    let (_, written) ← captured (constArgument rules)
    return .other written
  else
    let found : Reader (Ty × Bool) := do
      let ty ← rules.type true
      let bound ← if singleStep? ty then argumentTail rules else pure false
      return (ty, bound)
    let ((ty, bound), written) ← captured found
    return if bound then .other written else .type ty

def angleArguments (turbofish : Bool) : Reader Arguments := do
  mark "<"
  let (arguments, trailing) ← separated "," (atMark ">") (argument rules)
  mark ">"
  return .angle turbofish arguments trailing

def turbofish : Reader Arguments := do
  mark "::"
  angleArguments rules true

/-- One step of a path. In an expression two colons come before its arguments. -/
def segment (inExpr : Bool) : Reader Segment := do
  let tokens ← upcoming
  if ["super", "self", "crate", "try"].any (atWord · tokens) then
    return .plain (← anyName)
  else
    let name ← if atWord "Self" tokens then anyName else name
    let tokens ← upcoming
    if !inExpr && atMark "<" tokens && !atMark "<=" tokens then
      return .mk name (← angleArguments rules false)
    else if atMark "::" tokens && atMark "<" (skip (skip tokens)) then
      return .mk name (← turbofish rules)
    else
      return .plain name

def path (inExpr : Bool) : Reader QualifiedPath := do
  let rooted ← mark? "::"
  let first ← segment rules inExpr
  let continues := fun tokens =>
    atMark "::" tokens && !atGroup .parenthesis (skip (skip tokens))
  let rest ← collectWhile continues do
    mark "::"
    segment rules inExpr
  return ⟨none, rooted, first :: rest⟩

def qualifiedPath (inExpr : Bool) : Reader QualifiedPath := do
  if ← mark? "<" then
    let self ← rules.type true
    let trait? ← if ← word? "as" then pure (some (← path rules false)) else pure none
    mark ">"
    mark "::"
    let first ← segment rules inExpr
    let rest ← collectWhile (atMark "::") do
      mark "::"
      segment rules inExpr
    let steps := first :: rest
    match trait? with
    | some seen =>
      return ⟨some (self, seen.segments.length), seen.rooted, seen.segments ++ steps⟩
    | none => return ⟨some (self, 0), true, steps⟩
  else
    path rules inExpr

def returnType (plus : Bool) : Reader Unit := do
  if ← mark? "->" then
    let _ ← rules.type plus

def callArguments (path : QualifiedPath) : Reader Unit := do
  let tokens ← upcoming
  let calls := atGroup .parenthesis tokens ||
    (atMark "::" tokens && atGroup .parenthesis (skip (skip tokens)))
  if path.takesCall && calls then
    let _ ← mark? "::"
    let _ ← inside .parenthesis (commaList (rules.type true))
    returnType rules false

end ValueObjects.Grammar
