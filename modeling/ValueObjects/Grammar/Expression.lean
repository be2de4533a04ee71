import ValueObjects.Grammar.Operator
import ValueObjects.Grammar.Pattern

namespace ValueObjects.Grammar

variable (rules : Rules)

def rangeFrom (rhs : Reader Expr) (structs : Bool) : Reader Expr := do
  let included ← rangeDots false
  if !included && atRangeEnd structs (← upcoming) then
    return ⟨.range, false, none⟩
  else
    let last ← rhs
    return { last.endingIn with kind := .range }

/-- The right operand of an operator: all that binds tighter than the operator belongs to it. -/
def rightOperand (structs : Bool) (precedence : Precedence) : Reader Expr := do
  let first ← rules.unary structs
  extend first ((← upcoming).length + 1)
where
  extend (operand : Expr) : Nat → Reader Expr
    | 0 => fail
    | fuel + 1 => do
      let before ← upcoming
      let next := precedenceAt before
      if next.rank > precedence.rank || (next == precedence && precedence == .assign) then
        let longer ← rules.climb operand structs next
        if (← upcoming).length == before.length then return longer
        extend longer fuel
      else
        return operand

/-- One operator after an operand, with what belongs to it; nothing if none binds tightly
enough. A range is no left operand, and comparisons do not chain. -/
def climbStep (left : Expr) (structs : Bool) (base : Precedence) : Reader (Option Expr) := do
  let tokens ← upcoming
  if left.kind == .range then
    return none
  match operator? tokens with
  | some (operator, precedence) =>
    if precedence.rank < base.rank then
      return none
    else if precedence == .compare && left.kind == .comparison then
      fail
    else
      mark operator
      let right ← rightOperand rules structs precedence
      let kind := if precedence == .compare then ExprKind.comparison else .other
      return some { right.endingIn with kind := kind }
  | none =>
    if Precedence.assign.rank ≥ base.rank && atAssign tokens then
      mark "="
      return some (← rightOperand rules structs .assign).endingIn
    else if Precedence.range.rank ≥ base.rank && atMark ".." tokens then
      return some (← rangeFrom (rightOperand rules structs .range) structs)
    else if atWord "as" tokens then
      word "as"
      let ty ← rules.type false
      if atTrailer (← upcoming) then fail
      return some { Expr.plain with closing := endsInBrace ty }
    else
      return none
where
  /-- Only the call of a macro ends a type in a brace. -/
  endsInBrace (ty : Ty) : Bool :=
    match ty.tokens.getLast? with
    | some (.group .brace _) => true
    | _ => false

def climb (left : Expr) (structs : Bool) (base : Precedence) : Reader Expr := do
  go left ((← upcoming).length + 1)
where
  go (left : Expr) : Nat → Reader Expr
    | 0 => fail
    | fuel + 1 => do
      match ← climbStep rules left structs base with
      | some longer => go longer fuel
      | none => return left

def callList : Reader Unit := do
  let _ ← inside .parenthesis (commaList (rules.expr true))

/-- The positions in a numeral with a point, such as those of nested tuples; tells whether the
numeral ends in its point, so that a member has to follow. -/
def nestedPositions (text : String) : Reader Bool := do
  let parts := text.splitOn "."
  let trailing := text.endsWith "."
  let positions := if trailing then parts.dropLast else parts
  if positions.all fun part => part.toList.head?.any Char.isDigit && isPosition part then
    return trailing
  else fail
where
  isPosition (part : String) : Bool :=
    literalKind part == .whole && member.isIndex part

def memberAccess : Reader Unit := do
  let more ←
    if atLiteralOf .float (← upcoming) then nestedPositions (← literalOf .float)
    else pure true
  if more then
    if ← word? "await" then
      return ()
    let named ← member
    let generic := named && atMark "::" (← upcoming)
    if generic then
      let _ ← turbofish rules
      callList rules
    else if named && atGroup .parenthesis (← upcoming) then
      callList rules

def trailers (operand : Expr) : Reader Expr := do
  go operand ((← upcoming).length + 1)
where
  go (operand : Expr) : Nat → Reader Expr
    | 0 => fail
    | fuel + 1 => do
      let tokens ← upcoming
      let range := operand.kind == .range
      if atGroup .parenthesis tokens then
        callList rules
        go .plain fuel
      else if atMark "." tokens && !atMark ".." tokens && !range then
        mark "."
        memberAccess rules
        go .plain fuel
      else if atGroup .bracket tokens then
        let _ ← inside .bracket (rules.expr true)
        go .plain fuel
      else if atMark "?" tokens && !range then
        mark "?"
        go .plain fuel
      else
        return operand

def fieldValue : Reader Unit := do
  let _ ← outerAttributes rules
  let named ← member
  if !named || atMark ":" (← upcoming) then
    mark ":"
    let _ ← rules.expr true

/-- The fields of a structure that is built; dots may take the others from another. -/
def fieldValues : Nat → Reader Unit
  | 0 => fail
  | fuel + 1 => do
    if ← atEnd then return ()
    if ← mark? ".." then
      if !(← atEnd) then
        let _ ← rules.expr true
      require List.isEmpty
    else
      fieldValue rules
      if ← atEnd then return ()
      mark ","
      fieldValues fuel

def pathOperand (structs : Bool) : Reader Expr := do
  let path ← qualifiedPath rules true
  let tokens ← upcoming
  if atMacro path tokens then
    let braced ← macroArguments
    return ⟨.call braced, braced, none⟩
  else if structs && atGroup .brace tokens then
    inside .brace do
      fieldValues rules ((← upcoming).length + 1)
    return { Expr.plain with closing := true }
  else
    return .plain

def closureParameter : Reader Unit := do
  let _ ← outerAttributes rules
  let _ ← rules.pattern
  if ← mark? ":" then
    let _ ← rules.type true

def closure (structs : Bool) : Reader Expr := do
  let _ ← forLifetimes? rules
  let _ ← word? "const"
  let _ ← word? "static"
  let _ ← word? "async"
  let _ ← word? "move"
  mark "|"
  let _ ← separated "," (atMark "|") (closureParameter rules)
  mark "|"
  if ← mark? "->" then
    let _ ← rules.type true
    block rules
    return { Expr.plain with closing := true }
  else
    return (← rules.expr structs).endingIn

def letOperand (structs : Bool) : Reader Expr := do
  word "let"
  let _ ← alternatives rules
  mark "="
  let first ← rules.unary structs
  return (← rules.climb first structs .compare).endingIn

def branches : Nat → Reader Unit
  | 0 => fail
  | fuel + 1 => do
    word "if"
    let _ ← rules.expr false
    block rules
    if ← word? "else" then
      if atWord "if" (← upcoming) then branches fuel else block rules

def ifOperand : Reader Expr := do
  branches rules ((← upcoming).length + 1)
  return .block

def forOperand : Reader Expr := do
  word "for"
  let _ ← alternatives rules
  word "in"
  let _ ← rules.expr false
  attributedBlock rules
  return .block

def loopOperand : Reader Expr := do
  word "loop"
  attributedBlock rules
  return .block

def whileOperand : Reader Expr := do
  word "while"
  let _ ← rules.expr false
  attributedBlock rules
  return .block

def blockOperand : Reader Expr := do
  attributedBlock rules
  return .block

def tryOperand : Reader Expr := do
  word "try"
  block rules
  return .block

def unsafeOperand : Reader Expr := do
  word "unsafe"
  attributedBlock rules
  return .block

def constOperand : Reader Expr := do
  constBlock rules
  return .block

def labeledOperand : Reader Expr := do
  let _ ← lifetime
  mark ":"
  let tokens ← upcoming
  if atWord "while" tokens then whileOperand rules
  else if atWord "for" tokens then forOperand rules
  else if atWord "loop" tokens then loopOperand rules
  else blockOperand rules

/-- Whether lifetimes follow the word `for`, so that it begins no loop. -/
def atForLifetimes (tokens : List Token) : Bool :=
  let next := skip tokens
  atWord "for" tokens && atMark "<" next && (atLifetime (skip next) || atMark ">" (skip next))

def arm : Reader Unit := do
  let _ ← outerAttributes rules
  let _ ← alternatives rules
  if ← word? "if" then
    let _ ← rules.expr true
  mark "=>"
  let body ← rules.boundary
  if body.needsComma && !(← atEnd) then
    mark ","
  else
    let _ ← mark? ","

def matchOperand : Reader Expr := do
  word "match"
  let _ ← rules.expr false
  inside .brace do
    let _ ← innerAttributes rules
    let _ ← collectAll (arm rules)
  return .block

def blockStart? (tokens : List Token) : Option (Reader Expr) :=
  let braced := atGroup .brace (skip tokens)
  if atWord "if" tokens then some (ifOperand rules)
  else if atWord "while" tokens then some (whileOperand rules)
  else if atWord "for" tokens && !atForLifetimes tokens then some (forOperand rules)
  else if atWord "loop" tokens then some (loopOperand rules)
  else if atWord "match" tokens then some (matchOperand rules)
  else if atWord "try" tokens && braced then some (tryOperand rules)
  else if atWord "unsafe" tokens then some (unsafeOperand rules)
  else if atWord "const" tokens && braced then some (constOperand rules)
  else if atGroup .brace tokens then some (blockOperand rules)
  else if atLifetime tokens then some (labeledOperand rules)
  else none

/-- An expression that stands as a statement or as the body of a match arm: a block of some kind
ends it, unless a member or a question mark follows. -/
def boundaryExpr : Reader Expr := do
  let _ ← outerAttributes rules
  match blockStart? rules (← upcoming) with
  | some reader =>
    let first ← reader
    let tokens ← upcoming
    if (atMark "." tokens && !atMark ".." tokens) || atMark "?" tokens then
      let longer ← trailers rules first
      rules.climb longer true .lowest
    else
      return first
  | none =>
    let first ← rules.unary true
    rules.climb first true .lowest

def parenthesizedOperand : Reader Expr := do
  let _ ← inside .parenthesis (commaList (rules.expr true))
  return .plain

/-- A list of elements, or one element and how often it is repeated. -/
def arrayOperand : Reader Expr :=
  inside .bracket do
    if ← atEnd then return .plain
    let _ ← rules.expr true
    if ← mark? ";" then
      let _ ← rules.expr true
    else if !(← atEnd) then
      mark ","
      let _ ← commaList (rules.expr true)
    return .plain

def optionalExpr (present : List Token → Bool) : Reader Expr := do
  if present (← upcoming) then
    return (← rules.expr true).endingIn
  else
    return .plain

def breakOperand (structs : Bool) : Reader Expr := do
  word "break"
  let labeled ← lifetime?
  if labeled.isSome && atMark ":" (← upcoming) then fail
  optionalExpr rules fun tokens => atExpr tokens && (structs || !atGroup .brace tokens)

def continueOperand : Reader Expr := do
  word "continue"
  let _ ← lifetime?
  return .plain

def yieldOperand : Reader Expr := do
  word "yield"
  optionalExpr rules fun tokens => !tokens.isEmpty && !atMark "," tokens && !atMark ";" tokens

def asyncOperand : Reader Expr := do
  word "async"
  let _ ← word? "move"
  block rules
  return { Expr.plain with closing := true }

def atClosure (tokens : List Token) : Bool :=
  let next := skip tokens
  atMark "|" tokens || atWord "move" tokens || atForLifetimes tokens ||
  (atWord "const" tokens && !atGroup .brace next) || atWord "static" tokens ||
  (atWord "async" tokens && (atMark "|" next || atWord "move" next))

def atAsyncBlock (tokens : List Token) : Bool :=
  let next := skip tokens
  atWord "async" tokens &&
    (atGroup .brace next || (atWord "move" next && atGroup .brace (skip next)))

def builtinOperand : Reader Expr := do
  word "builtin"
  mark "#"
  let _ ← anyName
  let _ ← anyGroup
  return .plain

def operand (structs : Bool) : Reader Expr := do
  let tokens ← upcoming
  let next := skip tokens
  if atLiteral tokens then
    return ⟨.other, false, ← literal⟩
  else if atAsyncBlock tokens then
    asyncOperand rules
  else if atWord "try" tokens && atGroup .brace next then
    tryOperand rules
  else if atClosure tokens then
    closure rules structs
  else if atWord "builtin" tokens && atMark "#" next then
    builtinOperand
  else if atPath tokens || (atWord "try" tokens && (atMark "!" next || atMark "::" next)) then
    pathOperand rules structs
  else if atGroup .parenthesis tokens then
    parenthesizedOperand rules
  else if atWord "break" tokens then
    breakOperand rules structs
  else if atWord "continue" tokens then
    continueOperand
  else if atWord "return" tokens then
    word "return"
    optionalExpr rules atExpr
  else if atWord "become" tokens then
    word "become"
    return (← rules.expr true).endingIn
  else if atGroup .bracket tokens then
    arrayOperand rules
  else if atWord "let" tokens then
    letOperand rules structs
  else if atWord "yield" tokens then
    yieldOperand rules
  else if atMark ".." tokens then
    rangeFrom (rightOperand rules structs .range) structs
  else if atWord "_" tokens then
    word "_"
    return .plain
  else
    match blockStart? rules tokens with
    | some reader => reader
    | none => fail

def unary (structs : Bool) : Reader Expr := do
  let attrs ← outerAttributes rules
  let tokens ← upcoming
  if atMark "&" tokens then
    mark "&"
    let tokens ← upcoming
    let next := skip tokens
    if atWord "raw" tokens && (atWord "mut" next || atWord "const" next) then
      word "raw"
      let _ ← anyName
    else
      let _ ← word? "mut"
    return (← rules.unary structs).endingIn
  else
    match ["*", "!", "-"].find? (atMark · tokens) with
    | some operator =>
      mark operator
      return (← rules.unary structs).endingIn
    | none =>
      let first ← operand rules structs
      let whole ← trailers rules first
      if !attrs.isEmpty && whole.kind == .range then fail
      return whole

/-- An expression; with `structs`, a structure may be built in it. -/
def expr (structs : Bool) : Reader Expr := do
  let first ← rules.unary structs
  rules.climb first structs .lowest

end ValueObjects.Grammar
