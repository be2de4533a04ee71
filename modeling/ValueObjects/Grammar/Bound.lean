import ValueObjects.Grammar.Path

namespace ValueObjects.Grammar

variable (rules : Rules)

def forLifetimes : Reader Unit := do
  word "for"
  mark "<"
  let _ ← separated "," (atMark ">") do
    let _ ← outerAttributes rules
    lifetime
  mark ">"

def forLifetimes? : Reader Bool := do
  if atWord "for" (← upcoming) then
    forLifetimes rules
    return true
  else
    return false

/-- The parameters that an abstract type captures. -/
def captures : Reader Unit := do
  word "use"
  mark "<"
  let _ ← separated "," (atMark ">") do
    let tokens ← upcoming
    if atLifetime tokens then lifetime
    else if atWord "Self" tokens then anyName
    else name
  mark ">"

def traitBound : Reader Unit := do
  let before ← forLifetimes? rules
  let tokens ← upcoming
  if atGroup .bracket tokens then
    inside .bracket (word "const")
  else if atWord "const" tokens then
    word "const"
  else if atMark "~" tokens && atWord "const" (skip tokens) then
    mark "~"
    word "const"
  let relaxed ← mark? "?"
  if !before && relaxed then
    let _ ← forLifetimes? rules
  let path ← path rules false
  callArguments rules path

/-- One bound; tells whether it is a trait. -/
def bound (capturing : Bool) : Reader Bool := do
  let tokens ← upcoming
  if atLifetime tokens then
    let _ ← lifetime
    return false
  else if atWord "use" tokens then
    if capturing then captures else fail
    return false
  else if atGroup .parenthesis tokens then
    inside .parenthesis (traitBound rules)
    return true
  else
    traitBound rules
    return true

def atBound (tokens : List Token) : Bool :=
  atAnyName tokens || atMark "::" tokens || atMark "?" tokens || atLifetime tokens ||
    atGroup .parenthesis tokens || atGroup .bracket tokens

def moreBounds (capturing : Bool) : Reader (List Bool) := do
  if ← mark? "+" then
    series "+" (fun tokens => !atBound tokens) (rules.bound capturing)
  else
    return []

/-- Bounds, one of which is a trait. -/
def bounds (plus capturing : Bool) : Reader Unit := do
  let first ← rules.bound capturing
  let rest ← if plus then moreBounds rules capturing else pure []
  if (first :: rest).any id then return () else fail

def optionalBounds (stop : List Token → Bool) : Reader Bool := do
  if ← mark? ":" then
    let _ ← series "+" stop (rules.bound false)
    return true
  else
    return false

def lifetimeBounds (stop : List Token → Bool) : Reader Unit := do
  let _ ← series "+" stop lifetime

def atParameterEnd (tokens : List Token) : Bool :=
  tokens.isEmpty || atMark "," tokens || atMark ">" tokens

def parameter : Reader Unit := do
  let _ ← outerAttributes rules
  let tokens ← upcoming
  if atLifetime tokens then
    let _ ← lifetime
    if ← mark? ":" then
      lifetimeBounds atParameterEnd
  else if atName tokens then
    let _ ← name
    let _ ← optionalBounds rules fun tokens => atParameterEnd tokens || atMark "=" tokens
    if ← mark? "=" then
      let _ ← rules.type true
  else if atWord "const" tokens then
    word "const"
    let _ ← name
    mark ":"
    let _ ← rules.type true
    if ← mark? "=" then
      constArgument rules
  else
    word "_"

/-- Generic parameters between angle brackets, if there are any; gives the tokens of each. -/
def parameters : Reader (Option (List (List Token) × Bool)) := do
  if ← mark? "<" then
    let (found, trailing) ← separated "," (atMark ">") (captured (parameter rules))
    mark ">"
    return some (found.map (·.2), trailing)
  else
    return none

def isGeneric : Reader Bool := do
  match ← parameters rules with
  | some (found, _) => return !found.isEmpty
  | none => return false

def atClauseEnd (tokens : List Token) : Bool :=
  tokens.isEmpty || atGroup .brace tokens || atMark "," tokens || atMark ";" tokens ||
    (atMark ":" tokens && !atMark "::" tokens) || atMark "=" tokens

def predicate : Reader Unit := do
  let tokens ← upcoming
  if atLifetime tokens && atMark ":" (skip tokens) then
    let _ ← lifetime
    mark ":"
    lifetimeBounds fun tokens => atClauseEnd tokens || atMark ":" tokens
  else
    let _ ← forLifetimes? rules
    let _ ← rules.type true
    mark ":"
    let _ ← series "+" atClauseEnd (rules.bound false)

def whereClause : Reader (List (List Token)) := do
  word "where"
  let found ← series "," atClauseEnd (captured (predicate rules))
  return found.map (·.2)

def whereClause? : Reader Bool := do
  if atWord "where" (← upcoming) then
    let _ ← whereClause rules
    return true
  else
    return false

end ValueObjects.Grammar
