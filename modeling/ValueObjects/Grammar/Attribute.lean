import ValueObjects.Grammar.Rules

namespace ValueObjects.Grammar

def atNameOrPathWord (tokens : List Token) : Bool :=
  atName tokens || atPathWord tokens

/-- A path of names only, such as those of attributes and macros; tells whether it begins at the
root. -/
def namePath : Reader (Bool × List String) := do
  let rooted ← mark? "::"
  let first ← step
  let rest ← collect do
    if ← mark? "::" then return some (← step) else return none
  return (rooted, first :: rest)
where
  step : Reader String := do
    require atNameOrPathWord
    anyName

def atAnyGroup : List Token → Bool
  | .group .. :: _ => true
  | _ => false

variable (rules : Rules)

def attributeValue : Reader (Option String) := do
  let single : Reader (Option String) := do
    let text ← literal
    require List.isEmpty
    return text
  match ← attempt single with
  | some text => return text
  | none =>
    let tokens ← upcoming
    if atMark "#" tokens && atGroup .bracket (skip tokens) then fail
    return (← rules.expr true).literal

def attributeBody : Reader Attribute := do
  let (rooted, path) ←
    if ← word? "unsafe" then pure (false, ["unsafe"]) else namePath
  if atAnyGroup (← upcoming) then
    let (_, body) ← anyGroup
    return ⟨rooted, path, .list body⟩
  else if ← mark? "=" then
    return ⟨rooted, path, .value (← attributeValue rules)⟩
  else
    return ⟨rooted, path, .word⟩

def outerAttributes : Reader (List Attribute) :=
  collectWhile (atMark "#") do
    mark "#"
    inside .bracket (attributeBody rules)

def innerAttributes : Reader (List Attribute) :=
  collectWhile (fun tokens => atMark "#" tokens && atMark "!" (skip tokens)) do
    mark "#"
    mark "!"
    inside .bracket (attributeBody rules)

def block : Reader Unit :=
  inside .brace rules.statements

def attributedBlock : Reader Unit :=
  inside .brace do
    let _ ← innerAttributes rules
    rules.statements

end ValueObjects.Grammar
