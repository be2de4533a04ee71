import ValueObjects.Grammar.Expression

namespace ValueObjects.Grammar

variable (rules : Rules)

/-- A macro call that is a statement or declares something, as far as its path and what follows
tell. -/
inductive MacroStart where
  | none
  | declaring
  | braced

def macroStart (tokens : List Token) : MacroStart :=
  let next := skip tokens
  let after := skip next
  if !atMark "!" tokens then .none
  else if atName next || atWord "try" next then .declaring
  else if atGroup .brace next &&
      !((atMark "." after && !atMark ".." after) || atMark "?" after) then .braced
  else .none

def atDeclaration (tokens : List Token) : Bool :=
  let next := skip tokens
  let after := skip next
  ["pub", "extern", "use", "fn", "mod", "type", "struct", "enum", "trait", "impl", "macro"].any
    (atWord · tokens) ||
  (atWord "crate" tokens && !atMark "::" next) ||
  (atWord "static" tokens && (atWord "mut" next || atName next)) ||
  (atWord "const" tokens &&
    !(atGroup .brace next || atWord "static" next || atWord "move" next || atMark "|" next ||
      (atWord "async" next &&
        !(atWord "unsafe" after || atWord "extern" after || atWord "fn" after)))) ||
  (atWord "unsafe" tokens && !atGroup .brace next) ||
  (atWord "async" tokens && (atWord "unsafe" next || atWord "extern" next || atWord "fn" next)) ||
  (atWord "union" tokens && atName next) ||
  (atWord "auto" tokens && atWord "trait" next) ||
  (atWord "default" tokens && (atWord "unsafe" next || atWord "impl" next))

def binding : Reader Unit := do
  word "let"
  let _ ← rules.pattern
  if ← mark? ":" then
    let _ ← rules.type true
  if ← mark? "=" then
    let value ← rules.expr true
    if !value.closing && atWord "else" (← upcoming) then
      word "else"
      block rules
  mark ";"

/-- A statement; tells whether a semicolon has to come before the next. -/
def statement : Reader Bool := do
  let attrs ← outerAttributes rules
  let tokens ← upcoming
  let start ← ahead (do
    let _ ← namePath
    return macroStart (← upcoming))
  let declares := match start with
    | some .declaring => true
    | _ => false
  match start with
  | some .braced =>
    let _ ← namePath
    mark "!"
    let _ ← anyGroup
    let _ ← mark? ";"
    return false
  | _ =>
    if atWord "let" tokens then
      binding rules
      return false
    else if atDeclaration tokens || declares then
      let _ ← rules.item attrs
      return false
    else
      let whole ← rules.boundary
      let ended ← mark? ";"
      return !ended && whole.needsSemicolon

def statements : Reader Unit := do
  let _ ← collect do
    let _ ← collectWhile (atMark ";") (mark ";")
    if ← atEnd then return none
    let open? ← statement rules
    if open? && !(← atEnd) then fail
    return some ()

end ValueObjects.Grammar
