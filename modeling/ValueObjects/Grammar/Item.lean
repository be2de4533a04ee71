import ValueObjects.Grammar.Function
import ValueObjects.Grammar.Statement

namespace ValueObjects.Grammar

variable (rules : Rules)

def atMacroPath (tokens : List Token) : Bool :=
  atName tokens || atWord "self" tokens || atWord "super" tokens || atWord "crate" tokens ||
    atMark "::" tokens

/-- A macro call in place of a declaration; `named` if a name may follow the exclamation mark. -/
def macroItem (named : Bool) : Reader Unit := do
  let _ ← namePath
  mark "!"
  if named && (atName (← upcoming) || atWord "try" (← upcoming)) then
    let _ ← anyName
  let (delimiter, _) ← anyGroup
  if delimiter != .brace then
    mark ";"

/-! Fields. -/

def namedField : Reader Field := do
  let _ ← outerAttributes rules
  let isPublic ← visibility
  let unnamed := atWord "_" (← upcoming)
  let name ← if unnamed then anyName else name
  mark ":"
  let tokens ← upcoming
  if unnamed && (atWord "struct" tokens ||
      (atWord "union" tokens && atGroup .brace (skip tokens))) then
    let (_, tokens) ← captured (do
      let _ ← anyName
      let _ ← anyGroup)
    return ⟨!isPublic, some name, .verbatim tokens⟩
  else
    return ⟨!isPublic, some name, ← rules.type true⟩

def positionalField : Reader Field := do
  let _ ← outerAttributes rules
  let isPublic ← visibility
  return ⟨!isPublic, none, ← rules.type true⟩

def namedFields : Reader (List Field) := do
  let (fields, _) ← inside .brace (commaList (namedField rules))
  return fields

def positionalFields : Reader (List Field) := do
  let (fields, _) ← inside .parenthesis (commaList (positionalField rules))
  return fields

def conditions : Reader (Option (List (List Token))) := do
  if atWord "where" (← upcoming) then
    return some (← whereClause rules)
  else
    return none

/-- The fields of a structure, with the where clause before or after them. -/
def structBody : Reader (Option (List (List Token)) × Fields) := do
  let before ← conditions rules
  let tokens ← upcoming
  if before.isNone && atGroup .parenthesis tokens then
    let fields ← positionalFields rules
    let after ← conditions rules
    mark ";"
    return (after, .positional fields)
  else if atGroup .brace tokens then
    return (before, .named (← namedFields rules))
  else
    mark ";"
    return (before, .unit)

def variant : Reader Unit := do
  let _ ← outerAttributes rules
  let _ ← visibility
  let _ ← name
  let tokens ← upcoming
  if atGroup .brace tokens then
    let _ ← namedFields rules
  else if atGroup .parenthesis tokens then
    let _ ← positionalFields rules
  if ← mark? "=" then
    let _ ← rules.expr true

def enumBody : Reader Unit := do
  let _ ← whereClause? rules
  let _ ← inside .brace (commaList (variant rules))

def unionBody : Reader Unit := do
  let _ ← whereClause? rules
  let _ ← namedFields rules

/-! Types inside traits and implementations. -/

inductive ClausePlace where
  | before
  | after
  | both
  deriving DecidableEq

/-- A definition of a type: its name, and the type if it is defined and not bounded. -/
def typeItem (mayDefault : Bool) (place : ClausePlace) : Reader (String × Option Ty) := do
  let _ ← visibility
  if mayDefault then
    let _ ← word? "default"
  word "type"
  let name ← name
  let _ ← isGeneric rules
  let bounded ← typeBounds
  let clauseBefore ← if place == .after then pure false else whereClause? rules
  let definition ← if ← mark? "=" then
      let definition ← rules.type true
      pure (some definition)
    else pure none
  if place != .before && !clauseBefore then
    let _ ← whereClause? rules
  mark ";"
  return (name, if bounded then none else definition)
where
  typeBounds : Reader Bool := do
    if ← mark? ":" then
      let stop := fun tokens => atWord "where" tokens || atMark "=" tokens || atMark ";" tokens
      let _ ← separated "+" stop (rules.bound false)
      return true
    else
      return false

/-- A constant without its leading word: it may be generic and lack a value. -/
def constItem : Reader Unit := do
  word "const"
  require fun tokens => atName tokens || atWord "_" tokens
  let _ ← anyName
  let _ ← isGeneric rules
  mark ":"
  let _ ← rules.type true
  if ← mark? "=" then
    let _ ← rules.expr true
  let _ ← whereClause? rules
  mark ";"

def traitItem : Reader Unit := do
  let _ ← outerAttributes rules
  let isPublic ← visibility
  let hasDefault ← word? "default"
  let tokens ← upcoming
  if ← atFunctionWords false then
    function rules false
  else if atWord "const" tokens then
    constItem rules
  else if atWord "type" tokens then
    let _ ← typeItem rules false .after
  else if !isPublic && !hasDefault && atMacroPath tokens then
    macroItem false
  else
    fail

def implItem : Reader (Option (String × Ty)) := do
  let _ ← outerAttributes rules
  let isPublic ← visibility
  let hasDefault := atWord "default" (← upcoming) && !atMark "!" (skip (← upcoming))
  if hasDefault then
    word "default"
  let tokens ← upcoming
  if ← atFunctionWords false then
    function rules false
    return none
  else if atWord "const" tokens then
    constItem rules
    return none
  else if atWord "type" tokens then
    let (name, definition) ← typeItem rules false .after
    return definition.map (name, ·)
  else if !isPublic && !hasDefault && atMacroPath tokens then
    macroItem false
    return none
  else
    fail

/-- Whether angle brackets after `impl` hold generic parameters and do not begin a type. -/
def atImplParameters (tokens : List Token) : Bool :=
  let next := skip tokens
  let after := skip next
  atMark "<" tokens &&
    (atMark ">" next || atMark "#" next || atWord "const" next ||
      ((atLifetime next || atName next) &&
        (atMark ">" after || atMark "," after || (atMark ":" after && !atMark "::" after) ||
          atMark "=" after)))

/-- An implementation. One with a visibility or of something else than a trait path is no more
than read over. -/
def implDecl (attrs : List Attribute) : Reader Item := do
  let isPublic ← visibility
  let _ ← word? "default"
  let _ ← word? "unsafe"
  word "impl"
  let generic ← if atImplParameters (← upcoming) then isGeneric rules else pure false
  let tokens ← upcoming
  let constant := atWord "const" tokens || (atMark "?" tokens && atWord "const" (skip tokens))
  if constant then
    let _ ← mark? "?"
    word "const"
  let tokens ← upcoming
  let negative := atMark "!" tokens && !atGroup .brace (skip tokens)
  if negative then
    mark "!"
  let first ← rules.type true
  let isFor ← word? "for"
  let self ← if isFor then rules.type true else pure first
  let _ ← whereClause? rules
  let (inner, types) ← inside .brace do
    let inner ← innerAttributes rules
    let items ← collectAll (implItem rules)
    return (inner, items.filterMap id)
  if isPublic || constant then
    return .other
  let decl := fun of => Item.impl ⟨attrs ++ inner, generic, of, self, types⟩
  if isFor then
    match first with
    | .path _ segments => return decl (some ⟨negative, segments⟩)
    | _ => return .other
  else
    return decl none

def traitBody : Reader Unit := do
  if ← mark? ":" then
    let stop := fun tokens => atWord "where" tokens || atGroup .brace tokens
    let _ ← separated "+" stop (rules.bound false)
  let _ ← whereClause? rules
  inside .brace do
    let _ ← innerAttributes rules
    let _ ← collectAll (traitItem rules)

def traitDecl : Reader Unit := do
  let _ ← visibility
  let isUnsafe ← word? "unsafe"
  let auto ← word? "auto"
  word "trait"
  let _ ← name
  let _ ← isGeneric rules
  if !isUnsafe && !auto && atMark "=" (← upcoming) then
    mark "="
    let stop := fun tokens => atWord "where" tokens || atMark ";" tokens
    let _ ← separated "+" stop (rules.bound false)
    let _ ← whereClause? rules
    mark ";"
  else
    traitBody rules

/-- What a `use` declaration names. Tells whether a root is named inside a group. -/
def useTree (fromRoot : Bool) : Reader Bool := do
  let tokens ← upcoming
  if atName tokens || ["self", "super", "crate", "try"].any (atWord · tokens) then
    let _ ← anyName
    if ← mark? "::" then
      let rooted ← rules.useTree false
      return rooted
    else if ← word? "as" then
      if atName (← upcoming) then
        let _ ← name
      else
        word "_"
      return false
    else
      return false
  else if atMark "*" tokens then
    mark "*"
    return false
  else
    let (found, _) ← inside .brace <| commaList do
      let rooted ← if fromRoot then mark? "::" else pure false
      let deeper ← rules.useTree (fromRoot && !rooted)
      return rooted || deeper
    return found.any id

def useDecl : Reader Unit := do
  let _ ← visibility
  word "use"
  let rooted ← mark? "::"
  let _ ← rules.useTree !rooted
  mark ";"

def externCrate : Reader Unit := do
  let _ ← visibility
  word "extern"
  word "crate"
  if atWord "self" (← upcoming) then
    let _ ← anyName
  else
    let _ ← name
  if ← word? "as" then
    if atWord "_" (← upcoming) then
      word "_"
    else
      let _ ← name
  mark ";"

def foreignItem : Reader Unit := do
  let _ ← outerAttributes rules
  let isPublic ← visibility
  let tokens ← upcoming
  if ← atFunctionWords true then
    function rules true
  else if atWord "static" tokens ||
      ((atWord "unsafe" tokens || atWord "safe" tokens) && atWord "static" (skip tokens)) then
    if !(← word? "unsafe") then
      let _ ← word? "safe"
    word "static"
    let _ ← word? "mut"
    let _ ← name
    mark ":"
    let _ ← rules.type true
    if ← mark? "=" then
      let _ ← rules.expr true
    mark ";"
  else if atWord "type" tokens then
    let _ ← typeItem rules false .both
  else if !isPublic && atMacroPath tokens then
    macroItem false
  else
    fail

def foreignModule : Reader Unit := do
  let _ ← word? "unsafe"
  require (atWord "extern")
  abi?
  inside .brace do
    let _ ← innerAttributes rules
    let _ ← collectAll (foreignItem rules)

def moduleDecl (attrs : List Attribute) : Reader Item := do
  let _ ← visibility
  let _ ← word? "unsafe"
  word "mod"
  let name ← if atWord "try" (← upcoming) then anyName else name
  if ← mark? ";" then
    return .module attrs name none
  else
    inside .brace do
      let inner ← innerAttributes rules
      let items ← collectAll do
        rules.item (← outerAttributes rules)
      return .module (attrs ++ inner) name (some items)

def staticDecl : Reader Unit := do
  let _ ← visibility
  word "static"
  let _ ← word? "mut"
  let _ ← name
  if ← mark? "=" then
    let _ ← rules.expr true
    mark ";"
  else
    mark ":"
    let _ ← rules.type true
    if !(← mark? ";") then
      mark "="
      let _ ← rules.expr true
      mark ";"

def structDecl (attrs : List Attribute) : Reader Item := do
  let _ ← visibility
  word "struct"
  let name ← name
  let generic ← isGeneric rules
  let (_, fields) ← structBody rules
  return .struct ⟨attrs, name, generic, fields⟩

def enumDecl : Reader Unit := do
  let _ ← visibility
  word "enum"
  let _ ← name
  let _ ← isGeneric rules
  enumBody rules

def unionDecl : Reader Unit := do
  let _ ← visibility
  word "union"
  let _ ← name
  let _ ← isGeneric rules
  unionBody rules

def macroDecl : Reader Unit := do
  let _ ← visibility
  word "macro"
  let _ ← name
  if atGroup .parenthesis (← upcoming) then
    let _ ← anyGroup
  require (atGroup .brace)
  let _ ← anyGroup

/-- Runs a reader of a declaration that nothing is kept of. -/
def unnoticed (reader : Reader Unit) : Reader Item := do
  reader
  return .other

def externDecl (after : List Token) : Reader Item :=
  if atWord "crate" after then unnoticed externCrate
  else unnoticed (foreignModule rules)

def unsafeDecl (attrs : List Attribute) (after : List Token) : Reader Item :=
  if atWord "trait" after || (atWord "auto" after && atWord "trait" (skip after)) then
    unnoticed (traitDecl rules)
  else if atWord "impl" after then implDecl rules attrs
  else if atWord "extern" after then unnoticed (foreignModule rules)
  else moduleDecl rules attrs

def item (attrs : List Attribute) : Reader Item := do
  match ← ahead (do
    let isPublic ← visibility
    let callable ← atFunctionWords false
    return (isPublic, callable, ← upcoming)) with
  | none => fail
  | some (isPublic, callable, tokens) =>
    let next := skip tokens
    if callable then
      unnoticed do
        let _ ← visibility
        function rules false
    else if atWord "extern" tokens then externDecl rules next
    else if atWord "use" tokens then unnoticed (useDecl rules)
    else if atWord "static" tokens then unnoticed (staticDecl rules)
    else if atWord "const" tokens then
      unnoticed do
        let _ ← visibility
        constItem rules
    else if atWord "unsafe" tokens then unsafeDecl rules attrs next
    else if atWord "mod" tokens then moduleDecl rules attrs
    else if atWord "type" tokens then
      unnoticed do
        let _ ← typeItem rules false .before
    else if atWord "struct" tokens then structDecl rules attrs
    else if atWord "enum" tokens then unnoticed (enumDecl rules)
    else if atWord "union" tokens && atName next then unnoticed (unionDecl rules)
    else if atWord "trait" tokens || (atWord "auto" tokens && atWord "trait" next) then
      unnoticed (traitDecl rules)
    else if atWord "impl" tokens || (atWord "default" tokens && !atMark "!" next) then
      implDecl rules attrs
    else if atWord "macro" tokens then unnoticed macroDecl
    else if !isPublic && atMacroPath tokens then unnoticed (macroItem true)
    else fail

end ValueObjects.Grammar
