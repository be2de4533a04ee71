import ValueObjects.Descriptor
import ValueObjects.Source
import ValueObjects.Ty.Canonical

namespace ValueObjects.Discovery

def capability : String := "Value"

/-- The paths in a list of derived traits; tells nothing if the list is malformed. -/
def derivedPaths (tokens : List Token) : Option (List Grammar.QualifiedPath) :=
  Grammar.read (fun rules => do
    let (paths, _) ← Grammar.commaList (Grammar.path rules false)
    return paths) tokens

def derivedNames (decl : StructDecl) : List String :=
  decl.attrs.flatMap fun attr =>
    match attr.body with
    | .list tokens =>
      if attr.isNamed "derive" then
        ((derivedPaths tokens).getD []).filterMap fun path =>
          path.segments.getLast?.map Segment.name
      else []
    | _ => []

def allPrivate (decl : StructDecl) : Bool :=
  decl.fields.list.all (·.isPrivate)

/-- A structure that derives the capability is a wrapper if it has one field and no parameters. -/
def ofDerive? (scope? : Option String) (decl : StructDecl) : Option Descriptor :=
  let derived := derivedNames decl
  if derived.contains capability && !decl.isGeneric then
    match decl.fields.list with
    | [field] =>
      some ⟨decl.name, field.ty.display, scope?, derived.contains "Copy", allPrivate decl⟩
    | _ => none
  else none

def isBare (segment : Segment) : Bool :=
  match segment.arguments with
  | .none => true
  | .angle _ arguments _ => arguments.isEmpty

/-- The module and name of a type that is named directly, through `self` or from the crate
root. -/
def ownerOf? (scope? : Option String) (segments : List Segment) :
    Option (Option String × String) :=
  if !segments.all isBare then none
  else match (segments.map Segment.name).reverse with
    | [] => none
    | [name] => some (scope?, name)
    | name :: leading =>
      match leading.reverse with
      | "crate" :: rest => some (SourceModule.pathOf rest, name)
      | ["self"] => some (scope?, name)
      | _ => none

/-- A payload is concrete if nothing in it is to be inferred or abstract. -/
def isConcrete : Token → Bool
  | .ident name => name != "Self" && name != "_" && name != "impl"
  | .punct mark _ => mark != '_'
  | .literal _ => true
  | .group _ body => allConcrete body
where
  allConcrete : List Token → Bool
    | [] => true
    | token :: rest => isConcrete token && allConcrete rest

def implementsCapability (decl : ImplDecl) : Bool :=
  match decl.trait? with
  | some seen =>
    !seen.negative &&
      seen.segments.getLast?.any fun last => last.name == capability && isBare last
  | none => false

/-- A type that implements the capability by hand is a wrapper. Its flags are those of the
structure of the same path, if there is one. -/
def ofImpl? (tree : SourceTree) (scope? : Option String) (decl : ImplDecl) :
    Option Descriptor :=
  if !implementsCapability decl || decl.isGeneric then none
  else match decl.self with
    | .path _ segments =>
      match ownerOf? scope? segments, decl.types.lookup "Payload" with
      | some (owner?, name), some payload =>
        if isConcrete.allConcrete payload.tokens then
          let (isCopy, isImmutable) := match tree.findStruct? owner? name with
            | some declared => ((derivedNames declared).contains "Copy", allPrivate declared)
            | none => (false, true)
          some ⟨name, payload.display, owner?, isCopy, isImmutable⟩
        else none
      | _, _ => none
    | _ => none

def candidate? (tree : SourceTree) (module : SourceModule) : Item → Option Descriptor
  | .struct decl => ofDerive? module.scope? decl
  | .impl decl => ofImpl? tree module.scope? decl
  | _ => none

def declared (tree : SourceTree) : List Descriptor :=
  tree.modules.flatMap fun module => module.items.filterMap (candidate? tree module)

def firstOfEach (seen : List (Option String × String)) : List Descriptor → List Descriptor
  | [] => []
  | next :: rest =>
    if seen.contains next.key then firstOfEach seen rest
    else next :: firstOfEach (next.key :: seen) rest

/-- The wrappers of a crate in order. Of several declarations of one wrapper the least counts. -/
def candidates (tree : SourceTree) : List Descriptor :=
  firstOfEach [] (Descriptor.sort (declared tree))

end ValueObjects.Discovery
