import ValueObjects.Grammar
import ValueObjects.Path

namespace ValueObjects

def isTestOnly (attrs : List Attribute) : Bool :=
  attrs.any fun attr =>
    match attr.body with
    | .list tokens => attr.isNamed "cfg" && Token.render tokens == "test"
    | _ => false

/-- A module: its path from the crate root, the file it was read from, and its declarations other
than modules. -/
structure SourceModule where
  scope? : Option String
  file? : Option Path
  items : List Item

namespace SourceModule

def structs (module : SourceModule) : List StructDecl :=
  module.items.filterMap fun
    | .struct decl => some decl
    | _ => none

/-- The path of a module by the names of its steps; the root has none. -/
def pathOf (steps : List String) : Option String :=
  if steps.isEmpty then none else some (Naming.joinSteps steps)

end SourceModule

def ownItems (items : List Item) : List Item :=
  items.filter fun
    | .module .. => false
    | _ => true

/-- Where the modules of a module are looked for. -/
structure Site where
  /-- The names that lead to the module from the crate root. -/
  steps : List String
  file? : Option Path
  /-- The directory of its modules' files. -/
  directory : Path
  /-- The directory that paths in attributes start from. -/
  base : Path

structure Absent where
  site : Site
  name : String
  path? : Option Path

/-- What the declaration of a module comes to: the module, or one whose file is to be read. -/
inductive Declared where
  | present (module : SourceModule)
  | absent (module : Absent)

def pathAttribute? (attrs : List Attribute) : Option Path :=
  attrs.findSome? fun attr =>
    match attr.body with
    | .value (some literal) =>
      if attr.isNamed "path" then (Literal.stringValue? literal.toList).map String.ofList else none
    | _ => none

namespace Site

def module (site : Site) (items : List Item) : SourceModule :=
  ⟨SourceModule.pathOf site.steps, site.file?, ownItems items⟩

def directoryOf (site : Site) (name : String) : Path :=
  Path.join site.directory (Naming.unraw name)

def inside (site : Site) (name : String) (path? : Option Path) : Site :=
  let directory := match path? with
    | some path => Path.join site.directory path
    | none => site.directoryOf name
  ⟨site.steps ++ [name], site.file?, directory, directory⟩

end Site

mutual

/-- The modules that a declaration stands for, each before those inside it. -/
def Item.declared (site : Site) : Item → List Declared
  | .module attrs name content =>
    if isTestOnly attrs then []
    else match content with
      | some items =>
        let inner := site.inside name (pathAttribute? attrs)
        .present (inner.module items) :: Item.declaredIn inner items
      | none => [.absent ⟨site, name, pathAttribute? attrs⟩]
  | _ => []

def Item.declaredIn (site : Site) : List Item → List Declared
  | [] => []
  | item :: rest => Item.declared site item ++ Item.declaredIn site rest

end

def Site.declared (site : Site) (text : String) : List Declared :=
  match Grammar.sourceItems? text with
  | some items => .present (site.module items) :: Item.declaredIn site items
  | none => []

def Declared.module? : Declared → Option SourceModule
  | .present module => some module
  | .absent _ => none

structure SourceTree where
  modules : List SourceModule
  files : List Path

namespace SourceTree

/-- The steps of a module path that may begin with `crate`; empty steps are left out. -/
def stepsOf (path : String) : List String :=
  let chars := path.toList
  let relative := match chars with
    | 'c' :: 'r' :: 'a' :: 't' :: 'e' :: rest =>
      match rest with
      | [] => []
      | ':' :: ':' :: _ => rest
      | _ => chars
    | _ => chars
  ((Naming.cutSteps relative).filter (!·.isEmpty)).map String.ofList

/-- The modules of one source text at a module path. Modules without their declarations are left
out, as there is no directory to look for them in. -/
def modulesOf (path text : String) : List SourceModule :=
  (Site.declared ⟨stepsOf path, none, "", ""⟩ text).filterMap Declared.module?

def ofSources (sources : List (String × String)) : SourceTree :=
  ⟨sources.flatMap fun (path, text) => modulesOf path text, []⟩

def findStruct? (tree : SourceTree) (scope? : Option String) (name : String) :
    Option StructDecl :=
  ((tree.modules.filter (·.scope? == scope?)).flatMap SourceModule.structs).find?
    (·.name == name)

end SourceTree

end ValueObjects
