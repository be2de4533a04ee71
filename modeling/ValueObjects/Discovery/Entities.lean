import ValueObjects.Descriptor
import ValueObjects.Discovery.Candidates
import ValueObjects.Source

namespace ValueObjects.Discovery

/-- The type that an option holds, and whether the type is an option. An option is named alone or
from a standard library. -/
def optionArgument (ty : Ty) : Ty × Bool :=
  match ty with
  | .path _ segments =>
    match segments.getLast? with
    | some (.mk "Option" (.angle _ [.type inner] _)) =>
      let first := (segments.head?.map Segment.name).getD ""
      if segments.length = 1 || first == "std" || first == "core" then (inner, true)
      else (ty, false)
    | _ => (ty, false)
  | _ => (ty, false)

def climbModules (base : List String) : List String → List String
  | "super" :: rest => climbModules base.dropLast rest
  | rest => base ++ rest

/-- The modules that the steps before a name may denote, seen from a module, the likeliest
first. -/
def denotedModules (current? : Option String) (leading : List String) : List (Option String) :=
  let base := match current? with
    | some path => Naming.steps path
    | none => []
  match leading with
  | "crate" :: rest => [SourceModule.pathOf rest]
  | "self" :: rest => [SourceModule.pathOf (base ++ rest)]
  | "super" :: _ => [SourceModule.pathOf (climbModules base leading)]
  | _ => [SourceModule.pathOf (base ++ leading), SourceModule.pathOf leading]

/-- The wrapper that a type names, seen from a module: in the modules that its steps denote, then
in the module itself, then anywhere if only one wrapper has the name. -/
def resolve? (scope? : Option String) (candidates : List Descriptor) (ty : Ty) :
    Option Descriptor :=
  match ty with
  | .path _ segments =>
    let names := segments.map Segment.name
    match names.getLast? with
    | some name =>
      if !segments.all isBare then none
      else
        let named := candidates.filter (·.typeName == name)
        let inModule := fun path => named.find? (·.scope? == path)
        let leading := names.dropLast
        let denoted := if leading.isEmpty then [] else denotedModules scope? leading
        match denoted.findSome? inModule with
        | some found => some found
        | none =>
          match inModule scope? with
          | some found => some found
          | none =>
            match named with
            | [only] => some only
            | _ => none
    | none => none
  | _ => none

def property? (candidates : List Descriptor) (scope? : Option String) (entity : String)
    (field : Field) : Option Property :=
  match field.name with
  | some name =>
    let (ty, nullable) := optionArgument field.ty
    (resolve? scope? candidates ty).map fun wrapper =>
      ⟨entity, scope?, name, wrapper.typeName, wrapper.scope?, nullable⟩
  | none => none

/-- The properties of a structure: it has named fields and no parameters, and is no wrapper. -/
def entityProperties (candidates : List Descriptor) (scope? : Option String)
    (decl : StructDecl) : List Property :=
  if candidates.any fun wrapper => wrapper.key == (scope?, decl.name) then []
  else match decl.fields with
    | .named fields =>
      if decl.isGeneric then []
      else fields.filterMap (property? candidates scope? decl.name)
    | _ => []

def entities (tree : SourceTree) (candidates : List Descriptor) : List Property :=
  Property.sort <| tree.modules.flatMap fun module =>
    module.structs.flatMap (entityProperties candidates module.scope?)

end ValueObjects.Discovery
