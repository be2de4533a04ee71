import ValueObjects.Config
import ValueObjects.Discovery.Entities
import ValueObjects.Emit.Document
import ValueObjects.Emit.Operators
import ValueObjects.Emit.Parsing
import ValueObjects.Generation.Stems
import ValueObjects.Unit

namespace ValueObjects.Generation

open Emit

structure Output where
  descriptors : List Descriptor
  properties : List Property
  units : List GeneratedUnit
  diagnostics : List Failure

abbrev Attempt := Except Failure GeneratedUnit

/-- The attempts at the units of one wrapper, and its path if its serializer is to be
registered. A wrapper that cannot be checked is one failed attempt. -/
def wrapperAttempts (config : Config) (stem : String) (descriptor : Descriptor) :
    List Attempt × Option CratePath :=
  match Subject.of descriptor (classify descriptor.payload) with
  | .error failure => ([.error failure], none)
  | .ok subject =>
    let start := descriptor.stem
    let relationalUnit := do
      let converters ← convertersOf stem
      GeneratedUnit.render start .relational (relational subject converters)
    ([GeneratedUnit.render start .operators (operators subject),
      GeneratedUnit.render start .parsing (parsing subject)] ++
      (if config.relational then [relationalUnit] else []) ++
      (if config.document then
        [GeneratedUnit.render start .document (document subject)] else []),
      if config.document then some subject.wrapper else none)

/-- The attempt at the extension of a group; it can end the pass. -/
def groupAttempt (group : Group) : Except Stop Attempt :=
  let made : Except Stop GeneratedUnit := do
    let subjects ← Stop.lift (group.members.mapM fun member =>
      Subject.of member (classify group.payload))
    let found ← Extension.of group subjects
    let tokens := match found with
      | some ext => ext.tokens
      | none => []
    Stop.lift (GeneratedUnit.render ("As" ++ group.name) .extensions tokens)
  match made with
  | .ok unit => .ok (.ok unit)
  | .error (.failure failure) => .ok (.error failure)
  | .error (.abort name) => .error (.abort name)

/-- Entities in order: the root module first, then by module and name. -/
def compareEntities (a b : Option String × String) : Ordering :=
  (compareScopes a.1 b.1).then (compare a.2 b.2)

def insertProperty (property : Property) :
    List ((Option String × String) × List Property) →
      List ((Option String × String) × List Property)
  | [] => [((property.entityScope?, property.entityName), [property])]
  | (entity, rows) :: rest =>
    match compareEntities (property.entityScope?, property.entityName) entity with
    | .lt => ((property.entityScope?, property.entityName), [property]) :: (entity, rows) :: rest
    | .eq => (entity, rows ++ [property]) :: rest
    | .gt => (entity, rows) :: insertProperty property rest

def byEntity (properties : List Property) : List (List Property) :=
  (properties.foldl (fun found property => insertProperty property found) []).map (·.2)

def entityAttempt (stems : List ((Option String × String) × String)) (rows : List Property) :
    Attempt := do
  let found ← EntityConverters.of
    (fun property => stemOf stems (property.wrapperScope?, property.wrapperName)) rows
  let tokens := match found with
    | some converters => converters.tokens
    | none => []
  GeneratedUnit.render ((rows.head?.map Property.entityStem).getD "") .entityConverters tokens

def registrationAttempt (wrappers : List CratePath) : Attempt :=
  GeneratedUnit.render "DocumentSerializers" .registration (registration wrappers)

def attempts (config : Config) (descriptors : List Descriptor) (properties : List Property) :
    Except Stop (List Attempt) := do
  let groups := groups descriptors
  let stems := stems descriptors groups
  let wrappers := descriptors.map fun descriptor =>
    wrapperAttempts config (stemOf stems descriptor.key) descriptor
  let extensions ← groups.mapM groupAttempt
  let entities :=
    if config.relational then (byEntity properties).map (entityAttempt stems) else []
  let registrations :=
    if config.document then [registrationAttempt (wrappers.filterMap (·.2))] else []
  return wrappers.flatMap (·.1) ++ extensions ++ entities ++ registrations

def unitsOf (attempts : List Attempt) : List GeneratedUnit :=
  attempts.filterMap Except.toOption

def failuresOf (attempts : List Attempt) : List Failure :=
  attempts.filterMap fun
    | .error failure => some failure
    | .ok _ => none

def emit (config : Config) (descriptors : List Descriptor) (properties : List Property) :
    Except Stop Output := do
  let attempts ← attempts config descriptors properties
  return ⟨descriptors, properties, unitsOf attempts, failuresOf attempts⟩

def generate (config : Config) (tree : SourceTree) : Except Stop Output :=
  let descriptors := Discovery.candidates tree
  let properties := if config.relational then Discovery.entities tree descriptors else []
  emit config descriptors properties

namespace Output

def unit? (output : Output) (name : String) : Option GeneratedUnit :=
  output.units.find? (·.name == name)

end Output

end ValueObjects.Generation
