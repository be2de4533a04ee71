import Std.Data.ExtTreeMap
import ValueObjects.Converter
import ValueObjects.Text.Quoted

namespace ValueObjects

/-- The wrappers that the properties of an entity hold. -/
structure Entity where
  key : String
  /-- Properties by name, each with its converter, in the order of their binding. -/
  properties : List (String × Converter)

structure ConverterRegistry where
  entities : Std.ExtTreeMap String (Std.ExtTreeMap String ConverterEntry)

namespace ConverterRegistry

def empty : ConverterRegistry := ⟨∅⟩

/-- Binds a converter to a property; an earlier one is replaced. -/
def register (registry : ConverterRegistry) (entity property : String) (converter : Converter) :
    ConverterRegistry :=
  ⟨registry.entities.alter entity fun found? =>
    some ((found?.getD ∅).insert property ⟨entity, property, converter⟩)⟩

def configure (registry : ConverterRegistry) (entity : Entity) : ConverterRegistry :=
  entity.properties.foldl (fun registry (property, converter) =>
    registry.register entity.key property converter) registry

def get? (registry : ConverterRegistry) (entity property : String) : Option ConverterEntry := do
  (← registry.entities[entity]?)[property]?

def ofEntity (registry : ConverterRegistry) (entity : String) : List ConverterEntry :=
  registry.entities[entity]?.toList.flatMap fun found => found.toList.map (·.2)

/-- All entries, by entity, then property. -/
def entries (registry : ConverterRegistry) : List ConverterEntry :=
  registry.entities.toList.flatMap fun (_, found) => found.toList.map (·.2)

def size (registry : ConverterRegistry) : Nat :=
  registry.entities.foldl (fun count _ found => count + found.size) 0

def isEmpty (registry : ConverterRegistry) : Bool :=
  registry.entities.isEmpty

def shownField (name value : String) : String :=
  name ++ ": " ++ value

def shownRecord (name : String) (fields : List String) : String :=
  name ++ " \x7b " ++ String.intercalate ", " fields ++ " \x7d"

def shownTable (rows : List (String × String)) : String :=
  "\x7b" ++ String.intercalate ", " (rows.map fun (key, value) =>
    shownField (Text.quote key) value) ++ "\x7d"

def shownEntry (entry : ConverterEntry) : String :=
  shownRecord "ConverterEntry" [
    shownField "entity" (Text.quote entry.entity),
    shownField "property" (Text.quote entry.property),
    shownField "model_type" (Text.quote entry.converter.model.fullName),
    shownField "provider_type" (Text.quote entry.converter.provider.fullName),
    shownField "nullable" (if entry.converter.nullable then "true" else "false")]

def shown (registry : ConverterRegistry) : String :=
  let rows := registry.entities.toList.map fun (entity, found) =>
    (entity, shownTable (found.toList.map fun (property, entry) => (property, shownEntry entry)))
  shownRecord "ConverterRegistry" [shownField "entities" (shownTable rows)]

end ConverterRegistry

end ValueObjects
