import ValueObjects.Proofs.Adapters
import ValueObjects.Proofs.BindingKeys
import ValueObjects.Proofs.Bindings
import ValueObjects.Proofs.Eligibility
import ValueObjects.Proofs.References

namespace ValueObjects

/-- Whether the names that a pass takes from a crate are identifiers as they are spelled, or are
none. Those of a crate that is read from a disk are so, and those of source texts that are given
with paths of identifiers. -/
structure SourceTree.IsSpelled (tree : SourceTree) : Prop where
  structs : ∀ module ∈ tree.modules, ∀ decl ∈ module.structs,
    ∀ read, Grammar.name? decl.name = some read → read = decl.name
  wrappers : Generation.AllSpelled (Discovery.candidates tree)

namespace Generation

open Emit

/-- The module and the name that a path leads to. -/
def keyOf (path : CratePath) : Option String × String :=
  (SourceModule.pathOf path.steps.dropLast, path.steps.getLast?.getD "")

/-- The converters that the code of a unit declares, by their names. Which wrapper a module and a
name stand for at run time is told by `types`. -/
def declaredIn (types : Option String × String → Wrapper) (unit : GeneratedUnit) :
    List (String × Converter) :=
  unit.declared.map fun found => (found.name, ⟨types (keyOf found.wrapper), found.nullable⟩)

def declaredConverters (types : Option String × String → Wrapper) (units : List GeneratedUnit) :
    List (String × Converter) :=
  (units.filter fun unit => unit.kind = .relational).flatMap (declaredIn types)

/-- The entity whose registration is the code of a unit. When it runs, each call binds its property
to the converter that is declared under the name in the call. -/
def entity? (declared : List (String × Converter)) (unit : GeneratedUnit) : Option Entity := do
  let found ← unit.entityConverters?
  let properties ← found.rows.mapM fun row => do
    return (row.property, ← declared.lookup row.converter)
  return ⟨found.key, properties⟩

/-- The entry that a row is to be bound by: under the path of its entity and its name as an
identifier, to the plain or nullable converter of its wrapper. -/
def entryOf (types : Option String × String → Wrapper) (row : Property) : ConverterEntry :=
  ⟨row.entityPath, Naming.unraw row.name,
    ⟨types (row.wrapperScope?, row.wrapperName), row.nullable⟩⟩

/-- Whether a registry binds the rows, each by its own entry, and nothing else. -/
structure BindsRows (types : Option String × String → Wrapper) (rows : List Property)
    (registry : ConverterRegistry) : Prop where
  entries : registry.entries.Perm (rows.map (entryOf types))
  distinct : (registry.entries.map ConverterEntry.key).Nodup
  bound : ∀ row ∈ rows,
    registry.get? row.entityPath (Naming.unraw row.name) = some (entryOf types row)

/-- Whether the relational units of the wrappers and the registrations of the entities are all
made. -/
structure AllMade (descriptors : List Descriptor) (properties : List Property) : Prop where
  wrappers : ∀ descriptor ∈ descriptors, ∃ unit, relationalAttempt descriptors descriptor = .ok unit
  entities : ∀ rows ∈ byEntity properties,
    ∃ unit, entityAttempt (stems descriptors (groups descriptors)) rows = .ok unit

variable {types : Option String × String → Wrapper} {config : Config}
  {descriptors : List Descriptor} {descriptor : Descriptor} {properties rows : List Property}
  {property : Property} {tree : SourceTree} {output : Output}

theorem mapM_eq_some {step : α → Option β} {items : List α} {results : List β}
    (each : List.Forall₂ (fun item result => step item = some result) items results) :
    items.mapM step = some results := by
  induction each with
  | nil => rfl
  | cons first _ ih =>
    rw [List.mapM_cons, first, ih]
    rfl

theorem relational_mem (relational : config.relational = true) :
    relationalAttempt descriptors descriptor ∈ wrapperUnits config descriptors descriptor := by
  cases found : Subject.of descriptor (classify descriptor.payload) with
  | error cause =>
    rw [wrapperUnits, wrapperAttempts_of_failure found, (attempts_of_failure descriptors found).1]
    exact List.mem_singleton_self _
  | ok subject =>
    rw [wrapperUnits_of_subject found, relational]
    simp

theorem AllMade.of_diagnostics (relational : config.relational = true)
    (emitted : emit config descriptors properties = .ok output)
    (none : output.diagnostics = []) : AllMade descriptors properties where
  wrappers descriptor member := by
    rcases wrapper_reported emitted member (relational_mem relational) with
      ⟨unit, _, made⟩ | ⟨cause, present, _⟩
    · exact ⟨unit, made⟩
    · rw [none] at present
      cases present
  entities rows member := by
    cases made : entityAttempt (stems descriptors (groups descriptors)) rows with
    | ok unit => exact ⟨unit, rfl⟩
    | error cause =>
      obtain ⟨extensions, _, all, parts, rfl⟩ := emit_parts emitted
      have attempted : .error cause ∈ entityUnits config descriptors properties := by
        rw [entityUnits, if_pos relational, ← made]
        exact List.mem_map_of_mem member
      have present : cause ∈ failuresOf all := by
        rw [mem_failuresOf, parts]
        simp only [List.mem_append]
        exact .inl (.inr attempted)
      rw [show failuresOf all = [] from none] at present
      cases present

/-- The units of a pass that register converters are those of its entities. -/
theorem entityConverters_units (relational : config.relational = true)
    (emitted : emit config descriptors properties = .ok output) :
    output.units.filter (fun unit => unit.kind = .entityConverters) =
      unitsOf ((byEntity properties).map
        (entityAttempt (stems descriptors (groups descriptors)))) := by
  obtain ⟨extensions, extended, all, parts, rfl⟩ := emit_parts emitted
  have wrappers : keptBy (· = .entityConverters)
      (unitsOf (descriptors.flatMap (wrapperUnits config descriptors))) = [] := by
    apply keptBy_of_others
    intro unit present
    obtain ⟨descriptor, _, attempted⟩ := List.mem_flatMap.mp present
    -- The kinds are known with both adapters, which make these units as well.
    have whole := mem_unitsOf.mpr attempted
    rw [← keptBy_wrapperUnits] at whole
    have kept := mem_unitsOf.mp (List.mem_filter.mp whole).1
    simpa using (kind_of_wrapperUnits rfl rfl kept).1
  have others : keptBy (· = .entityConverters) (unitsOf extensions) = [] :=
    keptBy_unitsOf fun _ => kind_of_extension extended
  have registrations : keptBy (· = .entityConverters)
      (unitsOf (registrationUnits config descriptors)) = [] :=
    keptBy_unitsOf fun _ => kind_of_registrationUnits
  have entities : keptBy (· = .entityConverters)
      (unitsOf (entityUnits config descriptors properties)) =
      unitsOf (entityUnits config descriptors properties) :=
    keptBy_unitsOf fun _ => kind_of_entityUnits
  calc
    _ = keptBy (· = .entityConverters) (unitsOf all) := rfl
    _ = unitsOf (entityUnits config descriptors properties) := by
      simp only [parts, unitsOf_append, keptBy_append, wrappers, others, entities, registrations,
        List.nil_append, List.append_nil]
    _ = _ := by rw [entityUnits, if_pos relational]

/-- The units of a pass that declare converters are the relational units of its wrappers. -/
theorem relational_units (relational : config.relational = true)
    (emitted : emit config descriptors properties = .ok output) :
    output.units.filter (fun unit => unit.kind = .relational) =
      unitsOf (descriptors.map (relationalAttempt descriptors)) := by
  obtain ⟨extensions, extended, all, parts, rfl⟩ := emit_parts emitted
  have wrapper (descriptor : Descriptor) : keptBy (· = .relational)
      (unitsOf (wrapperUnits config descriptors descriptor)) =
      unitsOf [relationalAttempt descriptors descriptor] := by
    cases found : Subject.of descriptor (classify descriptor.payload) with
    | error cause =>
      rw [wrapperUnits, wrapperAttempts_of_failure found, (attempts_of_failure descriptors found).1]
      rfl
    | ok subject =>
      rw [keptBy_wrapper found, relational]
      simp [unitsOf_nil]
  have others : keptBy (· = .relational) (unitsOf extensions) = [] :=
    keptBy_unitsOf fun _ => kind_of_extension extended
  have entities : keptBy (· = .relational)
      (unitsOf (entityUnits config descriptors properties)) = [] :=
    keptBy_unitsOf fun _ => kind_of_entityUnits
  have registrations : keptBy (· = .relational)
      (unitsOf (registrationUnits config descriptors)) = [] :=
    keptBy_unitsOf fun _ => kind_of_registrationUnits
  calc
    _ = keptBy (· = .relational) (unitsOf all) := rfl
    _ = descriptors.flatMap fun descriptor =>
        unitsOf [relationalAttempt descriptors descriptor] := by
      simp only [parts, unitsOf_append, keptBy_append, unitsOf_flatMap, keptBy_flatMap, wrapper,
        others, entities, registrations, List.append_nil]
    _ = _ := by rw [← unitsOf_flatMap, List.map_eq_flatMap]

theorem declaredConverters_eq (types : Option String × String → Wrapper)
    (relational : config.relational = true)
    (emitted : emit config descriptors properties = .ok output) :
    declaredConverters types output.units = descriptors.flatMap fun descriptor =>
      (unitsOf [relationalAttempt descriptors descriptor]).flatMap (declaredIn types) := by
  rw [declaredConverters, relational_units relational emitted, List.map_eq_flatMap, unitsOf_flatMap,
    List.flatMap_assoc]

/-- The path to a wrapper leads to it, if the names on it are spelled as identifiers are. -/
theorem keyOf_eq (spelled : Spelled descriptor)
    (made : CratePath.of descriptor.scope? descriptor.typeName = .ok path) :
    keyOf path = descriptor.key := by
  obtain ⟨leading, found, later⟩ := bind_eq_ok.mp made
  obtain ⟨last, named, whole⟩ := bind_eq_ok.mp later
  cases whole
  have ends : last = descriptor.typeName :=
    spelled _ List.mem_cons_self last (identifier_eq_ok.mp named)
  have steps : SourceModule.pathOf leading = descriptor.scope? := by
    cases scope : descriptor.scope? with
    | none =>
      rw [scope] at found
      cases mapM_eq_ok.mp found
      rfl
    | some path =>
      rw [scope] at found
      have same : (Naming.steps path).map id = leading.map id := by
        refine Forall₂.map_eq (mapM_eq_ok.mp found) fun step among read named => ?_
        exact (spelled step (by simp [pathNames, scope, among]) read (identifier_eq_ok.mp named)).symm
      rw [List.map_id, List.map_id] at same
      rw [← same, Discovery.pathOf_steps]
  rw [keyOf, List.dropLast_concat, List.getLast?_concat, steps, ends]
  rfl

/-- The code of a wrapper's relational unit declares a converter for the wrapper. -/
theorem mem_declaredIn (types : Option String × String → Wrapper) (spelled : Spelled descriptor)
    (made : relationalAttempt descriptors descriptor = .ok unit)
    (named : converterName (converterStem descriptors descriptor) nullable = .ok name) :
    (name, ⟨types descriptor.key, nullable⟩) ∈ declaredIn types unit := by
  obtain ⟨path, placed, declares⟩ := declares_of_relational made named
  rw [← keyOf_eq spelled placed]
  exact List.mem_map_of_mem declares

/-- No two converters of a pass are declared under one name. -/
theorem nodup_declaredConverters (types : Option String × String → Wrapper)
    (distinct : (descriptors.map Descriptor.key).Nodup) (spelled : AllSpelled descriptors)
    (relational : config.relational = true)
    (emitted : emit config descriptors properties = .ok output) :
    ((declaredConverters types output.units).map Prod.fst).Nodup := by
  have own {descriptor : Descriptor} (member : descriptor ∈ descriptors) :
      (((unitsOf [relationalAttempt descriptors descriptor]).flatMap
        (declaredIn types)).map Prod.fst).Sublist
        (converterNames (converterStem descriptors descriptor)) := by
    rw [unitsOf_singleton]
    cases made : relationalAttempt descriptors descriptor with
    | error cause => exact List.nil_sublist _
    | ok unit =>
      obtain ⟨subject, converters, checked, named, _⟩ := converters_of_relational made
      have names := converters_eq distinct member (spelled descriptor member) made named
      rw [Except.toOption, Option.toList_some, List.flatMap_singleton, declaredIn,
        declared_of_relational made checked named, names]
      exact .refl _
  have run {wrappers : List Descriptor} (listed : wrappers ⊆ descriptors) :
      ((wrappers.flatMap fun descriptor =>
        (unitsOf [relationalAttempt descriptors descriptor]).flatMap
          (declaredIn types)).map Prod.fst).Sublist
        (wrappers.flatMap fun wrapper => converterNames (converterStem descriptors wrapper)) := by
    induction wrappers with
    | nil => exact .refl _
    | cons first rest ih =>
      obtain ⟨head, later⟩ := List.cons_subset.mp listed
      rw [List.flatMap_cons, List.flatMap_cons, List.map_append]
      exact (own head).append (ih later)
  rw [declaredConverters_eq types relational emitted]
  exact (stem_names_nodup distinct (groups descriptors)).sublist (run (List.Subset.refl _))

/-- Whether the converters of the wrappers are found among those that are declared, each under the
name that a row registers it by. -/
def Finds (types : Option String × String → Wrapper) (descriptors : List Descriptor)
    (declared : List (String × Converter)) : Prop :=
  ∀ descriptor ∈ descriptors, ∀ nullable name,
    converterName (converterStem descriptors descriptor) nullable = .ok name →
    declared.lookup name = some ⟨types descriptor.key, nullable⟩

theorem finds_declaredConverters (types : Option String × String → Wrapper)
    (distinct : (descriptors.map Descriptor.key).Nodup) (spelled : AllSpelled descriptors)
    (relational : config.relational = true)
    (emitted : emit config descriptors properties = .ok output)
    (made : AllMade descriptors properties) :
    Finds types descriptors (declaredConverters types output.units) := by
  intro descriptor member nullable name named
  obtain ⟨unit, attempted⟩ := made.wrappers descriptor member
  refine lookup_of_mem (nodup_declaredConverters types distinct spelled relational emitted) ?_
  rw [declaredConverters_eq types relational emitted]
  refine List.mem_flatMap.mpr ⟨descriptor, member, List.mem_flatMap.mpr ⟨unit, ?_, ?_⟩⟩
  · rw [attempted]
    exact List.mem_singleton_self _
  · exact mem_declaredIn types (spelled descriptor member) attempted named

theorem Registers.key (registers : Registers descriptors rows found unit)
    (member : rows ∈ byEntity properties) (inRows : row ∈ rows) : found.key = row.entityPath := by
  obtain ⟨first, inFirst, _, _, key, _⟩ := registers.split
  obtain ⟨scopes, names⟩ := Prod.mk.inj (entityOf_eq_of_byEntity member inFirst inRows)
  rw [key, Property.entityPath, Property.entityPath, scopes, names]

section

variable {declared : List (String × Converter)} (finds : Finds types descriptors declared)

include finds

/-- The row of a property names the converter of its wrapper. -/
theorem lookup_of_row (member : descriptor ∈ descriptors)
    (own : descriptor.key = (property.wrapperScope?, property.wrapperName))
    (registered : EntityConverters.row (converterStem descriptors descriptor) property = .ok row) :
    row.property = Naming.unraw property.name ∧
      declared.lookup row.converter = some (entryOf types property).converter := by
  obtain ⟨name, named, later⟩ := bind_eq_ok.mp registered
  obtain ⟨_, _, whole⟩ := bind_eq_ok.mp later
  cases whole
  refine ⟨rfl, ?_⟩
  rw [entryOf, ← own]
  exact finds descriptor member property.nullable name named

theorem entity?_of_registers (member : rows ∈ byEntity (Discovery.entities tree descriptors))
    (registers : Registers descriptors rows found unit) :
    ∃ entity, entity? declared unit = some entity ∧ entity.entries = rows.map (entryOf types) := by
  refine ⟨⟨found.key, rows.map fun row => (Naming.unraw row.name, (entryOf types row).converter)⟩,
    ?_, ?_⟩
  · have listed : ∀ row ∈ rows, row ∈ Discovery.entities tree descriptors :=
      fun _ inRows => mem_of_byEntity member inRows
    have each : List.Forall₂ (fun property row => row.property = Naming.unraw property.name ∧
        declared.lookup row.converter = some (entryOf types property).converter) rows found.rows := by
      refine List.Forall₂.imp ?_
        ((List.forall₂_and_left _ _).mpr ⟨listed, mapM_eq_ok.mp registers.rows_made⟩)
      rintro property row ⟨inEntities, registered⟩
      obtain ⟨wrapper, present, own⟩ := Discovery.wrapper_of_entities inEntities
      rw [← own] at registered
      exact lookup_of_row finds present own registered
    have calls : List.Forall₂ (fun row binding =>
        (do return (row.property, ← declared.lookup row.converter)) = some binding) found.rows
        (rows.map fun row => (Naming.unraw row.name, (entryOf types row).converter)) := by
      rw [List.forall₂_map_right_iff]
      refine each.flip.imp fun row property binds => ?_
      rw [binds.1, binds.2]
      rfl
    rw [entity?, registers.read, Option.bind_eq_bind, Option.bind_some, mapM_eq_some calls]
    rfl
  · rw [Entity.entries, List.map_map]
    apply List.map_congr_left
    intro row inRows
    rw [Function.comp_apply, registers.key member inRows]
    rfl

/-- The registrations of a pass are read from its units, and bind their rows. -/
theorem entities_of_byEntity (made : AllMade descriptors (Discovery.entities tree descriptors))
    {buckets : List (List Property)}
    (listed : buckets ⊆ byEntity (Discovery.entities tree descriptors)) :
    ∃ entities,
      (unitsOf (buckets.map (entityAttempt (stems descriptors (groups descriptors))))).mapM
        (entity? declared) = some entities ∧
      entities.flatMap Entity.entries = buckets.flatten.map (entryOf types) := by
  induction buckets with
  | nil => exact ⟨[], rfl, rfl⟩
  | cons rows rest ih =>
    obtain ⟨member, later⟩ := List.cons_subset.mp listed
    obtain ⟨unit, attempted⟩ := made.entities rows member
    obtain ⟨found, registers⟩ := registers_of_entity member attempted
    obtain ⟨entity, read, entries⟩ := entity?_of_registers finds member registers
    obtain ⟨entities, others, more⟩ := ih later
    refine ⟨entity :: entities, ?_, ?_⟩
    · rw [List.map_cons, attempted, unitsOf_ok, List.mapM_cons, read, others]
      rfl
    · rw [List.flatMap_cons, List.flatten_cons, List.map_append, entries, more]

end

/-- The entity of a row has no colon in its name, if its registration is made. -/
theorem colon_of_entity (spelled : tree.IsSpelled)
    (made : AllMade descriptors (Discovery.entities tree descriptors))
    (member : property ∈ Discovery.entities tree descriptors) :
    ':' ∉ property.entityName.toList := by
  obtain ⟨rows, inBuckets, inRows⟩ :=
    List.mem_flatten.mp ((byEntity_perm _).mem_iff.mpr member)
  obtain ⟨unit, attempted⟩ := made.entities rows inBuckets
  obtain ⟨found, registers⟩ := registers_of_entity inBuckets attempted
  obtain ⟨first, inFirst, path, written, _⟩ := registers.split
  obtain ⟨_, names⟩ := Prod.mk.inj (entityOf_eq_of_byEntity inBuckets inFirst inRows)
  obtain ⟨read, named⟩ := names_of_path written first.entityName List.mem_cons_self
  obtain ⟨placed, inPlaced, inEntity⟩ :=
    List.mem_flatMap.mp ((Discovery.entities_perm tree descriptors).mem_iff.mp member)
  obtain ⟨module, inTree, inModule⟩ := SourceTree.mem_placedStructs inPlaced
  obtain ⟨_, own⟩ := Discovery.entity_of_entityProperties inEntity
  rw [names, own] at named
  rw [own, ← spelled.structs module inTree placed.2 inModule read named]
  exact Grammar.colon_of_name? named

/-- Entries for the rows of different keys are bound to a registry of the rows. -/
theorem bindsRows_bindAll (distinct : (rows.map Property.bindingKey).Nodup)
    (perm : entries.Perm (rows.map (entryOf types))) :
    BindsRows types rows (ConverterRegistry.empty.bindAll entries) := by
  have keys : ((rows.map (entryOf types)).map ConverterEntry.key).Nodup := by
    rw [List.map_map]
    exact distinct
  have bound := (ConverterRegistry.bindAll_perm
    ((perm.map ConverterEntry.key).nodup_iff.mpr keys)).trans perm
  have once := (bound.map ConverterEntry.key).nodup_iff.mpr keys
  refine ⟨bound, once, ?_⟩
  intro row member
  have keyed := ConverterRegistry.isKeyed_empty.bindAll entries
  exact keyed.mem_entries.mp (bound.mem_iff.mpr (List.mem_map_of_mem member))

/-- A pass over a crate that makes all its relational units registers exactly the rows that are
found: the calls in the code of its units, run on an empty registry, in any order of the units,
bind each row by its own entry and nothing else. -/
theorem registrations_bind_rows (unambiguous : tree.IsUnambiguous) (own : tree.HasOwnFields)
    (spelled : tree.IsSpelled) (relational : config.relational = true)
    (ended : generate config tree = .ok output)
    (made : AllMade output.descriptors output.properties)
    (types : Option String × String → Wrapper) :
    ∃ entities registry,
      (output.units.filter fun unit => unit.kind = .entityConverters).mapM
        (entity? (declaredConverters types output.units)) = some entities ∧
      BindsRows types (Discovery.entities tree (Discovery.candidates tree)) registry ∧
      ∀ order : List Entity, order.Perm entities →
        order.foldl ConverterRegistry.configure .empty = registry := by
  rw [generate, if_pos relational] at ended
  have units := entityConverters_units relational ended
  have distinct : ((Discovery.candidates tree).map Descriptor.key).Nodup :=
    Discovery.nodup_firstOfEach _ _
  have ends := ended
  obtain ⟨extensions, _, all, parts, rfl⟩ := emit_parts ends
  have finds := finds_declaredConverters types distinct spelled.wrappers relational ended made
  obtain ⟨entities, read, entries⟩ := entities_of_byEntity finds made (List.Subset.refl _)
  have keys := Discovery.nodup_bindingKeys unambiguous own fun row member =>
    colon_of_entity spelled made member
  have perm : (entities.flatMap Entity.entries).Perm
      ((Discovery.entities tree (Discovery.candidates tree)).map (entryOf types)) := by
    rw [entries]
    exact (byEntity_perm _).map _
  have different : ((entities.flatMap Entity.entries).map ConverterEntry.key).Nodup := by
    rw [(perm.map _).nodup_iff, List.map_map]
    exact keys
  refine ⟨entities, ConverterRegistry.empty.bindAll (entities.flatMap Entity.entries), ?_,
    bindsRows_bindAll keys perm, ?_⟩
  · rw [units]
    exact read
  · intro order moved
    rw [ConverterRegistry.foldl_configure]
    exact (ConverterRegistry.bindAll_of_perm different (moved.symm.flatMap_right _)).symm

/-- A crate with a wrapper by hand, and two entities of one name that hold it. -/
def heldTree : SourceTree :=
  ⟨[⟨none, none, [
      .impl ⟨[], false, some ⟨false, [.plain "Value"]⟩, .path false [.plain "W"],
        [("Payload", .path false [.plain "u8"])]⟩,
      .struct ⟨[], "E", false, .named [
        ⟨true, some "spare", .path false [
          .mk "Option" (.angle false [.type (.path false [.plain "W"])] false)]⟩,
        ⟨true, some "w", .path false [.plain "W"]⟩]⟩]⟩,
    ⟨some "a", none, [
      .struct ⟨[], "E", false, .named [⟨true, some "w", .path false [.plain "W"]⟩]⟩]⟩], []⟩

theorem candidates_heldTree :
    Discovery.candidates heldTree = [⟨"W", "u8", none, false, true⟩] := by
  have declared : Discovery.declared heldTree = [⟨"W", "u8", none, false, true⟩] := by decide
  rw [Discovery.candidates, declared, Descriptor.sort, List.mergeSort_singleton]
  rfl

theorem entities_heldTree :
    Discovery.entities heldTree [⟨"W", "u8", none, false, true⟩] = [
      ⟨"E", none, "spare", "W", none, true⟩, ⟨"E", none, "w", "W", none, false⟩,
      ⟨"E", some "a", "w", "W", none, false⟩] := by
  have rows : (heldTree.modules.flatMap fun module => module.structs.flatMap
      (Discovery.entityProperties [⟨"W", "u8", none, false, true⟩] module.scope?)) = [
      ⟨"E", none, "spare", "W", none, true⟩, ⟨"E", none, "w", "W", none, false⟩,
      ⟨"E", some "a", "w", "W", none, false⟩] := by
    decide
  rw [Discovery.entities, rows, Property.sort]
  exact List.mergeSort_of_pairwise (by decide)

private theorem heldTree_isSpelled : heldTree.IsSpelled := by
  have single {name read : String} (solid : name.toList.all Text.isSolid = true)
      (found : Grammar.name? name = some read) : read = name :=
    Grammar.name?_eq_self (Text.solid_of_all solid) found
  have names : ∀ module ∈ heldTree.modules, ∀ decl ∈ module.structs,
      decl.name.toList.all Text.isSolid = true := by
    decide
  constructor
  · exact fun module inTree decl inModule read found => single (names module inTree decl inModule) found
  · rw [candidates_heldTree]
    intro descriptor member name onPath read found
    cases List.mem_singleton.mp member
    cases List.mem_singleton.mp onPath
    exact single (by decide) found

private theorem heldTree_attempts :
    (relationalAttempt [⟨"W", "u8", none, false, true⟩]
      ⟨"W", "u8", none, false, true⟩).toOption.isSome = true ∧
    (byEntity [⟨"E", none, "spare", "W", none, true⟩, ⟨"E", none, "w", "W", none, false⟩,
      ⟨"E", some "a", "w", "W", none, false⟩]).all fun rows =>
        (entityAttempt (stems [⟨"W", "u8", none, false, true⟩]
          (groups [⟨"W", "u8", none, false, true⟩])) rows).toOption.isSome = true := by
  decide +kernel

private theorem heldTree_allMade :
    AllMade (Discovery.candidates heldTree)
      (Discovery.entities heldTree (Discovery.candidates heldTree)) := by
  rw [candidates_heldTree, entities_heldTree]
  obtain ⟨relational, entities⟩ := heldTree_attempts
  constructor
  · intro descriptor member
    cases List.mem_singleton.mp member
    exact ok_of_isSome relational
  · intro rows member
    exact ok_of_isSome (by simpa using List.all_eq_true.mp entities rows member)

def byteWrapper (key : Option String × String) : Wrapper :=
  ⟨"shop", key.1.getD "", key.2, .scalar (.number .u8)⟩

/-- The registrations of the crate with two entities. -/
theorem registrations_bind_rows_held :
    ∃ output, generate {} heldTree = .ok output ∧
      AllMade output.descriptors output.properties ∧
      ∃ entities registry,
        (output.units.filter fun unit => unit.kind = .entityConverters).mapM
          (entity? (declaredConverters byteWrapper output.units)) = some entities ∧
        BindsRows byteWrapper
          (Discovery.entities heldTree (Discovery.candidates heldTree)) registry ∧
        ∀ order : List Entity, order.Perm entities →
          order.foldl ConverterRegistry.configure .empty = registry := by
  have words : ∀ group ∈ groups (Discovery.candidates heldTree),
      isWord (Extension.traitName group) = true := by
    rw [candidates_heldTree]
    decide
  obtain ⟨output, ended⟩ := emit_ends {} _ words
  have made : AllMade output.descriptors output.properties := by
    obtain ⟨_, _, _, _, rfl⟩ := emit_parts ended
    exact heldTree_allMade
  exact ⟨output, ended, made, registrations_bind_rows (by decide) (by decide) heldTree_isSpelled
    rfl ended made byteWrapper⟩

end Generation

end ValueObjects
