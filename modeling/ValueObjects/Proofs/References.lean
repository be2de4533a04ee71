import ValueObjects.Proofs.Adapters
import ValueObjects.Proofs.Pass
import ValueObjects.Proofs.RegistrationCode
import ValueObjects.Proofs.WrittenUnits

namespace ValueObjects

namespace Discovery

variable {candidates : List Descriptor} {descriptor : Descriptor} {property : Property}

theorem mem_of_resolve? (found : resolve? scope? candidates ty = some descriptor) :
    descriptor ∈ candidates := by
  unfold resolve? at found
  split at found
  · simp only at found
    split at found
    · split at found
      · cases found
      · rename_i name _ _
        have named {path : Option String} {other : Descriptor}
            (chosen : (candidates.filter (·.typeName == name)).find? (·.scope? == path) =
              some other) : other ∈ candidates :=
          (List.mem_filter.mp (List.mem_of_find?_eq_some chosen)).1
        split at found
        · rename_i denoted
          cases found
          obtain ⟨path, _, chosen⟩ := List.exists_of_findSome?_eq_some denoted
          exact named chosen
        · split at found
          · rename_i chosen
            cases found
            exact named chosen
          · split at found
            · rename_i only
              cases found
              have single : descriptor ∈ candidates.filter (·.typeName == name) := by
                rw [only]
                exact List.mem_singleton_self _
              exact (List.mem_filter.mp single).1
            · cases found
    · cases found
  · cases found

/-- The wrapper of a property is one of those that the entities are looked for with. -/
theorem wrapper_of_entities (present : property ∈ entities tree candidates) :
    ∃ wrapper ∈ candidates, wrapper.key = (property.wrapperScope?, property.wrapperName) := by
  obtain ⟨module, _, inModule⟩ := List.mem_flatMap.mp (List.mem_mergeSort.mp present)
  obtain ⟨decl, _, inDecl⟩ := List.mem_flatMap.mp inModule
  unfold entityProperties at inDecl
  split at inDecl
  · cases inDecl
  · split at inDecl
    · split at inDecl
      · cases inDecl
      · obtain ⟨field, _, made⟩ := List.mem_filterMap.mp inDecl
        unfold property? at made
        split at made
        · obtain ⟨wrapper, resolved, rfl⟩ := Option.map_eq_some_iff.mp made
          exact ⟨wrapper, mem_of_resolve? resolved, rfl⟩
        · cases made
    · cases inDecl

end Discovery

namespace Generation

open Emit

/-- Whether the unit is the relational unit of a wrapper, with a converter of the name. -/
def Defines (descriptors : List Descriptor) (unit : GeneratedUnit) (name : String) : Prop :=
  ∃ descriptor ∈ descriptors, relationalAttempt descriptors descriptor = .ok unit ∧
    ∃ converters, convertersOf (converterStem descriptors descriptor) = .ok converters ∧
      (name = converters.plain ∨ name = converters.nullable)

/-- Whether the names of a pass are all spelled as identifiers are, or are none. -/
def AllSpelled (descriptors : List Descriptor) : Prop :=
  ∀ descriptor ∈ descriptors, Spelled descriptor

/-- What becomes of a converter that a property is registered with: it is defined by the unit of
the property's wrapper, in code that declares it for the wrapper, and by no other unit if names are
spelled as identifiers, or the failure of that unit is reported. -/
inductive Settled (descriptors : List Descriptor) (output : Output) (property : Property)
    (row : ConverterRow) : Prop where
  | defined (member : wrapper ∈ descriptors)
      (named : wrapper.key = (property.wrapperScope?, property.wrapperName))
      (made : relationalAttempt descriptors wrapper = .ok unit)
      (split : output.units = before ++ unit :: after)
      (defines : Defines descriptors unit row.converter)
      (written : ∃ start rest, unit.contents = start ++ ("pub struct " ++ row.converter ++ " ;") ++ rest)
      (placed : CratePath.of wrapper.scope? wrapper.typeName = .ok path)
      (declares : ⟨row.converter, path, property.nullable⟩ ∈ unit.declared)
      (once : AllSpelled descriptors →
        ∀ other ∈ before ++ after, ¬Defines descriptors other row.converter)
  | reported (member : wrapper ∈ descriptors)
      (named : wrapper.key = (property.wrapperScope?, property.wrapperName))
      (failed : relationalAttempt descriptors wrapper = .error cause)
      (present : cause ∈ output.diagnostics)

/-- What becomes of a wrapper whose serializer is registered: its document unit is in the output,
or the failure of the unit is reported. -/
inductive Stored (descriptors : List Descriptor) (output : Output) (path : CratePath) : Prop where
  | defined (member : wrapper ∈ descriptors)
      (found : Subject.of wrapper (classify wrapper.payload) = .ok subject)
      (named : subject.wrapper = path) (made : documentAttempt wrapper = .ok unit)
      (present : unit ∈ output.units)
  | reported (member : wrapper ∈ descriptors)
      (found : Subject.of wrapper (classify wrapper.payload) = .ok subject)
      (named : subject.wrapper = path) (failed : documentAttempt wrapper = .error cause)
      (present : cause ∈ output.diagnostics)

/-- Whether the unit registers the converters of an entity whose properties are `rows`: its code
makes the calls that are found for them. -/
structure Registers (descriptors : List Descriptor) (rows : List Property)
    (found : EntityConverters) (unit : GeneratedUnit) : Prop where
  chosen : EntityConverters.of (fun property => stemOf (stems descriptors (groups descriptors))
    (property.wrapperScope?, property.wrapperName)) rows = .ok (some found)
  rendered : GeneratedUnit.render ((rows.head?.map Property.entityStem).getD "") .entityConverters
    found.tokens = .ok unit
  read : unit.entityConverters? = some found

/-- What is asked of the units of a pass that refer to others. -/
structure References (descriptors : List Descriptor) (output : Output) : Prop where
  /-- Each converter that an entity's unit registers is settled. -/
  converters : ∀ unit ∈ output.units, unit.kind = .entityConverters →
    ∃ rows found, Registers descriptors rows found unit ∧
      List.Forall₂ (Settled descriptors output) rows found.rows
  /-- Each wrapper that the code of the registration names is stored. -/
  serializers : ∀ unit ∈ output.units, unit.kind = .registration →
    ∃ wrappers, GeneratedUnit.render "DocumentSerializers" .registration
        (registration wrappers) = .ok unit ∧ unit.serializers? = some wrappers ∧
      ∀ wrapper ∈ wrappers, Stored descriptors output wrapper

variable {config : Config} {descriptors : List Descriptor} {descriptor other : Descriptor}
  {properties rows : List Property} {output : Output}

theorem converters_of_relational (made : relationalAttempt descriptors descriptor = .ok unit) :
    ∃ subject converters, Subject.of descriptor (classify descriptor.payload) = .ok subject ∧
      convertersOf (converterStem descriptors descriptor) = .ok converters ∧
      GeneratedUnit.render descriptor.stem .relational (relational subject converters) =
        .ok unit := by
  obtain ⟨subject, found, later⟩ := bind_eq_ok.mp made
  obtain ⟨converters, named, rendered⟩ := bind_eq_ok.mp later
  exact ⟨subject, converters, found, named, rendered⟩

/-- The code of a wrapper's relational unit declares the two converters of the wrapper. -/
theorem declared_of_relational (made : relationalAttempt descriptors descriptor = .ok unit)
    (checked : Subject.of descriptor (classify descriptor.payload) = .ok subject)
    (named : convertersOf (converterStem descriptors descriptor) = .ok converters) :
    unit.declared =
      [⟨converters.plain, subject.wrapper, false⟩, ⟨converters.nullable, subject.wrapper, true⟩] := by
  obtain ⟨_, _, found, given, rendered⟩ := converters_of_relational made
  cases checked.symm.trans found
  cases named.symm.trans given
  obtain ⟨plain, first, later⟩ := bind_eq_ok.mp named
  obtain ⟨nullable, second, whole⟩ := bind_eq_ok.mp later
  cases whole
  have legible : Legible (relational subject ⟨plain, nullable⟩) :=
    legible_relational (Subject.isLegible_of checked) (legible_of_identifier first)
      (legible_of_identifier second)
  obtain ⟨_, _, read, _⟩ := read_render legible rendered
  exact GeneratedUnit.declared_of_tokens read

theorem converters_eq (distinct : (descriptors.map Descriptor.key).Nodup)
    (member : descriptor ∈ descriptors) (spelled : Spelled descriptor)
    (made : relationalAttempt descriptors descriptor = .ok unit)
    (named : convertersOf (converterStem descriptors descriptor) = .ok converters) :
    converters = ⟨converterStem descriptors descriptor ++ converterSuffix false,
      converterStem descriptors descriptor ++ converterSuffix true⟩ := by
  obtain ⟨subject, _, found, _, _⟩ := converters_of_relational made
  have solid := solid_stemOf distinct (groups descriptors) member
    (solid_pathNames spelled (checked_of_subject found).path)
  exact convertersOf_eq solid named

theorem Defines.written (defines : Defines descriptors unit name) :
    ∃ start rest, unit.contents = start ++ ("pub struct " ++ name ++ " ;") ++ rest := by
  obtain ⟨wrapper, _, made, converters, named, given⟩ := defines
  obtain ⟨subject, others, _, found, rendered⟩ := converters_of_relational made
  cases Except.ok.inj (named.symm.trans found)
  exact contents_declares rendered given

/-- Two wrappers whose relational units share a name of a converter are one. -/
theorem wrapper_of_defines (distinct : (descriptors.map Descriptor.key).Nodup)
    (spelled : AllSpelled descriptors) (member : descriptor ∈ descriptors)
    (made : relationalAttempt descriptors descriptor = .ok unit)
    (given : name ∈ converterNames (converterStem descriptors descriptor))
    (defines : Defines descriptors neighbour name) : neighbour = unit := by
  obtain ⟨wrapper, present, attempted, converters, named, shared⟩ := defines
  have names := converters_eq distinct present (spelled wrapper present) attempted named
  have sharedName : name ∈ converterNames (converterStem descriptors wrapper) := by
    rw [names] at shared
    simpa [converterNames] using shared
  have same := wrapper_of_converterName distinct member present given sharedName
  subst same
  exact Except.ok.inj (attempted.symm.trans made)

theorem wrapper_of_unit (distinct : (descriptors.map Descriptor.key).Nodup)
    (spelled : AllSpelled descriptors) (member : descriptor ∈ descriptors)
    (otherMember : other ∈ descriptors)
    (made : relationalAttempt descriptors descriptor = .ok unit)
    (otherMade : relationalAttempt descriptors other = .ok unit) : descriptor = other := by
  obtain ⟨subject, converters, _, named, rendered⟩ := converters_of_relational made
  obtain ⟨otherSubject, others, _, otherNamed, otherRendered⟩ := converters_of_relational otherMade
  have plain (converters : Converters) (stem : String)
      (named : convertersOf stem = .ok converters) : Text.Solid converters.plain.toList := by
    obtain ⟨_, first, later⟩ := bind_eq_ok.mp named
    obtain ⟨_, _, whole⟩ := bind_eq_ok.mp later
    cases whole
    exact Grammar.solid_of_name? (identifier_eq_ok.mp first)
  have read := firstStruct_of_render (plain _ _ named) rendered
  rw [firstStruct_of_render (plain _ _ otherNamed) otherRendered] at read
  have same : converterStem descriptors other ++ converterSuffix false =
      converterStem descriptors descriptor ++ converterSuffix false := by
    rw [converters_eq distinct member (spelled _ member) made named,
      converters_eq distinct otherMember (spelled _ otherMember) otherMade otherNamed] at read
    exact String.toList_inj.mp read
  have own : converterStem descriptors descriptor ++ converterSuffix false ∈
      converterNames (converterStem descriptors descriptor) := List.mem_cons_self
  have shared : converterStem descriptors descriptor ++ converterSuffix false ∈
      converterNames (converterStem descriptors other) := same ▸ List.mem_cons_self
  exact wrapper_of_converterName distinct member otherMember own shared

theorem defines_of_relational (member : descriptor ∈ descriptors)
    (made : relationalAttempt descriptors descriptor = .ok unit)
    (named : converterName (converterStem descriptors descriptor) nullable = .ok name) :
    Defines descriptors unit name := by
  obtain ⟨_, converters, _, found, _⟩ := converters_of_relational made
  refine ⟨descriptor, member, made, converters, found, ?_⟩
  obtain ⟨plain, first, later⟩ := bind_eq_ok.mp found
  obtain ⟨second, both, whole⟩ := bind_eq_ok.mp later
  cases whole
  cases nullable with
  | false => exact .inl (Except.ok.inj (named.symm.trans first))
  | true => exact .inr (Except.ok.inj (named.symm.trans both))

theorem declares_of_relational (made : relationalAttempt descriptors descriptor = .ok unit)
    (named : converterName (converterStem descriptors descriptor) nullable = .ok name) :
    ∃ path, CratePath.of descriptor.scope? descriptor.typeName = .ok path ∧
      ⟨name, path, nullable⟩ ∈ unit.declared := by
  obtain ⟨subject, converters, checked, found, _⟩ := converters_of_relational made
  refine ⟨subject.wrapper, (checked_of_subject checked).path, ?_⟩
  rw [declared_of_relational made checked found]
  obtain ⟨plain, first, later⟩ := bind_eq_ok.mp found
  obtain ⟨second, both, whole⟩ := bind_eq_ok.mp later
  cases whole
  cases nullable with
  | false =>
    cases Except.ok.inj (named.symm.trans first)
    exact List.mem_cons_self
  | true =>
    cases Except.ok.inj (named.symm.trans both)
    exact List.mem_cons_of_mem _ List.mem_cons_self

/-- No unit beside that of a wrapper defines a converter of the wrapper. -/
theorem not_defines_beside (distinct : (descriptors.map Descriptor.key).Nodup)
    (spelled : AllSpelled descriptors) (split : descriptors = before ++ descriptor :: after)
    (made : relationalAttempt descriptors descriptor = .ok unit)
    (named : converterName (converterStem descriptors descriptor) nullable = .ok name)
    (beside : neighbour.kind = .relational →
      ∃ other ∈ before ++ after, relationalAttempt descriptors other = .ok neighbour) :
    ¬Defines descriptors neighbour name := by
  intro defines
  have member : descriptor ∈ descriptors := by simp [split]
  obtain ⟨subject, _, found, _, _⟩ := converters_of_relational made
  have solid := solid_stemOf distinct (groups descriptors) member
    (solid_pathNames (spelled descriptor member) (checked_of_subject found).path)
  have given : name ∈ converterNames (converterStem descriptors descriptor) := by
    rw [converterName_eq solid named]
    cases nullable <;> simp [converterNames, converterStem]
  have same := wrapper_of_defines distinct spelled member made given defines
  subst same
  obtain ⟨other, elsewhere, otherMade⟩ := beside (kind_of_relational made)
  have otherMember : other ∈ descriptors := by
    rw [split]
    rcases List.mem_append.mp elsewhere with earlier | later
    · exact List.mem_append_left _ earlier
    · exact List.mem_append_right _ (List.mem_cons_of_mem _ later)
  have equal := wrapper_of_unit distinct spelled member otherMember made otherMade
  subst equal
  have single : (before ++ descriptor :: after).Nodup := split ▸ distinct.of_map
  rw [List.nodup_middle, List.nodup_cons] at single
  exact single.1 elsewhere

theorem settled_of_row (distinct : (descriptors.map Descriptor.key).Nodup)
    (document : config.document = true) (relational : config.relational = true)
    (emitted : emit config descriptors properties = .ok output)
    (member : descriptor ∈ descriptors)
    (own : descriptor.key = (property.wrapperScope?, property.wrapperName))
    (registered : EntityConverters.row (converterStem descriptors descriptor) property = .ok row) :
    Settled descriptors output property row := by
  obtain ⟨name, named, later⟩ := bind_eq_ok.mp registered
  obtain ⟨_, _, whole⟩ := bind_eq_ok.mp later
  cases whole
  rcases wrapper_reported emitted member (attempts_mem document relational).1 with
    ⟨unit, _, made⟩ | ⟨cause, present, failed⟩
  · obtain ⟨before, after, split⟩ := List.append_of_mem member
    obtain ⟨first, last, units, neighbours⟩ :=
      units_split document relational emitted split made
    have defines := defines_of_relational member made named
    obtain ⟨path, placed, declares⟩ := declares_of_relational made named
    refine .defined member own made units defines defines.written placed declares ?_
    intro spelled neighbour beside
    exact not_defines_beside distinct spelled split made named (neighbours neighbour beside)
  · exact .reported member own failed present

theorem registers_of_entity (member : rows ∈ byEntity properties)
    (made : entityAttempt (stems descriptors (groups descriptors)) rows = .ok unit) :
    ∃ found, Registers descriptors rows found unit := by
  obtain ⟨found?, attempted, rendered⟩ := bind_eq_ok.mp made
  obtain ⟨entity, filtered, first, present, isOwn⟩ := mem_byEntity member
  cases rows with
  | nil =>
    have kept : first ∈ ([] : List Property) := by
      rw [filtered]
      exact List.mem_filter.mpr ⟨present, by simpa using isOwn⟩
    cases kept
  | cons head rest =>
    obtain ⟨path, _, later⟩ := bind_eq_ok.mp attempted
    obtain ⟨converters, _, whole⟩ := bind_eq_ok.mp later
    cases whole
    obtain ⟨_, _, read, _⟩ := read_render (EntityConverters.legible_of attempted) rendered
    exact ⟨_, attempted, rendered, GeneratedUnit.entityConverters?_of_tokens read⟩

theorem Registers.split (registers : Registers descriptors rows found unit) :
    ∃ first ∈ rows, ∃ path, CratePath.of first.entityScope? first.entityName = .ok path ∧
      found.key = first.entityPath ∧
      rows.mapM (fun property => EntityConverters.row
        (stemOf (stems descriptors (groups descriptors))
          (property.wrapperScope?, property.wrapperName)) property) = .ok found.rows := by
  have chosen := registers.chosen
  cases rows with
  | nil => cases chosen
  | cons first rest =>
    obtain ⟨path, written, later⟩ := bind_eq_ok.mp chosen
    obtain ⟨converters, rowsMade, whole⟩ := bind_eq_ok.mp later
    cases whole
    exact ⟨first, List.mem_cons_self, path, written, rfl, rowsMade⟩

theorem Registers.rows_made (registers : Registers descriptors rows found unit) :
    rows.mapM (fun property => EntityConverters.row (stemOf (stems descriptors (groups descriptors))
      (property.wrapperScope?, property.wrapperName)) property) = .ok found.rows := by
  obtain ⟨_, _, _, _, _, rowsMade⟩ := registers.split
  exact rowsMade

/-- The registration of an entity's converters settles each of them. -/
theorem settled_of_registers (distinct : (descriptors.map Descriptor.key).Nodup)
    (document : config.document = true) (relational : config.relational = true)
    (emitted : emit config descriptors (Discovery.entities tree descriptors) = .ok output)
    (member : rows ∈ byEntity (Discovery.entities tree descriptors))
    (registers : Registers descriptors rows found unit) :
    List.Forall₂ (Settled descriptors output) rows found.rows := by
  have listed : ∀ property ∈ rows, property ∈ Discovery.entities tree descriptors :=
    fun _ inRows => mem_of_byEntity member inRows
  refine List.Forall₂.imp ?_
    ((List.forall₂_and_left _ _).mpr ⟨listed, mapM_eq_ok.mp registers.rows_made⟩)
  rintro property row ⟨inEntities, rowMade⟩
  obtain ⟨wrapper, present, own⟩ := Discovery.wrapper_of_entities inEntities
  rw [← own] at rowMade
  exact settled_of_row distinct document relational emitted present own rowMade

theorem stored_of_registered (document : config.document = true)
    (relational : config.relational = true)
    (emitted : emit config descriptors properties = .ok output)
    (member : path ∈ registered config descriptors) : Stored descriptors output path := by
  obtain ⟨wrapper, present, subject, found, named⟩ := mem_registered member
  rcases wrapper_reported emitted present (attempts_mem document relational).2 with
    ⟨unit, inOutput, made⟩ | ⟨cause, inOutput, failed⟩
  · exact .defined present found named made inOutput
  · exact .reported present found named failed inOutput

/-- What a pass refers to, it defines or reports. -/
theorem emit_references (tree : SourceTree) (distinct : (descriptors.map Descriptor.key).Nodup)
    (document : config.document = true) (relational : config.relational = true)
    (emitted : emit config descriptors (Discovery.entities tree descriptors) = .ok output) :
    References descriptors output where
  converters unit present kind := by
    obtain ⟨rows, member, made⟩ := entity_of_kind document relational emitted present kind
    obtain ⟨found, registers⟩ := registers_of_entity member made
    exact ⟨rows, found, registers,
      settled_of_registers distinct document relational emitted member registers⟩
  serializers unit present kind := by
    have made := registration_of_kind document relational emitted present kind
    have source : Emitted config descriptors [] _ _ _ := .registration document
    obtain ⟨_, _, read, _⟩ := read_render source.legible made
    refine ⟨_, made, GeneratedUnit.serializers?_of_tokens read, ?_⟩
    intro path member
    exact stored_of_registered document relational emitted member

/-- A crate with one entity, which has a property of the type `W`. -/
def entityTree : SourceTree :=
  ⟨[⟨none, none, [.struct ⟨[], "E", false,
    .named [⟨true, some "w", .path false [.plain "W"]⟩]⟩]⟩], []⟩

def wrapperOf (payload : String) : Descriptor :=
  ⟨"W", payload, none, false, true⟩

/-- The pass over a wrapper of an integer and an entity that holds it. -/
theorem emit_references_integer :
    ∃ output,
      emit {} [wrapperOf "u32"] (Discovery.entities entityTree [wrapperOf "u32"]) = .ok output ∧
      References [wrapperOf "u32"] output := by
  have words : ∀ group ∈ groups [wrapperOf "u32"], isWord (Extension.traitName group) = true := by
    decide +kernel
  obtain ⟨output, emitted⟩ := emit_ends {} (Discovery.entities entityTree [wrapperOf "u32"]) words
  exact ⟨output, emitted, emit_references entityTree (by decide) rfl rfl emitted⟩

private theorem unclosed_run :
    byEntity (Discovery.entities entityTree [wrapperOf "Vec<"]) =
      [[⟨"E", none, "w", "W", none, false⟩]] ∧
    (EntityConverters.row (stemOf (stems [wrapperOf "Vec<"] (groups [wrapperOf "Vec<"])) (none, "W"))
      ⟨"E", none, "w", "W", none, false⟩).toOption = some ⟨"WConverter", "w"⟩ ∧
    (emit {} [wrapperOf "Vec<"] (Discovery.entities entityTree [wrapperOf "Vec<"])).toOption.map
      (fun output => output.units.map GeneratedUnit.kind) =
      some [.entityConverters, .registration] := by
  decide +kernel

/-- Whether a converter of the name is registered and no unit defines it. -/
def Dangling (descriptors : List Descriptor) (output : Output) (name : String) : Prop :=
  (∃ unit ∈ output.units, ∃ rows found, Registers descriptors rows found unit ∧
    ∃ row ∈ found.rows, row.converter = name) ∧
  ∀ target ∈ output.units, ¬Defines descriptors target name

private theorem unclosed_dangling :
    ∃ output,
      emit {} [wrapperOf "Vec<"] (Discovery.entities entityTree [wrapperOf "Vec<"]) = .ok output ∧
      Dangling [wrapperOf "Vec<"] output "WConverter" := by
  obtain ⟨entities, converter, kinds⟩ := unclosed_run
  obtain ⟨output, ends, listed⟩ := Option.map_eq_some_iff.mp kinds
  have emitted := toOption_eq_some.mp ends
  refine ⟨output, emitted, ?_, ?_⟩
  · obtain ⟨unit, present, kind⟩ : ∃ unit ∈ output.units, unit.kind = .entityConverters := by
      apply List.mem_map.mp
      rw [listed]
      exact List.mem_cons_self
    obtain ⟨rows, member, made⟩ := entity_of_kind rfl rfl emitted present kind
    obtain ⟨found, registers⟩ := registers_of_entity member made
    refine ⟨unit, present, rows, found, registers, ⟨"WConverter", "w"⟩, ?_, rfl⟩
    rw [entities] at member
    cases List.mem_singleton.mp member
    obtain ⟨row, rest, rowMade, _, split⟩ :=
      List.forall₂_cons_left_iff.mp (mapM_eq_ok.mp registers.rows_made)
    have same := rowMade.symm.trans (toOption_eq_some.mp converter)
    rw [split, Except.ok.inj same]
    exact List.mem_cons_self
  · rintro target present ⟨wrapper, _, made, _⟩
    have kind : target.kind ∈ output.units.map GeneratedUnit.kind := List.mem_map_of_mem present
    rw [listed, kind_of_relational made] at kind
    simp at kind

/-- Whether the serializer of a wrapper is registered and the wrapper has no document unit. -/
def Unstored (descriptor : Descriptor) (output : Output) : Prop :=
  (∃ unit ∈ output.units, unit.kind = .registration ∧
    registrationAttempt [⟨[descriptor.typeName]⟩] = .ok unit) ∧
  ∀ target ∈ output.units, documentAttempt descriptor ≠ .ok target

private theorem bounded_run :
    (documentAttempt (wrapperOf "crate::A+")).toOption = none ∧
    registered {} [wrapperOf "crate::A+"] = [⟨["W"]⟩] ∧
    (registrationAttempt [⟨["W"]⟩]).toOption.isSome = true ∧
    ∀ group ∈ groups [wrapperOf "crate::A+"], isWord (Extension.traitName group) = true := by
  decide +kernel

private theorem bounded_unstored :
    ∃ output,
      emit {} [wrapperOf "crate::A+"] (Discovery.entities ⟨[], []⟩ [wrapperOf "crate::A+"]) =
        .ok output ∧
      Unstored (wrapperOf "crate::A+") output := by
  obtain ⟨failed, given, written, words⟩ := bounded_run
  obtain ⟨output, emitted⟩ :=
    emit_ends {} (Discovery.entities ⟨[], []⟩ [wrapperOf "crate::A+"]) words
  refine ⟨output, emitted, ?_, ?_⟩
  · obtain ⟨extensions, _, all, parts, rfl⟩ := emit_parts emitted
    obtain ⟨unit, attempt⟩ := ok_of_isSome written
    refine ⟨unit, mem_unitsOf.mpr ?_, kind_of_registration attempt, attempt⟩
    rw [parts, registrationUnits, given, attempt]
    exact List.mem_append_right _ List.mem_cons_self
  · intro target _ made
    rw [made] at failed
    cases failed

/-- Two wrappers whose names are one identifier, which one of them is spelled as. -/
def spacedNames : List Descriptor := [
  ⟨"A", "u32", none, false, true⟩, ⟨" A", "u32", none, false, true⟩]

private theorem spaced_converters : ∀ wrapper ∈ spacedNames,
    (convertersOf (converterStem spacedNames wrapper)).toOption =
      some ⟨"AConverter", "ANullableConverter"⟩ := by
  decide +kernel

/-- A unit that others refer to can fail, and the units of two wrappers whose names are not spelled
as identifiers can define the same converters. -/
theorem references_not_always_defined :
    (∃ output,
      emit {} [wrapperOf "Vec<"] (Discovery.entities entityTree [wrapperOf "Vec<"]) = .ok output ∧
      Dangling [wrapperOf "Vec<"] output "WConverter") ∧
    (∃ output,
      emit {} [wrapperOf "crate::A+"] (Discovery.entities ⟨[], []⟩ [wrapperOf "crate::A+"]) =
        .ok output ∧
      Unstored (wrapperOf "crate::A+") output) ∧
    (spacedNames.map Descriptor.key).Nodup ∧
    ∀ wrapper ∈ spacedNames, convertersOf (converterStem spacedNames wrapper) =
      .ok ⟨"AConverter", "ANullableConverter"⟩ :=
  ⟨unclosed_dangling, bounded_unstored, by decide,
    fun wrapper member => toOption_eq_some.mp (spaced_converters wrapper member)⟩

end Generation

end ValueObjects
