import ValueObjects.Proofs.Accounting
import ValueObjects.Proofs.ModulePaths
/-!
The names of the units of a pass are told apart. The name of a unit gives back the stem and the kind
that it was made of, and a stem of identifiers gives back the path to its type. Only extensions can
share a name, and only among themselves.
-/
namespace ValueObjects

/-- What stands before the last mark, and what after it. -/
theorem eq_of_append_mark {first second : List Char} (clean : mark ∉ first)
    (otherClean : mark ∉ second) (same : start ++ mark :: first = otherStart ++ mark :: second) :
    start = otherStart ∧ first = second := by
  rcases List.append_eq_append_iff.mp same with ⟨more, longer, rest⟩ | ⟨more, longer, rest⟩
  · cases more with
    | nil =>
      cases rest
      exact ⟨by simpa using longer.symm, rfl⟩
    | cons c more =>
      cases rest
      exact (clean (by simp)).elim
  · cases more with
    | nil =>
      cases rest
      exact ⟨by simpa using longer, rfl⟩
    | cons c more =>
      cases rest
      exact (otherClean (by simp)).elim

theorem Config.wrapperKinds_nodup (config : Config) : config.wrapperKinds.Nodup := by
  obtain ⟨document, relational⟩ := config
  cases document <;> cases relational <;> decide

theorem Config.wrapperKinds_apart (config : Config) (among : kind ∈ config.wrapperKinds) :
    kind ≠ .entityConverters ∧ kind ≠ .registration := by
  obtain ⟨document, relational⟩ := config
  revert kind
  cases document <;> cases relational <;> decide

/-! The name of a unit. -/

theorem UnitKind.suffix_clean (kind : UnitKind) : '.' ∉ kind.suffix.toList := by
  cases kind <;> decide

theorem UnitKind.suffix_injective : Function.Injective UnitKind.suffix := by
  intro kind other
  cases kind <;> cases other <;> decide

/-- The name of a unit gives back what it was made of. -/
theorem GeneratedUnit.nameOf_inj {kind sort : UnitKind}
    (same : nameOf stem kind = nameOf other sort) : stem = other ∧ kind = sort := by
  have spelled (stem : String) (kind : UnitKind) :
      (nameOf stem kind).toList =
        (stem.toList ++ '.' :: kind.suffix.toList) ++ ".rs".toList := by
    simp [nameOf]
  have whole := congrArg String.toList same
  rw [spelled, spelled] at whole
  obtain ⟨stems, suffixes⟩ :=
    eq_of_append_mark kind.suffix_clean sort.suffix_clean (List.append_cancel_right whole)
  exact ⟨String.toList_inj.mp stems, UnitKind.suffix_injective (String.toList_inj.mp suffixes)⟩

/-! The stem of a path. -/

/-- A text without dots is got back from its dotted form. -/
theorem flatMap_dotted (clean : '.' ∉ text) :
    ((dotted text).flatMap fun c => if c = '.' then [':', ':'] else [c]) = text := by
  induction text using dotted.induct with
  | case1 => rfl
  | case2 rest ih =>
    have tail := ih fun among => clean (List.mem_cons_of_mem _ (List.mem_cons_of_mem _ among))
    rw [dotted, List.flatMap_cons, tail]
    rfl
  | case3 c rest other ih =>
    have tail := ih fun among => clean (List.mem_cons_of_mem _ among)
    have head : c ≠ '.' := by
      rintro rfl
      exact clean List.mem_cons_self
    rw [dotted, List.flatMap_cons, tail, if_neg head]
    · rfl
    · exact other

theorem dotted_inj (clean : '.' ∉ text) (otherClean : '.' ∉ other)
    (same : dotted text = dotted other) : text = other := by
  rw [← flatMap_dotted clean, same, flatMap_dotted otherClean]

namespace Naming

/-- Cutting a path into its steps leaves out colons only. -/
theorem mem_cutSteps (member : c ∈ text) : c = ':' ∨ ∃ step ∈ cutSteps text, c ∈ step := by
  induction text using cutSteps.induct with
  | case1 => cases member
  | case2 rest ih =>
    rw [cutSteps]
    rcases List.mem_cons.mp member with colon | later
    · exact .inl colon
    · rcases List.mem_cons.mp later with colon | inner
      · exact .inl colon
      · rcases ih inner with colon | ⟨step, among, within⟩
        · exact .inl colon
        · exact .inr ⟨step, List.mem_cons_of_mem _ among, within⟩
  | case3 first rest other cut ih => exact (cutSteps_ne_nil rest cut).elim
  | case4 first rest other step more cut ih =>
    rw [cutSteps, cut]
    · rcases List.mem_cons.mp member with rfl | inner
      · exact .inr ⟨c :: step, List.mem_cons_self, List.mem_cons_self⟩
      · rcases ih inner with colon | ⟨piece, among, within⟩
        · exact .inl colon
        · rw [cut] at among
          rcases List.mem_cons.mp among with rfl | later
          · exact .inr ⟨first :: piece, List.mem_cons_self, List.mem_cons_of_mem _ within⟩
          · exact .inr ⟨piece, List.mem_cons_of_mem _ later, within⟩
    · exact other

end Naming

namespace Generation

open Emit Naming

/-- Whether each name on the path to a type is an identifier that is spelled as it is read. The path
of a wrapper is one if the wrapper is identified. -/
def IdentifiedPath (key : Option String × String) : Prop :=
  ∀ name ∈ key.2 :: (key.1.map steps).getD [], Grammar.name? name = some name

/-- An identifier has no dot. -/
theorem not_mem_dot (identifier : Grammar.name? name = some name) : '.' ∉ name.toList := by
  have spelled := (Grammar.name?_eq_self_iff.mp identifier).1
  generalize name.toList = text at spelled
  have word {text : List Char} (word : Literal.IsWord text) : '.' ∉ text := by
    intro dot
    cases isIdentContinue_of_mem_word word '.' dot
  cases spelled with
  | plain plain => exact word plain
  | raw raw allowed => simpa using word raw

/-- The stem of a path of identifiers gives the path back. -/
theorem dottedName_inj {key other : Option String × String} (identified : IdentifiedPath key)
    (otherIdentified : IdentifiedPath other)
    (same : dottedName key.1 key.2 = dottedName other.1 other.2) : key = other := by
  obtain ⟨scope?, name⟩ := key
  obtain ⟨otherScope?, otherName⟩ := other
  have last := not_mem_dot (identified name List.mem_cons_self)
  have otherLast := not_mem_dot (otherIdentified otherName List.mem_cons_self)
  have inner {scope name : String} (identified : IdentifiedPath (some scope, name)) :
      '.' ∉ scope.toList := by
    intro dot
    rcases mem_cutSteps dot with colon | ⟨step, among, within⟩
    · cases colon
    · refine not_mem_dot (identified (String.ofList step) ?_) (by simpa using within)
      exact List.mem_cons_of_mem _ (List.mem_map_of_mem among)
  have spelled (scope name : String) :
      (dottedName (some scope) name).toList = dotted scope.toList ++ '.' :: name.toList := by
    simp [dottedName]
  have whole := congrArg String.toList same
  cases scope? with
  | none =>
    cases otherScope? with
    | none => exact congrArg _ (String.toList_inj.mp whole)
    | some scope =>
      rw [spelled] at whole
      exact (last (by rw [dottedName] at whole; simp [whole])).elim
  | some scope =>
    rw [spelled] at whole
    cases otherScope? with
    | none => exact (otherLast (by rw [dottedName] at whole; simp [← whole])).elim
    | some otherScope =>
      rw [spelled] at whole
      obtain ⟨scopes, names⟩ := eq_of_append_mark last otherLast whole
      have scopes := dotted_inj (inner identified) (inner otherIdentified) scopes
      rw [String.toList_inj.mp scopes, String.toList_inj.mp names]

/-! The names of the units. -/

/-- The stem and the kind of the unit that a task is to make. -/
def Task.unit? : Task → Option (String × UnitKind)
  | report _ => none
  | make stem kind => some (stem, kind)

variable {config : Config} {descriptors : List Descriptor} {properties : List Property}
  {output : Output}

/-- The units of settled tasks have names and kinds that the tasks set, in their order. -/
theorem units_sublist {tasks : List Task} {attempts : List Attempt}
    (settled : List.Forall₂ (Settles descriptors) tasks attempts) :
    ((unitsOf attempts).map fun unit => (unit.name, unit.kind)).Sublist
      ((tasks.filterMap Task.unit?).map fun (stem, kind) =>
        (GeneratedUnit.nameOf stem kind, kind)) := by
  induction settled with
  | nil => exact .refl _
  | cons first _ ih =>
    cases first with
    | reported member failed => exact ih
    | made named sort =>
      rw [unitsOf_ok, List.map_cons, named, sort]
      exact ih.cons_cons _
    | lost loss => exact ih.cons _

theorem stems_nodup (distinct : (descriptors.map Descriptor.key).Nodup)
    (identified : ∀ descriptor ∈ descriptors, Identified descriptor) :
    (descriptors.map Descriptor.stem).Nodup := by
  have whole : descriptors.map Descriptor.stem =
      (descriptors.map Descriptor.key).map fun key => dottedName key.1 key.2 := by
    rw [List.map_map]
    rfl
  rw [whole]
  refine distinct.map_on fun key among other otherAmong same => ?_
  obtain ⟨descriptor, member, rfl⟩ := List.mem_map.mp among
  obtain ⟨twin, twinMember, rfl⟩ := List.mem_map.mp otherAmong
  exact dottedName_inj (identified _ member) (identified _ twinMember) same

theorem mem_wrapperTasks (member : made ∈ (wrapperTasks config descriptor).filterMap Task.unit?) :
    made.1 = descriptor.stem ∧ made.2 ∈ config.wrapperKinds := by
  obtain ⟨task, among, found⟩ := List.mem_filterMap.mp member
  unfold wrapperTasks at among
  split at among
  · obtain ⟨kind, present, rfl⟩ := List.mem_map.mp among
    cases found
    exact ⟨rfl, present⟩
  · rw [List.mem_singleton.mp among] at found
    cases found

/-- The units of the wrappers are told apart by their stems and kinds. -/
theorem wrapper_tasks_nodup (stems : (descriptors.map Descriptor.stem).Nodup) :
    ((descriptors.flatMap (wrapperTasks config)).filterMap Task.unit?).Nodup := by
  rw [List.filterMap_flatMap, List.nodup_flatMap]
  constructor
  · intro descriptor _
    unfold wrapperTasks
    split
    · have made : (config.wrapperKinds.map (Task.make descriptor.stem)).filterMap Task.unit? =
          config.wrapperKinds.map (Prod.mk descriptor.stem) := by
        rw [List.filterMap_map]
        exact congrFun List.filterMap_eq_map' _
      rw [made]
      exact config.wrapperKinds_nodup.map (Prod.mk_right_injective _)
    · exact List.nodup_nil
  · refine (List.pairwise_map.mp stems).imp fun {descriptor other} different => ?_
    intro made member otherMember
    exact different ((mem_wrapperTasks member).1.symm.trans (mem_wrapperTasks otherMember).1)

theorem entity_tasks (properties : List Property) :
    ((entities properties).map entityTask).filterMap Task.unit? =
      (entities properties).map fun entity =>
        (dottedName entity.1 entity.2, UnitKind.entityConverters) := by
  rw [List.filterMap_map]
  exact congrFun List.filterMap_eq_map' _

/-- The units of the entities are told apart by their stems. -/
theorem entity_tasks_nodup
    (identified : ∀ property ∈ properties, IdentifiedPath (entityOf property)) :
    (((entities properties).map entityTask).filterMap Task.unit?).Nodup := by
  have gathered := byEntity_gathered properties
  have own {entity : Option String × String} (among : entity ∈ entities properties) :
      IdentifiedPath entity := by
    obtain ⟨property, member, rfl⟩ := List.mem_map.mp ((gathered.covered entity).mp among)
    exact identified property member
  rw [entity_tasks]
  refine List.Nodup.map_on (fun entity among other otherAmong same => ?_) gathered.nodup
  exact dottedName_inj (own among) (own otherAmong) (Prod.mk.inj same).1

/-- The units that a pass is to make beside extensions are told apart by their stems and kinds. -/
theorem tasks_nodup (stems : (descriptors.map Descriptor.stem).Nodup)
    (identified : ∀ property ∈ properties, IdentifiedPath (entityOf property)) :
    (((tasks config descriptors properties).filterMap Task.unit?).filter
      (·.2 ≠ .extensions)).Nodup := by
  have among : (((tasks config descriptors properties).filterMap Task.unit?).filter
      (·.2 ≠ .extensions)).Sublist
        ((descriptors.flatMap (wrapperTasks config)).filterMap Task.unit? ++
          ((entities properties).map entityTask).filterMap Task.unit? ++
          [("DocumentSerializers", .registration)]) := by
    have extensions : (((groups descriptors).map groupTask).filterMap Task.unit?).filter
        (·.2 ≠ .extensions) = [] := by
      rw [List.filter_eq_nil_iff]
      intro made member
      obtain ⟨task, present, found⟩ := List.mem_filterMap.mp member
      obtain ⟨group, _, rfl⟩ := List.mem_map.mp present
      cases found
      simp
    simp only [tasks, List.filterMap_append, List.filter_append, extensions, List.append_nil]
    refine (List.filter_sublist.append (List.filter_sublist.trans ?_)).append
      (List.filter_sublist.trans ?_)
    · split
      · exact .refl _
      · exact List.nil_sublist _
    · split
      · exact .refl _
      · exact List.nil_sublist _
  refine List.Nodup.sublist among ?_
  have wrapper {made : String × UnitKind}
      (member : made ∈ (descriptors.flatMap (wrapperTasks config)).filterMap Task.unit?) :
      made.2 ≠ .entityConverters ∧ made.2 ≠ .registration := by
    rw [List.filterMap_flatMap] at member
    obtain ⟨descriptor, _, present⟩ := List.mem_flatMap.mp member
    exact config.wrapperKinds_apart (mem_wrapperTasks present).2
  have entity {made : String × UnitKind}
      (member : made ∈ ((entities properties).map entityTask).filterMap Task.unit?) :
      made.2 = .entityConverters := by
    rw [entity_tasks] at member
    obtain ⟨entity, _, rfl⟩ := List.mem_map.mp member
    rfl
  rw [List.nodup_append, List.nodup_append]
  refine ⟨⟨wrapper_tasks_nodup stems, entity_tasks_nodup identified, ?_⟩,
    List.nodup_singleton _, ?_⟩
  · rintro made member _ other rfl
    exact (wrapper member).1 (entity other)
  · rintro made member _ last rfl
    rw [List.mem_singleton.mp last] at member
    rcases List.mem_append.mp member with early | late
    · exact (wrapper early).2 rfl
    · cases entity late

/-- If all names are identifiers, the units of a pass beside extensions have names of their own, and
no extension has one of them. -/
theorem unit_names_distinct (distinct : (descriptors.map Descriptor.key).Nodup)
    (identified : ∀ descriptor ∈ descriptors, Identified descriptor)
    (entitiesIdentified : ∀ property ∈ properties, IdentifiedPath (entityOf property))
    (emitted : emit config descriptors properties = .ok output) :
    ((output.units.filter (·.kind ≠ .extensions)).map GeneratedUnit.name).Nodup ∧
      ∀ unit ∈ output.units, unit.kind ≠ .extensions →
        ∀ extension ∈ output.units, extension.kind = .extensions → extension.name ≠ unit.name := by
  obtain ⟨attempts, settled, units, _⟩ := emit_settled emitted
  have within := units_sublist settled
  rw [← units] at within
  constructor
  · have kept := (within.filter fun made => made.2 ≠ .extensions).map Prod.fst
    simp only [List.filter_map, List.map_map] at kept
    have apart : (((tasks config descriptors properties).filterMap Task.unit?).filter
        (·.2 ≠ .extensions)).Nodup :=
      tasks_nodup (stems_nodup distinct identified) entitiesIdentified
    refine List.Nodup.sublist kept (apart.map ?_)
    intro made other same
    obtain ⟨stem, kind⟩ := GeneratedUnit.nameOf_inj same
    exact Prod.ext stem kind
  · have named {unit : GeneratedUnit} (member : unit ∈ output.units) :
        ∃ stem, unit.name = GeneratedUnit.nameOf stem unit.kind := by
      obtain ⟨⟨stem, kind⟩, _, same⟩ :=
        List.mem_map.mp (within.subset (List.mem_map_of_mem member))
      obtain ⟨name, sort⟩ := Prod.mk.inj same
      exact ⟨stem, by rw [← name, sort]⟩
    intro unit member beside extension otherMember sort same
    obtain ⟨stem, name⟩ := named member
    obtain ⟨other, otherName⟩ := named otherMember
    rw [name, otherName] at same
    exact beside ((GeneratedUnit.nameOf_inj same).2.symm.trans sort)

/-- A type of the name that the registration of serializers goes by, types of one name in several
modules, a raw name, and a type whose name begins as that of a holder does. -/
def nestedNames : List Descriptor := [
  ⟨"DocumentSerializers", "u8", none, false, true⟩, ⟨"Id", "u8", none, false, true⟩,
  ⟨"Id", "u64", some "a", false, true⟩, ⟨"Id", "u64", some "a::b", false, true⟩,
  ⟨"r#type", "u64", some "a", false, true⟩, ⟨"AsU8", "u8", none, false, true⟩]

/-- Entities in the same modules, one of them a wrapper too. -/
def nestedEntities : List Property := [
  ⟨"Id", some "a", "id", "Id", none, false⟩, ⟨"b", some "a", "id", "Id", some "a::b", true⟩]

theorem unit_names_distinct_nested :
    ∃ output, emit {} nestedNames nestedEntities = .ok output ∧
      ((output.units.filter (·.kind ≠ .extensions)).map GeneratedUnit.name).Nodup ∧
        ∀ unit ∈ output.units, unit.kind ≠ .extensions →
          ∀ extension ∈ output.units, extension.kind = .extensions →
            extension.name ≠ unit.name := by
  have words : ∀ group ∈ groups nestedNames, isWord (Extension.traitName group) = true := by
    decide +kernel
  obtain ⟨output, emitted⟩ := emit_ends {} nestedEntities words
  have identified : ∀ descriptor ∈ nestedNames, Identified descriptor := by
    unfold Identified
    decide +kernel
  have entities : ∀ property ∈ nestedEntities, IdentifiedPath (entityOf property) := by
    unfold IdentifiedPath
    decide +kernel
  exact ⟨output, emitted, unit_names_distinct (by decide) identified entities emitted⟩

end Generation

end ValueObjects
