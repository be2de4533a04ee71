import ValueObjects.Proofs.ModulePaths
import ValueObjects.Proofs.References

namespace ValueObjects

/-- Whether a text begins with a character other than a dot or a colon. -/
def BeginsPlain (text : String) : Prop :=
  ∃ c rest, text.toList = c :: rest ∧ c ≠ '.' ∧ c ≠ ':'

theorem BeginsPlain.append (plain : BeginsPlain text) (rest : String) :
    BeginsPlain (text ++ rest) := by
  obtain ⟨c, more, spelled, other⟩ := plain
  exact ⟨c, more ++ rest.toList, by simp [spelled], other⟩

private theorem name?_of_mark (mark : c = '.' ∨ c = ':') (fuel : Nat) (rest : List Char) :
    Lexer.name? (Lexer.pastGaps fuel (Lexer.pastOrderMark (c :: rest))) = none := by
  have unmarked : Lexer.pastOrderMark (c :: rest) = c :: rest := by
    rcases mark with rfl | rfl <;> rfl
  have solid : Lexer.pastGaps fuel (c :: rest) = c :: rest := by
    cases fuel with
    | zero => rfl
    | succ fuel => rcases mark with rfl | rfl <;> rfl
  rw [unmarked, solid]
  rcases mark with rfl | rfl <;> rfl

/-- An identifier does not begin with a dot or a colon. -/
theorem beginsPlain_of_name? (found : Grammar.name? text = some spelled) : BeginsPlain text := by
  obtain ⟨tokens, lexed, whole⟩ := Option.bind_eq_some_iff.mp found
  rw [Grammar.read_name whole] at lexed
  obtain ⟨fuel, rest, past, word, _⟩ := Lexer.tokens?_ident lexed
  cases start : text.toList with
  | nil =>
    rw [start] at word
    have empty : Lexer.pastGaps fuel [] = [] := by cases fuel <;> rfl
    rw [Lexer.pastOrderMark, empty] at word
    · cases word
    · exact nofun
  | cons c more =>
    rw [start] at word
    refine ⟨c, more, start, ?_, ?_⟩
    · rintro rfl
      cases (name?_of_mark (.inl rfl) fuel more).symm.trans word
    · rintro rfl
      cases (name?_of_mark (.inr rfl) fuel more).symm.trans word

/-- The file name of a type begins as the first step of its path does. -/
theorem beginsPlain_dottedName (made : Emit.CratePath.of scope? name = .ok path) :
    BeginsPlain (dottedName scope? name) := by
  have names := Emit.names_of_path made
  cases scope? with
  | none =>
    obtain ⟨spelled, found⟩ := names name List.mem_cons_self
    exact beginsPlain_of_name? found
  | some scope =>
    obtain ⟨first, more, split⟩ := List.exists_cons_of_ne_nil (Naming.steps_ne_nil scope)
    obtain ⟨spelled, found⟩ := names first (by simp [split])
    obtain ⟨c, rest, start, noDot, noColon⟩ := beginsPlain_of_name? found
    obtain ⟨tail, joined⟩ := Naming.joinSteps_spelled more
    have whole : scope.toList = c :: (rest ++ tail) := by
      rw [← Naming.joinSteps_steps scope, split, joined, start, List.cons_append]
    have kept : dotted (c :: (rest ++ tail)) = c :: dotted (rest ++ tail) := by
      rw [dotted]
      intro later colon
      exact (noColon colon).elim
    refine ⟨c, dotted (rest ++ tail) ++ '.' :: name.toList, ?_, noDot, noColon⟩
    simp [dottedName, whole, kept]

namespace Generation

open Emit

variable {config : Config} {descriptors : List Descriptor} {properties : List Property}
  {output : Output}

theorem name_of_render (made : GeneratedUnit.render start kind tokens = .ok unit) :
    unit.name = start ++ ("." ++ kind.suffix ++ ".rs") := by
  rw [unit_eq_of_render made, GeneratedUnit.nameOf]
  simp only [String.append_assoc]

/-- Every unit of a wrapper is named by the wrapper's stem. -/
theorem name_of_wrapperUnits (present : .ok unit ∈ wrapperUnits config descriptors descriptor) :
    (∃ path, CratePath.of descriptor.scope? descriptor.typeName = .ok path) ∧
      unit.name = descriptor.stem ++ ("." ++ unit.kind.suffix ++ ".rs") := by
  have named (kind : UnitKind) (tokens : List Token)
      (made : .ok unit = GeneratedUnit.render descriptor.stem kind tokens) :
      unit.name = descriptor.stem ++ ("." ++ unit.kind.suffix ++ ".rs") := by
    rw [kind_of_render made.symm]
    exact name_of_render made.symm
  unfold wrapperUnits wrapperAttempts at present
  split at present
  · simp at present
  · rename_i subject found
    refine ⟨⟨_, (checked_of_subject found).path⟩, ?_⟩
    simp only [List.mem_append, List.mem_cons, List.not_mem_nil, or_false] at present
    rcases present with ((made | made) | relational) | document
    · exact named _ _ made
    · exact named _ _ made
    · split at relational
      · obtain ⟨converters, _, made⟩ := bind_eq_ok.mp (List.mem_singleton.mp relational).symm
        exact named _ _ made.symm
      · cases relational
    · split at document
      · exact named _ _ (List.mem_singleton.mp document)
      · cases document

theorem name_of_extension (extended : (groups descriptors).mapM groupAttempt = .ok extensions)
    (present : .ok unit ∈ extensions) :
    ∃ group ∈ groups descriptors, unit.name = "As" ++ (group.name ++ ".extensions.rs") := by
  obtain ⟨group, member, attempted⟩ := item_of_mem extended present
  obtain ⟨tokens, rendered⟩ := rendered_of_group attempted
  refine ⟨group, member, ?_⟩
  rw [name_of_render rendered, String.append_assoc]
  rfl

/-- The registration of an entity's converters is named by the entity. -/
theorem name_of_entity (member : rows ∈ byEntity properties)
    (made : entityAttempt (stems descriptors (groups descriptors)) rows = .ok unit) :
    ∃ property ∈ rows,
      (∃ path, CratePath.of property.entityScope? property.entityName = .ok path) ∧
      unit.name = property.entityStem ++ ".entity_converters.rs" := by
  obtain ⟨found, registers⟩ := registers_of_entity member made
  have chosen := registers.chosen
  cases rows with
  | nil => cases chosen
  | cons head rest =>
    obtain ⟨path, named, _⟩ := bind_eq_ok.mp chosen
    exact ⟨head, List.mem_cons_self, ⟨path, named⟩, name_of_render registers.rendered⟩

theorem name_of_registration (made : registrationAttempt wrappers = .ok unit) :
    unit.name = "DocumentSerializers.registration.rs" :=
  name_of_render made

/-- What the units of a pass are named by: a wrapper, a group, an entity, or nothing else. -/
theorem names_of_emit (emitted : emit config descriptors properties = .ok output)
    (present : unit ∈ output.units) :
    (∃ descriptor ∈ descriptors,
      (∃ path, CratePath.of descriptor.scope? descriptor.typeName = .ok path) ∧
        unit.name = descriptor.stem ++ ("." ++ unit.kind.suffix ++ ".rs")) ∨
    (∃ group ∈ groups descriptors, unit.name = "As" ++ (group.name ++ ".extensions.rs")) ∨
    (∃ property ∈ properties,
      (∃ path, CratePath.of property.entityScope? property.entityName = .ok path) ∧
        unit.name = property.entityStem ++ ".entity_converters.rs") ∨
    unit.name = "DocumentSerializers.registration.rs" := by
  obtain ⟨extensions, extended, all, parts, rfl⟩ := emit_parts emitted
  have attempted := mem_unitsOf.mp present
  rw [parts] at attempted
  simp only [List.mem_append, List.mem_flatMap] at attempted
  rcases attempted with ((⟨descriptor, member, wrapper⟩ | extension) | entity) | registration
  · exact .inl ⟨descriptor, member, name_of_wrapperUnits wrapper⟩
  · exact .inr (.inl (name_of_extension extended extension))
  · obtain ⟨rows, member, made⟩ := mem_entityUnits entity
    obtain ⟨property, own, named⟩ := name_of_entity member made
    exact .inr (.inr (.inl ⟨property, mem_of_byEntity member own, named⟩))
  · exact .inr (.inr (.inr (name_of_registration (mem_registrationUnits registration))))

/-- No unit of a pass has a name that is empty or begins with a dot. -/
theorem beginsPlain_of_emit (emitted : emit config descriptors properties = .ok output)
    (present : unit ∈ output.units) : BeginsPlain unit.name := by
  rcases names_of_emit emitted present with
    ⟨descriptor, _, ⟨path, checked⟩, named⟩ | ⟨group, _, named⟩ |
    ⟨property, _, ⟨path, checked⟩, named⟩ | named <;> rw [named]
  · exact (beginsPlain_dottedName checked).append _
  · exact BeginsPlain.append ⟨'A', ['s'], rfl, by decide, by decide⟩ _
  · exact (beginsPlain_dottedName checked).append _
  · exact ⟨'D', _, rfl, by decide, by decide⟩

end Generation

end ValueObjects
