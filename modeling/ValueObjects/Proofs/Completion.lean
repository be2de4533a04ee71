import ValueObjects.Proofs.Groups
import ValueObjects.Proofs.Pass

namespace ValueObjects.Generation

open Emit

/-- Whether the extension of a group ends the pass: each member is checked and the holder has a
name, but the name of the trait is no identifier. -/
structure Breaks (group : Group) : Prop where
  checked : ∀ member ∈ group.members,
    ∃ subject, Subject.of member (classify group.payload) = .ok subject
  holder : ∃ name, Grammar.name? ("As" ++ group.name) = some name
  trait : isWord (Extension.traitName group) = false

/-- What a pass looks up by a key is there. -/
structure LookupsPresent (descriptors : List Descriptor) (properties : List Property) : Prop where
  /-- The payload of a group is one that wrappers were classified by. -/
  payload : ∀ group ∈ groups descriptors,
    group.payload ∈ descriptors.map Descriptor.payload
  /-- The simple name of a group's payload was counted. -/
  simpleName : ∀ group ∈ groups descriptors,
    0 < ((groups descriptors).map Group.payload).countP
      (Naming.simpleName · == Naming.simpleName group.payload)
  /-- The type name of a wrapper was counted. -/
  typeName : ∀ descriptor ∈ descriptors,
    0 < descriptors.countP (·.typeName == descriptor.typeName)
  /-- The accessor that a member of a group would have was counted. -/
  accessor : ∀ group ∈ groups descriptors, ∀ member ∈ group.members,
    0 < group.members.countP fun other =>
      Naming.snakeCase other.typeName == Naming.snakeCase member.typeName
  /-- An entity has a first property. -/
  entity : ∀ rows ∈ byEntity properties, ∃ first rest, rows = first :: rest

variable {config : Config} {descriptors : List Descriptor} {properties : List Property}
  {group : Group}

theorem lift_ne_abort {result : Except Failure α} : Stop.lift result ≠ .error (.abort name) := by
  cases result <;> simp [Stop.lift, Except.mapError]

theorem extension_aborts_iff :
    Extension.of group subjects = .error (.abort name) ↔
      (∃ holder, Grammar.name? ("As" ++ group.name) = some holder) ∧
        isWord (Extension.traitName group) = false ∧ name = Extension.traitName group := by
  rw [Extension.of, bind_eq_error]
  simp only [lift_ne_abort, false_or, lift_eq_ok, identifier_eq_ok]
  rw [← exists_and_right]
  refine exists_congr fun holder => and_congr_right fun _ => ?_
  cases word : isWord (Extension.traitName group) with
  | false =>
    simp only [Bool.not_false, ↓reduceIte, true_and]
    constructor
    · intro thrown
      cases thrown
      rfl
    · rintro rfl
      rfl
  | true =>
    simp only [Bool.not_true, Bool.false_eq_true, ↓reduceIte, Bool.true_eq_false, false_and,
      iff_false]
    cases subjects with
    | nil => exact nofun
    | cons first rest =>
      intro thrown
      rcases bind_eq_error.mp thrown with unnamed | ⟨accessors, _, made⟩
      · exact lift_ne_abort unnamed
      · cases made

theorem groupAttempt_eq_error_iff :
    groupAttempt group = .error stop ↔
      Breaks group ∧ stop = .abort (Extension.traitName group) := by
  unfold groupAttempt
  simp only
  cases checked : group.members.mapM (fun member => Subject.of member (classify group.payload)) with
  | error failure =>
    have open_ : ¬Breaks group := by
      intro breaks
      obtain ⟨subjects, made⟩ := mapM_ends_iff.mpr breaks.checked
      cases checked.symm.trans made
    simp [Stop.lift, Except.mapError, error_bind, open_]
  | ok subjects =>
    have members := mapM_ends_iff.mp ⟨subjects, checked⟩
    have lifted : Stop.lift (.ok subjects : Except Failure (List Subject)) = .ok subjects := rfl
    rw [lifted, ok_bind]
    constructor
    · intro ended
      split at ended
      · cases ended
      · cases ended
      · rename_i name failed
        cases ended
        cases made : Extension.of group subjects with
        | ok found =>
          rw [made, ok_bind] at failed
          exact (lift_ne_abort failed).elim
        | error cause =>
          rw [made, error_bind] at failed
          cases failed
          obtain ⟨holder, trait, rfl⟩ := extension_aborts_iff.mp made
          exact ⟨⟨members, holder, trait⟩, rfl⟩
    · rintro ⟨breaks, rfl⟩
      have made : Extension.of group subjects = .error (.abort (Extension.traitName group)) :=
        extension_aborts_iff.mpr ⟨breaks.holder, breaks.trait, rfl⟩
      rw [made, error_bind]

/-- A pass ends without a result where its extensions do. -/
theorem emit_eq_error_iff :
    emit config descriptors properties = .error stop ↔
      (groups descriptors).mapM groupAttempt = .error stop := by
  rw [emit, bind_eq_error, attempts, bind_eq_error]
  constructor
  · rintro ((broken | ⟨_, _, made⟩) | ⟨_, _, made⟩)
    · exact broken
    · cases made
    · cases made
  · intro broken
    exact .inl (.inl broken)

theorem lookupsPresent (descriptors : List Descriptor) (properties : List Property) :
    LookupsPresent descriptors properties where
  payload group present := mem_payloads.mp (List.mem_map_of_mem present)
  simpleName group present :=
    List.countP_pos_iff.mpr ⟨group.payload, List.mem_map_of_mem present, by simp⟩
  typeName descriptor member := List.countP_pos_iff.mpr ⟨descriptor, member, by simp⟩
  accessor _ _ member inGroup := List.countP_pos_iff.mpr ⟨member, inGroup, by simp⟩
  entity rows member := by
    obtain ⟨bucket, present, rfl⟩ := List.mem_map.mp member
    obtain ⟨first, rest, split, _⟩ := (byEntity_gathered properties).head present
    exact ⟨first, rest, split⟩

/-- How a pass ends. -/
structure Endings (config : Config) (descriptors : List Descriptor)
    (properties : List Property) : Prop where
  lookups : LookupsPresent descriptors properties
  /-- The names of numeric types are identifiers. -/
  numeric : ∀ type : NumericType, type ≠ .decimal → isWord type.display = true
  /-- The pass gives a result exactly if no group breaks it. -/
  completes : (∃ output, emit config descriptors properties = .ok output) ↔
    ∀ group ∈ groups descriptors, ¬Breaks group
  /-- Else it ends at the first group that breaks it, with the name of that group's trait. -/
  aborts : ∀ stop, emit config descriptors properties = .error stop ↔
    ∃ before group after, groups descriptors = before ++ group :: after ∧
      (∀ earlier ∈ before, ¬Breaks earlier) ∧ Breaks group ∧
      stop = .abort (Extension.traitName group)

theorem groupAttempt_ends_iff : (∃ attempt, groupAttempt group = .ok attempt) ↔ ¬Breaks group := by
  cases ended : groupAttempt group with
  | ok attempt =>
    have unbroken : ¬Breaks group := fun breaks => by
      cases ended.symm.trans (groupAttempt_eq_error_iff.mpr ⟨breaks, rfl⟩)
    simp [unbroken]
  | error stop => simp [(groupAttempt_eq_error_iff.mp ended).1]

/-- A pass looks up nothing that is not there, and it gives a result exactly if for every group
whose members are checked and whose holder has a name, that of its trait is an identifier. -/
theorem pass_endings (config : Config) (descriptors : List Descriptor)
    (properties : List Property) : Endings config descriptors properties where
  lookups := lookupsPresent descriptors properties
  numeric := by
    intro type floating
    cases type with
    | decimal => exact (floating rfl).elim
    | _ => rfl
  completes := by
    have ends : (∃ output, emit config descriptors properties = .ok output) ↔
        ∃ extensions, (groups descriptors).mapM groupAttempt = .ok extensions := by
      constructor
      · rintro ⟨output, emitted⟩
        obtain ⟨extensions, extended, _⟩ := emit_parts emitted
        exact ⟨extensions, extended⟩
      · rintro ⟨extensions, extended⟩
        cases emitted : emit config descriptors properties with
        | ok output => exact ⟨output, rfl⟩
        | error stop => cases extended.symm.trans (emit_eq_error_iff.mp emitted)
    simp only [ends, mapM_ends_iff, groupAttempt_ends_iff]
  aborts stop := by
    simp only [emit_eq_error_iff, mapM_eq_error, groupAttempt_ends_iff, groupAttempt_eq_error_iff]

/-- A wrapper of a type whose name is an underscore and a number. -/
def numberedPayload : List Descriptor :=
  [⟨"W", "_1", none, false, true⟩]

/-- The trait of the group would be named by a word that begins with the number. -/
theorem unchecked_trait_name_aborts :
    emit {} numberedPayload [] = .error (.abort "1AsExt") := by
  rfl

end ValueObjects.Generation
