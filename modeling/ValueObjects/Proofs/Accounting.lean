import Mathlib.Data.List.Dedup
import ValueObjects.Proofs.Adapters
import ValueObjects.Proofs.Causes

namespace ValueObjects

def Config.wrapperKinds (config : Config) : List UnitKind :=
  [.operators] ++ [.parsing] ++ (if config.relational then [.relational] else []) ++
    (if config.document then [.document] else [])

namespace Generation

open Emit

/-- What a pass sets out to do: to report a wrapper that cannot be checked, or to make a unit. -/
inductive Task where
  | report (descriptor : Descriptor)
  | make (stem : String) (kind : UnitKind)

/-- Whether a wrapper can be checked. -/
def isFit (descriptor : Descriptor) : Bool :=
  (Subject.of descriptor (classify descriptor.payload)).toOption.isSome

def wrapperTasks (config : Config) (descriptor : Descriptor) : List Task :=
  if isFit descriptor then config.wrapperKinds.map (.make descriptor.stem)
  else [.report descriptor]

def groupTask (group : Group) : Task :=
  .make ("As" ++ group.name) .extensions

/-- The entities of the properties, each once and in order. -/
def entities (properties : List Property) : List (Option String × String) :=
  (properties.foldl (fun found property => insertProperty property found) []).map (·.1)

def entityTask (entity : Option String × String) : Task :=
  .make (dottedName entity.1 entity.2) .entityConverters

/-- The tasks of a pass in order. -/
def tasks (config : Config) (descriptors : List Descriptor) (properties : List Property) :
    List Task :=
  descriptors.flatMap (wrapperTasks config) ++ (groups descriptors).map groupTask ++
    (if config.relational then (entities properties).map entityTask else []) ++
    (if config.document then [.make "DocumentSerializers" .registration] else [])

/-- How an attempt can settle a task in a pass over the wrappers. -/
inductive Settles (descriptors : List Descriptor) : Task → Attempt → Prop where
  | reported (member : descriptor ∈ descriptors)
      (failed : Subject.of descriptor (classify descriptor.payload) = .error cause) :
      Settles descriptors (.report descriptor) (.error cause)
  | made (named : unit.name = GeneratedUnit.nameOf stem kind) (sort : unit.kind = kind) :
      Settles descriptors (.make stem kind) (.ok unit)
  | lost (loss : Loss descriptors (GeneratedUnit.nameOf stem kind) cause) :
      Settles descriptors (.make stem kind) (.error cause)

variable {config : Config} {descriptors : List Descriptor} {descriptor : Descriptor}
  {properties : List Property} {output : Output} {extensions : List Attempt}

/-- An attempt that renders a unit, or fails for what such a unit can be lost for, settles the task
to make it. -/
theorem settles_of_render {attempt : Attempt} (within : members ⊆ descriptors)
    (rendered : ∀ unit, attempt = .ok unit →
      ∃ tokens, GeneratedUnit.render stem kind tokens = .ok unit)
    (loss : FailsOnly (Loss members (GeneratedUnit.nameOf stem kind)) attempt) :
    Settles descriptors (.make stem kind) attempt := by
  cases attempt with
  | error cause => exact .lost ((loss cause rfl).mono within)
  | ok unit =>
    obtain ⟨tokens, made⟩ := rendered unit rfl
    rw [unit_eq_of_render made]
    exact .made rfl rfl

theorem settles_render (descriptors : List Descriptor) (stem : String) (kind : UnitKind)
    (tokens : List Token) :
    Settles descriptors (.make stem kind) (GeneratedUnit.render stem kind tokens) :=
  settles_of_render (List.nil_subset _) (fun _ made => ⟨tokens, made⟩) (.render .output)

theorem forall₂_if {relation : α → β → Prop} {items : List α} {results : List β} (chosen : Bool)
    (related : List.Forall₂ relation items results) :
    List.Forall₂ relation (if chosen then items else []) (if chosen then results else []) := by
  cases chosen with
  | true => exact related
  | false => exact .nil

theorem isFit_of_subject
    (found : Subject.of descriptor (classify descriptor.payload) = .ok subject) :
    isFit descriptor = true := by
  rw [isFit, found]
  rfl

theorem isFit_of_failure
    (failed : Subject.of descriptor (classify descriptor.payload) = .error cause) :
    isFit descriptor = false := by
  rw [isFit, failed]
  rfl

/-- The tasks of a wrapper are settled one by one, whether or not it can be checked. -/
theorem wrapper_settled (config : Config) (member : descriptor ∈ descriptors) :
    List.Forall₂ (Settles descriptors) (wrapperTasks config descriptor)
      (wrapperUnits config descriptors descriptor) := by
  cases found : Subject.of descriptor (classify descriptor.payload) with
  | error cause =>
    rw [wrapperTasks, isFit_of_failure found, wrapperUnits, wrapperAttempts_of_failure found]
    exact .cons (.reported member found) .nil
  | ok subject =>
    have relational : Settles descriptors (.make descriptor.stem .relational)
        (relationalAttempt descriptors descriptor) := by
      refine settles_of_render (List.nil_subset _) ?_ (loss_of_relational found descriptors)
      intro unit made
      obtain ⟨_, _, later⟩ := bind_eq_ok.mp made
      obtain ⟨_, _, rendered⟩ := bind_eq_ok.mp later
      exact ⟨_, rendered⟩
    have document : Settles descriptors (.make descriptor.stem .document)
        (documentAttempt descriptor) := by
      refine settles_of_render (List.nil_subset _) ?_ (loss_of_document found)
      intro unit made
      obtain ⟨_, _, rendered⟩ := bind_eq_ok.mp made
      exact ⟨_, rendered⟩
    rw [wrapperTasks, isFit_of_subject found, wrapperUnits_of_subject found]
    simp only [Config.wrapperKinds, ↓reduceIte, List.map_append, apply_ite (List.map _),
      List.map_cons, List.map_nil]
    refine List.rel_append (List.rel_append (List.rel_append ?_ ?_) ?_) ?_
    · exact .cons (settles_render ..) .nil
    · exact .cons (settles_render ..) .nil
    · exact forall₂_if _ (.cons relational .nil)
    · exact forall₂_if _ (.cons document .nil)

theorem groups_settled (extended : (groups descriptors).mapM groupAttempt = .ok extensions) :
    List.Forall₂ (Settles descriptors) ((groups descriptors).map groupTask) extensions := by
  have each : List.Forall₂ (fun group attempt => group ∈ groups descriptors ∧
      groupAttempt group = .ok attempt) (groups descriptors) extensions :=
    (List.forall₂_and_left _ _).mpr ⟨fun _ member => member, mapM_eq_ok.mp extended⟩
  rw [List.forall₂_map_left_iff]
  refine each.imp ?_
  rintro group attempt ⟨member, attempted⟩
  have within : group.members ⊆ descriptors := fun descriptor inGroup =>
    ((mem_members_iff member).mp inGroup).1
  refine settles_of_render within ?_ (loss_of_group ?_ attempted)
  · rintro unit rfl
    exact rendered_of_group attempted
  · intro descriptor inGroup
    exact ((mem_members_iff member).mp inGroup).2

theorem entities_settled (descriptors : List Descriptor) (properties : List Property) :
    List.Forall₂ (Settles descriptors) ((entities properties).map entityTask)
      ((byEntity properties).map (entityAttempt (stems descriptors (groups descriptors)))) := by
  rw [entities, byEntity, List.map_map, List.map_map, List.forall₂_map_left_iff,
    List.forall₂_map_right_iff, List.forall₂_same]
  intro bucket present
  obtain ⟨first, rest, split, own⟩ := (byEntity_gathered properties).head present
  have stem : (bucket.2.head?.map Property.entityStem).getD "" =
      dottedName bucket.1.1 bucket.1.2 := by
    rw [split, ← own]
    rfl
  refine settles_of_render (List.nil_subset _) ?_ (stem ▸ loss_of_entity _ bucket.2)
  intro unit made
  obtain ⟨_, _, rendered⟩ := bind_eq_ok.mp made
  exact ⟨_, stem ▸ rendered⟩

theorem tasks_settled (config : Config) (properties : List Property)
    (extended : (groups descriptors).mapM groupAttempt = .ok extensions) :
    List.Forall₂ (Settles descriptors) (tasks config descriptors properties)
      (passAttempts config descriptors properties extensions) := by
  refine List.rel_append (List.rel_append (List.rel_append ?_ (groups_settled extended)) ?_) ?_
  · have each : List.Forall₂ (fun first second => first ∈ descriptors ∧ first = second)
        descriptors descriptors :=
      List.forall₂_same.mpr fun _ member => ⟨member, rfl⟩
    refine List.rel_flatMap each ?_
    rintro descriptor _ ⟨member, rfl⟩
    exact wrapper_settled config member
  · exact forall₂_if _ (entities_settled descriptors properties)
  · exact forall₂_if _ (.cons (settles_render ..) .nil)

/-- An attempt is either a unit or a diagnostic. -/
theorem attempts_perm (attempts : List Attempt) :
    attempts.Perm ((unitsOf attempts).map .ok ++ (failuresOf attempts).map .error) := by
  induction attempts with
  | nil => exact .refl _
  | cons attempt rest ih =>
    cases attempt with
    | ok unit => exact ih.cons _
    | error cause => exact (ih.cons _).trans List.perm_middle.symm

theorem length_wrapperKinds (config : Config) :
    config.wrapperKinds.length = 2 + config.relational.toNat + config.document.toNat := by
  obtain ⟨document, relational⟩ := config
  cases document <;> cases relational <;> rfl

theorem length_wrapperTasks (config : Config) (descriptors : List Descriptor) :
    (descriptors.flatMap (wrapperTasks config)).length =
      descriptors.countP (!isFit ·) + config.wrapperKinds.length * descriptors.countP isFit := by
  induction descriptors with
  | nil => rfl
  | cons descriptor rest ih =>
    rw [List.flatMap_cons, List.length_append, ih, wrapperTasks]
    cases fit : isFit descriptor with
    | true =>
      rw [List.countP_cons_of_neg (by simp [fit]), List.countP_cons_of_pos fit, Nat.mul_succ]
      simp only [↓reduceIte, List.length_map]
      omega
    | false =>
      rw [List.countP_cons_of_pos (by simp [fit]), List.countP_cons_of_neg (by simp [fit])]
      simp only [Bool.false_eq_true, ↓reduceIte, List.length_singleton]
      omega

theorem length_groups (descriptors : List Descriptor) :
    (groups descriptors).length = (descriptors.map Descriptor.payload).dedup.length := by
  rw [← (byPayload_gathered descriptors).length_eq, groups, List.length_map]

theorem length_entities (properties : List Property) :
    (entities properties).length = (properties.map entityOf).dedup.length := by
  rw [entities, List.length_map, (byEntity_gathered properties).length_eq]

/-- The tasks of a pass that comes to its end are settled by what it gives. -/
theorem emit_settled (emitted : emit config descriptors properties = .ok output) :
    ∃ attempts,
      List.Forall₂ (Settles descriptors) (tasks config descriptors properties) attempts ∧
      output.units = unitsOf attempts ∧ output.diagnostics = failuresOf attempts := by
  obtain ⟨extensions, extended, all, parts, rfl⟩ := emit_parts emitted
  refine ⟨all, ?_, rfl, rfl⟩
  rw [parts]
  exact tasks_settled config properties extended

/-- A diagnostic is what some unit can be lost for. -/
theorem loss_of_diagnostic (emitted : emit config descriptors properties = .ok output)
    (lost : cause ∈ output.diagnostics) : ∃ unit, Loss descriptors unit cause := by
  obtain ⟨attempts, settled, _, diagnostics⟩ := emit_settled emitted
  rw [diagnostics] at lost
  obtain ⟨task, _, settles⟩ := Forall₂.right_of_mem settled.flip (mem_failuresOf.mp lost)
  cases settles with
  | reported member failed => exact ⟨"", .wrapper member failed⟩
  | lost loss => exact ⟨_, loss⟩

/-- What a pass accounts for. -/
structure Accounted (config : Config) (descriptors : List Descriptor) (properties : List Property)
    (output : Output) : Prop where
  /-- Each task is settled by one attempt, and each attempt is one unit or one diagnostic. -/
  settled : ∃ attempts,
    List.Forall₂ (Settles descriptors) (tasks config descriptors properties) attempts ∧
    attempts.Perm (output.units.map .ok ++ output.diagnostics.map .error)
  /-- A wrapper that cannot be checked counts once, another one as often as it has units. -/
  count : output.units.length + output.diagnostics.length =
    descriptors.countP (!isFit ·) +
      (2 + config.relational.toNat + config.document.toNat) * descriptors.countP isFit +
      (groups descriptors).length +
      (if config.relational then (properties.map entityOf).dedup.length else 0) +
      (if config.document then 1 else 0)
  /-- There is one group for each payload. -/
  payloads : (groups descriptors).length = (descriptors.map Descriptor.payload).dedup.length
  unitLocal : ∀ cause ∈ output.diagnostics, cause.isUnitLocal = true

/-- Nothing that a pass sets out to do is lost or done twice. -/
theorem emit_accounts (emitted : emit config descriptors properties = .ok output) :
    Accounted config descriptors properties output := by
  obtain ⟨attempts, settled, units, diagnostics⟩ := emit_settled emitted
  have once : attempts.Perm (output.units.map .ok ++ output.diagnostics.map .error) := by
    rw [units, diagnostics]
    exact attempts_perm attempts
  refine ⟨⟨attempts, settled, once⟩, ?_, length_groups descriptors, ?_⟩
  · have total := once.length_eq
    rw [List.length_append, List.length_map, List.length_map] at total
    rw [← total, ← settled.length_eq, ← length_wrapperKinds, ← length_entities]
    simp only [tasks, List.length_append, length_wrapperTasks, List.length_map,
      apply_ite List.length, List.length_nil, List.length_singleton]
  · intro cause lost
    obtain ⟨unit, loss⟩ := loss_of_diagnostic emitted lost
    exact loss.isUnitLocal

/-- A wrapper and one whose payload is no type. -/
def brokenPayload : List Descriptor := [
  ⟨"Age", "i32", none, false, true⟩, ⟨"Broken", "Vec<", none, false, true⟩]

/-- An entity that holds the first of them. -/
def agedPerson : List Property := [⟨"Person", none, "age", "Age", none, false⟩]

/-- The wrapper that cannot be checked is reported for itself and for its group, and the other one
has all its units. -/
theorem emit_accounts_broken :
    ∃ output, emit {} brokenPayload agedPerson = .ok output ∧
      output.units.length + output.diagnostics.length = 1 + 4 + 2 + 1 + 1 ∧
      Accounted {} brokenPayload agedPerson output := by
  have words : ∀ group ∈ groups brokenPayload, isWord (Extension.traitName group) = true := by
    decide +kernel
  obtain ⟨output, emitted⟩ := emit_ends {} agedPerson words
  have accounted := emit_accounts emitted
  refine ⟨output, emitted, ?_, accounted⟩
  rw [accounted.count, accounted.payloads]
  decide +kernel

end Generation

end ValueObjects
