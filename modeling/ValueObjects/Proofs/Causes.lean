import ValueObjects.Proofs.Pass

namespace ValueObjects

open Emit Generation

theorem lift_eq_failure {result : Except Failure α} {failure : Failure} :
    Stop.lift result = .error (.failure failure) ↔ result = .error failure := by
  cases result <;> simp [Stop.lift, Except.mapError]

/-- Whether a result can fail for the causes only. -/
def FailsOnly (causes : Failure → Prop) (result : Except Failure α) : Prop :=
  ∀ cause, result = .error cause → causes cause

namespace FailsOnly

variable {causes : Failure → Prop}

theorem ok (value : α) : FailsOnly causes (.ok value) := by
  intro cause failed
  cases failed

theorem bind {first : Except Failure α} {next : α → Except Failure β}
    (early : FailsOnly causes first) (later : ∀ value, FailsOnly causes (next value)) :
    FailsOnly causes (first >>= next) := by
  intro cause failed
  rcases bind_eq_error.mp failed with stopped | ⟨value, _, late⟩
  · exact early cause stopped
  · exact later value cause late

theorem mapM {step : α → Except Failure β} {items : List α}
    (each : ∀ item ∈ items, FailsOnly causes (step item)) : FailsOnly causes (items.mapM step) := by
  intro cause failed
  obtain ⟨before, item, after, rfl, _, stepped⟩ := mapM_eq_error.mp failed
  exact each item (by simp) cause stepped

theorem render (output : causes (.invalidOutput (GeneratedUnit.nameOf stem kind))) :
    FailsOnly causes (GeneratedUnit.render stem kind tokens) := by
  unfold GeneratedUnit.render
  intro cause failed
  dsimp only at failed
  split at failed
  · cases failed
  · cases failed
    exact output

section

variable (names : ∀ name use, causes (.invalidIdentifier name use))

include names

theorem identifier (name use : String) : FailsOnly causes (identifier name use) := by
  unfold Emit.identifier
  intro cause failed
  split at failed
  · cases failed
  · cases failed
    exact names name use

theorem methodIdentifier (name : String) : FailsOnly causes (methodIdentifier name) := by
  unfold Emit.methodIdentifier
  split
  · exact .ok _
  · split
    · exact .ok _
    · exact .identifier names _ _

theorem cratePath (scope? : Option String) (name : String) :
    FailsOnly causes (CratePath.of scope? name) :=
  (FailsOnly.mapM fun step _ => .identifier names step _).bind fun _ =>
    (FailsOnly.identifier names name _).bind fun _ => .ok _

theorem convertersOf (stem : String) : FailsOnly causes (convertersOf stem) :=
  (FailsOnly.identifier names _ _).bind fun _ =>
    (FailsOnly.identifier names _ _).bind fun _ => .ok _

theorem entityConverters (stemOf : Property → String) (properties : List Property) :
    FailsOnly causes (EntityConverters.of stemOf properties) := by
  cases properties with
  | nil => exact .ok _
  | cons first rest =>
    refine (FailsOnly.cratePath names _ _).bind fun _ =>
      (FailsOnly.mapM fun property _ => ?_).bind fun _ => .ok _
    exact (FailsOnly.identifier names _ _).bind fun _ =>
      (FailsOnly.identifier names _ _).bind fun _ => .ok _

theorem accessor (members : List Descriptor) (subject : Subject) :
    FailsOnly causes (Extension.accessor members subject) :=
  (FailsOnly.methodIdentifier names _).bind fun _ => .ok _

/-- The extension of a group whose members are checked is reported for a name only. -/
theorem extension {group : Group} {subjects : List Subject}
    (failed : Extension.of group subjects = .error (.failure cause)) : causes cause := by
  rcases bind_eq_error.mp failed with unnamed | ⟨holder, _, later⟩
  · exact FailsOnly.identifier names _ _ cause (lift_eq_failure.mp unnamed)
  · dsimp only at later
    split at later
    · cases later
    · split at later
      · cases later
      · rcases bind_eq_error.mp later with unmade | ⟨_, _, made⟩
        · exact FailsOnly.mapM (fun subject _ => .accessor names _ subject) cause
            (lift_eq_failure.mp unmade)
        · cases made

end

end FailsOnly

namespace Generation

/-- What a unit of the name can be lost for, if it is made of the wrappers. -/
inductive Loss (members : List Descriptor) (unit : String) : Failure → Prop where
  | name (text use : String) : Loss members unit (.invalidIdentifier text use)
  | output : Loss members unit (.invalidOutput unit)
  | wrapper (member : descriptor ∈ members)
      (failed : Subject.of descriptor (classify descriptor.payload) = .error cause) :
      Loss members unit cause

theorem Loss.mono (loss : Loss members unit cause) (within : members ⊆ others) :
    Loss others unit cause := by
  cases loss with
  | name text use => exact .name text use
  | output => exact .output
  | wrapper member failed => exact .wrapper (within member) failed

/-- The check of a wrapper fails for a cause that concerns one unit. -/
theorem isUnitLocal_of_subject {classification : Classification}
    (failed : Subject.of descriptor classification = .error cause) : cause.isUnitLocal = true := by
  have named (scope? : Option String) (name : String) :
      FailsOnly (·.isUnitLocal = true) (CratePath.of scope? name) :=
    .cratePath (fun _ _ => rfl) scope? name
  cases unfit_of_subject failed with
  | path unnamed => exact named _ _ cause unnamed
  | payload unread => rfl
  | inner other unread => rfl

theorem Loss.isUnitLocal (loss : Loss members unit cause) : cause.isUnitLocal = true := by
  cases loss with
  | name text use => rfl
  | output => rfl
  | wrapper member failed => exact isUnitLocal_of_subject failed

section

variable (found : Subject.of descriptor (classify descriptor.payload) = .ok subject)

include found

/-- The relational unit of a wrapper that is checked is lost for a name or its own tokens. -/
theorem loss_of_relational (descriptors : List Descriptor) :
    FailsOnly (Loss [] (GeneratedUnit.nameOf descriptor.stem .relational))
      (relationalAttempt descriptors descriptor) := by
  rw [relationalAttempt, found, ok_bind]
  exact (FailsOnly.convertersOf .name _).bind fun _ => .render .output

theorem loss_of_document :
    FailsOnly (Loss [] (GeneratedUnit.nameOf descriptor.stem .document))
      (documentAttempt descriptor) := by
  rw [documentAttempt, found, ok_bind]
  exact .render .output

end

/-- The extension of a group is lost for a name, its own tokens or a member. -/
theorem loss_of_group {group : Group}
    (same : ∀ member ∈ group.members, member.payload = group.payload)
    (attempted : groupAttempt group = .ok attempt) :
    FailsOnly (Loss group.members (GeneratedUnit.nameOf ("As" ++ group.name) .extensions))
      attempt := by
  rintro cause rfl
  unfold groupAttempt at attempted
  simp only at attempted
  split at attempted
  · cases attempted
  · rename_i failed
    cases attempted
    rcases bind_eq_error.mp failed with unchecked | ⟨subjects, _, later⟩
    · refine FailsOnly.mapM ?_ cause (lift_eq_failure.mp unchecked)
      intro member inGroup cause failed
      rw [← same member inGroup] at failed
      exact .wrapper inGroup failed
    · rcases bind_eq_error.mp later with unmade | ⟨found, _, unrendered⟩
      · exact FailsOnly.extension .name unmade
      · exact FailsOnly.render .output cause (lift_eq_failure.mp unrendered)
  · cases attempted

theorem loss_of_entity (assigned : List ((Option String × String) × String))
    (rows : List Property) :
    FailsOnly (Loss [] (GeneratedUnit.nameOf ((rows.head?.map Property.entityStem).getD "")
      .entityConverters)) (entityAttempt assigned rows) :=
  (FailsOnly.entityConverters .name _ rows).bind fun _ => .render .output

end Generation

end ValueObjects
