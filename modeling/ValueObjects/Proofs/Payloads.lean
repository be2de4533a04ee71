import ValueObjects.Discovery.Entities
import ValueObjects.Proofs.Groups
import ValueObjects.Proofs.ModulePaths
/-!
Payload groups of the wrappers of a crate. They go by the text of the payload types alone: paths
that mean the same in every module tell their structures apart, and relative ones do not.
-/
namespace ValueObjects.Discovery

open Generation

/-- The type that a declaration gives as a payload. -/
def payloadType? : Item → Option Ty
  | .struct decl =>
    match decl.fields.list with
    | [field] => some field.ty
    | _ => none
  | .impl decl => decl.types.lookup "Payload"
  | _ => none

/-- Whether a declaration in the module makes the wrapper, with a payload of the type. -/
structure Declares (tree : SourceTree) (module : SourceModule) (wrapper : Descriptor) (ty : Ty) :
    Prop where
  present : module ∈ tree.modules
  item : ∃ item ∈ module.items,
    candidate? tree module item = some wrapper ∧ payloadType? item = some ty

/-- Whether a payload group has both wrappers. -/
def InOneGroup (descriptors : List Descriptor) (first second : Descriptor) : Prop :=
  ∃ group ∈ groups descriptors, first ∈ group.members ∧ second ∈ group.members

/-- The structure of the crate that a path of names denotes, seen from a module. -/
def structOf? (tree : SourceTree) (scope? : Option String) (names : List String) :
    Option (Option String × String) := do
  let name ← names.getLast?
  let owner? ← (denotedModules scope? names.dropLast).head?
  let _ ← tree.findStruct? owner? name
  return (owner?, name)

/-- Whether a path starts at the crate root. -/
def Anchored (names : List String) : Prop :=
  names.dropLast.head? = some "crate"

/-- Whether a path starts at the module that it is seen from. -/
def Relative (names : List String) : Prop :=
  names.dropLast.head? ≠ some "crate" ∧ names.dropLast.head? ≠ some "super"

variable {tree : SourceTree} {module : SourceModule} {item : Item} {wrapper : Descriptor}
  {names : List String}

theorem payload_of_candidate (made : candidate? tree module item = some wrapper) :
    ∃ ty, payloadType? item = some ty ∧ wrapper.payload = ty.display := by
  cases item with
  | struct decl =>
    unfold candidate? ofDerive? at made
    simp only at made
    split at made
    · split at made
      · rename_i field single
        cases made
        exact ⟨field.ty, by simp [payloadType?, single], rfl⟩
      · cases made
    · cases made
  | impl decl =>
    unfold candidate? ofImpl? at made
    simp only at made
    split at made
    · cases made
    · split at made
      · split at made
        · rename_i payload _ found
          split at made
          · cases made
            exact ⟨payload, found, rfl⟩
          · cases made
        · cases made
      · cases made
  | module attrs name content => cases made
  | other => cases made

theorem Declares.payload (declares : Declares tree module wrapper ty) :
    wrapper.payload = ty.display := by
  obtain ⟨item, _, made, found⟩ := declares.item
  obtain ⟨other, given, same⟩ := payload_of_candidate made
  cases Option.some.inj (found.symm.trans given)
  exact same

theorem mem_of_firstOfEach {descriptors : List Descriptor}
    (member : wrapper ∈ firstOfEach seen descriptors) : wrapper ∈ descriptors := by
  induction descriptors generalizing seen with
  | nil => exact member
  | cons next rest ih =>
    rw [firstOfEach] at member
    split at member
    · exact List.mem_cons_of_mem _ (ih member)
    · rcases List.mem_cons.mp member with rfl | later
      · exact List.mem_cons_self
      · exact List.mem_cons_of_mem _ (ih later)

/-- Every wrapper that is found is declared somewhere, with a payload type. -/
theorem declares_of_candidate (member : wrapper ∈ candidates tree) :
    ∃ module ty, Declares tree module wrapper ty := by
  have sorted := List.mem_mergeSort.mp (mem_of_firstOfEach member)
  obtain ⟨module, present, inModule⟩ := List.mem_flatMap.mp sorted
  obtain ⟨item, inItems, made⟩ := List.mem_filterMap.mp inModule
  obtain ⟨ty, given, _⟩ := payload_of_candidate made
  exact ⟨module, ty, present, item, inItems, made, given⟩

theorem denotedModules_anchored (anchored : Anchored names) (scope? other? : Option String) :
    denotedModules scope? names.dropLast = denotedModules other? names.dropLast := by
  obtain ⟨rest, leading⟩ := List.head?_eq_some_iff.mp anchored
  rw [leading, denotedModules, denotedModules]

/-- The steps without a `self` at their start. -/
def belowSelf : List String → List String
  | "self" :: rest => rest
  | leading => leading

theorem head_denotedModules (scope? : Option String) (root : leading.head? ≠ some "crate")
    (up : leading.head? ≠ some "super") :
    (denotedModules scope? leading).head? =
      some (SourceModule.pathOf (baseOf scope? ++ belowSelf leading)) := by
  cases leading with
  | nil => cases scope? <;> rfl
  | cons first rest =>
    rw [List.head?_cons, ne_eq, Option.some.injEq] at root up
    by_cases own : first = "self"
    · subst own
      cases scope? <;> rfl
    · cases scope? <;> simp [denotedModules, baseOf, belowSelf, root, up, own]

theorem structOf?_of_denoted
    (same : denotedModules scope? names.dropLast = denotedModules other? names.dropLast) :
    structOf? tree scope? names = structOf? tree other? names := by
  rw [structOf?, structOf?, same]

theorem owner_of_structOf? (relative : Relative names)
    (found : structOf? tree scope? names = some denoted) :
    denoted.1 = SourceModule.pathOf (baseOf scope? ++ belowSelf names.dropLast) := by
  unfold structOf? at found
  rw [head_denotedModules scope? relative.1 relative.2] at found
  simp only [bind, Option.bind_eq_some_iff] at found
  obtain ⟨name, _, owner?, owner, _, _, made⟩ := found
  cases Option.some.inj owner
  cases Option.some.inj made
  rfl

theorem inOneGroup_iff (first : wrapper ∈ candidates tree) (second : another ∈ candidates tree)
    (declares : Declares tree module wrapper ty) (others : Declares tree other another otherTy) :
    InOneGroup (candidates tree) wrapper another ↔ ty.display = otherTy.display := by
  rw [← declares.payload, ← others.payload]
  exact share_group_iff first second

theorem names_eq_of_display (ordinary : Ordinary names) (others : Ordinary otherNames)
    (same : (plainPath names).display = (plainPath otherNames).display) : names = otherNames := by
  have clean {names} (ordinary : Ordinary names) : ∀ name ∈ names, ':' ∉ name.toList :=
    fun name member colon => (ordinary.words name member ':' colon).2 rfl
  rw [display_plainPath ordinary, display_plainPath others] at same
  rw [← Naming.steps_joinSteps ordinary.nonempty (clean ordinary), same,
    Naming.steps_joinSteps others.nonempty (clean others)]

end ValueObjects.Discovery
