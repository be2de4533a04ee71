import Mathlib.Data.List.Flatten
import Mathlib.Data.List.Nodup
import ValueObjects.Proofs.Buckets

namespace ValueObjects

instance : Std.LawfulEqCmp Descriptor.order where
  compare_self := by simp [Descriptor.order, Generation.compareScopes_eq_compare]
  eq_of_compare {first second} same := by
    simp only [Descriptor.order, Generation.compareScopes_eq_compare, Ordering.then_eq_eq,
      Std.LawfulEqCmp.compare_eq_iff_eq] at same
    obtain ⟨name, payload, scope, copied, immutable⟩ := same
    cases first
    cases second
    simp_all

instance : Std.TransCmp Descriptor.order := by
  have lexical : Descriptor.order =
      compareLex (compareOn Descriptor.typeName) (compareLex (compareOn Descriptor.payload)
        (compareLex (compareOn Descriptor.scope?)
          (compareLex (compareOn Descriptor.isCopy) (compareOn Descriptor.isImmutable)))) := by
    funext first second
    simp [Descriptor.order, Generation.compareScopes_eq_compare, compareLex, compareOn]
  rw [lexical]
  infer_instance

instance : Std.LawfulEqCmp Property.order where
  compare_self := by simp [Property.order, Generation.compareScopes_eq_compare]
  eq_of_compare {first second} same := by
    simp only [Property.order, Generation.compareScopes_eq_compare, Ordering.then_eq_eq,
      Std.LawfulEqCmp.compare_eq_iff_eq] at same
    obtain ⟨entity, entityScope, name, wrapper, wrapperScope, nullable⟩ := same
    cases first
    cases second
    simp_all

instance : Std.TransCmp Property.order := by
  have lexical : Property.order =
      compareLex (compareOn Property.entityName) (compareLex (compareOn Property.entityScope?)
        (compareLex (compareOn Property.name) (compareLex (compareOn Property.wrapperName)
          (compareLex (compareOn Property.wrapperScope?) (compareOn Property.nullable))))) := by
    funext first second
    simp [Property.order, Generation.compareScopes_eq_compare, compareLex, compareOn]
  rw [lexical]
  infer_instance

theorem pairwise_of_mergeSort {cmp : α → α → Ordering} [Std.TransCmp cmp] (items : List α) :
    (items.mergeSort fun first second => (cmp first second).isLE).Pairwise
      fun first second => (cmp first second).isLE = true := by
  apply List.pairwise_mergeSort
  · intro first second third before after
    exact Std.TransCmp.isLE_trans before after
  · intro first second
    have turned : cmp second first = (cmp first second).swap := Std.OrientedCmp.eq_swap
    rw [turned]
    cases cmp first second <;> rfl

/-- Sorting forgets the order that items came in, if the comparison tells all items apart. -/
private theorem mergeSort_eq_of_perm {cmp : α → α → Ordering} [Std.TransCmp cmp]
    [Std.LawfulEqCmp cmp] {items others : List α} (perm : items.Perm others) :
    (items.mergeSort fun first second => (cmp first second).isLE) =
      others.mergeSort fun first second => (cmp first second).isLE := by
  refine List.Perm.eq_of_pairwise ?_ (pairwise_of_mergeSort items) (pairwise_of_mergeSort others) ?_
  · intro first second _ _ before after
    exact Std.LawfulEqCmp.eq_of_compare (Std.OrientedCmp.isLE_antisymm before after)
  · exact (List.mergeSort_perm items _).trans (perm.trans (List.mergeSort_perm others _).symm)

/-- An item that is found by a key of its own is found in any order. -/
private theorem find?_eq_of_perm [BEq κ] [LawfulBEq κ] {key : α → κ} {items others : List α}
    (perm : items.Perm others) (distinct : (items.map key).Nodup) (own : κ) :
    items.find? (key · == own) = others.find? (key · == own) := by
  induction perm with
  | nil => rfl
  | cons item _ ih =>
    have later := ih (List.nodup_cons.mp distinct).2
    rw [List.find?_cons, List.find?_cons, later]
  | swap first second rest =>
    have apart : key second ≠ key first := by
      intro same
      simp [same] at distinct
    by_cases here : key first = own
    · have other : (key second == own) = false := by
        rw [beq_eq_false_iff_ne, ← here]
        exact apart
      simp [here, other]
    · have other : (key first == own) = false := beq_eq_false_iff_ne.mpr here
      simp [List.find?_cons, other]
  | trans first _ ihFirst ihSecond =>
    have moved := (first.map key).nodup_iff.mp distinct
    exact (ihFirst distinct).trans (ihSecond moved)

/-- A module by its path and declarations, without the file that it was read from. -/
def SourceModule.content (module : SourceModule) : Option String × List Item :=
  (module.scope?, module.items)

namespace SourceTree

/-- The modules by their paths and declarations. -/
def contents (tree : SourceTree) : List (Option String × List Item) :=
  tree.modules.map SourceModule.content

/-- The structures of the modules of a path. -/
def structsIn (tree : SourceTree) (scope? : Option String) : List StructDecl :=
  (tree.modules.filter (·.scope? == scope?)).flatMap SourceModule.structs

/-- The structures of a crate by the paths of their modules and their names. -/
def structKeys (tree : SourceTree) : List (Option String × String) :=
  tree.modules.flatMap fun module => module.structs.map fun decl => (module.scope?, decl.name)

/-- Whether no two structures of a module have one name. -/
def IsUnambiguous (tree : SourceTree) : Prop :=
  tree.structKeys.Nodup

instance (tree : SourceTree) : Decidable tree.IsUnambiguous :=
  inferInstanceAs (Decidable tree.structKeys.Nodup)

variable {tree other : SourceTree}

theorem IsUnambiguous.names (distinct : tree.IsUnambiguous) (scope? : Option String) :
    ((tree.structsIn scope?).map StructDecl.name).Nodup := by
  have keys : ((tree.structsIn scope?).map StructDecl.name).map (scope?, ·) =
      (tree.modules.filter (·.scope? == scope?)).flatMap fun module =>
        module.structs.map fun decl => (module.scope?, decl.name) := by
    rw [structsIn, List.map_map, List.map_flatMap]
    apply List.flatMap_congr
    intro module member
    have own : module.scope? = scope? := by simpa using (List.mem_filter.mp member).2
    rw [own]
    rfl
  have kept : (tree.modules.filter (·.scope? == scope?)).Sublist tree.modules :=
    List.filter_sublist
  have part := kept.flatMap fun module =>
    module.structs.map fun decl => (module.scope?, decl.name)
  rw [← keys] at part
  exact (distinct.sublist part).of_map

/-- A structure is found in the modules of its path by their declarations only. -/
theorem structsIn_eq (tree : SourceTree) (scope? : Option String) :
    tree.structsIn scope? =
      (tree.contents.filter (·.1 == scope?)).flatMap fun module =>
        SourceModule.structs ⟨module.1, none, module.2⟩ := by
  rw [contents, List.filter_map, List.flatMap_map]
  rfl

theorem findStruct?_of_contents (same : tree.contents = other.contents) :
    tree.findStruct? = other.findStruct? := by
  funext scope? name
  have structs : tree.structsIn scope? = other.structsIn scope? := by
    rw [structsIn_eq, same, ← structsIn_eq]
  exact congrArg (List.find? (·.name == name)) structs

theorem findStruct?_of_perm (distinct : tree.IsUnambiguous)
    (perm : tree.contents.Perm other.contents) : tree.findStruct? = other.findStruct? := by
  funext scope? name
  have moved : (tree.structsIn scope?).Perm (other.structsIn scope?) := by
    rw [structsIn_eq, structsIn_eq]
    exact (perm.filter _).flatMap_right _
  exact find?_eq_of_perm moved (distinct.names scope?) name

end SourceTree

namespace Discovery

variable {tree other : SourceTree}

/-- The wrapper that a declaration makes depends on the crate through its structures only. -/
theorem candidate?_congr (found : tree.findStruct? = other.findStruct?) :
    candidate? tree = candidate? other := by
  funext module item
  cases item with
  | struct decl => rfl
  | impl decl => simp only [candidate?, ofImpl?, found]
  | module attrs name content => rfl
  | other => rfl

theorem declared_eq (tree : SourceTree) :
    declared tree = tree.contents.flatMap fun module =>
      module.2.filterMap (candidate? tree ⟨module.1, none, module.2⟩) := by
  rw [SourceTree.contents, List.flatMap_map]
  rfl

theorem candidates_of_perm (found : tree.findStruct? = other.findStruct?)
    (perm : tree.contents.Perm other.contents) : candidates tree = candidates other := by
  have moved : (declared tree).Perm (declared other) := by
    rw [declared_eq, declared_eq, candidate?_congr found]
    exact perm.flatMap_right _
  rw [candidates, Descriptor.sort, mergeSort_eq_of_perm moved]
  rfl

theorem entities_of_perm (wrappers : List Descriptor) (perm : tree.contents.Perm other.contents) :
    entities tree wrappers = entities other wrappers := by
  have shown (tree : SourceTree) :
      (tree.modules.flatMap fun module =>
        module.structs.flatMap (entityProperties wrappers module.scope?)) =
      tree.contents.flatMap fun module =>
        (SourceModule.structs ⟨module.1, none, module.2⟩).flatMap
          (entityProperties wrappers module.1) := by
    rw [SourceTree.contents, List.flatMap_map]
    rfl
  have moved := perm.flatMap_right fun module =>
    (SourceModule.structs ⟨module.1, none, module.2⟩).flatMap (entityProperties wrappers module.1)
  rw [entities, entities, shown, shown]
  exact mergeSort_eq_of_perm moved

end Discovery

namespace Generation

/-- A pass takes from a crate its modules by their paths and declarations, in any order, and the
structures that it looks up. -/
theorem generate_of_perm {tree other : SourceTree} (config : Config)
    (found : tree.findStruct? = other.findStruct?) (perm : tree.contents.Perm other.contents) :
    generate config tree = generate config other := by
  rw [generate, generate, Discovery.candidates_of_perm found perm,
    Discovery.entities_of_perm _ perm]

theorem generate_of_contents {tree other : SourceTree} (config : Config)
    (same : tree.contents = other.contents) : generate config tree = generate config other :=
  generate_of_perm config (SourceTree.findStruct?_of_contents same) (same ▸ List.Perm.refl _)

/-- A pass over source texts gives the same in whatever order they come, if no module has two
structures of one name. -/
theorem generate_of_rearranged_sources {sources others : List (String × String)} (config : Config)
    (distinct : (SourceTree.ofSources sources).IsUnambiguous) (perm : sources.Perm others) :
    generate config (SourceTree.ofSources sources) =
      generate config (SourceTree.ofSources others) := by
  have moved : (SourceTree.ofSources sources).contents.Perm
      (SourceTree.ofSources others).contents :=
    (perm.flatMap_right _).map _
  exact generate_of_perm config (SourceTree.findStruct?_of_perm distinct moved) moved

/-- A wrapper by hand, apart from its structure and from an entity that uses it. -/
def scatteredSources : List (String × String) := [
  ("a", "struct Code(u8);"),
  ("b", "impl Value for crate::a::Code { type Payload = u8; }"),
  ("", "struct Order { code: a::Code }")]

theorem generate_of_scattered_sources :
    (SourceTree.ofSources scatteredSources).IsUnambiguous ∧
      scatteredSources.Perm scatteredSources.reverse ∧
      generate {} (SourceTree.ofSources scatteredSources) =
        generate {} (SourceTree.ofSources scatteredSources.reverse) := by
  have distinct : (SourceTree.ofSources scatteredSources).IsUnambiguous := by
    decide +kernel
  have perm := (List.reverse_perm scatteredSources).symm
  exact ⟨distinct, perm, generate_of_rearranged_sources {} distinct perm⟩

end Generation

end ValueObjects
