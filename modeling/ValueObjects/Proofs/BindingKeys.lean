import ValueObjects.Proofs.SourceOrder
/-!
The keys that the properties of entities are bound by. The path of an entity tells its module and
its name, so that no two properties of a crate have one key.
-/
namespace ValueObjects

/-- A text is told apart from what stands before it by the last colon. -/
theorem append_inj_of_colon {before earlier after later : List Char}
    (ends : before.getLast? = some ':') (same : before ++ after = earlier ++ later)
    (ended : earlier.getLast? = some ':') (plain : ':' ∉ after) (other : ':' ∉ later) :
    before = earlier ∧ after = later := by
  have nothing_between {start rest whole : List Char} (last : (start ++ rest).getLast? = some ':')
      (clean : ':' ∉ rest ++ whole) : rest = [] := by
    cases rest with
    | nil => rfl
    | cons c more =>
      rw [List.getLast?_append_of_ne_nil _ (List.cons_ne_nil c more)] at last
      exact (clean (List.mem_append_left _ (List.mem_of_getLast? last))).elim
  rcases List.append_eq_append_iff.mp same with ⟨rest, rfl, rfl⟩ | ⟨rest, rfl, rfl⟩
  · cases nothing_between ended plain
    simp
  · cases nothing_between ends other
    simp

/-- The root of a crate in a path. -/
def crateRoot : List Char := ['c', 'r', 'a', 't', 'e', ':', ':']

/-- What the path of a type has before its name. -/
def leadOf (scope? : Option String) : List Char :=
  crateRoot ++ (scope?.map fun path => path.toList ++ [':', ':']).getD []

theorem toList_qualifiedName (scope? : Option String) (name : String) :
    (qualifiedName scope? name).toList = leadOf scope? ++ name.toList := by
  have root : "crate::".toList = crateRoot := by rfl
  have colons : "::".toList = [':', ':'] := by rfl
  cases scope? with
  | none =>
    rw [qualifiedName, String.toList_append, root]
    rfl
  | some path =>
    rw [qualifiedName, String.toList_append, String.toList_append, String.toList_append, root,
      colons]
    simp [leadOf]

theorem getLast?_leadOf (scope? : Option String) : (leadOf scope?).getLast? = some ':' := by
  cases scope? with
  | none => rfl
  | some path => simp [leadOf]

theorem leadOf_inj (same : leadOf scope? = leadOf other?) : scope? = other? := by
  have tails := List.append_cancel_left same
  cases scope? with
  | none =>
    cases other? with
    | none => rfl
    | some another => simp at tails
  | some path =>
    cases other? with
    | none => simp at tails
    | some another => rw [String.toList_inj.mp (List.append_cancel_right tails)]

/-- The path of a type tells its module and its name. -/
theorem qualifiedName_inj (plain : ':' ∉ name.toList) (other : ':' ∉ another.toList)
    (same : qualifiedName scope? name = qualifiedName other? another) :
    scope? = other? ∧ name = another := by
  have spelled := congrArg String.toList same
  rw [toList_qualifiedName, toList_qualifiedName] at spelled
  obtain ⟨modules, names⟩ :=
    append_inj_of_colon (getLast?_leadOf _) spelled (getLast?_leadOf _) plain other
  exact ⟨leadOf_inj modules, String.toList_inj.mp names⟩

namespace SourceTree

/-- Whether no structure has two fields that are one identifier. -/
def HasOwnFields (tree : SourceTree) : Prop :=
  ∀ module ∈ tree.modules, ∀ decl ∈ module.structs,
    ((decl.fields.list.filterMap Field.name).map Naming.unraw).Nodup

instance (tree : SourceTree) : Decidable tree.HasOwnFields :=
  inferInstanceAs (Decidable (∀ module ∈ tree.modules, ∀ decl ∈ module.structs,
    ((decl.fields.list.filterMap Field.name).map Naming.unraw).Nodup))

/-- The structures of a crate with the paths of their modules. -/
def placedStructs (tree : SourceTree) : List (Option String × StructDecl) :=
  tree.modules.flatMap fun module => module.structs.map (module.scope?, ·)

variable {tree : SourceTree}

theorem mem_placedStructs (member : placed ∈ tree.placedStructs) :
    ∃ module ∈ tree.modules, placed.2 ∈ module.structs := by
  obtain ⟨module, present, inModule⟩ := List.mem_flatMap.mp member
  obtain ⟨decl, inStructs, rfl⟩ := List.mem_map.mp inModule
  exact ⟨module, present, inStructs⟩

theorem IsUnambiguous.placed (distinct : tree.IsUnambiguous) :
    (tree.placedStructs.map fun placed => (placed.1, placed.2.name)).Nodup := by
  have keys : tree.placedStructs.map (fun placed => (placed.1, placed.2.name)) =
      tree.structKeys := by
    rw [placedStructs, structKeys, List.map_flatMap]
    simp only [List.map_map]
    rfl
  exact keys ▸ distinct

end SourceTree

/-- What a row is bound by: the path of its entity, and its name as an identifier. -/
def Property.bindingKey (row : Property) : String × String :=
  (row.entityPath, Naming.unraw row.name)

namespace Discovery

variable {candidates : List Descriptor} {decl : StructDecl} {row : Property} {tree : SourceTree}

theorem property?_eq_some (made : property? candidates scope? entity field = some row) :
    field.name = some row.name ∧ row.entityScope? = scope? ∧ row.entityName = entity := by
  unfold property? at made
  split at made
  · rename_i name given
    obtain ⟨wrapper, _, rfl⟩ := Option.map_eq_some_iff.mp made
    exact ⟨given, rfl, rfl⟩
  · cases made

theorem entity_of_entityProperties (member : row ∈ entityProperties candidates scope? decl) :
    row.entityScope? = scope? ∧ row.entityName = decl.name := by
  unfold entityProperties at member
  split at member
  · cases member
  · split at member
    · split at member
      · cases member
      · obtain ⟨field, _, made⟩ := List.mem_filterMap.mp member
        exact (property?_eq_some made).2
    · cases member

theorem names_of_properties (fields : List Field) :
    ((fields.filterMap (property? candidates scope? entity)).map Property.name).Sublist
      (fields.filterMap Field.name) := by
  induction fields with
  | nil => exact .slnil
  | cons field rest ih =>
    cases made : property? candidates scope? entity field with
    | none =>
      rw [List.filterMap_cons_none made]
      cases given : field.name with
      | none => rwa [List.filterMap_cons_none given]
      | some name =>
        rw [List.filterMap_cons_some given]
        exact ih.cons name
    | some row =>
      rw [List.filterMap_cons_some made, List.filterMap_cons_some (property?_eq_some made).1]
      exact ih.cons_cons row.name

/-- The rows of an entity have the names of different fields. -/
theorem names_of_entityProperties (candidates : List Descriptor) (scope? : Option String)
    (decl : StructDecl) :
    ((entityProperties candidates scope? decl).map Property.name).Sublist
      (decl.fields.list.filterMap Field.name) := by
  unfold entityProperties
  split
  · exact List.nil_sublist _
  · split
    · rename_i fields named
      split
      · exact List.nil_sublist _
      · rw [named]
        exact names_of_properties fields
    · exact List.nil_sublist _

/-- The rows of a crate are those of its structures. -/
theorem entities_perm (tree : SourceTree) (candidates : List Descriptor) :
    (entities tree candidates).Perm
      (tree.placedStructs.flatMap fun placed =>
        entityProperties candidates placed.1 placed.2) := by
  have placed : (tree.placedStructs.flatMap fun placed =>
      entityProperties candidates placed.1 placed.2) =
      tree.modules.flatMap fun module =>
        module.structs.flatMap (entityProperties candidates module.scope?) := by
    rw [SourceTree.placedStructs, List.flatMap_assoc]
    simp only [List.flatMap_map]
  rw [placed]
  exact List.mergeSort_perm _ _

/-- No two rows have one key, if the names of the entities have no colons in them. -/
theorem nodup_bindingKeys (unambiguous : tree.IsUnambiguous) (own : tree.HasOwnFields)
    (plain : ∀ row ∈ entities tree candidates, ':' ∉ row.entityName.toList) :
    ((entities tree candidates).map Property.bindingKey).Nodup := by
  rw [((entities_perm tree candidates).map _).nodup_iff, List.map_flatMap, List.nodup_flatMap]
  constructor
  · intro placed member
    obtain ⟨module, present, inModule⟩ := SourceTree.mem_placedStructs member
    have names := (own module present placed.2 inModule).sublist
      ((names_of_entityProperties candidates placed.1 placed.2).map Naming.unraw)
    rw [List.map_map] at names
    apply List.Nodup.of_map Prod.snd
    rw [List.map_map]
    exact names
  · have listed {placed : Option String × StructDecl} {row : Property}
        (member : placed ∈ tree.placedStructs)
        (inPlaced : row ∈ entityProperties candidates placed.1 placed.2) :
        row ∈ entities tree candidates :=
      (entities_perm tree candidates).mem_iff.mpr (List.mem_flatMap.mpr ⟨placed, member, inPlaced⟩)
    have apart := unambiguous.placed
    rw [List.Nodup, List.pairwise_map] at apart
    refine List.Pairwise.imp_of_mem ?_ apart
    intro first second firstMember secondMember different key inFirst inSecond
    obtain ⟨row, rowMember, rfl⟩ := List.mem_map.mp inFirst
    obtain ⟨other, otherMember, same⟩ := List.mem_map.mp inSecond
    obtain ⟨scopes, names⟩ := qualifiedName_inj (plain other (listed secondMember otherMember))
      (plain row (listed firstMember rowMember)) (congrArg Prod.fst same)
    obtain ⟨scope, name⟩ := entity_of_entityProperties rowMember
    obtain ⟨otherScope, otherName⟩ := entity_of_entityProperties otherMember
    rw [scope, otherScope] at scopes
    rw [name, otherName] at names
    exact different (Prod.ext scopes.symm names.symm)

end Discovery

end ValueObjects
