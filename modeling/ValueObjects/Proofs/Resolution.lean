import Mathlib.Data.List.DropRight
import Mathlib.Data.List.Nodup
import ValueObjects.Discovery.Entities
import ValueObjects.Proofs.ModulePaths
/-!
Which wrapper a field is taken for whose type spells out a module. That module is looked at first;
if it has no wrapper of the name, the path is taken as if the name stood alone, so that a wrapper of
another module can be reported for it.
-/
namespace ValueObjects.Discovery

/-- The module that the steps before a name spell out, seen from a module: from the crate root,
from the module itself, or from a module around it, no further out than the root. After `self` and
`crate` each step is a name. -/
inductive SpellsOut (scope? : Option String) : List String → Option String → Prop where
  | root (rest : List String) : SpellsOut scope? ("crate" :: rest) (SourceModule.pathOf rest)
  | own (rest : List String) :
      SpellsOut scope? ("self" :: rest) (SourceModule.pathOf (baseOf scope? ++ rest))
  | around (climbs : 0 < count) (inside : count ≤ (baseOf scope?).length)
      (ends : rest.head? ≠ some "super") :
      SpellsOut scope? (List.replicate count "super" ++ rest)
        (SourceModule.pathOf ((baseOf scope?).rdrop count ++ rest))

/-- Whether a module has a wrapper of the name. -/
def HasWrapper (candidates : List Descriptor) (scope? : Option String) (name : String) : Prop :=
  ∃ wrapper ∈ candidates, wrapper.key = (scope?, name)

/-- Whether the wrapper is the only one of its name. -/
def OnlyNamed (candidates : List Descriptor) (wrapper : Descriptor) : Prop :=
  wrapper ∈ candidates ∧
    ∀ other ∈ candidates, other.typeName = wrapper.typeName → other = wrapper

/-- The wrapper that a path is taken for, which spells out the module `owner?` and is seen from
`scope?`: that of the spelled-out module; else that of the module it is seen from; else the only
one of the name. -/
inductive Taken (candidates : List Descriptor) (scope? owner? : Option String) (name : String)
    (wrapper : Descriptor) : Prop where
  | spelled (member : wrapper ∈ candidates) (key : wrapper.key = (owner?, name))
  | own (absent : ¬HasWrapper candidates owner? name) (member : wrapper ∈ candidates)
      (key : wrapper.key = (scope?, name))
  | only (absent : ¬HasWrapper candidates owner? name)
      (elsewhere : ¬HasWrapper candidates scope? name) (named : wrapper.typeName = name)
      (single : OnlyNamed candidates wrapper)

/-- The fields that rows are made of: those with a name, of the structures of a crate that have
named fields and no parameters and are no wrappers. -/
structure EntityField (tree : SourceTree) (candidates : List Descriptor) (module : SourceModule)
    (decl : StructDecl) (field : Field) (label : String) : Prop where
  inTree : module ∈ tree.modules
  declared : decl ∈ module.structs
  plain : ¬HasWrapper candidates module.scope? decl.name
  concrete : decl.isGeneric = false
  listed : ∃ fields, decl.fields = .named fields ∧ field ∈ fields
  named : field.name = some label

/-- The row of a field with a wrapper. -/
def rowOf (module : SourceModule) (decl : StructDecl) (field : Field) (label : String)
    (wrapper : Descriptor) : Property :=
  ⟨decl.name, module.scope?, label, wrapper.typeName, wrapper.scope?, (optionArgument field.ty).2⟩

/-- Whether the type of a field, or what its option holds, is a path of the steps to the name. -/
structure TypedBy (field : Field) (leading : List String) (name : String) : Prop where
  path : ∃ rooted segments, (optionArgument field.ty).1 = .path rooted segments ∧
    segments.map Segment.name = leading ++ [name] ∧ segments.all isBare = true

variable {tree : SourceTree} {candidates : List Descriptor} {wrapper : Descriptor}
  {module : SourceModule} {decl : StructDecl} {field : Field} {row : Property}

theorem climbModules_replicate (ends : rest.head? ≠ some "super") (count : Nat)
    (base : List String) :
    climbModules base (List.replicate count "super" ++ rest) = base.rdrop count ++ rest := by
  induction count generalizing base with
  | zero =>
    rw [List.replicate_zero, List.nil_append, List.rdrop_zero]
    cases rest with
    | nil => rfl
    | cons first rest =>
      rw [climbModules]
      intro more same
      cases same
      exact ends rfl
  | succ count ih =>
    rw [List.replicate_succ, List.cons_append, climbModules, ih, List.rdrop, List.rdrop,
      List.dropLast_eq_take, List.take_take, List.length_take]
    congr 2
    omega

/-- A spelled-out module is the only one that its steps denote. -/
theorem denotedModules_of_spellsOut (spelled : SpellsOut scope? leading owner?) :
    leading ≠ [] ∧ denotedModules scope? leading = [owner?] := by
  cases spelled with
  | root rest => exact ⟨by simp, rfl⟩
  | own rest => cases scope? <;> exact ⟨by simp, rfl⟩
  | @around count rest climbs inside ends =>
    have climbed := climbModules_replicate ends count (baseOf scope?)
    obtain ⟨more, rfl⟩ := Nat.exists_eq_add_one.mpr climbs
    refine ⟨by simp [List.replicate_succ], ?_⟩
    rw [← climbed, List.replicate_succ, List.cons_append]
    cases scope? <;> rfl

theorem key_eq_iff :
    wrapper.key = (scope?, name) ↔ wrapper.scope? = scope? ∧ wrapper.typeName = name := by
  simp [Descriptor.key]

section

variable (distinct : (candidates.map Descriptor.key).Nodup)

include distinct

theorem eq_of_key (member : wrapper ∈ candidates) (otherMember : other ∈ candidates)
    (same : wrapper.key = other.key) : wrapper = other :=
  List.inj_on_of_nodup_map distinct member otherMember same

theorem inModule_eq_some_iff :
    (candidates.filter (·.typeName == name)).find? (·.scope? == path) = some wrapper ↔
      wrapper ∈ candidates ∧ wrapper.key = (path, name) := by
  constructor
  · intro found
    obtain ⟨member, named⟩ := List.mem_filter.mp (List.mem_of_find?_eq_some found)
    have placed := List.find?_some found
    exact ⟨member, key_eq_iff.mpr ⟨beq_iff_eq.mp placed, beq_iff_eq.mp named⟩⟩
  · rintro ⟨member, key⟩
    obtain ⟨placed, named⟩ := key_eq_iff.mp key
    have some : ((candidates.filter (·.typeName == name)).find? (·.scope? == path)).isSome := by
      rw [List.find?_isSome]
      exact ⟨wrapper, List.mem_filter.mpr ⟨member, by simp [named]⟩, by simp [placed]⟩
    obtain ⟨other, found⟩ := Option.isSome_iff_exists.mp some
    obtain ⟨otherMember, otherNamed⟩ := List.mem_filter.mp (List.mem_of_find?_eq_some found)
    have otherKey : other.key = (path, name) :=
      key_eq_iff.mpr ⟨by simpa using List.find?_some found, by simpa using otherNamed⟩
    rw [found, eq_of_key distinct otherMember member (otherKey.trans key.symm)]

theorem inModule_eq_none_iff :
    (candidates.filter (·.typeName == name)).find? (·.scope? == path) = none ↔
      ¬HasWrapper candidates path name := by
  rw [← not_iff_not, not_not, ← ne_eq, Option.ne_none_iff_exists']
  exact exists_congr fun _ => inModule_eq_some_iff distinct

theorem filter_eq_singleton_iff :
    candidates.filter (·.typeName == name) = [wrapper] ↔
      wrapper.typeName = name ∧ OnlyNamed candidates wrapper := by
  constructor
  · intro single
    have listed (other : Descriptor) :
        other ∈ candidates ∧ other.typeName = name ↔ other = wrapper := by
      rw [← List.mem_singleton (a := other), ← single, List.mem_filter, beq_iff_eq]
    obtain ⟨member, named⟩ := (listed wrapper).mpr rfl
    exact ⟨named, member, fun other present same => (listed other).mp ⟨present, same.trans named⟩⟩
  · rintro ⟨rfl, member, single⟩
    have once := (distinct.of_map).filter (·.typeName == wrapper.typeName)
    have all : ∀ other ∈ candidates.filter (·.typeName == wrapper.typeName), other = wrapper := by
      intro other present
      obtain ⟨inside, named⟩ := List.mem_filter.mp present
      exact single other inside (beq_iff_eq.mp named)
    have present : wrapper ∈ candidates.filter (·.typeName == wrapper.typeName) :=
      List.mem_filter.mpr ⟨member, by simp⟩
    generalize candidates.filter (·.typeName == wrapper.typeName) = named at once all present
    match named, once, all, present with
    | [only], _, all, _ => rw [all only List.mem_cons_self]
    | first :: second :: _, once, all, _ =>
      have same : first = second := (all first (by simp)).trans (all second (by simp)).symm
      simp [same] at once

/-- What a path is taken for that spells out a module. -/
theorem resolve?_eq_some_iff (named : segments.map Segment.name = leading ++ [name])
    (bare : segments.all isBare = true) (spelled : SpellsOut scope? leading owner?) :
    resolve? scope? candidates (.path rooted segments) = some wrapper ↔
      Taken candidates scope? owner? name wrapper := by
  obtain ⟨nonempty, denoted⟩ := denotedModules_of_spellsOut spelled
  simp only [resolve?, named, List.getLast?_concat, bare, List.dropLast_concat, Bool.not_true,
    Bool.false_eq_true, ↓reduceIte, List.isEmpty_iff, nonempty, denoted, List.findSome?_singleton]
  cases atOwner : (candidates.filter (·.typeName == name)).find? (·.scope? == owner?) with
  | some found =>
    obtain ⟨member, key⟩ := (inModule_eq_some_iff distinct).mp atOwner
    have present : HasWrapper candidates owner? name := ⟨found, member, key⟩
    constructor
    · intro same
      cases same
      exact .spelled member key
    · intro taken
      cases taken with
      | spelled other otherKey => rw [eq_of_key distinct member other (key.trans otherKey.symm)]
      | own absent _ _ => exact (absent present).elim
      | only absent _ _ _ => exact (absent present).elim
  | none =>
    have absent := (inModule_eq_none_iff distinct).mp atOwner
    cases atScope : (candidates.filter (·.typeName == name)).find? (·.scope? == scope?) with
    | some found =>
      obtain ⟨member, key⟩ := (inModule_eq_some_iff distinct).mp atScope
      constructor
      · intro same
        cases same
        exact .own absent member key
      · intro taken
        cases taken with
        | spelled other otherKey => exact (absent ⟨wrapper, other, otherKey⟩).elim
        | own _ other otherKey => rw [eq_of_key distinct member other (key.trans otherKey.symm)]
        | only _ elsewhere _ _ => exact (elsewhere ⟨found, member, key⟩).elim
    | none =>
      have elsewhere := (inModule_eq_none_iff distinct).mp atScope
      constructor
      · intro found
        simp only at found
        split at found
        · rename_i single
          cases found
          obtain ⟨typed, only⟩ := (filter_eq_singleton_iff distinct).mp single
          exact .only absent elsewhere typed only
        · cases found
      · intro taken
        cases taken with
        | spelled other otherKey => exact (absent ⟨wrapper, other, otherKey⟩).elim
        | own _ other otherKey => exact (elsewhere ⟨wrapper, other, otherKey⟩).elim
        | only _ _ typed only => simp [(filter_eq_singleton_iff distinct).mpr ⟨typed, only⟩]

end

theorem entityProperties_of_field (place : EntityField tree candidates module decl field label)
    (made : property? candidates module.scope? decl.name field = some row) :
    row ∈ entityProperties candidates module.scope? decl := by
  obtain ⟨fields, listed, member⟩ := place.listed
  have plain :
      (candidates.any fun wrapper => wrapper.key == (module.scope?, decl.name)) = false := by
    rw [List.any_eq_false]
    intro wrapper present same
    exact place.plain ⟨wrapper, present, beq_iff_eq.mp same⟩
  simp only [entityProperties, plain, listed, place.concrete, Bool.false_eq_true, ↓reduceIte]
  exact List.mem_filterMap.mpr ⟨field, member, made⟩

/-- A row that a field makes is among the properties of the crate. -/
theorem mem_entities_of_field (place : EntityField tree candidates module decl field label)
    (made : property? candidates module.scope? decl.name field = some row) :
    row ∈ entities tree candidates := by
  apply List.mem_mergeSort.mpr
  refine List.mem_flatMap.mpr ⟨module, place.inTree, ?_⟩
  exact List.mem_flatMap.mpr ⟨decl, place.declared, entityProperties_of_field place made⟩

/-- The rows of a field whose type spells out a module: one for the wrapper that the type is taken
for, which is among the properties of the crate. It is for the spelled-out wrapper alone exactly if
there is such a wrapper, or if neither the field's own module has one of the name nor a single
module elsewhere. -/
theorem qualified_field_rows (distinct : (candidates.map Descriptor.key).Nodup)
    (place : EntityField tree candidates module decl field label)
    (typed : TypedBy field leading name) (spelled : SpellsOut module.scope? leading owner?) :
    (∀ row, property? candidates module.scope? decl.name field = some row ↔
      ∃ wrapper, Taken candidates module.scope? owner? name wrapper ∧
        row = rowOf module decl field label wrapper) ∧
    (∀ row, property? candidates module.scope? decl.name field = some row →
      row ∈ entities tree candidates) ∧
    ((∀ row, property? candidates module.scope? decl.name field = some row →
        HasWrapper candidates owner? name ∧ (row.wrapperScope?, row.wrapperName) = (owner?, name)) ↔
      HasWrapper candidates owner? name ∨
        ¬HasWrapper candidates module.scope? name ∧
          ∀ wrapper, OnlyNamed candidates wrapper → wrapper.typeName ≠ name) := by
  obtain ⟨rooted, segments, path, named, bare⟩ := typed.path
  have rows (row : Property) : property? candidates module.scope? decl.name field = some row ↔
      ∃ wrapper, Taken candidates module.scope? owner? name wrapper ∧
        row = rowOf module decl field label wrapper := by
    simp only [property?, place.named, path, Option.map_eq_some_iff, rowOf,
      resolve?_eq_some_iff distinct named bare spelled, eq_comm (a := row)]
  refine ⟨rows, fun row made => mem_entities_of_field place made, ?_⟩
  simp only [rows]
  constructor
  · intro kept
    by_contra stray
    rw [not_or, not_and_or, not_not] at stray
    obtain ⟨absent, ⟨wrapper, member, key⟩ | several⟩ := stray
    · exact absent (kept _ ⟨wrapper, .own absent member key, rfl⟩).1
    · by_cases own : HasWrapper candidates module.scope? name
      · obtain ⟨wrapper, member, key⟩ := own
        exact absent (kept _ ⟨wrapper, .own absent member key, rfl⟩).1
      · simp only [not_forall, not_not] at several
        obtain ⟨wrapper, single, same⟩ := several
        exact absent (kept _ ⟨wrapper, .only absent own same single, rfl⟩).1
  · rintro holds row ⟨wrapper, taken, rfl⟩
    cases taken with
    | spelled member key => exact ⟨⟨wrapper, member, key⟩, key⟩
    | own absent member key =>
      rcases holds with present | ⟨elsewhere, _⟩
      · exact (absent present).elim
      · exact (elsewhere ⟨wrapper, member, key⟩).elim
    | only absent _ same single =>
      rcases holds with present | ⟨_, several⟩
      · exact (absent present).elim
      · exact (several wrapper single same).elim

/-- An order with a property of the type `Id` in the module `b`. -/
def orderField : Field :=
  ⟨true, some "id", plainPath ["crate", "b", "Id"]⟩

def order : StructDecl :=
  ⟨[], "Order", false, .named [orderField]⟩

def shop : SourceModule :=
  ⟨some "shop", none, [.struct order]⟩

/-- The wrapper `Id` of a module. -/
def idOf (scope : String) : Descriptor :=
  ⟨"Id", "u64", some scope, false, true⟩

private theorem orderField_place (plain : ¬HasWrapper candidates (some "shop") "Order") :
    EntityField ⟨[shop], []⟩ candidates shop order orderField "id" where
  inTree := List.mem_singleton_self _
  declared := List.mem_singleton_self _
  plain := plain
  concrete := rfl
  listed := ⟨_, rfl, List.mem_singleton_self _⟩
  named := rfl

private theorem orderField_typed : TypedBy orderField ["crate", "b"] "Id" :=
  ⟨false, _, rfl, rfl, rfl⟩

/-- Of the wrappers of two modules, the property is the one that it spells out. -/
theorem qualified_field_rows_order :
    ∃ row, property? [idOf "a", idOf "b"] (some "shop") "Order" orderField = some row ∧
      row ∈ entities ⟨[shop], []⟩ [idOf "a", idOf "b"] ∧ row.wrapperPath = "crate::b::Id" := by
  have distinct : ([idOf "a", idOf "b"].map Descriptor.key).Nodup := by decide
  have rows := qualified_field_rows distinct
    (orderField_place (by simp [HasWrapper, idOf, Descriptor.key])) orderField_typed (.root ["b"])
  have made : property? [idOf "a", idOf "b"] (some "shop") "Order" orderField =
      some (rowOf shop order orderField "id" (idOf "b")) :=
    (rows.1 _).mpr ⟨idOf "b", .spelled (by simp) rfl, rfl⟩
  exact ⟨_, made, rows.2.1 _ made, rfl⟩

/-- With a wrapper in the module `a` alone, the property is taken for that one, although its type
spells out the module `b`. -/
theorem stray_wrapper_reported :
    entities ⟨[shop], []⟩ [idOf "a"] =
      [⟨"Order", some "shop", "id", "Id", some "a", false⟩] ∧
    SpellsOut (some "shop") ["crate", "b"] (some "b") ∧ ¬HasWrapper [idOf "a"] (some "b") "Id" := by
  refine ⟨?_, .root ["b"], by simp [HasWrapper, idOf, Descriptor.key]⟩
  have made : [shop].flatMap (fun module => module.structs.flatMap
      (entityProperties [idOf "a"] module.scope?)) =
      [⟨"Order", some "shop", "id", "Id", some "a", false⟩] := by decide
  rw [entities, made, Property.sort]
  exact List.mergeSort_singleton _

end ValueObjects.Discovery
