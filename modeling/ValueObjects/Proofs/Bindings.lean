import Mathlib.Data.List.Nodup
import Mathlib.Data.List.Perm.Basic
import ValueObjects.Converter.Registry

namespace ValueObjects

/-- Entries are told apart by entity and property. -/
def ConverterEntry.key (entry : ConverterEntry) : String × String :=
  (entry.entity, entry.property)

/-- The entries that an entity's registration binds. -/
def Entity.entries (entity : Entity) : List ConverterEntry :=
  entity.properties.map fun (property, converter) => ⟨entity.key, property, converter⟩

namespace ConverterRegistry

/-- By entity, then property. -/
def compareKeys (a b : ConverterEntry) : Ordering :=
  (compare a.entity b.entity).then (compare a.property b.property)

/-- Whether entries are in order, with one for each property. -/
def IsSorted (entries : List ConverterEntry) : Prop :=
  entries.Pairwise fun first second => compareKeys first second = .lt

variable {registry other : ConverterRegistry} {entry : ConverterEntry}
  {entries others : List ConverterEntry} {entity property : String} {converter : Converter}

theorem get?_empty : empty.get? entity property = none := by
  simp [get?, empty]

/-- A binding shows at its own property alone. -/
theorem get?_register (key : String × String) :
    (registry.register entity property converter).get? key.1 key.2 =
      if (entity, property) = key then some ⟨entity, property, converter⟩
      else registry.get? key.1 key.2 := by
  simp only [get?, register, Std.ExtTreeMap.getElem?_alter, Std.LawfulEqCmp.compare_eq_iff_eq,
    Prod.ext_iff]
  by_cases sameEntity : entity = key.1
  · subst sameEntity
    by_cases sameProperty : property = key.2
    · simp [sameProperty]
    · cases registry.entities[key.1]?
      all_goals simp [sameProperty, Std.ExtTreeMap.getElem?_insert]
  · simp [sameEntity]

/-- What every registry is made of: no entity is without entries, and each entry is kept under its
own entity and property. -/
structure IsKeyed (registry : ConverterRegistry) : Prop where
  inhabited : ∀ (entity : String) (found : Std.ExtTreeMap String ConverterEntry),
    registry.entities[entity]? = some found → ∃ property, property ∈ found
  own : ∀ entity property entry, registry.get? entity property = some entry →
    entry.key = (entity, property)

theorem isKeyed_empty : empty.IsKeyed where
  inhabited entity found present := by simp [empty] at present
  own entity property entry present := by simp [get?_empty] at present

theorem IsKeyed.register (keyed : registry.IsKeyed) (entity property : String)
    (converter : Converter) : (registry.register entity property converter).IsKeyed where
  inhabited other found present := by
    simp only [ConverterRegistry.register, Std.ExtTreeMap.getElem?_alter] at present
    split at present
    · cases present
      exact ⟨property, by simp⟩
    · exact keyed.inhabited other found present
  own other name entry present := by
    rw [get?_register (other, name)] at present
    split at present
    · rename_i same
      cases present
      exact same
    · exact keyed.own other name entry present

theorem mem_entries : entry ∈ registry.entries ↔
    ∃ entity property, registry.get? entity property = some entry := by
  simp only [entries, List.mem_flatMap, List.mem_map, Prod.exists,
    Std.ExtTreeMap.mem_toList_iff_getElem?_eq_some, get?, Option.bind_eq_bind,
    Option.bind_eq_some_iff, exists_eq_right]
  constructor
  · rintro ⟨entity, found, present, property, bound⟩
    exact ⟨entity, property, found, present, bound⟩
  · rintro ⟨entity, property, found, present, bound⟩
    exact ⟨entity, found, present, property, bound⟩

theorem IsKeyed.mem_entries (keyed : registry.IsKeyed) : entry ∈ registry.entries ↔
    registry.get? entry.entity entry.property = some entry := by
  rw [ConverterRegistry.mem_entries]
  constructor
  · rintro ⟨entity, property, found⟩
    obtain ⟨rfl, rfl⟩ := Prod.mk.inj (keyed.own _ _ _ found)
    exact found
  · intro found
    exact ⟨_, _, found⟩

theorem IsKeyed.sorted_values (keyed : registry.IsKeyed)
    (present : registry.entities[entity]? = some found) :
    IsSorted (found.toList.map Prod.snd) := by
  have own : ∀ bound ∈ found.toList, bound.2.key = (entity, bound.1) := by
    intro bound member
    have read := Std.ExtTreeMap.mem_toList_iff_getElem?_eq_some.mp member
    exact keyed.own entity bound.1 bound.2 (by simp [get?, present, read])
  have ordered := Std.ExtTreeMap.ordered_keys_toList (t := found)
  refine List.pairwise_map.mpr (ordered.imp_of_mem fun {first second} inFirst inSecond less => ?_)
  obtain ⟨firstEntity, firstProperty⟩ := Prod.mk.inj (own first inFirst)
  obtain ⟨secondEntity, secondProperty⟩ := Prod.mk.inj (own second inSecond)
  have same : compare entity entity = .eq := Std.ReflCmp.compare_self
  rw [compareKeys, firstEntity, firstProperty, secondEntity, secondProperty, same, less]
  rfl

/-- The entries of a registry are in order. -/
theorem IsKeyed.sorted (keyed : registry.IsKeyed) : IsSorted registry.entries := by
  refine List.pairwise_flatMap.mpr ⟨?_, ?_⟩
  · intro bound member
    exact keyed.sorted_values (Std.ExtTreeMap.mem_toList_iff_getElem?_eq_some.mp member)
  · have ordered := Std.ExtTreeMap.ordered_keys_toList (t := registry.entities)
    refine ordered.imp_of_mem fun {first second} inFirst inSecond less => ?_
    intro entry inEntries other inOthers
    obtain ⟨bound, present, rfl⟩ := List.mem_map.mp inEntries
    obtain ⟨next, listed, rfl⟩ := List.mem_map.mp inOthers
    have firstFound := Std.ExtTreeMap.mem_toList_iff_getElem?_eq_some.mp inFirst
    have secondFound := Std.ExtTreeMap.mem_toList_iff_getElem?_eq_some.mp inSecond
    have firstRead := Std.ExtTreeMap.mem_toList_iff_getElem?_eq_some.mp present
    have secondRead := Std.ExtTreeMap.mem_toList_iff_getElem?_eq_some.mp listed
    have firstOwn := keyed.own first.1 bound.1 bound.2 (by simp [get?, firstFound, firstRead])
    have secondOwn := keyed.own second.1 next.1 next.2 (by simp [get?, secondFound, secondRead])
    rw [compareKeys, (Prod.mk.inj firstOwn).1, (Prod.mk.inj secondOwn).1, less]
    rfl

theorem nodup_keys (sorted : IsSorted entries) : (entries.map ConverterEntry.key).Nodup := by
  refine List.pairwise_map.mpr (sorted.imp fun {first second} less same => ?_)
  obtain ⟨sameEntity, sameProperty⟩ := Prod.mk.inj same
  have equal : compareKeys first second = .eq := by
    simp [compareKeys, sameEntity, sameProperty]
  cases less.symm.trans equal

/-- Registries that find the same entries are the same. -/
theorem IsKeyed.ext (keyed : registry.IsKeyed) (made : other.IsKeyed)
    (same : ∀ entity property, registry.get? entity property = other.get? entity property) :
    registry = other := by
  obtain ⟨entities⟩ := registry
  obtain ⟨others⟩ := other
  congr 1
  apply Std.ExtTreeMap.ext_getElem?
  intro entity
  have shown (property : String) : (entities[entity]?.bind fun found => found[property]?) =
      others[entity]?.bind fun found => found[property]? := same entity property
  cases left : entities[entity]? with
  | none =>
    cases right : others[entity]? with
    | none => rfl
    | some found =>
      obtain ⟨property, member⟩ := made.inhabited entity found right
      simpa [left, right, member] using shown property
  | some found =>
    cases right : others[entity]? with
    | none =>
      obtain ⟨property, member⟩ := keyed.inhabited entity found left
      simpa [left, right, member] using shown property
    | some bound =>
      congr 1
      apply Std.ExtTreeMap.ext_getElem?
      intro property
      simpa [left, right] using shown property

/-- Binds entries one after another. -/
def bindAll (registry : ConverterRegistry) (entries : List ConverterEntry) : ConverterRegistry :=
  entries.foldl (fun registry entry =>
    registry.register entry.entity entry.property entry.converter) registry

theorem bindAll_append (registry : ConverterRegistry) (entries others : List ConverterEntry) :
    registry.bindAll (entries ++ others) = (registry.bindAll entries).bindAll others :=
  List.foldl_append

theorem IsKeyed.bindAll (keyed : registry.IsKeyed) (entries : List ConverterEntry) :
    (registry.bindAll entries).IsKeyed := by
  induction entries generalizing registry with
  | nil => exact keyed
  | cons entry rest ih => exact ih (keyed.register _ _ _)

/-- A property has the entry that was last bound to it. -/
theorem get?_bindAll (registry : ConverterRegistry) (entries : List ConverterEntry)
    (key : String × String) : (registry.bindAll entries).get? key.1 key.2 =
      (entries.findRev? fun entry => entry.key = key).or (registry.get? key.1 key.2) := by
  induction entries generalizing registry with
  | nil => rfl
  | cons entry rest ih =>
    have step : registry.bindAll (entry :: rest) =
        (registry.register entry.entity entry.property entry.converter).bindAll rest := rfl
    rw [step, ih, get?_register, List.findRev?]
    cases rest.findRev? fun entry => entry.key = key with
    | some found => rfl
    | none =>
      by_cases same : entry.key = key
      · have bound : (entry.entity, entry.property) = key := same
        simp [same, bound]
      · have other : (entry.entity, entry.property) ≠ key := same
        simp [same, other]

/-- Among entries of different properties, an entry is the last of its own. -/
theorem findRev?_of_distinct (distinct : (entries.map ConverterEntry.key).Nodup) :
    (entries.findRev? fun other => other.key = entry.key) = some entry ↔ entry ∈ entries := by
  rw [List.findRev?_eq_find?_reverse, ← List.mem_reverse]
  constructor
  · exact List.mem_of_find?_eq_some
  · intro member
    cases found : entries.reverse.find? fun other => other.key = entry.key with
    | none => simpa using List.find?_eq_none.mp found entry member
    | some other =>
      have same : other.key = entry.key := by simpa using List.find?_some found
      have inOthers := List.mem_reverse.mp (List.mem_of_find?_eq_some found)
      rw [List.inj_on_of_nodup_map distinct inOthers (List.mem_reverse.mp member) same]

/-- Entries of different properties are all in the registry that they are bound to. -/
theorem bindAll_perm (distinct : (entries.map ConverterEntry.key).Nodup) :
    (empty.bindAll entries).entries.Perm entries := by
  have keyed := isKeyed_empty.bindAll entries
  refine (List.perm_ext_iff_of_nodup (nodup_keys keyed.sorted).of_map distinct.of_map).mpr ?_
  intro entry
  have bound : (empty.bindAll entries).get? entry.entity entry.property = _ :=
    get?_bindAll empty entries entry.key
  rw [keyed.mem_entries, bound, get?_empty, Option.or_none, findRev?_of_distinct distinct]

theorem IsKeyed.eq_of_perm (keyed : registry.IsKeyed) (made : other.IsKeyed)
    (perm : registry.entries.Perm other.entries) : registry = other := by
  refine keyed.ext made fun entity property => Option.ext fun entry => ?_
  have found {registry : ConverterRegistry} (keyed : registry.IsKeyed) :
      registry.get? entity property = some entry ↔
        entry ∈ registry.entries ∧ entry.key = (entity, property) := by
    constructor
    · intro found
      exact ⟨ConverterRegistry.mem_entries.mpr ⟨_, _, found⟩, keyed.own _ _ _ found⟩
    · rintro ⟨member, own⟩
      obtain ⟨rfl, rfl⟩ := Prod.mk.inj own
      exact keyed.mem_entries.mp member
  rw [found keyed, found made, perm.mem_iff]

/-- Entries of different properties are bound to the same registry in any order. -/
theorem bindAll_of_perm (distinct : (entries.map ConverterEntry.key).Nodup)
    (perm : entries.Perm others) : empty.bindAll entries = empty.bindAll others := by
  have other := (perm.map ConverterEntry.key).nodup_iff.mp distinct
  exact (isKeyed_empty.bindAll _).eq_of_perm (isKeyed_empty.bindAll _)
    ((bindAll_perm distinct).trans (perm.trans (bindAll_perm other).symm))

/-- The registration of an entity binds its entries one after another. -/
theorem configure_eq_bindAll (registry : ConverterRegistry) (entity : Entity) :
    registry.configure entity = registry.bindAll entity.entries := by
  rw [bindAll, Entity.entries, List.foldl_map]
  rfl

/-- The registrations of entities bind their entries one after another. -/
theorem foldl_configure (registry : ConverterRegistry) (entities : List Entity) :
    entities.foldl configure registry = registry.bindAll (entities.flatMap Entity.entries) := by
  induction entities generalizing registry with
  | nil => rfl
  | cons entity rest ih =>
    rw [List.foldl_cons, ih, configure_eq_bindAll, List.flatMap_cons, bindAll_append]

end ConverterRegistry

end ValueObjects
