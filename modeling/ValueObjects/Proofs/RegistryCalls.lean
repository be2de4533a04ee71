import Mathlib.Data.List.Dedup
import ValueObjects.Proofs.Bindings

namespace ValueObjects

/-- A call that changes a registry: it binds one converter, the converters of an entity, or runs a
registration that makes calls of its own. -/
inductive RegistryCall where
  | register (entity property : String) (converter : Converter)
  | configure (entity : Entity)
  | run (calls : List RegistryCall)

namespace RegistryCall

mutual

/-- The entries that a call binds, in order. -/
def bindings : RegistryCall → List ConverterEntry
  | .register entity property converter => [⟨entity, property, converter⟩]
  | .configure entity => entity.entries
  | .run calls => history calls

/-- The entries that calls bind one after another. -/
def history : List RegistryCall → List ConverterEntry
  | [] => []
  | call :: rest => call.bindings ++ history rest

end

theorem history_append (calls others : List RegistryCall) :
    history (calls ++ others) = history calls ++ history others := by
  induction calls with
  | nil => rfl
  | cons call rest ih => rw [List.cons_append, history, history, ih, List.append_assoc]

end RegistryCall

open RegistryCall

namespace ConverterRegistry

mutual

/-- Makes a call. -/
def perform (registry : ConverterRegistry) : RegistryCall → ConverterRegistry
  | .register entity property converter => registry.register entity property converter
  | .configure entity => registry.configure entity
  | .run calls => registry.performAll calls

/-- Makes calls one after another. -/
def performAll (registry : ConverterRegistry) : List RegistryCall → ConverterRegistry
  | [] => registry
  | call :: rest => (registry.perform call).performAll rest

end

mutual

/-- A call binds its entries one after another. -/
theorem perform_eq_bindAll (registry : ConverterRegistry) (call : RegistryCall) :
    registry.perform call = registry.bindAll call.bindings := by
  cases call with
  | register entity property converter => rfl
  | configure entity => exact configure_eq_bindAll registry entity
  | run calls => exact performAll_eq_bindAll registry calls

theorem performAll_eq_bindAll (registry : ConverterRegistry) (calls : List RegistryCall) :
    registry.performAll calls = registry.bindAll (history calls) := by
  cases calls with
  | nil => rfl
  | cons call rest =>
    rw [performAll, performAll_eq_bindAll, perform_eq_bindAll, history, bindAll_append]

end

variable {registry : ConverterRegistry} {entry : ConverterEntry}
  {entries others : List ConverterEntry} {entity : String}

instance : Std.TransCmp compareKeys := by
  have lexical : compareKeys = compareLex (compareOn ConverterEntry.entity)
      (compareOn ConverterEntry.property) := by
    funext first second
    rfl
  rw [lexical]
  infer_instance

/-- Lists in order that have the same entries are the same. -/
theorem eq_of_sorted (sorted : IsSorted entries) (ordered : IsSorted others)
    (same : ∀ entry, entry ∈ entries ↔ entry ∈ others) : entries = others := by
  have perm : entries.Perm others :=
    (List.perm_ext_iff_of_nodup (nodup_keys sorted).of_map (nodup_keys ordered).of_map).mpr same
  apply List.Perm.eq_of_pairwise _ sorted ordered perm
  intro first second _ _ before after
  cases (Std.OrientedCmp.gt_of_lt before).symm.trans after

theorem size_eq_length (registry : ConverterRegistry) :
    registry.size = registry.entries.length := by
  rw [size, entries, List.length_flatMap, Std.ExtTreeMap.foldl_eq_foldl_toList, List.sum_eq_foldl,
    List.foldl_map]
  simp

theorem mem_ofEntity : entry ∈ registry.ofEntity entity ↔
    ∃ property, registry.get? entity property = some entry := by
  cases found : registry.entities[entity]? with
  | none => simp [ofEntity, get?, found]
  | some bound =>
    simp [ofEntity, get?, found, Std.ExtTreeMap.mem_toList_iff_getElem?_eq_some]

/-- The entries of an entity are those of all that belong to it. -/
theorem IsKeyed.ofEntity_eq_filter (keyed : registry.IsKeyed) (entity : String) :
    registry.ofEntity entity = registry.entries.filter fun entry => entry.entity = entity := by
  apply eq_of_sorted
  · cases found : registry.entities[entity]? with
    | none => simp [ofEntity, found, IsSorted]
    | some bound => simpa [ofEntity, found] using keyed.sorted_values found
  · exact keyed.sorted.filter _
  · intro entry
    rw [mem_ofEntity, List.mem_filter, keyed.mem_entries, decide_eq_true_eq]
    constructor
    · rintro ⟨property, found⟩
      obtain ⟨rfl, rfl⟩ := Prod.mk.inj (keyed.own _ _ _ found)
      exact ⟨found, rfl⟩
    · rintro ⟨found, rfl⟩
      exact ⟨_, found⟩

/-- A registry has no entity exactly if it has no entry. -/
theorem IsKeyed.isEmpty_iff (keyed : registry.IsKeyed) :
    registry.isEmpty = true ↔ registry.size = 0 := by
  rw [size_eq_length, List.length_eq_zero_iff, List.eq_nil_iff_forall_not_mem, isEmpty,
    Std.ExtTreeMap.isEmpty_iff]
  constructor
  · intro none entry member
    obtain ⟨entity, property, found⟩ := ConverterRegistry.mem_entries.mp member
    simp [get?, none] at found
  · intro none
    apply Std.ExtTreeMap.ext_getElem?
    intro entity
    cases found : registry.entities[entity]? with
    | none => simp
    | some bound =>
      obtain ⟨property, member⟩ := keyed.inhabited entity bound found
      have read : registry.get? entity property = some bound[property] := by
        simp [get?, found, member]
      exact (none _ (ConverterRegistry.mem_entries.mpr ⟨entity, property, read⟩)).elim

/-- Whether a registry tells exactly what was bound last, out of the entries that were bound one
after another. -/
structure Reflects (bound : List ConverterEntry) (registry : ConverterRegistry) : Prop where
  last : ∀ entity property, registry.get? entity property =
    bound.findRev? fun entry => entry.key = (entity, property)
  own : ∀ entity property entry, registry.get? entity property = some entry →
    entry.entity = entity ∧ entry.property = property
  size : registry.size = (bound.map ConverterEntry.key).dedup.length
  listed : ∀ entry, entry ∈ registry.entries ↔
    registry.get? entry.entity entry.property = some entry
  ordered : IsSorted registry.entries
  once : (registry.entries.map ConverterEntry.key).Perm (bound.map ConverterEntry.key).dedup
  ofEntity : ∀ entity, registry.ofEntity entity =
    registry.entries.filter fun entry => entry.entity = entity
  isEmpty : registry.isEmpty = true ↔ registry.size = 0

/-- The properties that are bound are those of the entries that were bound to the registry. -/
theorem mem_keys_bindAll (key : String × String) :
    key ∈ (empty.bindAll entries).entries.map ConverterEntry.key ↔
      key ∈ entries.map ConverterEntry.key := by
  have keyed := isKeyed_empty.bindAll entries
  have found := get?_bindAll empty entries key
  rw [get?_empty, Option.or_none, List.findRev?_eq_find?_reverse] at found
  constructor
  · intro member
    obtain ⟨entry, present, rfl⟩ := List.mem_map.mp member
    rw [show (empty.bindAll entries).get? entry.key.1 entry.key.2 = some entry from
      keyed.mem_entries.mp present] at found
    exact List.mem_map_of_mem (List.mem_reverse.mp (List.mem_of_find?_eq_some found.symm))
  · intro member
    obtain ⟨entry, present, rfl⟩ := List.mem_map.mp member
    cases last : entries.reverse.find? fun other => other.key = entry.key with
    | none => simpa using List.find?_eq_none.mp last entry (List.mem_reverse.mpr present)
    | some other =>
      have same : other.key = entry.key := by simpa using List.find?_some last
      rw [last] at found
      exact List.mem_map.mpr ⟨other, mem_entries.mpr ⟨_, _, found⟩, same⟩

theorem reflects_bindAll (entries : List ConverterEntry) :
    Reflects entries (empty.bindAll entries) := by
  have keyed := isKeyed_empty.bindAll entries
  have once : ((empty.bindAll entries).entries.map ConverterEntry.key).Perm
      (entries.map ConverterEntry.key).dedup := by
    refine (List.perm_ext_iff_of_nodup (nodup_keys keyed.sorted) (List.nodup_dedup _)).mpr ?_
    intro key
    rw [mem_keys_bindAll, List.mem_dedup]
  exact {
    last := fun entity property => by
      rw [get?_bindAll empty entries (entity, property), get?_empty, Option.or_none]
    own := fun entity property entry found => Prod.mk.inj (keyed.own entity property entry found)
    size := by rw [size_eq_length, ← once.length_eq, List.length_map]
    listed := fun _ => keyed.mem_entries
    ordered := keyed.sorted
    once := once
    ofEntity := keyed.ofEntity_eq_filter
    isEmpty := keyed.isEmpty_iff }

/-- Entries of disjoint properties are bound to the same registry in either order. -/
theorem IsKeyed.bindAll_comm (keyed : registry.IsKeyed)
    (disjoint : (entries.map ConverterEntry.key).Disjoint (others.map ConverterEntry.key)) :
    (registry.bindAll entries).bindAll others = (registry.bindAll others).bindAll entries := by
  refine ((keyed.bindAll _).bindAll _).ext ((keyed.bindAll _).bindAll _) fun entity property => ?_
  have found (registry : ConverterRegistry) (bound : List ConverterEntry) :=
    get?_bindAll registry bound (entity, property)
  simp only [found, ← Option.or_assoc]
  congr 1
  cases first : entries.findRev? fun entry => entry.key = (entity, property) with
  | none => rw [Option.none_or, Option.or_none]
  | some entry =>
    cases second : others.findRev? fun entry => entry.key = (entity, property) with
    | none => rw [Option.none_or, Option.or_none]
    | some other =>
      have has {bound : List ConverterEntry} {one : ConverterEntry}
          (read : (bound.findRev? fun entry => entry.key = (entity, property)) = some one) :
          (entity, property) ∈ bound.map ConverterEntry.key := by
        rw [List.findRev?_eq_find?_reverse] at read
        have same : one.key = (entity, property) := by simpa using List.find?_some read
        exact same ▸ List.mem_map_of_mem (List.mem_reverse.mp (List.mem_of_find?_eq_some read))
      exact (disjoint (has first) (has second)).elim

/-- After any calls a registry tells exactly what they bound last, and two calls for disjoint
properties, one after the other, may change places. -/
theorem performAll_reflects (calls : List RegistryCall) :
    Reflects (history calls) (empty.performAll calls) ∧
      ∀ before first second after, calls = before ++ first :: second :: after →
        (first.bindings.map ConverterEntry.key).Disjoint
          (second.bindings.map ConverterEntry.key) →
        empty.performAll (before ++ second :: first :: after) = empty.performAll calls := by
  refine ⟨?_, ?_⟩
  · rw [performAll_eq_bindAll]
    exact reflects_bindAll _
  · rintro before first second after rfl disjoint
    simp only [performAll_eq_bindAll, history_append, history, bindAll_append]
    rw [(isKeyed_empty.bindAll _).bindAll_comm disjoint]

/-- A run that binds a property again, and a binding of another property. -/
theorem performAll_reflects_rebound :
    let age : Wrapper := ⟨"shop", "people", "Age", .scalar (.number .u8)⟩
    let again : RegistryCall :=
      .run [.register "Person" "age" ⟨age, false⟩, .register "Person" "age" ⟨age, true⟩]
    let other : RegistryCall := .configure ⟨"Order", [("age", ⟨age, false⟩)]⟩
    let registry := empty.performAll [again, other]
    Reflects (history [again, other]) registry ∧ empty.performAll [other, again] = registry ∧
      registry.get? "Person" "age" = some ⟨"Person", "age", ⟨age, true⟩⟩ := by
  intro age again other registry
  obtain ⟨reflects, swap⟩ := performAll_reflects [again, other]
  have apart : (again.bindings.map ConverterEntry.key).Disjoint
      (other.bindings.map ConverterEntry.key) := by
    simp [again, other, bindings, history, Entity.entries, ConverterEntry.key]
  exact ⟨reflects, swap [] again other [] rfl apart, reflects.last "Person" "age"⟩

end ConverterRegistry

end ValueObjects
