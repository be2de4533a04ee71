import Mathlib.Data.List.Dedup
import ValueObjects.Generation.Pass

namespace ValueObjects.Generation

section

variable {κ ι : Type} (cmp : κ → κ → Ordering) (key : ι → κ)

/-- Puts an item to those of its key; the keys are kept in order. -/
def gather (item : ι) : List (κ × List ι) → List (κ × List ι)
  | [] => [(key item, [item])]
  | (own, items) :: rest =>
    match cmp (key item) own with
    | .lt => (key item, [item]) :: (own, items) :: rest
    | .eq => (own, items ++ [item]) :: rest
    | .gt => (own, items) :: gather item rest

/-- Whether the keys of the buckets ascend. -/
def Ascending (buckets : List (κ × List ι)) : Prop :=
  (buckets.map Prod.fst).Pairwise fun first second => cmp first second = .lt

/-- Buckets that hold exactly the items, each under its key. -/
structure Gathered [DecidableEq κ] (items : List ι) (buckets : List (κ × List ι)) : Prop where
  ascending : Ascending cmp buckets
  covered : ∀ own, own ∈ buckets.map Prod.fst ↔ own ∈ items.map key
  exact : ∀ bucket ∈ buckets, bucket.2 = items.filter fun item => key item = bucket.1

variable {cmp key} [Std.TransCmp cmp] [Std.LawfulEqCmp cmp]

omit [Std.TransCmp cmp] in
theorem mem_keys_gather {item : ι} {buckets : List (κ × List ι)} :
    own ∈ (gather cmp key item buckets).map Prod.fst ↔
      own = key item ∨ own ∈ buckets.map Prod.fst := by
  induction buckets with
  | nil => simp [gather]
  | cons bucket rest ih =>
    obtain ⟨first, items⟩ := bucket
    simp only [gather]
    split
    · simp
    · next same =>
      have equal := Std.LawfulEqCmp.eq_of_compare same
      simp [equal]
    · simp only [List.map_cons, List.mem_cons, ih]
      exact or_left_comm

theorem Ascending.gather {item : ι} {buckets : List (κ × List ι)}
    (ascending : Ascending cmp buckets) :
    Ascending cmp (gather cmp key item buckets) := by
  induction buckets with
  | nil => simp [Ascending, Generation.gather]
  | cons bucket rest ih =>
    obtain ⟨first, items⟩ := bucket
    have split := List.pairwise_cons.mp ascending
    simp only [Generation.gather]
    split
    · next before =>
      refine List.pairwise_cons.mpr ⟨?_, ascending⟩
      intro later member
      rcases List.mem_cons.mp member with rfl | further
      · exact before
      · exact Std.TransCmp.lt_trans before (split.1 later further)
    · exact ascending
    · next after =>
      refine List.pairwise_cons.mpr ⟨?_, ih split.2⟩
      intro later member
      rcases mem_keys_gather.mp member with rfl | further
      · exact Std.OrientedCmp.lt_of_gt after
      · exact split.1 later further

omit [Std.TransCmp cmp] in
/-- A key before all others is none of them. -/
private theorem not_mem_of_before {buckets : List (κ × List ι)}
    (before : ∀ own ∈ buckets.map Prod.fst, cmp first own = .lt) :
    first ∉ buckets.map Prod.fst := by
  intro member
  have less := before first member
  cases less.symm.trans Std.ReflCmp.compare_self

/-- A bucket after a step is an old one of another key, or the one of the item's key with the item
at its end. -/
theorem mem_gather {item : ι} {buckets : List (κ × List ι)} (ascending : Ascending cmp buckets)
    (member : bucket ∈ gather cmp key item buckets) :
    (bucket.1 ≠ key item ∧ bucket ∈ buckets) ∨
      (bucket.1 = key item ∧
        ((∃ items, (key item, items) ∈ buckets ∧ bucket.2 = items ++ [item]) ∨
          (key item ∉ buckets.map Prod.fst ∧ bucket.2 = [item]))) := by
  induction buckets with
  | nil =>
    have same := List.mem_singleton.mp member
    subst same
    exact .inr ⟨rfl, .inr ⟨by simp, rfl⟩⟩
  | cons head rest ih =>
    obtain ⟨first, items⟩ := head
    have sorted := List.pairwise_cons.mp ascending
    simp only [gather] at member
    split at member
    · next before =>
      have least : ∀ own ∈ ((first, items) :: rest).map Prod.fst, cmp (key item) own = .lt := by
        intro own present
        rcases List.mem_cons.mp present with rfl | later
        · exact before
        · exact Std.TransCmp.lt_trans before (sorted.1 own later)
      have fresh := not_mem_of_before least
      rcases List.mem_cons.mp member with rfl | old
      · exact .inr ⟨rfl, .inr ⟨fresh, rfl⟩⟩
      · left
        refine ⟨?_, old⟩
        rintro same
        exact fresh (same ▸ List.mem_map_of_mem old)
    · next same =>
      have equal : key item = first := Std.LawfulEqCmp.eq_of_compare same
      subst equal
      rcases List.mem_cons.mp member with rfl | old
      · exact .inr ⟨rfl, .inl ⟨items, by simp, rfl⟩⟩
      · left
        refine ⟨?_, List.mem_cons_of_mem _ old⟩
        intro again
        have present := List.mem_map_of_mem (f := Prod.fst) old
        exact not_mem_of_before sorted.1 (again ▸ present)
    · next after =>
      have different : first ≠ key item := by
        rintro rfl
        cases after.symm.trans Std.ReflCmp.compare_self
      rcases List.mem_cons.mp member with rfl | later
      · exact .inl ⟨different, by simp⟩
      · rcases ih sorted.2 later with ⟨other, old⟩ | ⟨own, ⟨earlier, old, grown⟩ | ⟨fresh, new⟩⟩
        · exact .inl ⟨other, List.mem_cons_of_mem _ old⟩
        · exact .inr ⟨own, .inl ⟨earlier, List.mem_cons_of_mem _ old, grown⟩⟩
        · refine .inr ⟨own, .inr ⟨?_, new⟩⟩
          simpa [Ne.symm different] using fresh

omit [Std.TransCmp cmp] [Std.LawfulEqCmp cmp] in
/-- An item is put to the others, whatever its key. -/
theorem gather_perm (item : ι) (buckets : List (κ × List ι)) :
    ((gather cmp key item buckets).flatMap Prod.snd).Perm (item :: buckets.flatMap Prod.snd) := by
  induction buckets with
  | nil => exact .refl _
  | cons bucket rest ih =>
    obtain ⟨own, items⟩ := bucket
    rw [gather]
    split
    · exact .refl _
    · simp only [List.flatMap_cons, List.append_assoc, List.singleton_append]
      exact List.perm_middle
    · simp only [List.flatMap_cons]
      exact (ih.append_left items).trans List.perm_middle

omit [Std.TransCmp cmp] [Std.LawfulEqCmp cmp] in
theorem foldl_gather_perm (items : List ι) (buckets : List (κ × List ι)) :
    ((items.foldl (fun buckets item => gather cmp key item buckets) buckets).flatMap
      Prod.snd).Perm (items ++ buckets.flatMap Prod.snd) := by
  induction items generalizing buckets with
  | nil => exact .refl _
  | cons item rest ih =>
    exact (ih _).trans (((gather_perm item buckets).append_left rest).trans List.perm_middle)

variable [DecidableEq κ]

omit [Std.TransCmp cmp] [Std.LawfulEqCmp cmp] in
theorem Gathered.nil : Gathered cmp key [] [] where
  ascending := List.Pairwise.nil
  covered := by simp
  exact := by simp

/-- One more item keeps the buckets exact. -/
theorem Gathered.step {items : List ι} {buckets : List (κ × List ι)}
    (gathered : Gathered cmp key items buckets) (item : ι) :
    Gathered cmp key (items ++ [item]) (gather cmp key item buckets) where
  ascending := gathered.ascending.gather
  covered own := by
    rw [mem_keys_gather, gathered.covered own, List.map_append, List.mem_append,
      List.map_singleton, List.mem_singleton, or_comm]
  exact bucket member := by
    rcases mem_gather gathered.ascending member with
      ⟨other, old⟩ | ⟨own, ⟨earlier, old, grown⟩ | ⟨fresh, new⟩⟩
    · rw [gathered.exact bucket old]
      simp [Ne.symm other]
    · have before : earlier = items.filter fun item => key item = bucket.1 := by
        rw [own]
        exact gathered.exact _ old
      rw [grown, before]
      simp [own]
    · have none : items.filter (fun earlier => key earlier = key item) = [] := by
        apply List.filter_eq_nil_iff.mpr
        intro earlier present same
        apply fresh
        rw [gathered.covered, ← of_decide_eq_true same]
        exact List.mem_map_of_mem present
      rw [new, List.filter_append, own, none]
      simp

/-- Gathering item after item makes exact buckets. -/
theorem gathered_foldl (items : List ι) :
    Gathered cmp key items (items.foldl (fun buckets item => gather cmp key item buckets) []) := by
  have run (rest before : List ι) (buckets : List (κ × List ι))
      (gathered : Gathered cmp key before buckets) :
      Gathered cmp key (before ++ rest)
        (rest.foldl (fun buckets item => gather cmp key item buckets) buckets) := by
    induction rest generalizing before buckets with
    | nil => simpa using gathered
    | cons item rest ih =>
      have later := ih (before ++ [item]) _ (gathered.step item)
      simpa using later
  simpa using run items [] [] .nil

section

variable {items : List ι} {buckets : List (κ × List ι)}
  (gathered : Gathered cmp key items buckets)

include gathered

omit [Std.TransCmp cmp] in
theorem Gathered.nodup : (buckets.map Prod.fst).Nodup := by
  refine gathered.ascending.imp ?_
  rintro first second before rfl
  cases before.symm.trans Std.ReflCmp.compare_self

omit [Std.TransCmp cmp] in
/-- There are as many buckets as the items have keys. -/
theorem Gathered.length_eq : buckets.length = (items.map key).dedup.length := by
  have same : (buckets.map Prod.fst).Perm (items.map key).dedup := by
    refine (List.perm_ext_iff_of_nodup gathered.nodup (List.nodup_dedup _)).mpr fun own => ?_
    rw [List.mem_dedup, gathered.covered]
  simpa using same.length_eq

omit [Std.TransCmp cmp] [Std.LawfulEqCmp cmp] in
/-- A bucket is never empty, and all its items have its key. -/
theorem Gathered.head (member : bucket ∈ buckets) :
    ∃ first rest, bucket.2 = first :: rest ∧ key first = bucket.1 := by
  have keyed := (gathered.covered bucket.1).mp (List.mem_map_of_mem member)
  obtain ⟨item, present, own⟩ := List.mem_map.mp keyed
  have kept : item ∈ bucket.2 := by
    rw [gathered.exact bucket member]
    exact List.mem_filter.mpr ⟨present, by simpa using own⟩
  obtain ⟨first, rest, split⟩ := List.exists_cons_of_ne_nil (List.ne_nil_of_mem kept)
  have among : first ∈ items.filter fun item => key item = bucket.1 := by
    rw [← gathered.exact bucket member, split]
    exact List.mem_cons_self
  exact ⟨first, rest, split, by simpa using (List.mem_filter.mp among).2⟩

end

end

theorem insertMember_eq_gather (descriptor : Descriptor)
    (groups : List (String × List Descriptor)) :
    insertMember descriptor groups = gather compare Descriptor.payload descriptor groups := by
  induction groups with
  | nil => rfl
  | cons group rest ih =>
    cases order : compare descriptor.payload group.1 <;>
      simp only [insertMember, gather, order, ih]

/-- The descriptors under each payload are those of the payload, in their own order. -/
theorem byPayload_gathered (descriptors : List Descriptor) :
    Gathered compare Descriptor.payload descriptors (byPayload descriptors) := by
  simp only [byPayload, insertMember_eq_gather]
  exact gathered_foldl descriptors

/-- The entity of a property. -/
def entityOf (property : Property) : Option String × String :=
  (property.entityScope?, property.entityName)

theorem compareScopes_eq_compare (first second : Option String) :
    compareScopes first second = compare first second := by
  cases first <;> cases second <;> rfl

instance : Std.LawfulEqCmp compareEntities where
  compare_self := by simp [compareEntities, compareScopes_eq_compare]
  eq_of_compare same := by
    simp only [compareEntities, compareScopes_eq_compare, Ordering.then_eq_eq,
      Std.LawfulEqCmp.compare_eq_iff_eq] at same
    exact Prod.ext same.1 same.2

instance : Std.TransCmp compareEntities := by
  have lexical : compareEntities =
      compareLex (compareOn Prod.fst) (compareOn Prod.snd) := by
    funext first second
    simp [compareEntities, compareScopes_eq_compare, compareLex, compareOn]
  rw [lexical]
  infer_instance

theorem insertProperty_eq_gather (property : Property)
    (found : List ((Option String × String) × List Property)) :
    insertProperty property found = gather compareEntities entityOf property found := by
  induction found with
  | nil => rfl
  | cons entity rest ih =>
    have own : entityOf property = (property.entityScope?, property.entityName) := rfl
    cases order : compareEntities (entityOf property) entity.1 <;>
      simp only [insertProperty, gather, ← own, order, ih]

/-- The properties under each entity are those of the entity, in their own order. -/
theorem byEntity_gathered (properties : List Property) :
    Gathered compareEntities entityOf properties
      (properties.foldl (fun found property => insertProperty property found) []) := by
  simp only [insertProperty_eq_gather]
  exact gathered_foldl properties

/-- The properties of each entity are all of the entity's, in their own order. -/
theorem mem_byEntity {properties rows : List Property} (member : rows ∈ byEntity properties) :
    ∃ entity, rows = properties.filter (fun property => entityOf property = entity) ∧
      ∃ first ∈ properties, entityOf first = entity := by
  obtain ⟨bucket, present, rfl⟩ := List.mem_map.mp member
  have gathered := byEntity_gathered properties
  refine ⟨bucket.1, gathered.exact bucket present, ?_⟩
  have keyed := (gathered.covered bucket.1).mp (List.mem_map_of_mem present)
  simpa using keyed

theorem mem_of_byEntity {rows : List Property} (member : rows ∈ byEntity properties)
    (inRows : row ∈ rows) : row ∈ properties := by
  obtain ⟨entity, filtered, _⟩ := mem_byEntity member
  rw [filtered] at inRows
  exact (List.mem_filter.mp inRows).1

/-- The rows of an entity are all of one entity. -/
theorem entityOf_eq_of_byEntity {rows : List Property} (member : rows ∈ byEntity properties)
    (inRows : row ∈ rows) (otherInRows : other ∈ rows) : entityOf row = entityOf other := by
  obtain ⟨entity, filtered, _⟩ := mem_byEntity member
  have own {row : Property} (inRows : row ∈ rows) : entityOf row = entity := by
    rw [filtered] at inRows
    simpa using (List.mem_filter.mp inRows).2
  rw [own inRows, own otherInRows]

/-- The properties of all entities together are those that there are. -/
theorem byEntity_perm (properties : List Property) :
    (byEntity properties).flatten.Perm properties := by
  have gathered : (byEntity properties).flatten.Perm (properties ++ []) := by
    simp only [byEntity, insertProperty_eq_gather, ← List.flatMap_def]
    exact foldl_gather_perm properties []
  rwa [List.append_nil] at gathered

end ValueObjects.Generation
