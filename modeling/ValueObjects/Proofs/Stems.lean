import Mathlib.Data.List.Nodup
import Mathlib.Data.List.Pairwise
import ValueObjects.Generation.Stems
/-!
The stems of converters. Choosing them comes to an end, and no two of the names that they give to
converters are the same, nor is one of them a name that a group gives.
-/
namespace ValueObjects.Generation

open Emit

/-- Counting on from a number until the stem is free, with no bound on the steps. -/
inductive Counting (taken : List String) (stem : String) : Nat → String → Prop where
  | free (vacant : clashes taken (stem ++ toString n) = false) :
      Counting taken stem n (stem ++ toString n)
  | next (clash : clashes taken (stem ++ toString n) = true)
      (later : Counting taken stem (n + 1) found) : Counting taken stem n found

/-- The choice of one stem by a search with no bound on its steps. -/
inductive Choice (descriptors : List Descriptor) (taken : List String) (descriptor : Descriptor) :
    String → Prop where
  | preferred (vacant : clashes taken (preferredStem descriptors descriptor) = false) :
      Choice descriptors taken descriptor (preferredStem descriptors descriptor)
  | qualified (clash : clashes taken (preferredStem descriptors descriptor) = true)
      (vacant : clashes taken (qualifiedStem descriptor) = false) :
      Choice descriptors taken descriptor (qualifiedStem descriptor)
  | numbered (clash : clashes taken (preferredStem descriptors descriptor) = true)
      (qualifiedClash : clashes taken (qualifiedStem descriptor) = true)
      (counting : Counting taken (qualifiedStem descriptor) 2 found) :
      Choice descriptors taken descriptor found

/-- A whole run of choices. Every choice adds its two names to the taken ones. -/
inductive Assignment (descriptors : List Descriptor) :
    List String → List Descriptor → List ((Option String × String) × String) → Prop where
  | done : Assignment descriptors taken [] []
  | next (choice : Choice descriptors taken descriptor stem)
      (later : Assignment descriptors (converterNames stem ++ taken) rest assigned) :
      Assignment descriptors taken (descriptor :: rest) ((descriptor.key, stem) :: assigned)

theorem clashes_eq_false_iff :
    clashes taken stem = false ↔ ∀ name ∈ converterNames stem, name ∉ taken := by
  simp [clashes]

theorem Counting.vacant (counting : Counting taken stem n found) : clashes taken found = false := by
  induction counting with
  | free vacant => exact vacant
  | next _ _ ih => exact ih

theorem Counting.unique (first : Counting taken stem n found)
    (second : Counting taken stem n other) : found = other := by
  induction first generalizing other with
  | free vacant =>
    cases second with
    | free _ => rfl
    | next clash _ => cases vacant.symm.trans clash
  | next clash _ ih =>
    cases second with
    | free vacant => cases vacant.symm.trans clash
    | next _ later => exact ih later

theorem Choice.vacant (choice : Choice descriptors taken descriptor stem) :
    clashes taken stem = false := by
  cases choice with
  | preferred vacant => exact vacant
  | qualified _ vacant => exact vacant
  | numbered _ _ counting => exact counting.vacant

theorem Choice.unique (first : Choice descriptors taken descriptor stem)
    (second : Choice descriptors taken descriptor other) : stem = other := by
  cases first with
  | preferred vacant =>
    cases second with
    | preferred _ => rfl
    | qualified clash _ => cases vacant.symm.trans clash
    | numbered clash _ _ => cases vacant.symm.trans clash
  | qualified clash vacant =>
    cases second with
    | preferred free => cases free.symm.trans clash
    | qualified _ _ => rfl
    | numbered _ clash _ => cases vacant.symm.trans clash
  | numbered clash qualifiedClash counting =>
    cases second with
    | preferred free => cases free.symm.trans clash
    | qualified _ vacant => cases vacant.symm.trans qualifiedClash
    | numbered _ _ recount => exact counting.unique recount

/-- The run of choices has one outcome. -/
theorem Assignment.unique (first : Assignment descriptors taken rest assigned)
    (second : Assignment descriptors taken rest other) : assigned = other := by
  induction first generalizing other with
  | done =>
    cases second with
    | done => rfl
  | next choice _ ih =>
    cases second with
    | next choice' later =>
      have same := choice.unique choice'
      subst same
      rw [ih later]

private theorem converterSuffix_head (nullable : Bool) :
    ∃ c rest, (converterSuffix nullable).toList = c :: rest ∧ c.isDigit = false := by
  cases nullable
  · exact ⟨'C', "onverter".toList, rfl, rfl⟩
  · exact ⟨'N', "ullableConverter".toList, rfl, rfl⟩

/-- The number of a numbered stem can be read off each name that the stem gives. -/
private theorem number_of_name {stem : String} {m n : Nat} {first second : Bool}
    (same : stem ++ toString m ++ converterSuffix first =
      stem ++ toString n ++ converterSuffix second) : m = n := by
  have digits (n : Nat) (nullable : Bool) :
      (Nat.toDigits 10 n ++ (converterSuffix nullable).toList).takeWhile Char.isDigit =
        Nat.toDigits 10 n := by
    obtain ⟨c, rest, suffix, other⟩ := converterSuffix_head nullable
    rw [List.takeWhile_append_of_pos fun c member =>
      Nat.isDigit_of_mem_toDigits (by decide) (by decide) member]
    simp [suffix, other]
  have tails : Nat.toDigits 10 m ++ (converterSuffix first).toList =
      Nat.toDigits 10 n ++ (converterSuffix second).toList := by
    have lists := congrArg String.toList same
    simpa [String.append_assoc, Nat.toString_eq_repr, Nat.toList_repr] using lists
  have numbers : Nat.toDigits 10 m = Nat.toDigits 10 n := by
    rw [← digits m first, tails, digits n second]
  have values := congrArg (fun digits => Nat.ofDigitChars 10 digits 0) numbers
  simpa using values

/-- A clash is with one of the two names. -/
private theorem clash_name (clash : clashes taken stem = true) :
    ∃ nullable, stem ++ converterSuffix nullable ∈ taken := by
  simp only [clashes, converterNames, List.any_cons, List.any_nil, Bool.or_false, Bool.or_eq_true,
    List.contains_iff_mem] at clash
  rcases clash with plain | nullable
  · exact ⟨false, plain⟩
  · exact ⟨true, nullable⟩

/-- Each taken name rules out one number at most, so that one of the first numbers is free. -/
theorem exists_vacant (taken : List String) (stem : String) (n : Nat) :
    ∃ k ≤ taken.length, clashes taken (stem ++ toString (n + k)) = false := by
  by_contra none
  have clash (k : Nat) (bound : k < taken.length + 1) :
      ∃ nullable, stem ++ toString (n + k) ++ converterSuffix nullable ∈ taken := by
    apply clash_name
    by_contra vacant
    exact none ⟨k, Nat.le_of_lt_succ bound, by simpa using vacant⟩
  choose suffix present using clash
  let names := (List.range (taken.length + 1)).attach.map fun k =>
    stem ++ toString (n + k.1) ++ converterSuffix (suffix k.1 (List.mem_range.mp k.2))
  have nodup : names.Nodup := by
    apply List.Nodup.map_on
    · intro i _ j _ same
      have equal := number_of_name same
      exact Subtype.ext (by omega)
    · exact List.nodup_attach.mpr List.nodup_range
  have bound : names.length ≤ taken.length := by
    apply nodup.length_le_of_subset
    intro name member
    obtain ⟨k, _, rfl⟩ := List.mem_map.mp member
    exact present _ _
  simp only [names, List.length_map, List.length_attach, List.length_range] at bound
  omega

private theorem numbered_counting (fuel : Nat)
    (vacant : ∃ k ≤ fuel, clashes taken (stem ++ toString (n + k)) = false) :
    Counting taken stem n (numbered taken stem fuel n) := by
  induction fuel generalizing n with
  | zero =>
    obtain ⟨k, bound, free⟩ := vacant
    have zero : k = 0 := Nat.le_zero.mp bound
    subst zero
    exact .free free
  | succ fuel ih =>
    by_cases clash : clashes taken (stem ++ toString n) = true
    · simp only [numbered, clash, ↓reduceIte]
      apply Counting.next clash
      apply ih
      obtain ⟨k, bound, free⟩ := vacant
      cases k with
      | zero => cases free.symm.trans clash
      | succ k => exact ⟨k, Nat.le_of_succ_le_succ bound, by rwa [Nat.add_right_comm, Nat.add_assoc]⟩
    · simp only [numbered, clash, Bool.false_eq_true, ↓reduceIte]
      exact .free (by simpa using clash)

/-- The bounded search finds what the unbounded one finds. -/
theorem chooseStem_choice (descriptors : List Descriptor) (taken : List String)
    (descriptor : Descriptor) :
    Choice descriptors taken descriptor (chooseStem descriptors taken descriptor) := by
  unfold chooseStem
  by_cases clash : clashes taken (preferredStem descriptors descriptor) = true
  · by_cases qualifiedClash : clashes taken (qualifiedStem descriptor) = true
    · simp only [clash, qualifiedClash, ↓reduceIte]
      apply Choice.numbered clash qualifiedClash
      apply numbered_counting
      obtain ⟨k, bound, free⟩ := exists_vacant taken (qualifiedStem descriptor) 2
      exact ⟨k, by omega, free⟩
    · simp only [clash, qualifiedClash, Bool.false_eq_true, ↓reduceIte]
      exact .qualified clash (by simpa using qualifiedClash)
  · simp only [clash, Bool.false_eq_true, ↓reduceIte]
    exact .preferred (by simpa using clash)

theorem assignStems_assignment (descriptors : List Descriptor) (taken : List String)
    (rest : List Descriptor) :
    Assignment descriptors taken rest (assignStems descriptors taken rest) := by
  induction rest generalizing taken with
  | nil => exact .done
  | cons next rest ih => exact .next (chooseStem_choice descriptors taken next) (ih _)

theorem Assignment.keys (run : Assignment descriptors taken rest assigned) :
    assigned.map Prod.fst = rest.map Descriptor.key := by
  induction run with
  | done => rfl
  | next _ _ ih => simp [ih]

theorem converterNames_nodup (stem : String) : (converterNames stem).Nodup := by
  simp [converterNames, converterSuffix]

/-- What a run keeps: no name that it gives was taken before it. -/
theorem Assignment.not_taken (run : Assignment descriptors taken rest assigned)
    (member : (key, stem) ∈ assigned) (given : name ∈ converterNames stem) : name ∉ taken := by
  induction run with
  | done => simp at member
  | next choice _ ih =>
    rcases List.mem_cons.mp member with own | later
    · cases own
      exact clashes_eq_false_iff.mp choice.vacant name given
    · intro earlier
      exact ih later (List.mem_append_right _ earlier)

theorem Assignment.names_nodup (run : Assignment descriptors taken rest assigned) :
    (assigned.flatMap fun entry => converterNames entry.2).Nodup := by
  induction run with
  | done => simp
  | next choice later ih =>
    rw [List.flatMap_cons]
    apply List.nodup_append.mpr
    refine ⟨converterNames_nodup _, ih, ?_⟩
    intro name own other given same
    subst same
    obtain ⟨entry, member, names⟩ := List.mem_flatMap.mp given
    exact later.not_taken member names (List.mem_append_left _ own)

/-- Of entries with distinct keys each is found under its own. -/
theorem lookup_of_mem [BEq κ] [LawfulBEq κ] {entries : List (κ × α)}
    (distinct : (entries.map Prod.fst).Nodup) (member : (key, value) ∈ entries) :
    entries.lookup key = some value := by
  obtain ⟨before, after, rfl⟩ := List.append_of_mem member
  refine List.lookup_eq_some_iff.mpr ⟨before, after, rfl, ?_⟩
  intro entry earlier
  rw [List.map_append, List.nodup_append] at distinct
  have different := distinct.2.2 entry.1 (List.mem_map_of_mem earlier) key (by simp)
  simpa using Ne.symm different

theorem stemOf_eq_of_mem {assigned : List ((Option String × String) × String)}
    (distinct : (assigned.map Prod.fst).Nodup) (member : (key, stem) ∈ assigned) :
    stemOf assigned key = stem := by
  have reversed : (assigned.reverse.map Prod.fst).Nodup := by
    rw [List.map_reverse]
    exact List.nodup_reverse.mpr distinct
  simp [stemOf, lookup_of_mem reversed (List.mem_reverse.mpr member)]

variable {descriptors : List Descriptor} {descriptor other : Descriptor}

theorem stems_keys (descriptors : List Descriptor) (groups : List Group) :
    (stems descriptors groups).map Prod.fst = descriptors.map Descriptor.key :=
  (assignStems_assignment descriptors _ descriptors).keys

theorem stems_mem (distinct : (descriptors.map Descriptor.key).Nodup) (groups : List Group)
    (member : descriptor ∈ descriptors) :
    (descriptor.key, stemOf (stems descriptors groups) descriptor.key) ∈
      stems descriptors groups := by
  rw [← stems_keys descriptors groups] at distinct
  have keyed : descriptor.key ∈ (stems descriptors groups).map Prod.fst := by
    rw [stems_keys]
    exact List.mem_map_of_mem member
  obtain ⟨⟨key, stem⟩, present, rfl⟩ := List.mem_map.mp keyed
  rwa [stemOf_eq_of_mem distinct present]

theorem stem_names_nodup (distinct : (descriptors.map Descriptor.key).Nodup)
    (groups : List Group) :
    (descriptors.flatMap fun descriptor =>
      converterNames (stemOf (stems descriptors groups) descriptor.key)).Nodup := by
  have byEntry : (descriptors.flatMap fun descriptor =>
      converterNames (stemOf (stems descriptors groups) descriptor.key)) =
      (stems descriptors groups).flatMap fun entry => converterNames entry.2 := by
    calc
      _ = (descriptors.map Descriptor.key).flatMap fun key =>
          converterNames (stemOf (stems descriptors groups) key) := by
        rw [List.flatMap_map]
      _ = (stems descriptors groups).flatMap fun entry =>
          converterNames (stemOf (stems descriptors groups) entry.1) := by
        rw [← stems_keys descriptors groups, List.flatMap_map]
      _ = _ := by
        apply List.flatMap_congr
        intro entry member
        rw [← stems_keys descriptors groups] at distinct
        rw [stemOf_eq_of_mem distinct member]
  rw [byEntry]
  exact (assignStems_assignment descriptors _ descriptors).names_nodup

/-- A name of a converter tells its wrapper. -/
theorem wrapper_of_converterName (distinct : (descriptors.map Descriptor.key).Nodup)
    {groups : List Group} (member : descriptor ∈ descriptors) (otherMember : other ∈ descriptors)
    (given : name ∈ converterNames (stemOf (stems descriptors groups) descriptor.key))
    (shared : name ∈ converterNames (stemOf (stems descriptors groups) other.key)) :
    descriptor = other := by
  by_contra different
  have apart := (List.nodup_flatMap.mp (stem_names_nodup distinct groups)).2
  have : Std.Symm (Function.onFun List.Disjoint fun descriptor : Descriptor =>
      converterNames (stemOf (stems descriptors groups) descriptor.key)) :=
    ⟨fun _ _ disjoint => List.disjoint_symm disjoint⟩
  exact apart.forall member otherMember different given shared

/-- What is asked of the stems of a pass. -/
structure ClearStems (descriptors : List Descriptor) : Prop where
  /-- The choices come to an end, and in one way only. -/
  chosen : ∀ assigned,
    Assignment descriptors ((groups descriptors).flatMap groupNames) descriptors assigned ↔
      assigned = stems descriptors (groups descriptors)
  /-- No two converters have one name, whether of one wrapper or of two. -/
  distinct : (descriptors.flatMap fun descriptor =>
    converterNames (stemOf (stems descriptors (groups descriptors)) descriptor.key)).Nodup
  /-- No converter has the name of a group's holder or trait. -/
  apart : ∀ descriptor ∈ descriptors,
    ∀ name ∈ converterNames (stemOf (stems descriptors (groups descriptors)) descriptor.key),
      ∀ group ∈ groups descriptors, name ≠ "As" ++ group.name ∧ name ≠ group.name ++ "AsExt"

theorem converter_names_clear (distinct : (descriptors.map Descriptor.key).Nodup) :
    ClearStems descriptors where
  chosen assigned := by
    have run := assignStems_assignment descriptors ((groups descriptors).flatMap groupNames)
      descriptors
    constructor
    · intro other
      exact other.unique run
    · rintro rfl
      exact run
  distinct := stem_names_nodup distinct (groups descriptors)
  apart := by
    intro descriptor member name given group present
    have run := assignStems_assignment descriptors ((groups descriptors).flatMap groupNames)
      descriptors
    have free := run.not_taken (stems_mem distinct (groups descriptors) member) given
    have taken (label : String) (own : label ∈ groupNames group) : name ≠ label := by
      rintro rfl
      exact free (List.mem_flatMap.mpr ⟨group, present, own⟩)
    exact ⟨taken _ (by simp [groupNames]), taken _ (by simp [groupNames, Extension.traitName])⟩

/-- Wrappers whose names clash in every way: two of one name, one whose plain converter would be
another's nullable one, one under a group's name, and one that only a number tells apart. -/
def crowded : List Descriptor := [
  ⟨"Id", "u64", some "a", false, true⟩, ⟨"Id", "u64", some "b", false, true⟩,
  ⟨"Age", "i32", none, false, true⟩, ⟨"AgeNullable", "i32", none, false, true⟩,
  ⟨"CrateAgeNullable", "i32", none, false, true⟩, ⟨"AgeNullable", "i32", some "crate", false, true⟩,
  ⟨"AsLegacy", "crate::LegacyConverter", none, false, true⟩]

theorem converter_names_clear_crowded :
    (crowded.map Descriptor.key).Nodup ∧ ClearStems crowded :=
  ⟨by decide, converter_names_clear (by decide)⟩

example : (stems crowded (groups crowded)).map Prod.snd =
    ["AId", "BId", "Age", "CrateAgeNullable", "CrateCrateAgeNullable", "CrateAgeNullable2",
      "CrateAsLegacy"] := by
  decide +kernel

end ValueObjects.Generation
