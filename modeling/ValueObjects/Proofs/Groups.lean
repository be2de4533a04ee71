import Mathlib.Data.List.Nodup
import ValueObjects.Proofs.Buckets
import ValueObjects.Unit
/-!
The groups of a pass. Wrappers share a group exactly if their payloads have one text, and the groups
part the wrappers: none is lost, repeated or moved. The names of the groups are not always told
apart: the full name of a payload leaves out lengths, lifetimes and mutability, and it may be the
simple name of another payload.
-/
namespace ValueObjects.Generation

open Emit Naming

variable {descriptors : List Descriptor} {descriptor other : Descriptor} {group : Group}

theorem groups_payloads (descriptors : List Descriptor) :
    (groups descriptors).map Group.payload = (byPayload descriptors).map Prod.fst := by
  simp [groups]

theorem mem_payloads {payload : String} :
    payload ∈ (groups descriptors).map Group.payload ↔
      payload ∈ descriptors.map Descriptor.payload := by
  rw [groups_payloads]
  exact (byPayload_gathered descriptors).covered payload

theorem payloads_nodup (descriptors : List Descriptor) :
    ((groups descriptors).map Group.payload).Nodup := by
  rw [groups_payloads]
  exact (byPayload_gathered descriptors).nodup

/-- The members of a group are the wrappers of its payload, in their own order. -/
theorem group_members (present : group ∈ groups descriptors) :
    group.members = descriptors.filter fun member => member.payload = group.payload := by
  obtain ⟨bucket, found, rfl⟩ := List.mem_map.mp present
  exact (byPayload_gathered descriptors).exact bucket found

theorem mem_members_iff (present : group ∈ groups descriptors) :
    descriptor ∈ group.members ↔ descriptor ∈ descriptors ∧ descriptor.payload = group.payload := by
  simp [group_members present]

theorem exists_group (member : descriptor ∈ descriptors) :
    ∃ group ∈ groups descriptors, descriptor ∈ group.members := by
  have covered := mem_payloads.mpr (List.mem_map_of_mem (f := Descriptor.payload) member)
  obtain ⟨group, present, same⟩ := List.mem_map.mp covered
  exact ⟨group, present, (mem_members_iff present).mpr ⟨member, same.symm⟩⟩

/-- Two wrappers share a group exactly if their payloads have one text. -/
theorem share_group_iff (member : descriptor ∈ descriptors) (otherMember : other ∈ descriptors) :
    (∃ group ∈ groups descriptors, descriptor ∈ group.members ∧ other ∈ group.members) ↔
      descriptor.payload = other.payload := by
  constructor
  · rintro ⟨group, present, first, second⟩
    rw [((mem_members_iff present).mp first).2, ((mem_members_iff present).mp second).2]
  · intro same
    obtain ⟨group, present, first⟩ := exists_group member
    have payload := ((mem_members_iff present).mp first).2
    exact ⟨group, present, first,
      (mem_members_iff present).mpr ⟨otherMember, same.symm.trans payload⟩⟩

/-- Whether the groups part the descriptors: each group has those of one text, in the order in
which they came, and each descriptor lies in one group, as often as it came. -/
structure Parts (descriptors : List Descriptor) (groups : List Group) : Prop where
  ascending : (groups.map Group.payload).Pairwise (· < ·)
  filled : ∀ group ∈ groups, group.members ≠ []
  alike : ∀ group ∈ groups, ∀ member ∈ group.members, member.payload = group.payload
  placed : ∀ descriptor ∈ descriptors, ∃ group ∈ groups,
    group.members.count descriptor = descriptors.count descriptor ∧
      ∀ other ∈ groups, descriptor ∈ other.members → other = group
  ordered : ∀ group ∈ groups, group.members.Sublist descriptors

theorem payloads_ascending (descriptors : List Descriptor) :
    ((groups descriptors).map Group.payload).Pairwise (· < ·) := by
  rw [groups_payloads]
  exact (byPayload_gathered descriptors).ascending.imp compareOfLessAndEq_eq_lt.mp

theorem members_ne_nil (present : group ∈ groups descriptors) : group.members ≠ [] := by
  have covered := mem_payloads.mp (List.mem_map_of_mem (f := Group.payload) present)
  obtain ⟨member, found, own⟩ := List.mem_map.mp covered
  exact List.ne_nil_of_mem ((mem_members_iff present).mpr ⟨found, own⟩)

theorem group_eq_of_payload {second : Group} (present : group ∈ groups descriptors)
    (secondPresent : second ∈ groups descriptors) (same : second.payload = group.payload) :
    second = group :=
  List.inj_on_of_nodup_map (payloads_nodup descriptors) secondPresent present same

/-- A group has each wrapper of its payload as often as it came. -/
theorem count_members (present : group ∈ groups descriptors)
    (own : descriptor.payload = group.payload) :
    group.members.count descriptor = descriptors.count descriptor := by
  rw [group_members present]
  exact List.count_filter (by simpa using own)

/-- The groups of any descriptors, repeated or not, part them. -/
theorem groups_part (descriptors : List Descriptor) : Parts descriptors (groups descriptors) where
  ascending := payloads_ascending descriptors
  filled _ present := members_ne_nil present
  alike _ present _ found := ((mem_members_iff present).mp found).2
  placed descriptor member := by
    obtain ⟨group, present, found⟩ := exists_group member
    have own := ((mem_members_iff present).mp found).2
    refine ⟨group, present, count_members present own, ?_⟩
    intro second secondPresent secondFound
    have secondOwn := ((mem_members_iff secondPresent).mp secondFound).2
    exact group_eq_of_payload present secondPresent (secondOwn.symm.trans own)
  ordered group present := by
    rw [group_members present]
    exact List.filter_sublist

/-- Whether another payload has the simple name of this one. -/
def Shared (payloads : List String) (payload : String) : Prop :=
  ∃ other ∈ payloads, other ≠ payload ∧ simpleName other = simpleName payload

/-- Whether two payloads give their groups one name: the full name of one that shares its simple
name is the full name of another such payload or the simple name of one that is alone in its. -/
def Clash (payloads : List String) (first second : String) : Prop :=
  first ≠ second ∧ Shared payloads first ∧
    (Shared payloads second ∧ fullName first = fullName second ∨
      ¬Shared payloads second ∧ fullName first = simpleName second)

/-- A test that one of distinct items passes is passed by several exactly if another one does. -/
theorem one_lt_countP_iff [DecidableEq α] {items : List α} {test : α → Bool}
    (distinct : items.Nodup) (member : item ∈ items) (passes : test item = true) :
    1 < items.countP test ↔ ∃ other ∈ items, other ≠ item ∧ test other = true := by
  have others : items.countP test = (items.erase item).countP test + 1 := by
    rw [(List.perm_cons_erase member).countP_eq, List.countP_cons_of_pos passes]
  rw [others, Nat.lt_add_left_iff_pos, List.countP_pos_iff]
  simp only [distinct.mem_erase_iff]
  constructor
  · rintro ⟨other, ⟨different, present⟩, same⟩
    exact ⟨other, present, different, same⟩
  · rintro ⟨other, present, different, same⟩
    exact ⟨other, ⟨different, present⟩, same⟩

theorem shared_iff_countP {payloads : List String} (distinct : payloads.Nodup)
    (member : payload ∈ payloads) :
    1 < payloads.countP (simpleName · == simpleName payload) ↔ Shared payloads payload := by
  rw [one_lt_countP_iff distinct member (by simp)]
  simp only [beq_iff_eq, Shared]

theorem groupName_of_shared {payloads : List String} (distinct : payloads.Nodup)
    (member : payload ∈ payloads) (shared : Shared payloads payload) :
    groupName payloads payload = fullName payload := by
  have several := (shared_iff_countP distinct member).mpr shared
  simp [groupName, several]

theorem groupName_of_alone {payloads : List String} (distinct : payloads.Nodup)
    (member : payload ∈ payloads) (alone : ¬Shared payloads payload) :
    groupName payloads payload = simpleName payload := by
  have single := mt (shared_iff_countP distinct member).mp alone
  simp [groupName, single]

/-- Payloads that are both alone in their simple names never give one name. -/
theorem groupName_inj_iff {payloads : List String} (distinct : payloads.Nodup) :
    (∀ first ∈ payloads, ∀ second ∈ payloads,
      groupName payloads first = groupName payloads second → first = second) ↔
    ∀ first ∈ payloads, ∀ second ∈ payloads, ¬Clash payloads first second := by
  constructor
  · rintro injective first member second otherMember ⟨different, shared, clash⟩
    apply different (injective first member second otherMember _)
    rw [groupName_of_shared distinct member shared]
    rcases clash with ⟨both, same⟩ | ⟨alone, same⟩
    · rw [same, groupName_of_shared distinct otherMember both]
    · rw [same, groupName_of_alone distinct otherMember alone]
  · intro clear first member second otherMember same
    by_contra different
    by_cases shared : Shared payloads first
    · rw [groupName_of_shared distinct member shared] at same
      by_cases both : Shared payloads second
      · rw [groupName_of_shared distinct otherMember both] at same
        exact clear first member second otherMember ⟨different, shared, .inl ⟨both, same⟩⟩
      · rw [groupName_of_alone distinct otherMember both] at same
        exact clear first member second otherMember ⟨different, shared, .inr ⟨both, same⟩⟩
    · rw [groupName_of_alone distinct member shared] at same
      by_cases both : Shared payloads second
      · rw [groupName_of_shared distinct otherMember both] at same
        exact clear second otherMember first member
          ⟨Ne.symm different, both, .inr ⟨shared, same.symm⟩⟩
      · rw [groupName_of_alone distinct otherMember both] at same
        exact shared ⟨second, otherMember, Ne.symm different, same.symm⟩

theorem groups_names (descriptors : List Descriptor) :
    (groups descriptors).map Group.name =
      ((groups descriptors).map Group.payload).map
        (groupName ((groups descriptors).map Group.payload)) := by
  rw [groups_payloads]
  simp [groups]

/-- Only which payloads there are counts for a clash, not how often or in which order. -/
theorem clash_congr {payloads others : List String}
    (same : ∀ payload, payload ∈ payloads ↔ payload ∈ others) :
    Clash payloads first second ↔ Clash others first second := by
  simp only [Clash, Shared, same]

/-- Whether no two payloads of the wrappers give their groups one name. -/
def ClearGroups (descriptors : List Descriptor) : Prop :=
  ∀ first ∈ descriptors.map Descriptor.payload, ∀ second ∈ descriptors.map Descriptor.payload,
    ¬Clash (descriptors.map Descriptor.payload) first second

/-- The names of the groups are told apart exactly if no two payloads clash, and so are the file
names, the holders and the traits of their extensions. -/
theorem group_names_distinct_iff (descriptors : List Descriptor) :
    (((groups descriptors).map Group.name).Nodup ↔ ClearGroups descriptors) ∧
    (((groups descriptors).map fun group =>
      GeneratedUnit.nameOf ("As" ++ group.name) .extensions).Nodup ↔ ClearGroups descriptors) ∧
    (((groups descriptors).map fun group => "As" ++ group.name).Nodup ↔
      ClearGroups descriptors) ∧
    (((groups descriptors).map Extension.traitName).Nodup ↔ ClearGroups descriptors) := by
  have names : ((groups descriptors).map Group.name).Nodup ↔ ClearGroups descriptors := by
    rw [groups_names, List.nodup_map_iff_inj_on (payloads_nodup descriptors),
      groupName_inj_iff (payloads_nodup descriptors)]
    simp only [ClearGroups, mem_payloads, clash_congr fun _ => mem_payloads]
  have labels (label : String → String) (injective : Function.Injective label) :
      ((groups descriptors).map fun group => label group.name).Nodup ↔
        ClearGroups descriptors := by
    rw [← names, ← List.nodup_map_iff (l := (groups descriptors).map Group.name) injective,
      List.map_map]
    rfl
  refine ⟨names, labels (fun name => GeneratedUnit.nameOf ("As" ++ name) .extensions) ?_,
    labels (fun name => "As" ++ name) ?_, labels (fun name => name ++ "AsExt") ?_⟩
  · intro first second same
    simpa [GeneratedUnit.nameOf, String.append_assoc] using same
  · intro first second same
    simpa using same
  · intro first second same
    simpa using same

/-- Two arrays of one element type. -/
def twoArrays : List Descriptor := [
  ⟨"Short", "[u8;4]", none, false, true⟩, ⟨"Long", "[u8;8]", none, false, true⟩]

/-- The length of an array is in no name, so that both groups have one name. -/
theorem array_groups_share_name :
    (groups twoArrays).map (fun group => (group.payload, group.name)) =
      [("[u8;4]", "ArrayU8"), ("[u8;8]", "ArrayU8")] ∧
    ¬((groups twoArrays).map Group.name).Nodup := by
  decide +kernel

end ValueObjects.Generation
