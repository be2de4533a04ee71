import Mathlib.Data.List.Induction
import Mathlib.Data.List.Nodup
import ValueObjects.Proofs.Results
import ValueObjects.Serializer

namespace ValueObjects

@[simp]
theorem Dynamic.as?_self (type : ValueType) (value : type.Value) :
    Dynamic.as? ⟨type, value⟩ type = some value := by
  simp [Dynamic.as?]

namespace DocumentSerializer

variable {type : ValueType} (own : DocumentSerializer type)

/-- A value of the serializer's type is written as such. -/
theorem encode_erased (value : type.Value) :
    own.erased.encode ⟨type, value⟩ = some (own.toBson value) := by
  simp [erased]

theorem decode_erased (bson : Bson) :
    own.erased.decode bson = (own.ofBson bson).map fun value => ⟨type, value⟩ :=
  rfl

end DocumentSerializer

namespace SerializerRegistry

/-- The registry after types were registered one after another, each with its own serializer. -/
def known (serializers : (type : ValueType) → DocumentSerializer type) (types : List ValueType) :
    SerializerRegistry :=
  types.foldl (fun registry type => (registry.register (serializers type)).2) empty

/-- What a registry holds after types were registered one after another. -/
structure Holds (serializers : (type : ValueType) → DocumentSerializer type)
    (types : List ValueType) (registry : SerializerRegistry) : Prop where
  order : registry.order = types.eraseDups
  nodup : registry.order.Nodup
  keys : registry.serializers.map Prod.fst = registry.order.reverse
  own : ∀ type, registry.find? type = if type ∈ types then some (serializers type).erased else none

variable {serializers : (type : ValueType) → DocumentSerializer type} {types : List ValueType}
  {type : ValueType} {registry : SerializerRegistry}

theorem Holds.isRegistered (holds : Holds serializers types registry) (type : ValueType) :
    registry.isRegistered type = true ↔ type ∈ types := by
  rw [SerializerRegistry.isRegistered, holds.own]
  split
  all_goals simpa

/-- A registration says whether its type is new. -/
theorem Holds.register_fst (holds : Holds serializers types registry) (type : ValueType) :
    (registry.register (serializers type)).1 = true ↔ type ∉ types := by
  rw [← holds.isRegistered, SerializerRegistry.register]
  cases registry.isRegistered type
  all_goals simp

/-- A registration adds its type to what is known. -/
theorem Holds.register (holds : Holds serializers types registry) (type : ValueType) :
    Holds serializers (types ++ [type]) (registry.register (serializers type)).2 := by
  rw [SerializerRegistry.register]
  split
  · rename_i registered
    have member := (holds.isRegistered type).mp registered
    have same (other : ValueType) : other ∈ types ++ [type] ↔ other ∈ types := by
      rw [List.mem_append, List.mem_singleton]
      exact or_iff_left_of_imp fun found => found ▸ member
    exact {
      order := by simp [holds.order, List.eraseDups_append, List.removeAll, member]
      nodup := holds.nodup
      keys := holds.keys
      own := fun other => by simp only [same, holds.own] }
  · rename_i unknown
    have new : type ∉ types := fun member => unknown ((holds.isRegistered type).mpr member)
    have fresh : type ∉ registry.order := by rwa [holds.order, List.mem_eraseDups]
    exact {
      order := by simp [holds.order, List.eraseDups_append, List.removeAll, new, List.eraseDups_cons]
      nodup := List.concat_eq_append ▸ List.Nodup.concat fresh holds.nodup
      keys := by simp [holds.keys]
      own := fun other => by
        have found := holds.own other
        rw [find?] at found
        by_cases same : other = type
        · subst same
          simp [find?]
        · have differs : (other == type) = false := beq_false_of_ne same
          simp [find?, List.lookup_cons, differs, same, found] }

theorem holds_known (serializers : (type : ValueType) → DocumentSerializer type)
    (types : List ValueType) : Holds serializers types (known serializers types) := by
  induction types using List.reverseRecOn with
  | nil => exact ⟨rfl, .nil, rfl, fun _ => rfl⟩
  | append_singleton types type ih =>
    rw [known, List.foldl_append]
    exact ih.register type

theorem Holds.typeNames (holds : Holds serializers types registry) :
    registry.typeNames = types.eraseDups.map ValueType.fullName := by
  have each {listed : List ValueType} (known : listed ⊆ types) :
      listed.filterMap registry.find? = listed.map fun type => (serializers type).erased := by
    rw [← List.filterMap_eq_map]
    apply List.filterMap_congr
    intro type member
    rw [holds.own, if_pos (known member)]
    rfl
  rw [SerializerRegistry.typeNames, holds.order,
    each fun _ member => List.mem_eraseDups.mp member, List.map_map]
  rfl

/-- What a registry answers after types were registered one after another. -/
structure Answers (serializers : (type : ValueType) → DocumentSerializer type)
    (types : List ValueType) (registry : SerializerRegistry) : Prop where
  returns : ∀ type, (registry.register (serializers type)).1 = true ↔ type ∉ types
  nodup : registry.order.Nodup
  keys : registry.order.Perm (registry.serializers.map Prod.fst)
  typeNames : registry.typeNames = types.eraseDups.map ValueType.fullName
  size : registry.size = types.eraseDups.length
  encode : ∀ type ∈ types, ∀ value, registry.encode type value = (serializers type).toBson value
  decode : ∀ type ∈ types, ∀ bson, registry.decode type bson = (serializers type).ofBson bson
  notRegistered : ∀ type, type ∉ types →
    (∀ value, registry.encode type value = .error (.notRegistered type.fullName)) ∧
      ∀ bson, registry.decode type bson = .error (.notRegistered type.fullName)
  /-- The values that are given to a serializer and come from it are of its type. -/
  typed : ∀ type ∈ types, ∃ serializer, registry.find? type = some serializer ∧
    (∀ value, (serializer.encode ⟨type, value⟩).isSome = true) ∧
      ∀ bson found, serializer.decode bson = .ok found → (found.as? type).isSome = true

/-- After any registrations each type that was registered is written and read by its own
serializer, and every other type is unknown. -/
theorem known_answers (serializers : (type : ValueType) → DocumentSerializer type)
    (types : List ValueType) : Answers serializers types (known serializers types) := by
  have holds := holds_known serializers types
  generalize known serializers types = registry at holds
  have required {type : ValueType} (member : type ∈ types) :
      registry.require type = .ok (serializers type).erased := by
    rw [require, holds.own, if_pos member]
  have unknown {type : ValueType} (new : type ∉ types) :
      registry.require type = .error (.notRegistered type.fullName) := by
    rw [require, holds.own, if_neg new]
  exact {
    returns := holds.register_fst
    nodup := holds.nodup
    keys := holds.keys ▸ (List.reverse_perm _).symm
    typeNames := holds.typeNames
    size := by rw [size, holds.order]
    encode := fun type member value => by
      rw [encode, required member, ok_bind, DocumentSerializer.encode_erased]
      rfl
    decode := fun type member bson => by
      rw [decode, required member, ok_bind, DocumentSerializer.decode_erased]
      cases (serializers type).ofBson bson with
      | error cause => rfl
      | ok value => simp [Except.map, ok_bind, pure, Except.pure]
    notRegistered := fun type new => by
      constructor
      · intro value
        rw [encode, unknown new, error_bind]
      · intro bson
        rw [decode, unknown new, error_bind]
    typed := fun type member => by
      refine ⟨_, by rw [holds.own, if_pos member], fun value => ?_, fun bson found read => ?_⟩
      · rw [DocumentSerializer.encode_erased]
        rfl
      · rw [DocumentSerializer.decode_erased] at read
        cases own : (serializers type).ofBson bson with
        | error cause =>
          rw [own] at read
          cases read
        | ok value =>
          rw [own] at read
          cases read
          simp }

end SerializerRegistry

end ValueObjects
