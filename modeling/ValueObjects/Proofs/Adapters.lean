import ValueObjects.Proofs.Completion

namespace ValueObjects

/-- Whether units of the kind are made under a configuration: those of an adapter only if the
adapter is switched on. -/
def Config.makes (config : Config) : UnitKind → Bool
  | .relational | .entityConverters => config.relational
  | .document | .registration => config.document
  | .operators | .parsing | .extensions => true

namespace Generation

open Emit

variable {config : Config} {descriptors : List Descriptor} {descriptor : Descriptor}
  {properties : List Property} {extensions : List Attempt}

/-- The units of the kinds that are kept. -/
def keptBy (keeps : UnitKind → Bool) (units : List GeneratedUnit) : List GeneratedUnit :=
  units.filter fun unit => keeps unit.kind

theorem unitsOf_nil : unitsOf [] = [] :=
  rfl

theorem unitsOf_singleton (attempt : Attempt) : unitsOf [attempt] = attempt.toOption.toList := by
  cases attempt <;> rfl

theorem unitsOf_flatMap (items : List α) (attempts : α → List Attempt) :
    unitsOf (items.flatMap attempts) = items.flatMap fun item => unitsOf (attempts item) := by
  simp only [unitsOf, List.filterMap_flatMap]

theorem keptBy_append (first second : List GeneratedUnit) :
    keptBy keeps (first ++ second) = keptBy keeps first ++ keptBy keeps second := by
  unfold keptBy
  exact List.filter_append first second

theorem keptBy_flatMap (items : List α) (units : α → List GeneratedUnit) :
    keptBy keeps (items.flatMap units) = items.flatMap fun item => keptBy keeps (units item) := by
  unfold keptBy
  exact List.filter_flatMap

/-- Units of other kinds are not kept. -/
theorem keptBy_of_others {made : List Attempt}
    (others : ∀ unit, .ok unit ∈ made → keeps unit.kind = false) :
    keptBy keeps (unitsOf made) = [] := by
  apply List.filter_eq_nil_iff.mpr
  intro unit present
  simp [others unit (mem_unitsOf.mp present)]

/-- Units of one kind are kept all or not at all. -/
theorem keptBy_unitsOf {made : List Attempt} (kinds : ∀ unit, .ok unit ∈ made → unit.kind = kind) :
    keptBy keeps (unitsOf made) = unitsOf (if keeps kind then made else []) := by
  cases chosen : keeps kind with
  | true =>
    apply List.filter_eq_self.mpr
    intro unit present
    rw [kinds unit (mem_unitsOf.mp present), chosen]
  | false =>
    apply keptBy_of_others
    intro unit present
    rw [kinds unit present, chosen]

/-- The attempts at the units of a wrapper that is checked. -/
theorem wrapperUnits_of_subject
    (found : Subject.of descriptor (classify descriptor.payload) = .ok subject) :
    wrapperUnits config descriptors descriptor =
      [GeneratedUnit.render descriptor.stem .operators (operators subject)] ++
      [GeneratedUnit.render descriptor.stem .parsing (parsing subject)] ++
      (if config.relational then [relationalAttempt descriptors descriptor] else []) ++
      (if config.document then [documentAttempt descriptor] else []) := by
  simp only [wrapperUnits, wrapperAttempts, relationalAttempt, documentAttempt, found, ok_bind,
    List.cons_append, List.nil_append]

/-- An attempt that is made by choice is kept if it is chosen and its kind is kept. -/
theorem keptBy_chosen {attempt : Attempt} (chosen : Bool)
    (sort : ∀ unit, attempt = .ok unit → unit.kind = kind) :
    keptBy keeps (unitsOf (if chosen then [attempt] else [])) =
      unitsOf (if chosen && keeps kind then [attempt] else []) := by
  cases chosen with
  | true => exact keptBy_unitsOf fun unit present => sort unit (List.mem_singleton.mp present).symm
  | false => rfl

/-- What is kept of the units of a wrapper that is checked. -/
theorem keptBy_wrapper (found : Subject.of descriptor (classify descriptor.payload) = .ok subject) :
    keptBy keeps (unitsOf (wrapperUnits config descriptors descriptor)) =
      unitsOf (if keeps .operators then
        [GeneratedUnit.render descriptor.stem .operators (operators subject)] else []) ++
      unitsOf (if keeps .parsing then
        [GeneratedUnit.render descriptor.stem .parsing (parsing subject)] else []) ++
      unitsOf (if config.relational && keeps .relational then
        [relationalAttempt descriptors descriptor] else []) ++
      unitsOf (if config.document && keeps .document then
        [documentAttempt descriptor] else []) := by
  have rendered (kind : UnitKind) (tokens : List Token) :
      keptBy keeps (unitsOf [GeneratedUnit.render descriptor.stem kind tokens]) =
        unitsOf (if keeps kind then [GeneratedUnit.render descriptor.stem kind tokens] else []) :=
    keptBy_chosen true fun _ => kind_of_render
  rw [wrapperUnits_of_subject found]
  simp only [unitsOf_append, keptBy_append, rendered, keptBy_chosen _ fun _ => kind_of_relational,
    keptBy_chosen _ fun _ => kind_of_document]

theorem keptBy_wrapperUnits (config : Config) (descriptors : List Descriptor)
    (descriptor : Descriptor) :
    keptBy config.makes (unitsOf (wrapperUnits {} descriptors descriptor)) =
      unitsOf (wrapperUnits config descriptors descriptor) := by
  cases found : Subject.of descriptor (classify descriptor.payload) with
  | error cause =>
    unfold wrapperUnits
    rw [wrapperAttempts_of_failure found, wrapperAttempts_of_failure found]
    rfl
  | ok subject =>
    rw [keptBy_wrapper found, wrapperUnits_of_subject found]
    simp only [unitsOf_append]
    rfl

theorem keptBy_extensions (extended : (groups descriptors).mapM groupAttempt = .ok extensions) :
    keptBy config.makes (unitsOf extensions) = unitsOf extensions :=
  keptBy_unitsOf fun _ present => kind_of_extension extended present

theorem kind_of_entityUnits (present : .ok unit ∈ entityUnits config descriptors properties) :
    unit.kind = .entityConverters := by
  obtain ⟨rows, _, made⟩ := mem_entityUnits present
  exact kind_of_entity made

theorem keptBy_entityUnits (config : Config) (descriptors : List Descriptor)
    (properties : List Property) :
    keptBy config.makes (unitsOf (entityUnits {} descriptors properties)) =
      unitsOf (entityUnits config descriptors
        (if config.relational then properties else [])) := by
  rw [keptBy_unitsOf fun _ => kind_of_entityUnits, Config.makes]
  cases chosen : config.relational <;> simp [entityUnits, chosen]

/-- Whose serializers are registered depends on the document adapter only. -/
theorem registered_of_document (document : config.document = true) :
    registered config descriptors = registered {} descriptors := by
  unfold registered
  apply List.filterMap_congr
  intro descriptor _
  cases found : Subject.of descriptor (classify descriptor.payload) with
  | error cause => rw [wrapperAttempts_of_failure found, wrapperAttempts_of_failure found]
  | ok subject => simp only [wrapperAttempts, found, document, ↓reduceIte]

theorem kind_of_registrationUnits (present : .ok unit ∈ registrationUnits config descriptors) :
    unit.kind = .registration :=
  kind_of_registration (mem_registrationUnits present)

theorem keptBy_registrationUnits (config : Config) (descriptors : List Descriptor) :
    keptBy config.makes (unitsOf (registrationUnits {} descriptors)) =
      unitsOf (registrationUnits config descriptors) := by
  rw [keptBy_unitsOf fun _ => kind_of_registrationUnits, Config.makes]
  cases chosen : config.document with
  | true => simp [registrationUnits, chosen, registered_of_document chosen]
  | false => simp [registrationUnits, chosen]

/-- The attempts of a pass whose extensions are made. -/
def passAttempts (config : Config) (descriptors : List Descriptor) (properties : List Property)
    (extensions : List Attempt) : List Attempt :=
  descriptors.flatMap (wrapperUnits config descriptors) ++ extensions ++
    entityUnits config descriptors properties ++ registrationUnits config descriptors

/-- A pass whose extensions are made comes to its end, under every configuration. -/
theorem emit_of_extensions (config : Config) (properties : List Property)
    (extended : (groups descriptors).mapM groupAttempt = .ok extensions) :
    emit config descriptors properties =
      .ok ⟨descriptors, properties,
        unitsOf (passAttempts config descriptors properties extensions),
        failuresOf (passAttempts config descriptors properties extensions)⟩ := by
  cases emitted : emit config descriptors properties with
  | error stop => cases extended.symm.trans (emit_eq_error_iff.mp emitted)
  | ok output =>
    obtain ⟨others, made, _, rfl, rfl⟩ := emit_parts emitted
    cases extended.symm.trans made
    rfl

/-- A pass comes to its end if the traits of its groups are named by words. -/
theorem emit_ends (config : Config) (properties : List Property)
    (words : ∀ group ∈ groups descriptors, isWord (Extension.traitName group) = true) :
    ∃ output, emit config descriptors properties = .ok output := by
  have ends : ∀ group ∈ groups descriptors, ∃ attempt, groupAttempt group = .ok attempt := by
    intro group present
    exact groupAttempt_ends_iff.mpr fun breaks => by
      cases (words group present).symm.trans breaks.trait
  obtain ⟨extensions, extended⟩ := mapM_ends_iff.mpr ends
  exact ⟨_, emit_of_extensions config properties extended⟩

/-- The units of a pass are those that its configuration keeps of the units with both adapters. -/
theorem keptBy_passAttempts (config : Config) (properties : List Property)
    (extended : (groups descriptors).mapM groupAttempt = .ok extensions) :
    keptBy config.makes (unitsOf (passAttempts {} descriptors properties extensions)) =
      unitsOf (passAttempts config descriptors (if config.relational then properties else [])
        extensions) := by
  simp only [passAttempts, unitsOf_append, keptBy_append, unitsOf_flatMap, keptBy_flatMap,
    keptBy_wrapperUnits, keptBy_extensions extended, keptBy_entityUnits, keptBy_registrationUnits]

/-- A pass over a crate that ends under one configuration ends under every configuration. It finds
the same wrappers as with both adapters, and its units are those of the pass with both adapters
without the units of the adapters that are switched off. -/
theorem generate_keeps_units {tree : SourceTree} (ended : generate config tree = .ok output) :
    ∃ whole, generate {} tree = .ok whole ∧ ∀ config, ∃ output,
      generate config tree = .ok output ∧ output.descriptors = whole.descriptors ∧
      output.units = whole.units.filter fun unit => config.makes unit.kind := by
  obtain ⟨extensions, extended, _⟩ := emit_parts ended
  refine ⟨_, emit_of_extensions {} _ extended, ?_⟩
  intro other
  refine ⟨_, emit_of_extensions other _ extended, rfl, ?_⟩
  exact (keptBy_passAttempts other _ extended).symm

/-- A crate with a wrapper by hand and an entity that holds it. -/
def handedTree : SourceTree :=
  ⟨[⟨none, none, [
    .impl ⟨[], false, some ⟨false, [.plain "Value"]⟩, .path false [.plain "W"],
      [("Payload", .path false [.plain "u8"])]⟩,
    .struct ⟨[], "E", false, .named [⟨true, some "w", .path false [.plain "W"]⟩]⟩]⟩], []⟩

theorem candidates_handedTree :
    Discovery.candidates handedTree = [⟨"W", "u8", none, false, true⟩] := by
  have declared : Discovery.declared handedTree = [⟨"W", "u8", none, false, true⟩] := by decide
  rw [Discovery.candidates, declared, Descriptor.sort, List.mergeSort_singleton]
  rfl

theorem handedTree_ends (config : Config) : ∃ output, generate config handedTree = .ok output := by
  refine emit_ends config _ ?_
  rw [candidates_handedTree]
  decide

/-- The passes over the crate without the document adapter and with it. -/
theorem generate_keeps_units_handed :
    ∃ output, generate ⟨false, true⟩ handedTree = .ok output ∧
      ∃ whole, generate {} handedTree = .ok whole ∧ ∀ config, ∃ output,
        generate config handedTree = .ok output ∧ output.descriptors = whole.descriptors ∧
        output.units = whole.units.filter fun unit => config.makes unit.kind := by
  obtain ⟨output, ended⟩ := handedTree_ends ⟨false, true⟩
  exact ⟨output, ended, generate_keeps_units ended⟩

end Generation

end ValueObjects
