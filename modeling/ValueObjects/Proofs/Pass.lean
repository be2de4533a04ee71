import ValueObjects.Proofs.UnitText

namespace ValueObjects.Generation

open Emit

/-- The stem of a wrapper's converters in a pass. -/
def converterStem (descriptors : List Descriptor) (descriptor : Descriptor) : String :=
  stemOf (stems descriptors (groups descriptors)) descriptor.key

/-- The attempt at the relational unit of a wrapper. -/
def relationalAttempt (descriptors : List Descriptor) (descriptor : Descriptor) : Attempt := do
  let subject ← Subject.of descriptor (classify descriptor.payload)
  let converters ← convertersOf (converterStem descriptors descriptor)
  GeneratedUnit.render descriptor.stem .relational (relational subject converters)

/-- The attempt at the document unit of a wrapper. -/
def documentAttempt (descriptor : Descriptor) : Attempt := do
  let subject ← Subject.of descriptor (classify descriptor.payload)
  GeneratedUnit.render descriptor.stem .document (document subject)

/-- All attempts at the units of a wrapper. -/
def wrapperUnits (config : Config) (descriptors : List Descriptor) (descriptor : Descriptor) :
    List Attempt :=
  (wrapperAttempts config (converterStem descriptors descriptor) descriptor).1

/-- The wrappers whose serializers are to be registered. -/
def registered (config : Config) (descriptors : List Descriptor) : List CratePath :=
  descriptors.filterMap fun descriptor =>
    (wrapperAttempts config (converterStem descriptors descriptor) descriptor).2

/-- The attempts at the registrations of the entities' converters. -/
def entityUnits (config : Config) (descriptors : List Descriptor) (properties : List Property) :
    List Attempt :=
  if config.relational then
    (byEntity properties).map (entityAttempt (stems descriptors (groups descriptors)))
  else []

def registrationUnits (config : Config) (descriptors : List Descriptor) : List Attempt :=
  if config.document then [registrationAttempt (registered config descriptors)] else []

variable {config : Config} {descriptors : List Descriptor} {descriptor : Descriptor}
  {properties : List Property} {output : Output} {extensions : List Attempt}

/-- What a wrapper that is checked is made of. -/
structure Checked (descriptor : Descriptor) (classification : Classification) (subject : Subject) :
    Prop where
  source : subject.descriptor = descriptor
  classified : subject.classification = classification
  path : CratePath.of descriptor.scope? descriptor.typeName = .ok subject.wrapper
  reads : (Grammar.type? descriptor.payload).isSome = true
  typed : payloadType classification.kind subject.wrapper classification.inner = .ok subject.inner

theorem checked_of_subject {classification : Classification}
    (made : Subject.of descriptor classification = .ok subject) :
    Checked descriptor classification subject := by
  obtain ⟨wrapper, path, later⟩ := bind_eq_ok.mp made
  simp only at later
  split at later
  · cases later
  · rename_i reads
    obtain ⟨inner, typed, whole⟩ := bind_eq_ok.mp later
    cases whole
    exact ⟨rfl, rfl, path, by simpa [Option.isSome_iff_ne_none] using reads, typed⟩

/-- What a wrapper can fail its check for: its path, or a payload that is no type. -/
inductive Unfit (descriptor : Descriptor) (classification : Classification) : Failure → Prop where
  | path (failed : CratePath.of descriptor.scope? descriptor.typeName = .error cause) :
      Unfit descriptor classification cause
  | payload (unread : Grammar.type? descriptor.payload = none) :
      Unfit descriptor classification (.invalidPayload descriptor.typeName descriptor.payload)
  | inner (other : classification.kind = .other)
      (unread : Grammar.type? classification.inner = none) :
      Unfit descriptor classification (.invalidPayload name classification.inner)

/-- Only a payload of no kind of its own has to be read, and it may be no type. -/
theorem failure_of_payloadType (failed : payloadType kind wrapper display = .error cause) :
    kind = .other ∧ Grammar.type? display = none ∧
      ∃ name, cause = .invalidPayload name display := by
  cases kind with
  | other =>
    rw [payloadType, otherPayload] at failed
    split at failed
    · split at failed
      · cases failed
      · rename_i unread
        cases failed
        exact ⟨rfl, unread, _, rfl⟩
    · cases failed
  | numeric type => cases type <;> cases failed
  | _ => cases failed

theorem unfit_of_subject {classification : Classification}
    (failed : Subject.of descriptor classification = .error cause) :
    Unfit descriptor classification cause := by
  rcases bind_eq_error.mp failed with unnamed | ⟨wrapper, _, later⟩
  · exact .path unnamed
  · split at later
    · rename_i unread
      cases later
      exact .payload (Option.isNone_iff_eq_none.mp unread)
    · rcases bind_eq_error.mp later with untyped | ⟨_, _, made⟩
      · obtain ⟨other, unread, name, rfl⟩ := failure_of_payloadType untyped
        exact .inner other unread
      · cases made

theorem unitsOf_append (first second : List Attempt) :
    unitsOf (first ++ second) = unitsOf first ++ unitsOf second :=
  List.filterMap_append

theorem unitsOf_ok (unit : GeneratedUnit) (rest : List Attempt) :
    unitsOf (.ok unit :: rest) = unit :: unitsOf rest :=
  rfl

theorem mem_unitsOf {attempts : List Attempt} : unit ∈ unitsOf attempts ↔ .ok unit ∈ attempts := by
  simp only [unitsOf, List.mem_filterMap]
  constructor
  · rintro ⟨attempt, present, found⟩
    cases attempt with
    | error cause => cases found
    | ok made =>
      cases found
      exact present
  · intro present
    exact ⟨_, present, rfl⟩

theorem mem_failuresOf {attempts : List Attempt} :
    cause ∈ failuresOf attempts ↔ .error cause ∈ attempts := by
  simp only [failuresOf, List.mem_filterMap]
  constructor
  · rintro ⟨attempt, present, found⟩
    cases attempt with
    | error other =>
      cases found
      exact present
    | ok made => cases found
  · intro present
    exact ⟨_, present, rfl⟩

/-- A pass that comes to its end makes the attempts of its four parts. -/
theorem emit_parts (emitted : emit config descriptors properties = .ok output) :
    ∃ extensions, (groups descriptors).mapM groupAttempt = .ok extensions ∧
      ∃ all, all = descriptors.flatMap (wrapperUnits config descriptors) ++ extensions ++
        entityUnits config descriptors properties ++ registrationUnits config descriptors ∧
      output = ⟨descriptors, properties, unitsOf all, failuresOf all⟩ := by
  obtain ⟨all, attempted, whole⟩ := bind_eq_ok.mp emitted
  obtain ⟨extensions, extended, parts⟩ := bind_eq_ok.mp attempted
  cases whole
  refine ⟨extensions, extended, all, ?_, rfl⟩
  cases parts
  simp only [entityUnits, registrationUnits, registered, converterStem,
    List.flatMap_map, List.filterMap_map]
  rfl

theorem kind_of_render (made : GeneratedUnit.render start kind tokens = .ok unit) :
    unit.kind = kind := by
  rw [unit_eq_of_render made]

theorem lift_eq_ok {result : Except Failure α} : Stop.lift result = .ok value ↔ result = .ok value := by
  cases result <;> simp [Stop.lift, Except.mapError]

/-- The extension of a group is rendered under the name of the group. -/
theorem rendered_of_group {group : Group} (attempted : groupAttempt group = .ok (.ok unit)) :
    ∃ tokens, GeneratedUnit.render ("As" ++ group.name) .extensions tokens = .ok unit := by
  unfold groupAttempt at attempted
  simp only at attempted
  split at attempted
  · rename_i made
    cases attempted
    obtain ⟨subjects, _, later⟩ := bind_eq_ok.mp made
    obtain ⟨found, _, rendered⟩ := bind_eq_ok.mp later
    exact ⟨_, lift_eq_ok.mp rendered⟩
  · cases attempted
  · cases attempted

theorem kind_of_extension (extended : (groups descriptors).mapM groupAttempt = .ok extensions)
    (present : .ok unit ∈ extensions) : unit.kind = .extensions := by
  obtain ⟨group, _, attempted⟩ := item_of_mem extended present
  obtain ⟨tokens, rendered⟩ := rendered_of_group attempted
  exact kind_of_render rendered

theorem mem_entityUnits (present : .ok unit ∈ entityUnits config descriptors properties) :
    ∃ rows ∈ byEntity properties,
      entityAttempt (stems descriptors (groups descriptors)) rows = .ok unit := by
  unfold entityUnits at present
  split at present
  · obtain ⟨rows, member, made⟩ := List.mem_map.mp present
    exact ⟨rows, member, made⟩
  · cases present

theorem kind_of_entity (made : entityAttempt assigned rows = .ok unit) :
    unit.kind = .entityConverters := by
  obtain ⟨found, _, rendered⟩ := bind_eq_ok.mp made
  exact kind_of_render rendered

theorem mem_registrationUnits (present : .ok unit ∈ registrationUnits config descriptors) :
    registrationAttempt (registered config descriptors) = .ok unit := by
  unfold registrationUnits at present
  split at present
  · exact (List.mem_singleton.mp present).symm
  · cases present

theorem kind_of_registration (made : registrationAttempt wrappers = .ok unit) :
    unit.kind = .registration :=
  kind_of_render made

/-- The four attempts at the units of a wrapper that is checked. -/
theorem wrapperAttempts_of_subject (document : config.document = true)
    (relational : config.relational = true)
    (found : Subject.of descriptor (classify descriptor.payload) = .ok subject) :
    wrapperAttempts config (converterStem descriptors descriptor) descriptor =
      ([GeneratedUnit.render descriptor.stem .operators (operators subject),
        GeneratedUnit.render descriptor.stem .parsing (parsing subject),
        relationalAttempt descriptors descriptor, documentAttempt descriptor],
        some subject.wrapper) := by
  simp only [wrapperAttempts, relationalAttempt, documentAttempt, found, document, relational,
    ok_bind, ↓reduceIte, List.cons_append, List.nil_append]

/-- A wrapper that cannot be checked is one failure, which all its units share. -/
theorem wrapperAttempts_of_failure
    (failed : Subject.of descriptor (classify descriptor.payload) = .error cause) :
    wrapperAttempts config (converterStem descriptors descriptor) descriptor =
      ([.error cause], none) := by
  simp only [wrapperAttempts, failed]

/-- A wrapper whose serializer is to be registered is checked. -/
theorem mem_registered (member : wrapper ∈ registered config descriptors) :
    ∃ descriptor ∈ descriptors, ∃ subject,
      Subject.of descriptor (classify descriptor.payload) = .ok subject ∧
      subject.wrapper = wrapper := by
  obtain ⟨descriptor, present, given⟩ := List.mem_filterMap.mp member
  refine ⟨descriptor, present, ?_⟩
  cases found : Subject.of descriptor (classify descriptor.payload) with
  | error cause =>
    rw [wrapperAttempts_of_failure found] at given
    cases given
  | ok subject =>
    simp only [wrapperAttempts, found] at given
    split at given
    · exact ⟨subject, rfl, Option.some.inj given⟩
    · cases given

theorem attempts_of_failure (descriptors : List Descriptor)
    (failed : Subject.of descriptor (classify descriptor.payload) = .error cause) :
    relationalAttempt descriptors descriptor = .error cause ∧
      documentAttempt descriptor = .error cause := by
  simp only [relationalAttempt, documentAttempt, failed, error_bind, and_self]

theorem kind_of_relational (made : relationalAttempt descriptors descriptor = .ok unit) :
    unit.kind = .relational := by
  obtain ⟨_, _, later⟩ := bind_eq_ok.mp made
  obtain ⟨_, _, rendered⟩ := bind_eq_ok.mp later
  exact kind_of_render rendered

theorem kind_of_document (made : documentAttempt descriptor = .ok unit) :
    unit.kind = .document := by
  obtain ⟨_, _, rendered⟩ := bind_eq_ok.mp made
  exact kind_of_render rendered

section

variable (document : config.document = true) (relational : config.relational = true)

include document relational

/-- Both adapters of a wrapper are attempted. -/
theorem attempts_mem :
    relationalAttempt descriptors descriptor ∈ wrapperUnits config descriptors descriptor ∧
      documentAttempt descriptor ∈ wrapperUnits config descriptors descriptor := by
  unfold wrapperUnits
  cases found : Subject.of descriptor (classify descriptor.payload) with
  | error cause =>
    simp [wrapperAttempts_of_failure found, attempts_of_failure descriptors found]
  | ok subject => simp [wrapperAttempts_of_subject document relational found]

/-- The kind of a wrapper's unit tells which of the four attempts made it. -/
theorem mem_wrapperUnits (present : .ok unit ∈ wrapperUnits config descriptors descriptor) :
    unit.kind = .operators ∨ unit.kind = .parsing ∨
      relationalAttempt descriptors descriptor = .ok unit ∨
      documentAttempt descriptor = .ok unit := by
  unfold wrapperUnits at present
  cases found : Subject.of descriptor (classify descriptor.payload) with
  | error cause => simp [wrapperAttempts_of_failure found] at present
  | ok subject =>
    simp only [wrapperAttempts_of_subject document relational found, List.mem_cons,
      List.not_mem_nil, or_false] at present
    rcases present with made | made | made | made
    · exact .inl (kind_of_render made.symm)
    · exact .inr (.inl (kind_of_render made.symm))
    · exact .inr (.inr (.inl made.symm))
    · exact .inr (.inr (.inr made.symm))

theorem relational_of_wrapperUnits (present : .ok unit ∈ wrapperUnits config descriptors descriptor)
    (kind : unit.kind = .relational) : relationalAttempt descriptors descriptor = .ok unit := by
  rcases mem_wrapperUnits document relational present with other | other | made | made
  · cases kind.symm.trans other
  · cases kind.symm.trans other
  · exact made
  · cases kind.symm.trans (kind_of_document made)

theorem kind_of_wrapperUnits (present : .ok unit ∈ wrapperUnits config descriptors descriptor) :
    unit.kind ≠ .entityConverters ∧ unit.kind ≠ .registration := by
  rcases mem_wrapperUnits document relational present with kind | kind | made | made
  · simp [kind]
  · simp [kind]
  · simp [kind_of_relational made]
  · simp [kind_of_document made]

end

/-- Every attempt at a wrapper's units ends in the output. -/
theorem wrapper_reported (emitted : emit config descriptors properties = .ok output)
    (member : descriptor ∈ descriptors)
    (attempted : attempt ∈ wrapperUnits config descriptors descriptor) :
    (∃ unit ∈ output.units, attempt = .ok unit) ∨
      (∃ cause ∈ output.diagnostics, attempt = .error cause) := by
  obtain ⟨extensions, _, all, parts, rfl⟩ := emit_parts emitted
  have present : attempt ∈ all := by
    rw [parts]
    simp only [List.mem_append, List.mem_flatMap]
    exact .inl (.inl (.inl ⟨descriptor, member, attempted⟩))
  cases attempt with
  | ok unit => exact .inl ⟨unit, mem_unitsOf.mpr present, rfl⟩
  | error cause => exact .inr ⟨cause, mem_failuresOf.mpr present, rfl⟩

/-- A unit that is no wrapper's is an extension, a registration of converters or the registration
of serializers. -/
theorem mem_units (emitted : emit config descriptors properties = .ok output)
    (present : unit ∈ output.units) :
    (∃ descriptor ∈ descriptors, .ok unit ∈ wrapperUnits config descriptors descriptor) ∨
      unit.kind = .extensions ∨
      (∃ rows ∈ byEntity properties,
        entityAttempt (stems descriptors (groups descriptors)) rows = .ok unit) ∨
      registrationAttempt (registered config descriptors) = .ok unit := by
  obtain ⟨extensions, extended, all, parts, rfl⟩ := emit_parts emitted
  have attempted := mem_unitsOf.mp present
  rw [parts] at attempted
  simp only [List.mem_append, List.mem_flatMap] at attempted
  rcases attempted with ((wrapper | extension) | entity) | registration
  · exact .inl wrapper
  · exact .inr (.inl (kind_of_extension extended extension))
  · exact .inr (.inr (.inl (mem_entityUnits entity)))
  · exact .inr (.inr (.inr (mem_registrationUnits registration)))

/-- A registration of converters is that of an entity with properties. -/
theorem entity_of_kind (document : config.document = true) (relational : config.relational = true)
    (emitted : emit config descriptors properties = .ok output) (present : unit ∈ output.units)
    (kind : unit.kind = .entityConverters) :
    ∃ rows ∈ byEntity properties,
      entityAttempt (stems descriptors (groups descriptors)) rows = .ok unit := by
  rcases mem_units emitted present with ⟨_, _, attempted⟩ | other | entity | made
  · exact ((kind_of_wrapperUnits document relational attempted).1 kind).elim
  · cases kind.symm.trans other
  · exact entity
  · cases kind.symm.trans (kind_of_registration made)

theorem registration_of_kind (document : config.document = true)
    (relational : config.relational = true)
    (emitted : emit config descriptors properties = .ok output) (present : unit ∈ output.units)
    (kind : unit.kind = .registration) :
    registrationAttempt (registered config descriptors) = .ok unit := by
  rcases mem_units emitted present with ⟨_, _, attempted⟩ | other | ⟨rows, _, made⟩ | made
  · exact ((kind_of_wrapperUnits document relational attempted).2 kind).elim
  · cases kind.symm.trans other
  · cases kind.symm.trans (kind_of_entity made)
  · exact made

/-- The units of the wrappers come first, and no relational unit after them. -/
theorem units_begin (emitted : emit config descriptors properties = .ok output) :
    ∃ rest, output.units =
        (descriptors.flatMap fun descriptor =>
          unitsOf (wrapperUnits config descriptors descriptor)) ++ rest ∧
      ∀ other ∈ rest, other.kind ≠ .relational := by
  obtain ⟨extensions, extended, all, parts, rfl⟩ := emit_parts emitted
  refine ⟨unitsOf (extensions ++ entityUnits config descriptors properties ++
    registrationUnits config descriptors), ?_, ?_⟩
  · rw [parts]
    simp only [unitsOf, List.filterMap_append, List.filterMap_flatMap, List.append_assoc]
  · intro other present kind
    have attempted := mem_unitsOf.mp present
    simp only [List.mem_append] at attempted
    rcases attempted with (extension | entity) | registration
    · cases kind.symm.trans (kind_of_extension extended extension)
    · obtain ⟨rows, _, made⟩ := mem_entityUnits entity
      cases kind.symm.trans (kind_of_entity made)
    · cases kind.symm.trans (kind_of_registration (mem_registrationUnits registration))

/-- Beside the relational unit of a wrapper its units are of other kinds. -/
theorem wrapperUnits_split (document : config.document = true)
    (relational : config.relational = true)
    (made : relationalAttempt descriptors descriptor = .ok unit) :
    ∃ first last, unitsOf (wrapperUnits config descriptors descriptor) = first ++ unit :: last ∧
      ∀ other ∈ first ++ last, other.kind ≠ .relational := by
  obtain ⟨subject, found, _⟩ := bind_eq_ok.mp made
  refine ⟨unitsOf [GeneratedUnit.render descriptor.stem .operators (operators subject),
    GeneratedUnit.render descriptor.stem .parsing (parsing subject)],
    unitsOf [documentAttempt descriptor], ?_, ?_⟩
  · rw [wrapperUnits, wrapperAttempts_of_subject document relational found, made, ← unitsOf_ok,
      ← unitsOf_append, List.cons_append, List.cons_append, List.nil_append]
  · intro other present kind
    simp only [List.mem_append, mem_unitsOf, List.mem_cons, List.not_mem_nil, or_false] at present
    rcases present with (attempted | attempted) | attempted
    · cases kind.symm.trans (kind_of_render attempted.symm)
    · cases kind.symm.trans (kind_of_render attempted.symm)
    · cases kind.symm.trans (kind_of_document attempted.symm)

/-- Beside the relational unit of a wrapper there are those of the other wrappers only. -/
theorem units_split (document : config.document = true) (relational : config.relational = true)
    (emitted : emit config descriptors properties = .ok output)
    (split : descriptors = before ++ descriptor :: after)
    (made : relationalAttempt descriptors descriptor = .ok unit) :
    ∃ first last, output.units = first ++ unit :: last ∧
      ∀ other ∈ first ++ last, other.kind = .relational →
        ∃ neighbour ∈ before ++ after, relationalAttempt descriptors neighbour = .ok other := by
  obtain ⟨rest, units, others⟩ := units_begin emitted
  obtain ⟨first, last, own, apart⟩ := wrapperUnits_split document relational made
  refine ⟨(before.flatMap fun neighbour => unitsOf (wrapperUnits config descriptors neighbour)) ++
    first, last ++ (after.flatMap fun neighbour =>
      unitsOf (wrapperUnits config descriptors neighbour)) ++ rest, ?_, ?_⟩
  · rw [units]
    conv => lhs; arg 1; arg 2; rw [split]
    simp only [List.flatMap_append, List.flatMap_cons, own, List.append_assoc, List.cons_append]
  · intro other present kind
    have neighbours (side : List Descriptor)
        (present : other ∈ side.flatMap fun neighbour =>
          unitsOf (wrapperUnits config descriptors neighbour)) :
        ∃ neighbour ∈ side, relationalAttempt descriptors neighbour = .ok other := by
      obtain ⟨neighbour, member, attempted⟩ := List.mem_flatMap.mp present
      exact ⟨neighbour, member,
        relational_of_wrapperUnits document relational (mem_unitsOf.mp attempted) kind⟩
    simp only [List.mem_append] at present
    rcases present with (earlier | beside) | (beside | later) | tail
    · obtain ⟨neighbour, member, found⟩ := neighbours before earlier
      exact ⟨neighbour, List.mem_append_left _ member, found⟩
    · exact (apart other (List.mem_append_left _ beside) kind).elim
    · exact (apart other (List.mem_append_right _ beside) kind).elim
    · obtain ⟨neighbour, member, found⟩ := neighbours after later
      exact ⟨neighbour, List.mem_append_right _ member, found⟩
    · exact (others other tail kind).elim

end ValueObjects.Generation
