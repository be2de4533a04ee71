import ValueObjects.Proofs.Adapters

namespace ValueObjects

namespace Classifier

/-- Whether what a classifier recalls is what it would find anew. -/
def Sound (classifier : Classifier) : Prop :=
  ∀ entry ∈ classifier.known, entry.2 = ValueObjects.classify entry.1

variable {classifier : Classifier}

theorem sound_empty : empty.Sound := by
  intro entry known
  cases known

/-- A sound classifier answers with the payload's own kind, and stays sound. -/
theorem Sound.classify (sound : classifier.Sound) (display : String) :
    (classifier.classify display).1 = ValueObjects.classify display ∧
      (classifier.classify display).2.Sound := by
  unfold Classifier.classify
  split
  · rename_i classification known
    obtain ⟨before, after, split, _⟩ := List.lookup_eq_some_iff.mp known
    refine ⟨sound (display, classification) ?_, sound⟩
    rw [split]
    simp
  · refine ⟨rfl, ?_⟩
    intro entry known
    rcases List.mem_cons.mp known with rfl | earlier
    · rfl
    · exact sound entry earlier

/-- Classifies payloads one after another, and notes what each of them is. -/
def classifyAll (classifier : Classifier) : List String → List (String × Classification)
  | [] => []
  | display :: rest =>
    (display, (classifier.classify display).1) ::
      (classifier.classify display).2.classifyAll rest

/-- What has been classified before has no influence on a payload. -/
theorem Sound.classifyAll (sound : classifier.Sound) (displays : List String) :
    classifier.classifyAll displays =
      displays.map fun display => (display, ValueObjects.classify display) := by
  induction displays generalizing classifier with
  | nil => rfl
  | cons display rest ih =>
    obtain ⟨own, later⟩ := sound.classify display
    rw [Classifier.classifyAll, ih later, own, List.map_cons]

end Classifier

namespace Generation

open Emit

/-- The kinds of what a wrapper has for itself. -/
inductive OwnKind where
  | operators
  | parsing
  | document
  deriving DecidableEq, Repr

namespace OwnKind

def unitKind : OwnKind → UnitKind
  | operators => .operators
  | parsing => .parsing
  | document => .document

def code : OwnKind → Subject → List Token
  | operators => Emit.operators
  | parsing => Emit.parsing
  | document => Emit.document

end OwnKind

/-- The unit of the kind that a wrapper has for itself, unless it is lost. -/
def ownUnit? (kind : OwnKind) (descriptor : Descriptor) : Option GeneratedUnit :=
  (do
    let subject ← Subject.of descriptor (classify descriptor.payload)
    GeneratedUnit.render descriptor.stem kind.unitKind (kind.code subject)).toOption

def classifications (descriptors : List Descriptor) : List (String × Classification) :=
  Classifier.empty.classifyAll (descriptors.map Descriptor.payload)

variable {config : Config} {descriptors : List Descriptor} {descriptor twin : Descriptor}
  {properties : List Property} {output : Output}

/-- The kind of a payload is the same whichever wrappers are classified with it. -/
theorem lookup_classifications (member : descriptor ∈ descriptors) :
    (classifications descriptors).lookup descriptor.payload =
      some (classify descriptor.payload) := by
  rw [classifications, Classifier.sound_empty.classifyAll]
  have present : descriptor.payload ∈ descriptors.map Descriptor.payload :=
    List.mem_map_of_mem member
  generalize descriptors.map Descriptor.payload = displays at present
  induction displays with
  | nil => cases present
  | cons display rest ih =>
    rw [List.map_cons, List.lookup_cons]
    cases same : descriptor.payload == display with
    | true =>
      rw [beq_iff_eq.mp same]
    | false =>
      have later := (List.mem_cons.mp present).resolve_left (by simpa using same)
      exact ih later

/-- Whether a wrapper is copied or out of reach does not count for what it has for itself. -/
theorem ownUnit?_congr (kind : OwnKind) (sameName : twin.typeName = descriptor.typeName)
    (sameScope : twin.scope? = descriptor.scope?)
    (samePayload : twin.payload = descriptor.payload) :
    ownUnit? kind twin = ownUnit? kind descriptor := by
  obtain ⟨typeName, payload, scope?, _, _⟩ := twin
  obtain ⟨_, _, _, _, _⟩ := descriptor
  cases sameName
  cases sameScope
  cases samePayload
  simp only [ownUnit?, Subject.of]
  cases CratePath.of scope? typeName with
  | error cause => rfl
  | ok wrapper =>
    rw [ok_bind, ok_bind]
    cases (Grammar.type? payload).isNone with
    | true => rfl
    | false =>
      cases payloadType (classify payload).kind wrapper (classify payload).inner with
      | error cause => rfl
      | ok inner => cases kind <;> rfl

/-- Of a wrapper's attempts only its own is of the kind, and it gives its own unit. -/
theorem keptBy_own (document : config.document = true) (kind : OwnKind) :
    keptBy (· = kind.unitKind) (unitsOf (wrapperUnits config descriptors descriptor)) =
      (ownUnit? kind descriptor).toList := by
  cases found : Subject.of descriptor (classify descriptor.payload) with
  | error cause =>
    rw [wrapperUnits, wrapperAttempts_of_failure found, ownUnit?, found]
    rfl
  | ok subject =>
    have own : ownUnit? kind descriptor =
        (GeneratedUnit.render descriptor.stem kind.unitKind (kind.code subject)).toOption := by
      rw [ownUnit?, found, ok_bind]
    have last : documentAttempt descriptor =
        GeneratedUnit.render descriptor.stem .document (Emit.document subject) := by
      rw [documentAttempt, found, ok_bind]
    rw [keptBy_wrapper found, document, last, own]
    cases kind <;> simp [OwnKind.unitKind, OwnKind.code, unitsOf_singleton, unitsOf_nil]

/-- The units of the kind are those that the wrappers have for themselves, in their order. -/
theorem units_of_own (document : config.document = true) (kind : OwnKind)
    (emitted : emit config descriptors properties = .ok output) :
    output.units.filter (·.kind = kind.unitKind) = descriptors.filterMap (ownUnit? kind) := by
  obtain ⟨extensions, extended, all, parts, rfl⟩ := emit_parts emitted
  have others (made : List Attempt) (other : UnitKind) (different : other ≠ kind.unitKind)
      (sort : ∀ unit, .ok unit ∈ made → unit.kind = other) :
      keptBy (· = kind.unitKind) (unitsOf made) = [] :=
    keptBy_of_others fun unit present => by simp [sort unit present, different]
  have kept : keptBy (· = kind.unitKind) (unitsOf all) =
      descriptors.flatMap fun descriptor => (ownUnit? kind descriptor).toList := by
    simp only [parts, unitsOf_append, keptBy_append, unitsOf_flatMap, keptBy_flatMap,
      keptBy_own document]
    rw [others extensions .extensions (by cases kind <;> decide)
        fun _ present => kind_of_extension extended present,
      others _ .entityConverters (by cases kind <;> decide) fun _ => kind_of_entityUnits,
      others _ .registration (by cases kind <;> decide) fun _ => kind_of_registrationUnits]
    simp only [List.append_nil]
  rw [List.filterMap_eq_flatMap_toList]
  exact kept

/-- What a pass has of the kind for one of its wrappers. -/
structure Owns (descriptors : List Descriptor) (output : Output) (kind : OwnKind)
    (descriptor : Descriptor) (own : Option GeneratedUnit) : Prop where
  /-- One classifier for all wrappers finds the kind of the payload. -/
  classified : (classifications descriptors).lookup descriptor.payload =
    some (classify descriptor.payload)
  named : ∀ unit, own = some unit → unit.kind = kind.unitKind ∧
    unit.name = GeneratedUnit.nameOf descriptor.stem kind.unitKind
  present : ∀ unit, own = some unit → unit ∈ output.units
  /-- The units of the kind before it are those of the wrappers before it, and those after it of
  the wrappers after it. -/
  place : ∀ before after, descriptors = before ++ descriptor :: after →
    output.units.filter (·.kind = kind.unitKind) =
      before.filterMap (ownUnit? kind) ++ own.toList ++ after.filterMap (ownUnit? kind)
  /-- No other unit has its name, if no other wrapper has the stem. -/
  sole : (∀ other ∈ descriptors, other.stem = descriptor.stem → other.key = descriptor.key) →
    ∀ unit ∈ output.units, unit.kind = kind.unitKind →
      unit.name = GeneratedUnit.nameOf descriptor.stem kind.unitKind → own = some unit

theorem named_of_own (made : ownUnit? kind descriptor = some unit) :
    unit.kind = kind.unitKind ∧ unit.name = GeneratedUnit.nameOf descriptor.stem kind.unitKind := by
  obtain ⟨subject, _, rendered⟩ := bind_eq_ok.mp (toOption_eq_some.mp made)
  rw [unit_eq_of_render rendered]
  exact ⟨rfl, rfl⟩

theorem owns_of_emit (document : config.document = true) (kind : OwnKind)
    (distinct : (descriptors.map Descriptor.key).Nodup) (member : descriptor ∈ descriptors)
    (emitted : emit config descriptors properties = .ok output) :
    Owns descriptors output kind descriptor (ownUnit? kind descriptor) where
  classified := lookup_classifications member
  named _ made := named_of_own made
  present unit made := by
    have kept : unit ∈ output.units.filter (·.kind = kind.unitKind) := by
      rw [units_of_own document kind emitted]
      exact List.mem_filterMap.mpr ⟨descriptor, member, made⟩
    exact (List.mem_filter.mp kept).1
  place before after split := by
    rw [units_of_own document kind emitted, split, List.filterMap_append, List.filterMap_cons,
      List.append_assoc]
    cases ownUnit? kind descriptor <;> rfl
  sole alone unit among sort named := by
    have kept : unit ∈ output.units.filter (·.kind = kind.unitKind) :=
      List.mem_filter.mpr ⟨among, by simpa using sort⟩
    rw [units_of_own document kind emitted] at kept
    obtain ⟨other, present, made⟩ := List.mem_filterMap.mp kept
    have stem : other.stem = descriptor.stem := by
      have same := (named_of_own made).2.symm.trans named
      simpa [GeneratedUnit.nameOf, String.append_assoc] using same
    have same : other = descriptor :=
      List.inj_on_of_nodup_map distinct present member (alone other present stem)
    rw [← same, made]

/-- What a wrapper has for itself is the same in all passes that have the wrapper, whatever else
they are over and however they are configured. -/
theorem own_units_unaffected
    (document : config.document = true) (otherDocument : otherConfig.document = true)
    (distinct : (descriptors.map Descriptor.key).Nodup)
    (otherDistinct : (others.map Descriptor.key).Nodup)
    (member : descriptor ∈ descriptors) (otherMember : twin ∈ others)
    (sameName : twin.typeName = descriptor.typeName) (sameScope : twin.scope? = descriptor.scope?)
    (samePayload : twin.payload = descriptor.payload)
    (emitted : emit config descriptors properties = .ok output)
    (otherEmitted : emit otherConfig others otherProperties = .ok otherOutput) (kind : OwnKind) :
    Owns descriptors output kind descriptor (ownUnit? kind descriptor) ∧
      Owns others otherOutput kind twin (ownUnit? kind descriptor) := by
  refine ⟨owns_of_emit document kind distinct member emitted, ?_⟩
  rw [← ownUnit?_congr kind sameName sameScope samePayload]
  exact owns_of_emit otherDocument kind otherDistinct otherMember otherEmitted

def copiedAge : Descriptor := ⟨"Age", "i32", none, true, true⟩

/-- The wrapper again, not copied and its payload within reach. -/
def openAge : Descriptor := ⟨"Age", "i32", none, false, false⟩

def openVector : Descriptor := ⟨"Broken", "Vec<", none, false, true⟩

/-- Neither the other wrapper nor the row of an entity changes the operators, the reading and the
document adapter, and there is a reading. -/
theorem own_units_of_age :
    (ownUnit? .parsing copiedAge).isSome = true ∧
    ∃ output other,
      emit {} [copiedAge] [⟨"Person", none, "age", "Age", none, false⟩] = .ok output ∧
      emit ⟨true, false⟩ [openVector, openAge] [] = .ok other ∧
      ∀ kind, Owns [copiedAge] output kind copiedAge (ownUnit? kind copiedAge) ∧
        Owns [openVector, openAge] other kind openAge (ownUnit? kind copiedAge) := by
  refine ⟨by decide +kernel, ?_⟩
  have words : ∀ group ∈ groups [openVector, openAge],
      isWord (Extension.traitName group) = true := by
    decide +kernel
  have word : ∀ group ∈ groups [copiedAge], isWord (Extension.traitName group) = true := by
    decide +kernel
  obtain ⟨output, emitted⟩ := emit_ends {} [⟨"Person", none, "age", "Age", none, false⟩] word
  obtain ⟨other, otherEmitted⟩ := emit_ends ⟨true, false⟩ [] words
  have member : openAge ∈ [openVector, openAge] := List.mem_cons_of_mem _ List.mem_cons_self
  refine ⟨output, other, emitted, otherEmitted, ?_⟩
  exact own_units_unaffected rfl rfl (by decide) (by decide) List.mem_cons_self member rfl rfl rfl
    emitted otherEmitted

end Generation

end ValueObjects
