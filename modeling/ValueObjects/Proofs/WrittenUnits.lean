import ValueObjects.Proofs.LegibleCode

namespace ValueObjects

open Token Lexer
open flat (flatAll)
open spell (spellAll)

/-- The header is a comment, and what follows it is read as it is at the head of a text. -/
theorem lexemes_header (settled : Settled text) (fuel : Nat) :
    lexemes (fuel + 2) (header.toList ++ '\n' :: text) = lexemes (fuel + 2) text := by
  have past : pastGaps (fuel + 2) (header.toList ++ '\n' :: text) = pastGaps (fuel + 2) text := by
    rw [pastGaps_settled settled]
    exact pastGaps_settled settled fuel
  rw [lexemes, lexemes, past]

namespace Legible

/-- The text of a unit is cut into the lexemes of its tokens. -/
theorem lexemes_written (legible : Legible tokens) (fuel : Nat) :
    Lexer.lexemes ((flatAll tokens).length + fuel + 4)
      (header.toList ++ '\n' :: (spellAll tokens ++ ['\n'])) = some (flatAll tokens) := by
  have stops : Literal.Break ['\n'] := .before (by decide)
  cases tokens with
  | nil =>
    rw [flatAll, List.length_nil, Nat.zero_add]
    rfl
  | cons token rest =>
    have ends : Lexer.lexemes (fuel + 4) ['\n'] = some [] := rfl
    rw [lexemes_header (legible.settled (List.cons_ne_nil _ _) stops), Nat.add_assoc,
      Nat.add_assoc, legible.lexemes stops, ends, Option.map_some, List.append_nil]

/-- Legible tokens are what is read from a unit that they are written as. -/
theorem tokens?_written (legible : Legible tokens) :
    Lexer.tokens? (header ++ "\n" ++ Token.render tokens ++ "\n") = some tokens := by
  have chars : (header ++ "\n" ++ Token.render tokens ++ "\n").toList =
      header.toList ++ '\n' :: (spellAll tokens ++ ['\n']) := by
    simp [Token.render]
  have head : pastOrderMark (header.toList ++ '\n' :: (spellAll tokens ++ ['\n'])) =
      header.toList ++ '\n' :: (spellAll tokens ++ ['\n']) := rfl
  have room : (flatAll tokens).length + 4 ≤
      (header.toList ++ '\n' :: (spellAll tokens ++ ['\n'])).length + 1 := by
    have begins : 0 < header.toList.length := by decide
    have enough := legible.length_flatAll
    simp only [List.length_append, List.length_cons, List.length_nil]
    omega
  obtain ⟨spare, fuel⟩ := Nat.exists_eq_add_of_le room
  have matched := assemble_flatAll tokens [] [] []
  rw [List.append_nil, List.append_nil] at matched
  rw [Lexer.tokens?, chars, head, fuel, Nat.add_right_comm, legible.lexemes_written,
    Option.bind_some, matched, assemble, List.reverse_reverse]
  rfl

end Legible

/-- A unit of legible tokens is read as the tokens, and as the items that they make up. -/
theorem read_render (legible : Legible tokens)
    (made : GeneratedUnit.render start kind tokens = .ok unit) :
    ∃ items, Grammar.items? tokens = some items ∧ Lexer.tokens? unit.contents = some tokens ∧
      unit.items? = some items := by
  have contents := unit_eq_of_render made
  have tokensRead : Lexer.tokens? unit.contents = some tokens := by
    rw [contents]
    exact legible.tokens?_written
  have begins : Grammar.pastInterpreter (pastOrderMark unit.contents.toList) =
      unit.contents.toList := by
    rw [contents]
    simp only [String.toList_append]
    rfl
  obtain ⟨items, valid⟩ : ∃ items, Grammar.items? tokens = some items := by
    unfold GeneratedUnit.render at made
    split at made
    · exact ⟨_, ‹_›⟩
    · cases made
  refine ⟨items, valid, tokensRead, ?_⟩
  rw [GeneratedUnit.items?, Grammar.sourceItems?, begins, String.ofList_toList, tokensRead,
    Option.bind_some, valid]

namespace Generation

open Emit

/-- The tokens that a pass checks and writes as a unit, with the stem and the kind of the unit. -/
inductive Emitted (config : Config) (descriptors : List Descriptor) (properties : List Property) :
    String → UnitKind → List Token → Prop where
  | operators (member : descriptor ∈ descriptors)
      (checked : Subject.of descriptor (classify descriptor.payload) = .ok subject) :
      Emitted config descriptors properties descriptor.stem .operators (operators subject)
  | parsing (member : descriptor ∈ descriptors)
      (checked : Subject.of descriptor (classify descriptor.payload) = .ok subject) :
      Emitted config descriptors properties descriptor.stem .parsing (parsing subject)
  | relational (enabled : config.relational = true) (member : descriptor ∈ descriptors)
      (checked : Subject.of descriptor (classify descriptor.payload) = .ok subject)
      (named : convertersOf (converterStem descriptors descriptor) = .ok converters) :
      Emitted config descriptors properties descriptor.stem .relational
        (relational subject converters)
  | document (enabled : config.document = true) (member : descriptor ∈ descriptors)
      (checked : Subject.of descriptor (classify descriptor.payload) = .ok subject) :
      Emitted config descriptors properties descriptor.stem .document (document subject)
  | extensions {group : Group} {found : Option Extension} (member : group ∈ groups descriptors)
      (checked : (group.members.mapM fun member =>
        Subject.of member (classify group.payload)) = .ok subjects)
      (made : Extension.of group subjects = .ok found) :
      Emitted config descriptors properties ("As" ++ group.name) .extensions
        (found.elim [] Extension.tokens)
  | entityConverters {found : Option EntityConverters} (enabled : config.relational = true)
      (member : rows ∈ byEntity properties)
      (made : EntityConverters.of (fun property =>
        stemOf (stems descriptors (groups descriptors)) (property.wrapperScope?, property.wrapperName))
        rows = .ok found) :
      Emitted config descriptors properties ((rows.head?.map Property.entityStem).getD "")
        .entityConverters (found.elim [] EntityConverters.tokens)
  | registration (enabled : config.document = true) :
      Emitted config descriptors properties "DocumentSerializers" .registration
        (registration (registered config descriptors))

variable {config : Config} {descriptors : List Descriptor} {descriptor : Descriptor}
  {properties : List Property} {output : Output}

theorem Emitted.legible (emitted : Emitted config descriptors properties start kind tokens) :
    Legible tokens := by
  cases emitted with
  | operators _ checked => exact legible_operators (Subject.isLegible_of checked)
  | parsing _ checked => exact legible_parsing (Subject.isLegible_of checked)
  | relational _ _ checked named =>
    obtain ⟨plain, first, later⟩ := bind_eq_ok.mp named
    obtain ⟨nullable, second, whole⟩ := bind_eq_ok.mp later
    cases whole
    exact legible_relational (Subject.isLegible_of checked) (legible_of_identifier first)
      (legible_of_identifier second)
  | document _ _ checked => exact legible_document (Subject.isLegible_of checked)
  | @extensions _ _ found _ checked made =>
    cases found with
    | none => exact .nil
    | some ext =>
      refine (Extension.isLegible_of ?_ made).tokens
      intro subject member
      obtain ⟨_, _, checked⟩ := item_of_mem checked member
      exact Subject.isLegible_of checked
  | @entityConverters _ found _ _ made =>
    cases found with
    | none => exact .nil
    | some converters => exact EntityConverters.legible_of made
  | registration _ =>
    apply legible_registration
    intro wrapper member
    obtain ⟨descriptor, _, subject, checked, rfl⟩ := mem_registered member
    exact (Subject.isLegible_of checked).wrapper

theorem emitted_of_wrapper (member : descriptor ∈ descriptors)
    (present : .ok unit ∈ wrapperUnits config descriptors descriptor) :
    ∃ start kind tokens, Emitted config descriptors properties start kind tokens ∧
      GeneratedUnit.render start kind tokens = .ok unit := by
  unfold wrapperUnits at present
  cases checked : Subject.of descriptor (classify descriptor.payload) with
  | error cause => simp [wrapperAttempts_of_failure checked] at present
  | ok subject =>
    simp only [wrapperAttempts, checked, List.mem_append, List.mem_cons, List.not_mem_nil,
      or_false] at present
    rcases present with ((made | made) | made) | made
    · exact ⟨_, _, _, .operators member checked, made.symm⟩
    · exact ⟨_, _, _, .parsing member checked, made.symm⟩
    · split at made
      · rename_i enabled
        obtain ⟨converters, named, rendered⟩ := bind_eq_ok.mp (List.mem_singleton.mp made).symm
        exact ⟨_, _, _, .relational enabled member checked named, rendered⟩
      · cases made
    · split at made
      · rename_i enabled
        exact ⟨_, _, _, .document enabled member checked, (List.mem_singleton.mp made).symm⟩
      · cases made

theorem emitted_of_group {group : Group} (member : group ∈ groups descriptors)
    (attempted : groupAttempt group = .ok (.ok unit)) :
    ∃ start kind tokens, Emitted config descriptors properties start kind tokens ∧
      GeneratedUnit.render start kind tokens = .ok unit := by
  unfold groupAttempt at attempted
  simp only at attempted
  split at attempted
  · rename_i made
    cases attempted
    obtain ⟨subjects, checked, later⟩ := bind_eq_ok.mp made
    obtain ⟨found, extended, rendered⟩ := bind_eq_ok.mp later
    refine ⟨_, _, _, .extensions member (lift_eq_ok.mp checked) extended, ?_⟩
    cases found <;> exact lift_eq_ok.mp rendered
  · cases attempted
  · cases attempted

theorem emitted_of_entity (enabled : config.relational = true) (member : rows ∈ byEntity properties)
    (attempted : entityAttempt (stems descriptors (groups descriptors)) rows = .ok unit) :
    ∃ start kind tokens, Emitted config descriptors properties start kind tokens ∧
      GeneratedUnit.render start kind tokens = .ok unit := by
  obtain ⟨found, made, rendered⟩ := bind_eq_ok.mp attempted
  refine ⟨_, _, _, .entityConverters enabled member made, ?_⟩
  cases found <;> exact rendered

/-- Each unit of a pass is written from tokens that one of the emitters made. -/
theorem emitted_of_mem (run : emit config descriptors properties = .ok output)
    (present : unit ∈ output.units) : ∃ start kind tokens,
      Emitted config descriptors properties start kind tokens ∧
      GeneratedUnit.render start kind tokens = .ok unit := by
  obtain ⟨extensions, extended, all, parts, rfl⟩ := emit_parts run
  have attempted := mem_unitsOf.mp present
  rw [parts] at attempted
  simp only [List.mem_append, List.mem_flatMap] at attempted
  rcases attempted with ((⟨descriptor, member, made⟩ | extension) | entity) | registration
  · exact emitted_of_wrapper member made
  · obtain ⟨group, member, made⟩ := item_of_mem extended extension
    exact emitted_of_group member made
  · unfold entityUnits at entity
    split at entity
    · rename_i enabled
      obtain ⟨rows, member, made⟩ := List.mem_map.mp entity
      exact emitted_of_entity enabled member made
    · cases entity
  · unfold registrationUnits at registration
    split at registration
    · rename_i enabled
      exact ⟨_, _, _, .registration enabled, (List.mem_singleton.mp registration).symm⟩
    · cases registration

/-- Whether a unit is written from tokens that the pass made, and whether these tokens, and the
items that were checked, are what is read from its text. -/
structure ReadsBack (config : Config) (descriptors : List Descriptor) (properties : List Property)
    (unit : GeneratedUnit) : Prop where
  made : ∃ start kind tokens, Emitted config descriptors properties start kind tokens ∧
    GeneratedUnit.render start kind tokens = .ok unit
  read : ∀ start kind tokens, Emitted config descriptors properties start kind tokens →
    GeneratedUnit.render start kind tokens = .ok unit →
    ∃ items, Grammar.items? tokens = some items ∧ Lexer.tokens? unit.contents = some tokens ∧
      unit.items? = some items

/-- What is written as a unit is read back as what was checked. -/
theorem emit_reads_back (run : emit config descriptors properties = .ok output)
    (present : unit ∈ output.units) : ReadsBack config descriptors properties unit where
  made := emitted_of_mem run present
  read _ _ _ emitted made := read_render emitted.legible made

private theorem emit_octet_unit :
    ((emit {} [⟨"Octet", "u8", none, false, true⟩] []).toOption.bind fun output =>
      output.units.head?).isSome = true := by
  decide +kernel

/-- The first unit of the pass over a wrapper of an octet. -/
theorem emit_reads_back_octet : ∃ output unit,
    emit {} [⟨"Octet", "u8", none, false, true⟩] [] = .ok output ∧ unit ∈ output.units ∧
      ReadsBack {} [⟨"Octet", "u8", none, false, true⟩] [] unit := by
  obtain ⟨unit, found⟩ := Option.isSome_iff_exists.mp emit_octet_unit
  obtain ⟨output, ended, first⟩ := Option.bind_eq_some_iff.mp found
  have run := toOption_eq_some.mp ended
  have present := List.mem_of_head? first
  exact ⟨output, unit, run, present, emit_reads_back run present⟩

end Generation

end ValueObjects
