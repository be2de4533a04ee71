import ValueObjects.Proofs.ConverterNames
import ValueObjects.Proofs.LegibleTypes
import ValueObjects.Proofs.Pass
import ValueObjects.Proofs.WordCases

namespace ValueObjects

open Text Literal

namespace Naming

theorem lasting_word : Lasting (isIdentContinue · = true) where
  upper _ _ := isIdentContinue_of_mem_upper
  digit c digit := isIdentContinue_of_isHexDigit (isHexDigit_of_isDigit digit)
  root := List.all_iff_forall_prop.mp (by decide)

theorem upper_ne_nil (c : Char) : upper c ≠ [] := by
  rw [upper]
  split
  · exact List.cons_ne_nil _ _
  · have filled : ∀ entry ∈ upperExpansions, entry.2 ≠ [] := by decide
    rcases mapCase_cases upperRuns upperExpansions c with ⟨codes, expansion, same⟩ |
      ⟨_, _, _, _, same⟩ | same
    · rw [same]
      simpa using filled _ expansion
    · simp [same]
    · simp [same]

theorem head?_pieces (test : Char → Bool) (text : List Char) :
    ((pieces test text).flatMap capitalized).head? =
      (text.find? (!test ·)).bind fun c => (upper c).head? := by
  induction text with
  | nil => rfl
  | cons c rest ih =>
    cases cut : test c with
    | true =>
      have skipped : pieces test (c :: rest) = pieces test rest := by
        rw [pieces, cutAt, if_pos cut]
        rfl
      rw [skipped, ih, List.find?_cons_of_neg (by simp [cut])]
    | false =>
      have begins : ∃ piece later, pieces test (c :: rest) = (c :: piece) :: later := by
        rw [pieces, cutAt, if_neg (by simp [cut])]
        cases cutAt test rest with
        | nil => exact ⟨[], [], rfl⟩
        | cons piece more => exact ⟨piece, _, rfl⟩
      obtain ⟨piece, later, split⟩ := begins
      rw [split, List.find?_cons_of_pos (by simp [cut]), List.flatMap_cons, capitalized,
        List.append_assoc, List.head?_append_of_ne_nil _ (upper_ne_nil c)]
      rfl

theorem head?_upperCamel (name : String) :
    (upperCamel name).toList.head? =
      ((unraw name).toList.find? (· != '_')).bind fun c => (upper c).head? := by
  rw [upperCamel, String.toList_ofList]
  exact head?_pieces (· == '_') _

end Naming

namespace Generation

open Emit Naming

/-- The first character but underscores of the names on the path to a wrapper in a module. -/
def leading (path typeName : String) : Option Char :=
  ((steps path ++ [typeName]).flatMap fun name => (unraw name).toList).find? (· != '_')

/-- Whether a text begins as a word does, if it begins at all. -/
def BeginsWord (text : String) : Prop :=
  ∀ c ∈ text.toList.head?, isIdentStart c = true

/-- What lets the stem of a wrapper begin as a word does. -/
inductive WellBegun (descriptor : Descriptor) (stem : String) : Prop where
  | empty (none : stem = "")
  | own (same : stem = unraw descriptor.typeName)
  /-- The stem begins with the name of the crate root. -/
  | root (outside : descriptor.scope? = none)
  /-- The first character of the names that is no underscore begins a word in upper case. -/
  | letter (inside : descriptor.scope? = some path)
      (first : leading path descriptor.typeName = some c)
      (start : ∀ d ∈ (upper c).head?, isIdentStart d = true)

variable {descriptors : List Descriptor} {descriptor : Descriptor}

theorem findSome?_bind {names : List α} {found : α → Option β} {next : β → Option γ}
    (total : ∀ value, next value ≠ none) :
    names.findSome? (fun name => (found name).bind next) = (names.findSome? found).bind next := by
  induction names with
  | nil => rfl
  | cons name rest ih =>
    cases first : found name with
    | none => simp [first, ih]
    | some value =>
      obtain ⟨last, given⟩ := Option.ne_none_iff_exists'.mp (total value)
      simp [first, given]

theorem head?_qualifiedStem (inside : descriptor.scope? = some path) :
    (qualifiedStem descriptor).toList.head? =
      (leading path descriptor.typeName).bind fun c => (upper c).head? := by
  have whole : (qualifiedStem descriptor).toList =
      (steps path ++ [descriptor.typeName]).flatMap fun name => (upperCamel name).toList := by
    rw [qualifiedStem, inside, namespaceName, String.toList_append, String.toList_join,
      List.flatMap_map, List.flatMap_append, List.flatMap_singleton]
  rw [whole, List.head?_flatMap, leading, List.find?_flatMap]
  simp only [head?_upperCamel]
  exact findSome?_bind fun c => by simpa using upper_ne_nil c

/-! The first character of a stem. -/

theorem beginsWord_of_cons (same : stem.toList = c :: rest) :
    BeginsWord stem ↔ isIdentStart c = true := by
  simp [BeginsWord, same]

theorem beginsWord_own (identified : Identified descriptor) :
    BeginsWord (unraw descriptor.typeName) := by
  obtain ⟨c, rest, same, start, -⟩ := identified.word List.mem_cons_self
  exact (beginsWord_of_cons same).mpr start

/-- Counting puts a number behind the stem. -/
theorem Counting.digits (counting : Counting taken stem n found) :
    ∃ number, found = stem ++ number ∧ ∀ c ∈ number.toList, c.isDigit = true := by
  induction counting with
  | @free n _ =>
    refine ⟨toString n, rfl, fun c member => ?_⟩
    rw [Nat.toString_eq_repr, Nat.toList_repr] at member
    exact Nat.isDigit_of_mem_toDigits (by decide) (by decide) member
  | next _ _ ih => exact ih

/-- A stem is the name of the type, or the qualified one with a number behind it or nothing. -/
theorem Choice.form (choice : Choice descriptors taken descriptor stem) :
    stem = unraw descriptor.typeName ∨
      ∃ number, stem = qualifiedStem descriptor ++ number ∧
        ∀ c ∈ number.toList, c.isDigit = true := by
  cases choice with
  | preferred _ =>
    unfold preferredStem
    split
    · exact .inr ⟨"", String.append_empty.symm, by simp⟩
    · exact .inl rfl
  | qualified _ _ => exact .inr ⟨"", String.append_empty.symm, by simp⟩
  | numbered _ _ counting => exact .inr counting.digits

theorem head?_append (first second : String) :
    (first ++ second).toList.head? = first.toList.head?.or second.toList.head? := by
  rw [String.toList_append, List.head?_append]

/-- Which stems of wrappers of identifiers begin as words do. -/
theorem beginsWord_iff (identified : Identified descriptor)
    (choice : Choice descriptors taken descriptor stem) :
    BeginsWord stem ↔ WellBegun descriptor stem := by
  rcases choice.form with rfl | ⟨number, rfl, digits⟩
  · exact ⟨fun _ => .own rfl, fun _ => beginsWord_own identified⟩
  constructor
  · intro begins
    cases inside : descriptor.scope? with
    | none => exact .root inside
    | some path =>
      rw [BeginsWord, head?_append, head?_qualifiedStem inside] at begins
      cases first : leading path descriptor.typeName with
      | some c =>
        refine .letter inside first fun d head => begins d ?_
        rw [first, Option.bind_some, Option.mem_def.mp head, Option.some_or]
        rfl
      | none =>
        rw [first, Option.bind_none, Option.none_or] at begins
        have bare : qualifiedStem descriptor = "" := by
          apply String.toList_inj.mp
          apply List.head?_eq_none_iff.mp
          rw [head?_qualifiedStem inside, first, Option.bind_none]
        cases spelled : number.toList with
        | nil =>
          have nothing : number = "" := String.toList_inj.mp spelled
          exact .empty (by rw [bare, nothing, String.empty_append])
        | cons c rest =>
          -- a number behind nothing begins no word
          have digit := digits c (spelled ▸ List.mem_cons_self)
          have start := begins c (by rw [spelled]; rfl)
          cases start.symm.trans (isIdentStart_of_isDigit digit)
  · intro well
    cases well with
    | empty none =>
      rw [none]
      exact fun c member => by cases member
    | own same =>
      rw [same]
      exact beginsWord_own identified
    | root outside =>
      have same : (qualifiedStem descriptor ++ number).toList =
          'C' :: ("rate".toList ++ (upperCamel descriptor.typeName).toList ++ number.toList) := by
        rw [qualifiedStem, outside, namespaceName, String.toList_append, String.toList_append]
        rfl
      exact (beginsWord_of_cons same).mpr (by decide)
    | @letter path c inside first start =>
      obtain ⟨d, rest, split⟩ := List.exists_cons_of_ne_nil (upper_ne_nil c)
      rw [BeginsWord, head?_append, head?_qualifiedStem inside, first, Option.bind_some]
      rw [split] at start ⊢
      exact start

/-! The names of converters. -/

theorem isWord_converterSuffix (nullable : Bool) : IsWord (converterSuffix nullable).toList := by
  cases nullable with
  | false =>
    exact ⟨'C', "onverter".toList, rfl, by decide, List.all_iff_forall_prop.mp (by decide)⟩
  | true =>
    exact ⟨'N', "ullableConverter".toList, rfl, by decide, List.all_iff_forall_prop.mp (by decide)⟩

/-- No reserved word ends as the names of converters do. -/
theorem converterName_free (stem : String) (nullable : Bool) :
    stem ++ converterSuffix nullable ∉ Grammar.reserved := by
  have free : ∀ word ∈ Grammar.reserved, ¬"Converter".toList <:+ word.toList := by decide
  have ends : "Converter".toList <:+ (converterSuffix nullable).toList := by
    cases nullable with
    | false => exact List.suffix_refl _
    | true => exact List.suffix_append "Nullable".toList _
  intro taken
  apply free _ taken
  rw [String.toList_append]
  exact ends.trans (List.suffix_append _ _)

section

variable {stem : String} (parts : ∀ c ∈ stem.toList, isIdentContinue c = true)

include parts

/-- A stem of characters of words gives a name to a converter if it begins as a word does. -/
theorem converterName_of_beginsWord (begins : BeginsWord stem) (nullable : Bool) :
    converterName stem nullable = .ok (stem ++ converterSuffix nullable) := by
  apply identifier_eq_ok.mpr
  apply Grammar.name?_eq_self_iff.mpr
  refine ⟨.plain ?_, converterName_free stem nullable⟩
  have suffix := isWord_converterSuffix nullable
  rw [String.toList_append]
  cases spelled : stem.toList with
  | nil => exact suffix
  | cons c rest =>
    refine ⟨c, rest ++ (converterSuffix nullable).toList, rfl, ?_, ?_⟩
    · exact (beginsWord_of_cons spelled).mp begins
    · intro d member
      rcases List.mem_append.mp member with own | last
      · exact parts d (spelled ▸ List.mem_cons_of_mem _ own)
      · exact isIdentContinue_of_mem_word suffix d last

theorem converterName_of_not_beginsWord (unfit : ¬BeginsWord stem) (nullable : Bool) :
    converterName stem nullable =
      .error (.invalidIdentifier (stem ++ converterSuffix nullable) "converter name") := by
  cases made : converterName stem nullable with
  | error cause =>
    unfold converterName identifier at made
    split at made
    · cases made
    · exact made.symm
  | ok name =>
    have solid : Solid stem.toList := fun c member => isSolid_of_isIdentContinue (parts c member)
    have found := identifier_eq_ok.mp made
    obtain ⟨d, more, same, start⟩ := (Grammar.isName_of_name? found).1.start
    rw [converterName_eq solid made, String.toList_append] at same
    refine (unfit ?_).elim
    cases spelled : stem.toList with
    | nil => exact fun c member => by rw [spelled] at member; cases member
    | cons c rest =>
      rw [spelled] at same
      cases same
      exact (beginsWord_of_cons spelled).mpr start

end

/-! The relational units. -/

theorem path_of_identified (identified : Identified descriptor) :
    ∃ path, CratePath.of descriptor.scope? descriptor.typeName = .ok path := by
  have last : identifier descriptor.typeName "type name" = .ok descriptor.typeName :=
    identifier_eq_ok.mpr (identified _ List.mem_cons_self)
  cases inside : descriptor.scope? with
  | none =>
    rw [CratePath.of, last]
    exact ⟨_, rfl⟩
  | some path =>
    have each : ∀ step ∈ steps path, ∃ spelled, identifier step "namespace" = .ok spelled := by
      intro step among
      exact ⟨step, identifier_eq_ok.mpr (identified step (by simp [pathNames, inside, among]))⟩
    obtain ⟨leading, found⟩ := mapM_ends_iff.mpr each
    rw [CratePath.of, found, last]
    exact ⟨_, rfl⟩

theorem subject_spares_names (identified : Identified descriptor) (name use : String) :
    Subject.of descriptor classification ≠ .error (.invalidIdentifier name use) := by
  intro failed
  obtain ⟨path, written⟩ := path_of_identified identified
  cases unfit_of_subject failed with
  | path unnamed => cases unnamed.symm.trans written

/-- What becomes of the converters of a wrapper whose names are identifiers. -/
structure ConverterOutcome (descriptors : List Descriptor) (descriptor : Descriptor) : Prop where
  /-- The names of the converters are the ones that the stem gives if it begins as a word does, and
  then the relational unit is not lost to a name. -/
  named : BeginsWord (converterStem descriptors descriptor) →
    convertersOf (converterStem descriptors descriptor) =
      .ok ⟨converterStem descriptors descriptor ++ "Converter",
        converterStem descriptors descriptor ++ "NullableConverter"⟩ ∧
    ∀ name use, relationalAttempt descriptors descriptor ≠ .error (.invalidIdentifier name use)
  /-- Otherwise the relational unit of each wrapper that is checked is lost to a name. -/
  lost : ¬BeginsWord (converterStem descriptors descriptor) →
    ∀ subject, Subject.of descriptor (classify descriptor.payload) = .ok subject →
      relationalAttempt descriptors descriptor = .error
        (.invalidIdentifier (converterStem descriptors descriptor ++ "Converter") "converter name")
  begins : BeginsWord (converterStem descriptors descriptor) ↔
    WellBegun descriptor (converterStem descriptors descriptor)
  letter : ∀ path c, descriptor.scope? = some path →
    leading path descriptor.typeName = some c → isIdentStart c = true →
      BeginsWord (converterStem descriptors descriptor)

/-- The converters of a wrapper of identifiers are named after its stem, unless the stem begins
as no word does. -/
theorem converters_of_identifiers (distinct : (descriptors.map Descriptor.key).Nodup)
    (identified : Identified descriptor) (member : descriptor ∈ descriptors) :
    ConverterOutcome descriptors descriptor := by
  obtain ⟨earlier, choice⟩ := choice_of_stem distinct (groups descriptors) member
  have parts : ∀ c ∈ (converterStem descriptors descriptor).toList, isIdentContinue c = true := by
    apply choice.keeps lasting_word
    exact fun name among => isIdentContinue_of_mem_word (identified.word among)
  have begins := beginsWord_iff identified choice
  exact {
    named := by
      intro fit
      have both : convertersOf (converterStem descriptors descriptor) =
          .ok ⟨converterStem descriptors descriptor ++ "Converter",
            converterStem descriptors descriptor ++ "NullableConverter"⟩ := by
        rw [convertersOf, converterName_of_beginsWord parts fit,
          converterName_of_beginsWord parts fit]
        rfl
      refine ⟨both, fun name use failed => ?_⟩
      rcases bind_eq_error.mp failed with unchecked | ⟨subject, _, later⟩
      · exact subject_spares_names identified name use unchecked
      · rw [both, ok_bind, GeneratedUnit.render] at later
        split at later <;> cases later
    lost := by
      intro unfit subject checked
      rw [relationalAttempt, checked, ok_bind, convertersOf,
        converterName_of_not_beginsWord parts unfit]
      rfl
    begins := begins
    letter := by
      intro path c inside first start
      exact begins.mpr (.letter inside first fun d head => isIdentStart_of_head_upper start head) }

/-- Two wrappers of one name in modules that are named by a number behind an underscore. -/
def underscored : List Descriptor := [
  ⟨"_1", "u8", some "_2", false, true⟩, ⟨"_1", "u8", some "_3", false, true⟩]

/-- The stem leaves the underscore out, and both relational units are lost to a name. -/
theorem relational_lost_underscored :
    (underscored.map Descriptor.key).Nodup ∧
    (∀ descriptor ∈ underscored, ∀ name ∈ pathNames descriptor,
      Grammar.name? name = some name) ∧
    failuresOf (underscored.map (relationalAttempt underscored)) = [
      .invalidIdentifier "21Converter" "converter name",
      .invalidIdentifier "31Converter" "converter name"] := by
  refine ⟨by decide, by decide, rfl⟩

theorem converters_of_identifiers_underscored :
    (underscored.map Descriptor.key).Nodup ∧
    ∀ descriptor ∈ underscored,
      Identified descriptor ∧ ConverterOutcome underscored descriptor := by
  have distinct : (underscored.map Descriptor.key).Nodup := by decide
  have words : ∀ descriptor ∈ underscored, ∀ name ∈ pathNames descriptor,
      isWord name = true ∧ name ∉ Grammar.reserved := by
    decide
  refine ⟨distinct, fun descriptor member => ?_⟩
  have identified : Identified descriptor := fun name among =>
    have ⟨word, free⟩ := words descriptor member name among
    Grammar.name?_eq_self_iff.mpr ⟨isName_of_isWord word, free⟩
  exact ⟨identified, converters_of_identifiers distinct identified member⟩

end Generation

end ValueObjects
