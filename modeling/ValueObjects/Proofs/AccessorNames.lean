import ValueObjects.Proofs.ConverterNames
import ValueObjects.Proofs.Groups
import ValueObjects.Proofs.Pass
/-!
The methods of a holder. A method is named after the accessor that it is, and only the accessors
can share a name: the module in front of one may make it another's, and so may the underscore
behind a word that has no raw form.
-/
namespace ValueObjects

open Text Literal Emit Naming

/-! Names of methods. -/

namespace Emit

open Lexer (neverRaw IsName)
open Grammar (reserved)

/-- The name that a method is given: a reserved word gets the mark of raw identifiers, or an
underscore if it has no raw form. -/
def methodName (name : String) : String :=
  if name ∈ neverRaw then name ++ "_"
  else if name ∈ reserved then "r#" ++ name
  else name

/-- Whether a text is solid and has no number sign in it. -/
def IsPlainText (name : String) : Prop :=
  ∀ c ∈ name.toList, isSolid c = true ∧ c ≠ '#'

instance : Decidable (IsPlainText name) :=
  decidable_of_iff _ List.all_iff_forall_prop

theorem plain_underscore : IsPlainText "_" := by
  decide

theorem IsPlainText.solid (plain : IsPlainText name) : Solid name.toList :=
  fun c member => (plain c member).1

theorem IsPlainText.append (first : IsPlainText before) (second : IsPlainText after) :
    IsPlainText (before ++ after) := by
  intro c member
  rw [String.toList_append] at member
  rcases List.mem_append.mp member with early | late
  · exact first c early
  · exact second c late

theorem IsPlainText.intercalate (between : IsPlainText separator) {names : List String}
    (each : ∀ name ∈ names, IsPlainText name) : IsPlainText (separator.intercalate names) := by
  induction names with
  | nil => exact nofun
  | cons name rest ih =>
    cases rest with
    | nil =>
      rw [String.intercalate_singleton]
      exact each name List.mem_cons_self
    | cons next more =>
      rw [String.intercalate_cons_cons]
      have later := ih fun other among => each other (List.mem_cons_of_mem _ among)
      exact ((each name List.mem_cons_self).append between).append later

/-- The words without a raw form are reserved, and behind an underscore they are not. -/
theorem neverRaw_reserved : ∀ word ∈ neverRaw, word ∈ reserved ∧ word ++ "_" ∉ reserved := by
  decide

theorem methodName_free (free : name ∉ reserved) : methodName name = name := by
  rw [methodName, if_neg fun never => free (neverRaw_reserved _ never).1, if_neg free]

/-- A name without a number sign is spelled as a word. -/
theorem isWord_of_plain (plain : IsPlainText name) (spelled : IsName name.toList) :
    IsWord name.toList := by
  generalize same : name.toList = text at spelled
  cases spelled with
  | plain word => exact word
  | raw word => exact ((plain '#' (by simp [same])).2 rfl).elim

/-- What is no identifier though it is a word is a reserved word. -/
theorem reserved_of_none (word : IsWord name.toList) (none : Grammar.name? name = none) :
    name ∈ reserved := by
  by_contra free
  cases none.symm.trans (Grammar.name?_eq_self_iff.mpr ⟨.plain word, free⟩)

/-- A word is raw exactly if it has a raw form. -/
theorem name?_raw_iff (plain : IsPlainText name) :
    Grammar.name? ("r#" ++ name) = some spelled ↔
      spelled = "r#" ++ name ∧ IsWord name.toList ∧ name ∉ neverRaw := by
  have marked : ("r#" ++ name).toList = 'r' :: '#' :: name.toList := by simp
  constructor
  · intro found
    have solid : Solid ("r#" ++ name).toList := by
      rw [String.toList_append]
      exact Solid.append (solid_of_all (by decide)) plain.solid
    obtain rfl := Grammar.name?_eq_self solid found
    have spelled := (Grammar.isName_of_name? found).1
    rw [marked] at spelled
    refine ⟨rfl, ?_⟩
    cases spelled with
    | plain word => cases isIdentContinue_of_mem_word word '#' (by simp)
    | raw word allowed => exact ⟨word, by rwa [String.ofList_toList] at allowed⟩
  · rintro ⟨rfl, word, allowed⟩
    have free : ∀ word ∈ reserved, ¬['r', '#'] <+: word.toList := by decide
    apply Grammar.name?_eq_self_iff.mpr
    rw [marked]
    refine ⟨.raw word (by rwa [String.ofList_toList]), fun taken => free _ taken ?_⟩
    rw [marked]
    exact List.prefix_append ['r', '#'] _

/-- What is a method under no other name gets an underscore, and it is a word. -/
theorem isWord_of_marked (plain : IsPlainText name)
    (found : Grammar.name? (name ++ "_") = some spelled) :
    spelled = name ++ "_" ∧ IsWord name.toList := by
  obtain rfl := Grammar.name?_eq_self (plain.append plain_underscore).solid found
  obtain ⟨named, free⟩ := Grammar.isName_of_name? found
  obtain ⟨c, rest, same, start, later⟩ := isWord_of_plain (plain.append plain_underscore) named
  rw [String.toList_append] at same
  refine ⟨rfl, ?_⟩
  cases spelled : name.toList with
  | nil =>
    rw [String.toList_inj.mp (spelled.trans String.toList_empty.symm)] at free
    exact absurd (by decide) free
  | cons d more =>
    rw [spelled] at same
    cases same
    exact ⟨c, more, rfl, start, fun e member => later e (List.mem_append_left _ member)⟩

/-- The name of a method that can be made. -/
theorem methodIdentifier_eq (plain : IsPlainText name) (made : methodIdentifier name = .ok method) :
    method = methodName name := by
  unfold methodIdentifier at made
  split at made
  · rename_i found
    cases made
    obtain rfl := Grammar.name?_eq_self plain.solid found
    exact (methodName_free (Grammar.isName_of_name? found).2).symm
  · rename_i unread
    split at made
    · rename_i found
      cases made
      obtain ⟨rfl, word, allowed⟩ := (name?_raw_iff plain).mp found
      rw [methodName, if_neg allowed, if_pos (reserved_of_none word unread)]
    · rename_i unmarked
      obtain ⟨rfl, word⟩ := isWord_of_marked plain (identifier_eq_ok.mp made)
      have never : name ∈ neverRaw := by
        by_contra allowed
        cases unmarked.symm.trans ((name?_raw_iff plain).mpr ⟨rfl, word, allowed⟩)
      rw [methodName, if_pos never]

theorem methodName_cases (name : String) :
    (name ∈ neverRaw ∧ methodName name = name ++ "_") ∨
      methodName name = "r#" ++ name ∨ methodName name = name := by
  unfold methodName
  split
  · rename_i never
    exact .inl ⟨never, rfl⟩
  · split
    · exact .inr (.inl rfl)
    · exact .inr (.inr rfl)

theorem IsPlainText.ne_raw (plain : IsPlainText name) (other : String) : "r#" ++ other ≠ name := by
  rintro rfl
  exact (plain '#' (by simp)).2 rfl

/-- Two names make one method exactly if they are one, or the underscore behind a word that has no
raw form makes it the other. -/
theorem methodName_eq_iff (plain : IsPlainText first) (otherPlain : IsPlainText second) :
    methodName first = methodName second ↔
      first = second ∨ (first ∈ neverRaw ∧ second = first ++ "_") ∨
        (second ∈ neverRaw ∧ first = second ++ "_") := by
  constructor
  · intro same
    rcases methodName_cases first with ⟨never, one⟩ | one | one
    · rcases methodName_cases second with ⟨_, two⟩ | two | two
      · rw [one, two] at same
        exact .inl ((String.append_left_inj "_").mp same)
      · rw [one, two] at same
        exact ((plain.append plain_underscore).ne_raw second same.symm).elim
      · rw [one, two] at same
        exact .inr (.inl ⟨never, same.symm⟩)
    · rcases methodName_cases second with ⟨_, two⟩ | two | two
      · rw [one, two] at same
        exact ((otherPlain.append plain_underscore).ne_raw first same).elim
      · rw [one, two] at same
        exact .inl ((String.append_right_inj "r#").mp same)
      · rw [one, two] at same
        exact (otherPlain.ne_raw first same).elim
    · rcases methodName_cases second with ⟨never, two⟩ | two | two
      · rw [one, two] at same
        exact .inr (.inr ⟨never, same⟩)
      · rw [one, two] at same
        exact (plain.ne_raw second same.symm).elim
      · rw [one, two] at same
        exact .inl same
  · rintro (rfl | ⟨never, rfl⟩ | ⟨never, rfl⟩)
    · rfl
    · rw [methodName_free (neverRaw_reserved _ never).2, methodName, if_pos never]
    · rw [methodName_free (neverRaw_reserved _ never).2, methodName, if_pos never]

end Emit

/-! Names of accessors. -/

namespace Emit.Extension

open Generation (pathNames Identified)
open Lexer (neverRaw)

/-- The name of an accessor without its module. -/
def baseName (member : Descriptor) : String :=
  snakeCase member.typeName

/-- The name of an accessor behind that of its module. -/
def scopedName (member : Descriptor) : String :=
  scopeName member.scope? ++ "_" ++ baseName member

/-- Whether the accessor of a member is named after its module: the holder has a method of its own
under the other name, or another member would have the same. -/
def Scoped (members : List Descriptor) (member : Descriptor) : Prop :=
  baseName member ∈ ownMethods ∨
    ∃ other ∈ members, other ≠ member ∧ baseName other = baseName member

/-- The ways in which the accessor of one member gets the name of another's. -/
inductive AccessorClash (members : List Descriptor) (first second : Descriptor) : Prop where
  /-- Both names begin with those of modules. -/
  | modules (one : Scoped members first) (two : Scoped members second)
      (same : scopedName first = scopedName second)
  /-- The name behind that of a module is a plain one. -/
  | base (one : Scoped members first) (two : ¬Scoped members second)
      (same : scopedName first = baseName second)
  /-- One name is a word that has no raw form, and the other is it with the underscore behind it. -/
  | word (never : accessorName members first ∈ neverRaw)
      (same : accessorName members second = accessorName members first ++ "_")

variable {members : List Descriptor} {member first second : Descriptor}

theorem plain_snakeAfter (plain : ∀ c ∈ text, isSolid c = true ∧ c ≠ '#') (before : Option Char) :
    ∀ c ∈ snakeAfter before text, isSolid c = true ∧ c ≠ '#' := by
  induction text generalizing before with
  | nil => exact nofun
  | cons d rest ih =>
    have own := plain d List.mem_cons_self
    intro c member
    rw [snakeAfter] at member
    rcases List.mem_append.mp member with word | later
    · split at word
      · rcases List.mem_append.mp word with boundary | inner
        · split at boundary
          · obtain rfl := List.mem_singleton.mp boundary
            decide
          · cases boundary
        · refine ⟨isSolid_of_mem_lower own.1 inner, ?_⟩
          rintro rfl
          exact own.2 (eq_of_hash_mem_lower inner)
      · obtain rfl := List.mem_singleton.mp word
        exact own
    · exact ih (fun c inner => plain c (List.mem_cons_of_mem _ inner)) _ c later

theorem plain_snakeCase (identified : Identified member) (among : name ∈ pathNames member) :
    IsPlainText (snakeCase name) := by
  unfold IsPlainText
  rw [snakeCase, String.toList_ofList]
  refine plain_snakeAfter (fun c inner => ?_) none
  have part := isIdentContinue_of_mem_word (identified.word among) c inner
  refine ⟨isSolid_of_isIdentContinue part, ?_⟩
  rintro rfl
  cases part

theorem plain_scopeName (identified : Identified member) :
    IsPlainText (scopeName member.scope?) := by
  cases inside : member.scope? with
  | none => decide
  | some path =>
    rw [scopeName]
    refine plain_underscore.intercalate fun name among => ?_
    obtain ⟨step, own, rfl⟩ := List.mem_map.mp among
    exact plain_snakeCase identified (by simp [pathNames, inside, own])

theorem plain_accessorName (identified : Identified member) :
    IsPlainText (accessorName members member) := by
  have base := plain_snakeCase identified List.mem_cons_self
  unfold accessorName
  dsimp only
  split
  · exact ((plain_scopeName identified).append plain_underscore).append base
  · exact base

section

variable (distinct : members.Nodup) (present : member ∈ members)

include distinct present

theorem scoped_iff :
    (members.countP (fun other => snakeCase other.typeName == baseName member) > 1 ||
      ownMethods.contains (baseName member)) = true ↔ Scoped members member := by
  rw [Bool.or_eq_true, decide_eq_true_iff, gt_iff_lt,
    Generation.one_lt_countP_iff distinct present (by simp [baseName]), List.contains_iff_mem,
    or_comm]
  simp only [beq_iff_eq, Scoped, baseName]

theorem accessorName_of_scoped (taken : Scoped members member) :
    accessorName members member = scopedName member :=
  if_pos ((scoped_iff distinct present).mpr taken)

theorem accessorName_of_not_scoped (free : ¬Scoped members member) :
    accessorName members member = baseName member :=
  if_neg (mt (scoped_iff distinct present).mp free)

end

/-- No accessor has the name of a method that every holder has. -/
theorem methodName_not_own (distinct : members.Nodup) (present : member ∈ members) :
    methodName (accessorName members member) ∉ ownMethods := by
  have apart : ∀ own ∈ ownMethods, '_' ∉ own.toList ∧ '#' ∉ own.toList := by decide
  intro own
  rcases methodName_cases (accessorName members member) with ⟨_, same⟩ | same | same
  · rw [same] at own
    exact (apart _ own).1 (by simp)
  · rw [same] at own
    exact (apart _ own).2 (by simp)
  · rw [same] at own
    by_cases taken : Scoped members member
    · rw [accessorName_of_scoped distinct present taken, scopedName] at own
      exact (apart _ own).1 (by simp)
    · rw [accessorName_of_not_scoped distinct present taken] at own
      exact taken (.inl own)

theorem methodName_of_clash (distinct : members.Nodup) (present : first ∈ members)
    (otherPresent : second ∈ members) (clash : AccessorClash members first second) :
    methodName (accessorName members first) = methodName (accessorName members second) := by
  cases clash with
  | modules one two same =>
    rw [accessorName_of_scoped distinct present one,
      accessorName_of_scoped distinct otherPresent two, same]
  | base one two same =>
    rw [accessorName_of_scoped distinct present one,
      accessorName_of_not_scoped distinct otherPresent two, same]
  | word never same =>
    rw [same, methodName_free (neverRaw_reserved _ never).2, methodName, if_pos never]

/-- Two accessors share a name only if they clash in one of the three ways. -/
theorem clash_of_methodName (distinct : members.Nodup)
    (identified : ∀ member ∈ members, Identified member) (present : first ∈ members)
    (otherPresent : second ∈ members) (different : first ≠ second)
    (same : methodName (accessorName members first) = methodName (accessorName members second)) :
    AccessorClash members first second ∨ AccessorClash members second first := by
  have plain : IsPlainText (accessorName members first) :=
    plain_accessorName (identified first present)
  have otherPlain : IsPlainText (accessorName members second) :=
    plain_accessorName (identified second otherPresent)
  rcases (methodName_eq_iff plain otherPlain).mp same with equal | ⟨never, marked⟩ | ⟨never, marked⟩
  · by_cases one : Scoped members first
    · rw [accessorName_of_scoped distinct present one] at equal
      by_cases two : Scoped members second
      · rw [accessorName_of_scoped distinct otherPresent two] at equal
        exact .inl (.modules one two equal)
      · rw [accessorName_of_not_scoped distinct otherPresent two] at equal
        exact .inl (.base one two equal)
    · rw [accessorName_of_not_scoped distinct present one] at equal
      by_cases two : Scoped members second
      · rw [accessorName_of_scoped distinct otherPresent two] at equal
        exact .inr (.base two one equal.symm)
      · -- plain names are told apart, since either would be named after its module otherwise
        rw [accessorName_of_not_scoped distinct otherPresent two] at equal
        exact (one (.inr ⟨second, otherPresent, different.symm, equal.symm⟩)).elim
  · exact .inl (.word never marked)
  · exact .inr (.word never marked)

/-- The methods of a holder have distinct names exactly if no two accessors clash. -/
theorem methodNames_nodup_iff (distinct : members.Nodup)
    (identified : ∀ member ∈ members, Identified member) :
    (ownMethods ++ members.map fun member => methodName (accessorName members member)).Nodup ↔
      ∀ first ∈ members, ∀ second ∈ members, first ≠ second →
        ¬AccessorClash members first second := by
  have apart : ∀ own ∈ ownMethods,
      ∀ name ∈ members.map fun member => methodName (accessorName members member), own ≠ name := by
    intro own inOwn name given
    obtain ⟨member, present, rfl⟩ := List.mem_map.mp given
    rintro rfl
    exact methodName_not_own distinct present inOwn
  have own : ownMethods.Nodup := by decide
  rw [List.nodup_append, List.nodup_map_iff_inj_on distinct]
  constructor
  · rintro ⟨_, injective, _⟩ first present second otherPresent different clash
    exact different (injective first present second otherPresent
      (methodName_of_clash distinct present otherPresent clash))
  · intro clear
    refine ⟨own, ?_, apart⟩
    intro first present second otherPresent same
    by_contra different
    rcases clash_of_methodName distinct identified present otherPresent different same with
      clash | clash
    · exact clear first present second otherPresent different clash
    · exact clear second otherPresent first present (Ne.symm different) clash

/-! The block of a holder. -/

/-- A public method in pieces: its attributes, its signature and its body. -/
def methodPieces (name : String) (attributes : List (List Piece))
    (parameters result body : List Piece) : List Piece :=
  (attributes.map fun inner => .tokens (code ["#", brackets inner])) ++
    (["pub fn", [Token.ident name], parens parameters, "->"] : List Piece) ++
    result ++ [.tokens (braces body)]

/-- Tokens are those of a public method of the name. -/
inductive IsMethod (name : String) : List Token → Prop where
  | intro (attributes : List (List Piece)) (parameters result body : List Piece) :
      IsMethod name (code (methodPieces name attributes parameters result body))

/-- Tokens with a block in them that gives a type methods of the names and nothing else. -/
def Implements (tokens : List Token) (type : String) (names : List String) : Prop :=
  ∃ before after, ∃ methods : List (List Token), List.Forall₂ IsMethod names methods ∧
    tokens = before ++ code ["impl", [Token.ident type], braces [methods.flatten]] ++ after

theorem code_append_append (first second third : List Piece) :
    code (first ++ second ++ third) = code first ++ code second ++ code third := by
  rw [code, List.flatMap_append, List.flatMap_append]
  rfl

theorem isMethod_new (payload : List Token) : IsMethod "new" <|
    code [inlined, "pub fn new", parens ["value:", payload], "-> Self",
      braces ["Self", braces ["value"]]] :=
  .intro [["inline"]] ["value:", payload] ["Self"] ["Self", braces ["value"]]

theorem isMethod_payload (payload : List Token) : IsMethod "payload" <|
    code [inlined, "pub fn payload", parens ["&self"], "-> &", payload,
      braces ["&self.value"]] :=
  .intro [["inline"]] ["&self"] ["&", payload] ["&self.value"]

theorem isMethod_accessor (payload : List Token) (accessor : Accessor) :
    IsMethod accessor.method (accessorTokens payload accessor) :=
  .intro [["doc =", stringLiteral _], ["inline"]] ["&self"] [accessor.wrapper.tokens] _

/-- The tokens of an extension have the block of the holder in them, with the accessors at its end. -/
theorem exists_block (ext : Extension) : ∃ before after, ext.tokens = before ++
    code ["impl", [Token.ident ext.holder], braces [
      inlined, "pub fn new", parens ["value:", ext.payload.tokens], "-> Self", braces [
        "Self", braces ["value"]],
      inlined, "pub fn payload", parens ["&self"], "-> &", ext.payload.tokens,
        braces ["&self.value"],
      ext.accessors.flatMap (accessorTokens ext.payload.tokens)]] ++ after :=
  ⟨code [_, _, _, _], code _, code_append_append [_, _, _, _] [_, _, _] _⟩

/-- The extension of a payload type gives its holder the two methods that every holder has, and
then the accessors. -/
theorem implements_tokens (ext : Extension) :
    Implements ext.tokens ext.holder (ownMethods ++ ext.accessors.map Accessor.method) := by
  have each : List.Forall₂ IsMethod (ext.accessors.map Accessor.method)
      (ext.accessors.map (accessorTokens ext.payload.tokens)) := by
    rw [List.forall₂_map_left_iff, List.forall₂_map_right_iff, List.forall₂_same]
    exact fun accessor _ => isMethod_accessor _ accessor
  obtain ⟨before, after, same⟩ := exists_block ext
  refine ⟨before, after, _, .cons (isMethod_new ext.payload.tokens)
    (.cons (isMethod_payload ext.payload.tokens) each), ?_⟩
  rw [same]
  simp [code, Piece.code, braces, List.flatMap_def]

end Emit.Extension

/-! The holders of a pass. -/

namespace Generation

open Emit.Extension

variable {descriptors : List Descriptor} {group : Group} {ext : Extension}

/-- The extension of a group whose members are checked. -/
def extensionOf (group : Group) : Except Stop (Option Extension) := do
  let subjects ← Stop.lift (group.members.mapM fun member =>
    Subject.of member (classify group.payload))
  Extension.of group subjects

/-- The names of the methods of a group's holder: its own ones and the accessors. -/
def holderMethods (group : Group) : List String :=
  ownMethods ++ group.members.map fun member =>
    methodName (accessorName group.members member)

/-- The unit of a group is the written form of its extension. -/
theorem contents_of_groupAttempt (made : extensionOf group = .ok (some ext))
    (attempted : groupAttempt group = .ok (.ok unit)) :
    unit.contents = header ++ "\n" ++ Token.render ext.tokens ++ "\n" := by
  obtain ⟨subjects, checked, extended⟩ := bind_eq_ok.mp made
  simp only [groupAttempt, checked, ok_bind, extended] at attempted
  split at attempted
  · rename_i rendered
    cases attempted
    rw [unit_eq_of_render (lift_eq_ok.mp rendered)]
  · cases attempted
  · cases attempted

theorem accessors_of_extended {subjects : List Subject}
    (extended : Extension.of group subjects = .ok (some ext)) :
    subjects.mapM (accessor group.members) = .ok ext.accessors := by
  obtain ⟨holder, _, later⟩ := bind_eq_ok.mp extended
  dsimp only at later
  split at later
  · cases later
  · split at later
    · cases later
    · obtain ⟨accessors, made, whole⟩ := bind_eq_ok.mp later
      cases whole
      exact lift_eq_ok.mp made

/-- The accessors of an extension are those of the group's members in order. -/
theorem accessors_of_extension (identified : ∀ member ∈ group.members, Identified member)
    (made : extensionOf group = .ok (some ext)) :
    ext.accessors.map Accessor.method =
      group.members.map fun member => methodName (accessorName group.members member) := by
  obtain ⟨subjects, checked, extended⟩ := bind_eq_ok.mp made
  have own : subjects.map Subject.descriptor = group.members := by
    have each := mapM_eq_ok.mp (lift_eq_ok.mp checked)
    rw [← Forall₂.map_eq (f := id) each fun _ _ _ found => (checked_of_subject found).source.symm,
      List.map_id]
  have each := mapM_eq_ok.mp (accessors_of_extended extended)
  rw [← own, List.map_map]
  refine (Forall₂.map_eq each fun subject among accessor found => ?_).symm
  obtain ⟨method, named, whole⟩ := bind_eq_ok.mp found
  cases whole
  have member : subject.descriptor ∈ group.members := own ▸ List.mem_map_of_mem among
  rw [own]
  exact (methodIdentifier_eq (plain_accessorName (identified _ member)) named).symm

/-- The holder of a group has the methods that are named here, and their names are distinct exactly
if no two accessors clash. -/
theorem holder_methods_distinct_iff (distinct : (descriptors.map Descriptor.key).Nodup)
    (identified : ∀ descriptor ∈ descriptors, Identified descriptor)
    (present : group ∈ groups descriptors) (made : extensionOf group = .ok (some ext)) :
    (∀ unit, groupAttempt group = .ok (.ok unit) →
      unit.contents = header ++ "\n" ++ Token.render ext.tokens ++ "\n") ∧
    Implements ext.tokens ext.holder (holderMethods group) ∧
    ((holderMethods group).Nodup ↔ ∀ first ∈ group.members, ∀ second ∈ group.members,
      first ≠ second → ¬AccessorClash group.members first second) := by
  have members : ∀ member ∈ group.members, Identified member :=
    fun member among => identified member ((mem_members_iff present).mp among).1
  have nodup : group.members.Nodup := by
    rw [group_members present]
    exact (List.Nodup.of_map _ distinct).filter _
  refine ⟨fun unit attempted => contents_of_groupAttempt made attempted, ?_,
    methodNames_nodup_iff nodup members⟩
  rw [holderMethods, ← accessors_of_extension members made]
  exact implements_tokens ext

/-- Wrappers of one payload, of which two have one name, and one has the name that the module gives
to one of these. -/
def crossed : List Descriptor := [
  ⟨"OrdersId", "u64", none, false, true⟩, ⟨"Id", "u64", some "orders", false, true⟩,
  ⟨"Id", "u64", some "shop", false, true⟩]

/-- Two methods of the holder have one name. -/
theorem accessors_crossed :
    (crossed.map Descriptor.key).Nodup ∧
    (∀ descriptor ∈ crossed, ∀ name ∈ pathNames descriptor, Grammar.name? name = some name) ∧
    (groups crossed).map (fun group => ((extensionOf group).toOption.bind id).map fun ext =>
      (ext.holder, ext.accessors.map Accessor.method)) =
        [some ("AsU64", ["orders_id", "orders_id", "shop_id"])] := by
  refine ⟨by decide, by decide, ?_⟩
  rfl

theorem holder_methods_distinct_iff_crossed :
    (crossed.map Descriptor.key).Nodup ∧ (∀ descriptor ∈ crossed, Identified descriptor) ∧
    ∃ group ∈ groups crossed, ∃ ext, extensionOf group = .ok (some ext) ∧
      Implements ext.tokens ext.holder (holderMethods group) ∧
      ((holderMethods group).Nodup ↔ ∀ first ∈ group.members, ∀ second ∈ group.members,
        first ≠ second → ¬AccessorClash group.members first second) := by
  have distinct : (crossed.map Descriptor.key).Nodup := by decide
  have identified : ∀ descriptor ∈ crossed, ∀ name ∈ pathNames descriptor,
      Grammar.name? name = some name := by
    decide
  have only : groups crossed = [⟨"u64", "U64", crossed⟩] := rfl
  have present : ⟨"u64", "U64", crossed⟩ ∈ groups crossed := by simp [only]
  have ends : ((extensionOf ⟨"u64", "U64", crossed⟩).toOption.bind id).isSome = true := rfl
  obtain ⟨ext, found⟩ := Option.isSome_iff_exists.mp ends
  obtain ⟨made, given, rfl⟩ := Option.bind_eq_some_iff.mp found
  have extended := toOption_eq_some.mp given
  have outcome := holder_methods_distinct_iff distinct identified present extended
  exact ⟨distinct, identified, _, present, ext, extended, outcome.2⟩

end Generation

end ValueObjects
