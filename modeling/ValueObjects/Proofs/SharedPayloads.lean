import ValueObjects.Emit.Operators
import ValueObjects.Proofs.AccessorNames
import ValueObjects.Proofs.PayloadReports
import ValueObjects.Proofs.Payloads
import ValueObjects.Proofs.RegistrationCode

namespace ValueObjects

open Emit Generation

namespace Emit

namespace Extension

/-- Tokens are those of a method that makes the wrapper from a payload of the given tokens. -/
inductive IsAccessor (payload : List Token) (wrapper : CratePath) : List Token → Prop where
  | intro (attributes : List (List Piece)) (name : String) :
      IsAccessor payload wrapper (code (methodPieces name attributes ["&self"] [wrapper.tokens] [
        "<", wrapper.tokens, "as ::core::convert::From<", payload, ">>::from", parens [
          "::core::clone::Clone::clone", parens ["&self.value"]]]))

/-- Tokens with the block of a type in them that ends in the accessors of the wrappers, all made
from a payload of the given tokens. -/
def Accesses (tokens : List Token) (type : String) (payload : List Token)
    (wrappers : List CratePath) : Prop :=
  ∃ before own after, ∃ accessors : List (List Token),
    List.Forall₂ (IsAccessor payload) wrappers accessors ∧
    tokens = before ++ code ["impl", [Token.ident type], braces [own, accessors.flatten]] ++ after

theorem accesses_tokens (ext : Extension) :
    Accesses ext.tokens ext.holder ext.payload.tokens (ext.accessors.map Accessor.wrapper) := by
  have each : List.Forall₂ (IsAccessor ext.payload.tokens) (ext.accessors.map Accessor.wrapper)
      (ext.accessors.map (accessorTokens ext.payload.tokens)) := by
    rw [List.forall₂_map_left_iff, List.forall₂_map_right_iff, List.forall₂_same]
    exact fun accessor _ => .intro [["doc =", stringLiteral _], ["inline"]] accessor.method
  obtain ⟨before, after, same⟩ := exists_block ext
  refine ⟨before, code [
    inlined, "pub fn new", parens ["value:", ext.payload.tokens], "-> Self", braces [
      "Self", braces ["value"]],
    inlined, "pub fn payload", parens ["&self"], "-> &", ext.payload.tokens,
      braces ["&self.value"]], after, _, each, ?_⟩
  rw [same]
  simp [code, Piece.code, braces, List.flatMap_def]

end Extension

theorem CratePath.tokens_inj {first second : CratePath} :
    first.tokens = second.tokens ↔ first = second := by
  refine ⟨fun same => ?_, congrArg CratePath.tokens⟩
  have one := Read.takes_cratePath first [] rfl []
  have two := Read.takes_cratePath second [] rfl []
  rw [same, two] at one
  cases one
  rfl

theorem TypeName.tokens_declared_inj {first second : CratePath} :
    (TypeName.declared first).tokens = (TypeName.declared second).tokens ↔ first = second := by
  refine ⟨fun same => ?_, fun same => same ▸ rfl⟩
  exact CratePath.tokens_inj.mp (List.append_cancel_right (List.append_cancel_left same))

/-- Whether code that is generated reaches a payload type through the wrapper that declares it: the
type is not known, and its text is no path from the crate root. -/
def ThroughWrapper (display : String) : Prop :=
  (classify display).kind = .other ∧ display ∉ ["bool", "char"] ∧ beginsAtCrate display = false

variable {descriptor first second : Descriptor} {subject one two : Subject}

theorem payload_of_through
    (checked : Subject.of descriptor (classify descriptor.payload) = .ok subject)
    (through : ThroughWrapper descriptor.payload) :
    subject.payload = .declared subject.wrapper := by
  obtain ⟨other, plain, elsewhere⟩ := through
  obtain ⟨-, classified, -, -, typed⟩ := checked_of_subject checked
  rw [classify_of_other other] at classified typed
  simp only [List.mem_cons, List.not_mem_nil, or_false, not_or] at plain
  rw [payloadType, otherPayload, elsewhere, if_neg (by simp [plain])] at typed
  rw [Subject.payload, classified, if_neg Bool.false_ne_true]
  exact (Except.ok.inj typed).symm

/-- A payload that is not reached through its wrapper is named without it. -/
theorem payloadType_unique {one two : CratePath} {name other : TypeName}
    (direct : ¬ThroughWrapper display)
    (made : payloadType (classify display).kind one (classify display).inner = .ok name)
    (otherMade : payloadType (classify display).kind two (classify display).inner = .ok other) :
    name = other := by
  cases kind : (classify display).kind with
  | other =>
    rw [kind, inner_of_other kind, payloadType] at made otherMade
    have spelled : (display == "bool" || display == "char" || beginsAtCrate display) = true := by
      by_contra plain
      refine direct ⟨kind, ?_, ?_⟩ <;> simp_all
    rw [otherPayload, if_pos spelled] at made otherMade
    split at made
    · rename_i read
      rw [read] at otherMade
      cases made
      cases otherMade
      rfl
    · cases made
  | numeric type =>
    rw [kind] at made otherMade
    cases type <;> exact Except.ok.inj (made.symm.trans otherMade)
  | _ =>
    rw [kind] at made otherMade
    exact Except.ok.inj (made.symm.trans otherMade)

theorem payload_of_not_through
    (checked : Subject.of first (classify first.payload) = .ok one)
    (otherChecked : Subject.of second (classify second.payload) = .ok two)
    (same : first.payload = second.payload) (other : ¬ThroughWrapper first.payload) :
    one.payload = two.payload := by
  obtain ⟨-, classified, -, -, typed⟩ := checked_of_subject checked
  obtain ⟨-, otherClassified, -, -, otherTyped⟩ := checked_of_subject otherChecked
  rw [← same] at otherClassified otherTyped
  have inner : one.inner = two.inner := payloadType_unique other typed otherTyped
  rw [Subject.payload, Subject.payload, classified, otherClassified, inner]

/-- Two wrappers of one payload text write the payload with the same tokens exactly if they are one,
or the payload is not reached through them. -/
theorem payload_tokens_eq_iff
    (checked : Subject.of first (classify first.payload) = .ok one)
    (otherChecked : Subject.of second (classify second.payload) = .ok two)
    (same : first.payload = second.payload) :
    one.payload.tokens = two.payload.tokens ↔
      one.wrapper = two.wrapper ∨ ¬ThroughWrapper first.payload := by
  by_cases through : ThroughWrapper first.payload
  · rw [payload_of_through checked through, payload_of_through otherChecked (same ▸ through),
      TypeName.tokens_declared_inj]
    simp [through]
  · rw [payload_of_not_through checked otherChecked same through]
    simp [through]

theorem prefix_code (before after : List Piece) : code before <+: code (before ++ after) :=
  ⟨code after, List.flatMap_append.symm⟩

/-- The operators of a wrapper begin with the conversion from its own payload. -/
theorem prefix_operators (subject : Subject) :
    code ["impl ::core::convert::From<", subject.payload.tokens, "> for",
      subject.wrapper.tokens] <+: operators subject := by
  have conversions : code ["impl ::core::convert::From<", subject.payload.tokens, "> for",
      subject.wrapper.tokens] <+:
        Operators.conversions subject.wrapper.tokens subject.payload.tokens :=
    prefix_code [_, _, _, _] _
  refine conversions.trans ?_
  simp only [operators, List.append_assoc]
  exact List.prefix_append _ _

end Emit

namespace Discovery

open Emit.Extension

variable {tree : SourceTree} {group : Group} {ext : Extension}

/-- Whether the unit of a group makes each wrapper from the payload of the first one. -/
structure MadeFromFirst (group : Group) (ext : Extension) (first : Subject)
    (rest : List Subject) : Prop where
  checked : List.Forall₂ (fun member subject =>
    Subject.of member (classify member.payload) = .ok subject) group.members (first :: rest)
  written : ∀ unit, groupAttempt group = .ok (.ok unit) →
    unit.contents = header ++ "\n" ++ Token.render ext.tokens ++ "\n"
  accesses : Accesses ext.tokens ext.holder first.payload.tokens
    ((first :: rest).map Subject.wrapper)
  /-- The units of a wrapper convert from its own payload. -/
  converts : ∀ subject ∈ first :: rest,
    code ["impl ::core::convert::From<", subject.payload.tokens, "> for",
      subject.wrapper.tokens] <+: operators subject
  fits : ∀ subject ∈ first :: rest, first.payload.tokens = subject.payload.tokens ↔
    first.wrapper = subject.wrapper ∨ ¬ThroughWrapper group.payload

/-- What the payload groups of a crate tell apart. -/
structure PayloadGroups (tree : SourceTree) : Prop where
  /-- Every wrapper has a payload type that a declaration gives. -/
  declared : ∀ wrapper ∈ candidates tree, ∃ module ty, Declares tree module wrapper ty
  /-- Wrappers share a group exactly if their payload types have one canonical text. -/
  text : ∀ first ∈ candidates tree, ∀ second ∈ candidates tree, ∀ module other ty otherTy,
    Declares tree module first ty → Declares tree other second otherTy →
    (InOneGroup (candidates tree) first second ↔ ty.display = otherTy.display)
  /-- Payloads of one group denote one structure, if their path starts at the crate root or they
  are seen from one module. -/
  together : ∀ first ∈ candidates tree, ∀ second ∈ candidates tree, ∀ module other names others,
    Declares tree module first (plainPath names) → Declares tree other second (plainPath others) →
    Ordinary names → Ordinary others → InOneGroup (candidates tree) first second →
    Anchored names ∨ module.scope? = other.scope? →
    structOf? tree module.scope? names = structOf? tree other.scope? others
  /-- Payloads of one relative path share a group and denote two structures, if they are seen from
  two modules that both have one. -/
  apart : ∀ first ∈ candidates tree, ∀ second ∈ candidates tree, ∀ module other names,
    Declares tree module first (plainPath names) → Declares tree other second (plainPath names) →
    Relative names → module.scope? ≠ other.scope? →
    InOneGroup (candidates tree) first second ∧
      ∀ own foreign, structOf? tree module.scope? names = some own →
        structOf? tree other.scope? names = some foreign → own ≠ foreign
  /-- The accessors of a group, whatever the payload is, all ask for that of the first wrapper. -/
  accessors : ∀ group ∈ groups (candidates tree), ∀ ext, extensionOf group = .ok (some ext) →
    ∃ first rest, MadeFromFirst group ext first rest

/-- The payload of an extension is the first subject's, and its wrappers are those of all. -/
theorem wrappers_of_extended {first : Subject} {rest : List Subject}
    (extended : Extension.of group (first :: rest) = .ok (some ext)) :
    ext.payload = first.payload ∧
      ext.accessors.map Accessor.wrapper = (first :: rest).map Subject.wrapper := by
  have each := mapM_eq_ok.mp (accessors_of_extended extended)
  constructor
  · obtain ⟨holder, _, later⟩ := bind_eq_ok.mp extended
    dsimp only at later
    split at later
    · cases later
    · obtain ⟨accessors, _, whole⟩ := bind_eq_ok.mp later
      cases whole
      rfl
  · refine (Forall₂.map_eq each fun subject _ accessor found => ?_).symm
    obtain ⟨method, _, whole⟩ := bind_eq_ok.mp found
    cases whole
    rfl

theorem madeFromFirst_of_extension (present : group ∈ groups (candidates tree))
    (made : extensionOf group = .ok (some ext)) : ∃ first rest, MadeFromFirst group ext first rest := by
  obtain ⟨subjects, checked, extended⟩ := bind_eq_ok.mp made
  have each := mapM_eq_ok.mp (lift_eq_ok.mp checked)
  have own : ∀ member ∈ group.members, member.payload = group.payload :=
    fun member among => ((mem_members_iff present).mp among).2
  have payloads : List.Forall₂ (fun member subject =>
      Subject.of member (classify member.payload) = .ok subject) group.members subjects := by
    refine List.Forall₂.imp ?_ ((List.forall₂_and_left _ _).mpr ⟨own, each⟩)
    rintro member subject ⟨same, found⟩
    rwa [same]
  cases subjects with
  | nil =>
    cases members : group.members with
    | nil => exact (members_ne_nil present members).elim
    | cons member more =>
      rw [members] at payloads
      cases payloads
  | cons first rest =>
    refine ⟨first, rest, payloads, fun unit => contents_of_groupAttempt made, ?_, ?_, ?_⟩
    · obtain ⟨payload, wrappers⟩ := wrappers_of_extended extended
      rw [← payload, ← wrappers]
      exact accesses_tokens ext
    · intro subject member
      exact prefix_operators subject
    · intro subject member
      obtain ⟨one, among, oneChecked⟩ := Forall₂.right_of_mem payloads.flip List.mem_cons_self
      obtain ⟨two, others, twoChecked⟩ := Forall₂.right_of_mem payloads.flip member
      rw [← own one among]
      exact payload_tokens_eq_iff oneChecked twoChecked ((own one among).trans (own two others).symm)

/-- Wrappers are grouped by the canonical texts of their payload types. The text of an ordinary path
tells the structure of the crate that it denotes if it is seen from one module or starts at the
root; that of a relative path does not. -/
theorem payload_groups (tree : SourceTree) : PayloadGroups tree where
  declared _ member := declares_of_candidate member
  text _ first _ second _ _ _ _ declares others := inOneGroup_iff first second declares others
  together := by
    intro wrapper first another second module other names otherNames declares others ordinary
      otherOrdinary shared seen
    have same := (inOneGroup_iff first second declares others).mp shared
    cases names_eq_of_display ordinary otherOrdinary same
    rcases seen with anchored | scope
    · exact structOf?_of_denoted (denotedModules_anchored anchored _ _)
    · rw [scope]
  apart := by
    intro wrapper first another second module other names declares others relative distinct
    refine ⟨(inOneGroup_iff first second declares others).mpr rfl, ?_⟩
    intro own foreign here there same
    have owners : own.1 = foreign.1 := congrArg Prod.fst same
    rw [owner_of_structOf? relative here, owner_of_structOf? relative there] at owners
    exact distinct (module_of_below owners)
  accessors _ present _ made := madeFromFirst_of_extension present made

/-- A module with a structure of its own and a wrapper of it. -/
def wrapping (scope name : String) : SourceModule where
  scope? := some scope
  file? := none
  items := [
    .struct ⟨[], "T", false, .unit⟩,
    .struct ⟨[⟨false, ["derive"], .list [.ident "Value"]⟩], name, false,
      .positional [⟨true, none, plainPath ["T"]⟩]⟩]

def wrapped (scope name : String) : Descriptor :=
  ⟨name, "T", some scope, false, true⟩

/-- The wrappers of two modules have structures of one name as payloads. -/
def twoModules : SourceTree :=
  ⟨[wrapping "a" "V", wrapping "b" "W"], []⟩

def sharedGroup : Group :=
  ⟨"T", "T", [wrapped "a" "V", wrapped "b" "W"]⟩

private theorem sharedGroup_runs :
    extensionOf sharedGroup = .ok (some ⟨"AsT", "TAsExt", "T", .declared ⟨["a", "V"]⟩,
      [⟨"v", ⟨["a", "V"]⟩, "crate::a::V"⟩, ⟨"w", ⟨["b", "W"]⟩, "crate::b::W"⟩]⟩) ∧
    Subject.of (wrapped "b" "W") (classify "T") =
      .ok ⟨wrapped "b" "W", classify "T", ⟨["b", "W"]⟩, .declared ⟨["b", "W"]⟩⟩ := by
  constructor <;> rfl

/-- Two wrappers share a group although their payloads are structures of two modules. The accessor
of the one is made from the payload of the other. -/
theorem relative_payloads_share_group :
    wrapped "a" "V" ∈ candidates twoModules ∧ wrapped "b" "W" ∈ candidates twoModules ∧
    Declares twoModules (wrapping "a" "V") (wrapped "a" "V") (plainPath ["T"]) ∧
    Declares twoModules (wrapping "b" "W") (wrapped "b" "W") (plainPath ["T"]) ∧
    structOf? twoModules (some "a") ["T"] = some (some "a", "T") ∧
    structOf? twoModules (some "b") ["T"] = some (some "b", "T") ∧
    InOneGroup (candidates twoModules) (wrapped "a" "V") (wrapped "b" "W") ∧
    sharedGroup ∈ groups (candidates twoModules) ∧
    ∃ ext own, extensionOf sharedGroup = .ok (some ext) ∧
      Accesses ext.tokens "AsT" (TypeName.declared ⟨["a", "V"]⟩).tokens
        [⟨["a", "V"]⟩, ⟨["b", "W"]⟩] ∧
      Subject.of (wrapped "b" "W") (classify "T") = .ok own ∧
      own.payload.tokens ≠ (TypeName.declared ⟨["a", "V"]⟩).tokens := by
  have found : declared twoModules = [wrapped "a" "V", wrapped "b" "W"] := by
    decide
  have sorted : Descriptor.sort (declared twoModules) = [wrapped "a" "V", wrapped "b" "W"] := by
    rw [found]
    exact List.mergeSort_of_pairwise (by decide)
  have kept : candidates twoModules = [wrapped "a" "V", wrapped "b" "W"] := by
    rw [candidates, sorted]
    rfl
  have first : wrapped "a" "V" ∈ candidates twoModules := by
    rw [kept]
    exact List.mem_cons_self
  have second : wrapped "b" "W" ∈ candidates twoModules := by
    rw [kept]
    exact List.mem_cons_of_mem _ List.mem_cons_self
  have made (scope name : String) (present : wrapping scope name ∈ twoModules.modules)
      (candidate : ofDerive? (some scope) ⟨[⟨false, ["derive"], .list [.ident "Value"]⟩], name, false,
        .positional [⟨true, none, plainPath ["T"]⟩]⟩ = some (wrapped scope name)) :
      Declares twoModules (wrapping scope name) (wrapped scope name) (plainPath ["T"]) :=
    ⟨present, _, List.mem_cons_of_mem _ List.mem_cons_self, candidate, rfl⟩
  refine ⟨first, second, made "a" "V" List.mem_cons_self (by decide),
    made "b" "W" (List.mem_cons_of_mem _ List.mem_cons_self) (by decide), by decide,
    by decide, (share_group_iff first second).mpr rfl, ?_, ?_⟩
  · rw [kept]
    exact List.mem_singleton_self _
  · obtain ⟨extended, checked⟩ := sharedGroup_runs
    refine ⟨_, _, extended, accesses_tokens _, checked, ?_⟩
    exact mt TypeName.tokens_declared_inj.mp (by decide)

end Discovery

end ValueObjects
