import ValueObjects.Proofs.ModulePaths
import ValueObjects.Proofs.PayloadReports
/-!
Payloads that mean the same in every module. The type that generated code names for a payload is
anchored, but for the arguments of a path from the crate root: they are spelled as they were found.
-/
namespace ValueObjects

open Emit Grammar

/-! How the paths inside a type begin. -/

/-- The beginning of a path. -/
inductive Head where
  /-- Two colons. -/
  | root
  /-- A first step; `alone` if the path is this name, without arguments. -/
  | step (name : String) (alone : Bool)
  deriving DecidableEq

/-- Whether a path that begins so names the same type in every module: it is from a root, or it is
the name of a primitive type. -/
def Head.isAnchored : Head → Bool
  | .root => true
  | .step name alone => name == "crate" || (alone && primitives.contains name)

def Head.ofPath : Bool → List Segment → Head
  | true, _ => .root
  | false, [.mk name .none] => .step name true
  | false, .mk name _ :: _ => .step name false
  | false, [] => .step "" false

namespace Token

/-- Whether what was read before, latest first, is two colons or the apostrophe of a lifetime. -/
def leadsOn : List Token → Bool
  | .punct ':' _ :: .punct ':' .joint :: _ => true
  | .punct '\'' .joint :: _ => true
  | _ => false

/-- Whether what follows a name makes it the name of a parameter, a binding or a constraint. -/
def isBinder (rest : List Token) : Bool :=
  atMark "=" rest || (atMark ":" rest && !atMark "::" rest)

mutual

/-- The path that begins at a token, if one may, or the paths inside a group. -/
def heads (before rest : List Token) : Token → List Head
  | .ident name =>
    if atNameOrPathWord [.ident name] && !leadsOn before && !isBinder rest then
      [.step name (!atMark "::" rest && !atMark "<" rest)]
    else []
  | .group _ tokens => headsOf [] tokens
  | _ => []

/-- The paths that may begin among tokens, by their first steps. -/
def headsOf (before : List Token) : List Token → List Head
  | [] => []
  | token :: rest => token.heads before rest ++ headsOf (token :: before) rest

end

end Token

mutual

/-- The beginnings of the paths in a type, at any depth. What is kept as its tokens counts with
every path that may begin there. -/
def Ty.heads : Ty → List Head
  | .path rooted segments => .ofPath rooted segments :: Segment.headsOf segments
  | .qualified self position rooted segments =>
    self.heads ++ (if position = 0 then [] else [.ofPath rooted (segments.take position)]) ++
      Segment.headsOf segments
  | .reference _ _ elem => elem.heads
  | .pointer _ elem => elem.heads
  | .slice elem => elem.heads
  | .array elem length => elem.heads ++ Token.headsOf [] length
  | .tuple elems _ => Ty.headsOf elems
  | .paren elem => elem.heads
  | .group elem => elem.heads
  | .verbatim tokens => Token.headsOf [] tokens

def Ty.headsOf : List Ty → List Head
  | [] => []
  | ty :: rest => ty.heads ++ Ty.headsOf rest

def Segment.heads : Segment → List Head
  | .mk _ arguments => arguments.heads

def Segment.headsOf : List Segment → List Head
  | [] => []
  | step :: rest => step.heads ++ Segment.headsOf rest

def Arguments.heads : Arguments → List Head
  | .none => []
  | .angle _ arguments _ => Argument.headsOf arguments

def Argument.heads : Argument → List Head
  | .lifetime _ => []
  | .type ty => ty.heads
  | .other tokens => Token.headsOf [] tokens

def Argument.headsOf : List Argument → List Head
  | [] => []
  | argument :: rest => argument.heads ++ Argument.headsOf rest

end

/-- The beginnings of the paths in a type past its own: those in the arguments of a path. -/
def Ty.innerHeads : Ty → List Head
  | .path _ segments => Segment.headsOf segments
  | ty => ty.heads

/-- Whether all paths in a type name the same in every module. -/
def Ty.Anchored (ty : Ty) : Prop :=
  ∀ head ∈ ty.heads, head.isAnchored = true

theorem headsOf_plain (names : List String) : Segment.headsOf (names.map .plain) = [] := by
  induction names with
  | nil => rfl
  | cons name rest ih =>
    rw [List.map_cons, Segment.headsOf, ih]
    rfl

namespace Emit

/-! Types that generated code names, as types. -/

/-- The type that generated code names. -/
def TypeName.ty : TypeName → Ty
  | .rooted steps => .path true (steps.map .plain)
  | .primitive name => plainPath [name]
  | .spelled ty => ty
  | .declared wrapper =>
    .qualified (plainPath ("crate" :: wrapper.steps)) 2 true
      (["valuegen", "Value", "Payload"].map .plain)
  | .option inner =>
    .path true [.plain "core", .plain "option", .mk "Option" (.angle false [.type inner.ty] false)]

namespace TypeName

theorem pathTokens_cons_eq (first : String) (rest : List String) :
    pathTokens (first :: rest) = .ident first :: rootedTokens rest := by
  induction rest generalizing first with
  | nil => rfl
  | cons next more ih =>
    rw [pathTokens_cons, ih next]
    rfl

theorem tokens_rooted (first : String) (rest : List String) :
    (rooted (first :: rest)).ty.tokens = (rooted (first :: rest)).tokens := by
  have steps := pathTokens_cons_eq first rest
  rw [pathTokens] at steps
  rw [ty, Ty.tokens, tokensOf_plain, steps]
  rfl

theorem tokens_declared (wrapper : CratePath) :
    (declared wrapper).ty.tokens = (declared wrapper).tokens := by
  have path : (plainPath ("crate" :: wrapper.steps)).tokens = wrapper.tokens := by
    rw [tokens_plainPath, pathTokens_cons_eq]
    rfl
  have opening : phrase "<" = [.punct '<' .alone] := rfl
  have closing : phrase "as ::valuegen::Value>::Payload" =
      [.ident "as"] ++ rootedTokens ["valuegen", "Value"] ++ [.punct '>' .alone] ++
        rootedTokens ["Payload"] := rfl
  rw [ty, Ty.tokens, tokensOf_plain, path, tokens]
  simp [code, Piece.code, opening, closing, Token.pathSeparator, rootedTokens, joinSteps]

theorem tokens_option {inner : TypeName} (same : inner.ty.tokens = inner.tokens) :
    (option inner).ty.tokens = (option inner).tokens := by
  have opening : phrase "::core::option::Option<" =
      rootedTokens ["core", "option", "Option"] ++ [.punct '<' .alone] := rfl
  have closing : phrase ">" = [.punct '>' .alone] := rfl
  have single : argumentTokens false [(false, inner.tokens)] = inner.tokens := by
    simp [argumentTokens, punctuated]
  simp [ty, tokens, Ty.tokens, Segment.tokensOf, Segment.tokens, Segment.plain, Arguments.tokens,
    Argument.tokensOf, Argument.tokens, same, single, code, Piece.code, opening, closing,
    joinSteps, rootedTokens, Token.pathSeparator]

end TypeName

/-! Payloads from the crate root. -/

/-- The first token of a text from the crate root. -/
theorem tokens?_of_crate (begins : beginsAtCrate text = true)
    (read : Lexer.tokens? text = some tokens) : ∃ rest, tokens = .ident "crate" :: rest := by
  obtain ⟨rest, same⟩ := List.isPrefixOf_iff_prefix.mp begins
  have name : Lexer.IsName "crate".toList := isName_of_isWord (by decide)
  have stops : Literal.Pause (':' :: ':' :: rest) := .before (by decide)
  have spelled : text.toList = "crate".toList ++ ':' :: ':' :: rest := by
    rw [← same]
    rfl
  have noMark : Lexer.pastOrderMark text.toList = text.toList := by
    rw [spelled]
    rfl
  obtain ⟨lexed, cut, matched⟩ := Option.bind_eq_some_iff.mp read
  rw [noMark, spelled, Lexer.lexemes_leaf (name.reads stops)] at cut
  obtain ⟨later, _, rfl⟩ := Option.map_eq_some_iff.mp cut
  have goes : Lexer.assemble [] [.ident "crate"] later = some tokens := matched
  obtain ⟨more, split, _, _⟩ := Lexer.assemble_outermost goes
  exact ⟨more, split⟩

/-- The path that a text from the crate root begins with is from there. -/
theorem path_of_crate {rules : Rules}
    (ran : qualifiedPath rules false ⟨.ident "crate" :: rest, done⟩ = some (found, after)) :
    ∃ more, found = ⟨none, false, .plain "crate" :: more⟩ := by
  have noType : mark? "<" ⟨.ident "crate" :: rest, done⟩ =
      some (false, ⟨.ident "crate" :: rest, done⟩) := rfl
  have noRoot : mark? "::" ⟨.ident "crate" :: rest, done⟩ =
      some (false, ⟨.ident "crate" :: rest, done⟩) := rfl
  have step : segment rules false ⟨.ident "crate" :: rest, done⟩ =
      some (.plain "crate", ⟨rest, .ident "crate" :: done⟩) := rfl
  rw [qualifiedPath, bind_apply, noType, Option.bind_some] at ran
  simp only [Bool.false_eq_true, ↓reduceIte] at ran
  rw [path, bind_apply, noRoot, Option.bind_some, bind_apply, step, Option.bind_some] at ran
  obtain ⟨more, between, _, ran⟩ := bind_eq_some.mp ran
  cases ran
  exact ⟨more, rfl⟩

/-- A type from the crate root that is a path is one from there. -/
theorem segments_of_ty {rules : Rules}
    (ran : ty rules true ⟨.ident "crate" :: rest, done⟩ = some (.path rooted segments, after)) :
    rooted = false ∧ ∃ more, segments = .plain "crate" :: more := by
  have step : ty rules true ⟨.ident "crate" :: rest, done⟩ =
      pathType rules true false ⟨.ident "crate" :: rest, done⟩ := rfl
  rw [step, pathType] at ran
  obtain ⟨⟨⟨found, whole⟩, tokens⟩, between, ran, made⟩ := bind_eq_some.mp ran
  obtain ⟨inner, ran⟩ := run_of_captured ran
  obtain ⟨leading, past, ran, later⟩ := bind_eq_some.mp ran
  obtain ⟨more, rfl⟩ := path_of_crate ran
  have same : found = ⟨none, false, .plain "crate" :: more⟩ := by
    simp only [Option.isSome_none, Bool.false_eq_true, ↓reduceIte] at later
    obtain ⟨input, between, _, later⟩ := bind_eq_some.mp later
    split at later
    · obtain ⟨_, _, _, later⟩ := bind_eq_some.mp later
      cases later
      rfl
    · obtain ⟨_, _, _, later⟩ := bind_eq_some.mp later
      split at later
      · obtain ⟨_, _, _, later⟩ := bind_eq_some.mp later
        cases later
        rfl
      · cases later
        rfl
  subst same
  cases whole with
  | false => cases made
  | true =>
    cases made
    exact ⟨rfl, more, rfl⟩

/-- A payload from the crate root that is a path is one from there. -/
theorem segments_of_type? (begins : beginsAtCrate text = true)
    (read : type? text = some (.path rooted segments)) :
    rooted = false ∧ ∃ more, segments = .plain "crate" :: more := by
  obtain ⟨tokens, cut, read⟩ := Option.bind_eq_some_iff.mp read
  obtain ⟨rest, rfl⟩ := tokens?_of_crate begins cut
  obtain ⟨depth, deep⟩ : ∃ depth,
      16 * (Token.size.sizes (.ident "crate" :: rest) + 4) = depth + 1 := ⟨_, rfl⟩
  rw [Grammar.read, rulesFor, deep, complete] at read
  split at read
  · rename_i ran
    cases read
    exact segments_of_ty ran
  · cases read

/-- A payload from the crate root is of no kind of its own. -/
theorem classify_of_crate (begins : beginsAtCrate display = true) :
    classify display = ⟨.other, false, display⟩ := by
  have apart (known : String) (other : beginsAtCrate known = false) :
      (display == known) = false := by
    refine beq_false_of_ne ?_
    rintro rfl
    rw [begins] at other
    cases other
  have noNumber : NumericType.ofDisplay? display = none := by
    have known : ∀ type ∈ NumericType.all, beginsAtCrate type.display = false := by decide
    refine List.find?_eq_none.mpr fun type member same => ?_
    rw [← eq_of_beq same, known type member] at begins
    cases begins
  have noOption : optionInner? display = none := by
    obtain ⟨rest, same⟩ := List.isPrefixOf_iff_prefix.mp begins
    rw [optionInner?, ← same]
    rfl
  have kind : Kind.ofDisplay display = .other := by
    rw [Kind.ofDisplay, apart "String" (by decide), apart "uuid::Uuid" (by decide),
      apart "bson::oid::ObjectId" (by decide), noNumber]
    rfl
  rw [classify, noOption, kind]

theorem anchored_rooted (steps : List String) : (TypeName.rooted steps).ty.Anchored := by
  intro head member
  rw [TypeName.ty, Ty.heads, headsOf_plain, List.mem_singleton] at member
  rw [member]
  rfl

theorem anchored_primitive (primitive : String) (known : primitives.contains primitive = true) :
    (plainPath [primitive]).Anchored := by
  intro head member
  have single : (plainPath [primitive]).heads = [.step primitive true] := rfl
  rw [single, List.mem_singleton] at member
  rw [member, Head.isAnchored, known]
  exact Bool.or_true _

theorem isAnchored_of_crate (rest : List Segment) :
    (Head.ofPath false (.plain "crate" :: rest)).isAnchored = true := by
  cases rest <;> rfl

theorem anchored_declared (wrapper : CratePath) : (TypeName.declared wrapper).ty.Anchored := by
  have heads : (TypeName.declared wrapper).ty.heads =
      [.ofPath false (.plain "crate" :: wrapper.steps.map .plain), .root] := by
    rw [TypeName.ty, plainPath, Ty.heads, Ty.heads, headsOf_plain, headsOf_plain]
    rfl
  rw [Ty.Anchored, heads, List.forall_mem_cons, List.forall_mem_singleton]
  exact ⟨isAnchored_of_crate _, rfl⟩

theorem anchored_option {inner : TypeName} (anchored : inner.ty.Anchored) :
    (TypeName.option inner).ty.Anchored := by
  have heads : (TypeName.option inner).ty.heads = .root :: inner.ty.heads := by
    simp [TypeName.ty, Ty.heads, Head.ofPath, Segment.headsOf, Segment.heads, Segment.plain,
      Arguments.heads, Argument.headsOf, Argument.heads]
  rw [Ty.Anchored, heads, List.forall_mem_cons]
  exact ⟨rfl, anchored⟩

theorem tokens_of_payloadType {found : TypeName}
    (made : payloadType kind wrapper display = .ok found) : found.ty.tokens = found.tokens := by
  cases kind with
  | other =>
    rw [payloadType, otherPayload] at made
    split at made
    · split at made <;> cases made
      rfl
    · cases made
      exact TypeName.tokens_declared wrapper
  | numeric type => cases type <;> (cases made; rfl)
  | _ =>
    cases made
    exact TypeName.tokens_rooted _ _

/-- A payload from the crate root is spelled as it was found. -/
theorem spelled_of_crate {found : TypeName} (begins : beginsAtCrate display = true)
    (made : otherPayload wrapper display = .ok found) :
    ∃ ty, type? display = some ty ∧ found = .spelled ty := by
  rw [otherPayload, begins, Bool.or_true, if_pos rfl] at made
  split at made
  · rename_i ty read
    cases made
    exact ⟨ty, read, rfl⟩
  · cases made

/-- Any other payload is named from a root or by the name of a primitive type. -/
theorem anchored_of_payloadType {found : TypeName}
    (elsewhere : kind = .other → beginsAtCrate display = false)
    (made : payloadType kind wrapper display = .ok found) : found.ty.Anchored := by
  cases kind with
  | other =>
    have boolean : type? "bool" = some (plainPath ["bool"]) := rfl
    have character : type? "char" = some (plainPath ["char"]) := rfl
    rw [payloadType, otherPayload, elsewhere rfl] at made
    split at made
    · rename_i named
      simp only [Bool.or_false, Bool.or_eq_true, beq_iff_eq] at named
      rcases named with rfl | rfl
      · rw [boolean] at made
        cases made
        exact anchored_primitive "bool" rfl
      · rw [character] at made
        cases made
        exact anchored_primitive "char" rfl
    · cases made
      exact anchored_declared wrapper
  | numeric type =>
    cases type with
    | decimal =>
      cases made
      exact anchored_rooted _
    | _ =>
      cases made
      exact anchored_primitive _ rfl
  | _ =>
    cases made
    exact anchored_rooted _

/-- Of a payload from the crate root only what is inside may be found by the names in scope. -/
theorem anchored_iff_of_crate (begins : beginsAtCrate text = true)
    (read : type? text = some found) :
    found.Anchored ↔ ∀ head ∈ found.innerHeads, head.isAnchored = true := by
  cases found with
  | path rooted segments =>
    obtain ⟨rfl, more, rfl⟩ := segments_of_type? begins read
    rw [Ty.Anchored, Ty.heads, List.forall_mem_cons]
    exact and_iff_right (isAnchored_of_crate more)
  | _ => exact Iff.rfl

/-- The payload that generated code names for a checked wrapper means the same in every module
unless it is from the crate root and something in its arguments does not. -/
theorem payload_anchored_iff {descriptor : Descriptor} {subject : Subject}
    (checked : Subject.of descriptor (classify descriptor.payload) = .ok subject) :
    subject.payload.ty.tokens = subject.payload.tokens ∧
      (subject.payload.ty.Anchored ↔
        (beginsAtCrate descriptor.payload = true → ∀ ty, type? descriptor.payload = some ty →
          ∀ head ∈ ty.innerHeads, head.isAnchored = true)) := by
  obtain ⟨-, same, -, -, made⟩ := Generation.checked_of_subject checked
  have tokens := tokens_of_payloadType made
  constructor
  · rw [Subject.payload]
    split
    · exact TypeName.tokens_option tokens
    · exact tokens
  · cases begins : beginsAtCrate descriptor.payload with
    | true =>
      rw [classify_of_crate begins] at same made
      obtain ⟨ty, read, spelled⟩ := spelled_of_crate begins made
      have whole : subject.payload = .spelled ty := by
        rw [Subject.payload, same, spelled]
        rfl
      rw [whole, TypeName.ty, anchored_iff_of_crate begins read, read]
      simp
    | false =>
      have anchored : subject.inner.ty.Anchored := by
        refine anchored_of_payloadType (fun other => ?_) made
        rw [inner_of_other other, begins]
      refine iff_of_true ?_ (fun crate => by cases crate)
      rw [Subject.payload]
      split
      · exact anchored_option anchored
      · exact anchored

/-- A payload whose arguments are from the crate root, and one with an argument that is not. -/
private theorem money_runs :
    (Subject.of ⟨"W", "crate::Money<(crate::Unit, &u8)>", none, false, true⟩
      (classify "crate::Money<(crate::Unit, &u8)>")).toOption.isSome = true ∧
    (type? "crate::Money<(crate::Unit, &u8)>").all (·.innerHeads.all Head.isAnchored) = true ∧
    (Subject.of ⟨"W", "crate::Money<Local>", none, false, true⟩
      (classify "crate::Money<Local>")).toOption.map (fun subject =>
        (Token.render subject.payload.tokens, subject.payload.ty.heads)) =
      some ("crate :: Money < Local >", [.step "crate" false, .step "Local" true]) := by
  decide +kernel

/-- Arguments from the crate root mean the same wherever the path is spelled. -/
theorem payload_anchored_iff_nested :
    ∃ subject, Subject.of ⟨"W", "crate::Money<(crate::Unit, &u8)>", none, false, true⟩
        (classify "crate::Money<(crate::Unit, &u8)>") = .ok subject ∧
      subject.payload.ty.tokens = subject.payload.tokens ∧ subject.payload.ty.Anchored := by
  obtain ⟨ends, inside, _⟩ := money_runs
  obtain ⟨subject, checked⟩ := ok_of_isSome ends
  obtain ⟨tokens, anchored⟩ := payload_anchored_iff checked
  refine ⟨subject, checked, tokens, anchored.mpr fun _ ty read => ?_⟩
  rw [read] at inside
  exact List.all_eq_true.mp inside

/-- An argument that is found by the names in scope is spelled as it stands. -/
theorem payload_unanchored :
    ∃ subject, Subject.of ⟨"W", "crate::Money<Local>", none, false, true⟩
        (classify "crate::Money<Local>") = .ok subject ∧
      Token.render subject.payload.tokens = "crate :: Money < Local >" ∧
      subject.payload.ty.heads = [.step "crate" false, .step "Local" true] ∧
      ¬subject.payload.ty.Anchored := by
  obtain ⟨_, _, run⟩ := money_runs
  obtain ⟨subject, checked, shown⟩ := Option.map_eq_some_iff.mp run
  obtain ⟨rendered, heads⟩ := Prod.mk.inj shown
  refine ⟨subject, toOption_eq_some.mp checked, rendered, heads, fun anchored => ?_⟩
  have named := anchored (.step "Local" true) (by simp [heads])
  exact absurd named (by decide)

end Emit

end ValueObjects
