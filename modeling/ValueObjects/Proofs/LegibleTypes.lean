import Mathlib.Data.List.Basic
import ValueObjects.Emit.Identifier
import ValueObjects.Grammar.Path
import ValueObjects.Proofs.LexedTokens

namespace ValueObjects

open Token Lexer

/-! Fixed tokens. -/

/-- The characters of operators but the apostrophe, spelled out so that they are found quickly. -/
def operatorMarks : List Char :=
  ['~', '!', '@', '#', '$', '%', '^', '&', '*', '-', '=', '+', '|', ';', ':', ',', '<', '.', '>',
    '/', '?']

theorem marks_eq : marks = operatorMarks ++ ['\''] := by
  decide

/-- Whether fixed tokens are words, lifetimes and operators. -/
def isFixed : List Token → Bool
  | [] => true
  | .ident name :: rest => Emit.isWord name && isFixed rest
  | .punct mark .alone :: rest => operatorMarks.contains mark && isFixed rest
  | .punct '\'' .joint :: .ident name :: rest => Emit.isWord name && isFixed rest
  | .punct mark .joint :: .punct next spacing :: rest =>
    operatorMarks.contains mark && operatorMarks.contains next && !beginsComment [mark, next] &&
      isFixed (.punct next spacing :: rest)
  | _ => false

theorem isName_of_isWord (word : Emit.isWord name = true) : IsName name.toList := by
  unfold Emit.isWord at word
  split at word
  · rename_i c rest same
    rw [Bool.and_eq_true, List.all_eq_true] at word
    rw [same]
    exact .plain ⟨c, rest, rfl, word⟩
  · cases word

theorem isMark_of_contains (operator : operatorMarks.contains mark = true) :
    mark ∈ marks ∧ mark ≠ '\'' := by
  rw [List.contains_iff_mem] at operator
  refine ⟨?_, ?_⟩
  · rw [marks_eq]
    exact List.mem_append_left _ operator
  · rintro rfl
    exact absurd operator (by decide)

theorem legible_of_isFixed (fixed : isFixed tokens = true) : Legible tokens := by
  induction tokens using isFixed.induct with
  | case1 => exact .nil
  | case2 name rest ih =>
    rw [isFixed, Bool.and_eq_true] at fixed
    exact .leaf rfl (isName_of_isWord fixed.1).stands (ih fixed.2)
  | case3 mark rest ih =>
    rw [isFixed, Bool.and_eq_true] at fixed
    obtain ⟨isMark, plain⟩ := isMark_of_contains fixed.1
    exact .leaf rfl (stands_mark isMark plain) (ih fixed.2)
  | case4 name rest ih =>
    rw [isFixed, Bool.and_eq_true] at fixed
    have spelled := isName_of_isWord fixed.1
    exact .joint spelled.leads (.leaf rfl spelled.stands (ih fixed.2))
  | case5 mark next spacing rest ih =>
    simp only [isFixed, Bool.and_eq_true, Bool.not_eq_true'] at fixed
    obtain ⟨⟨⟨first, second⟩, apart⟩, more⟩ := fixed
    obtain ⟨isMark, plain⟩ := isMark_of_contains first
    exact .joint (.operator isMark plain rfl (isMark_of_contains second).1 apart) (ih more)
  | case6 tokens other _ _ _ _ =>
    rw [isFixed] at fixed
    · cases fixed
    all_goals assumption

theorem legible_pathSeparator : Legible pathSeparator :=
  legible_of_isFixed (by decide)

theorem legible_comma : Legible [comma] :=
  legible_of_isFixed (by decide)

/-! Types. -/

/-- Elements with commas are none but the elements. -/
theorem mem_punctuated {elems : List α} (member : pair ∈ punctuated trailing elems) :
    pair.1 ∈ elems := by
  induction elems using punctuated.induct with
  | case1 => cases member
  | case2 last =>
    rw [punctuated, List.mem_singleton] at member
    simp [member]
  | case3 next rest more ih =>
    rw [punctuated, List.mem_cons] at member
    · rcases member with rfl | member
      · exact List.mem_cons_self
      · exact List.mem_cons_of_mem _ (ih member)
    · exact more

namespace Legible

theorem flatMap {elems : List α} {made : α → List Token}
    (each : ∀ a ∈ elems, Legible (made a)) : Legible (elems.flatMap made) := by
  induction elems with
  | nil => exact .nil
  | cons a rest ih =>
    rw [List.forall_mem_cons] at each
    rw [List.flatMap_cons]
    exact each.1.append (ih each.2)

theorem joinSteps (each : ∀ step ∈ steps, Legible step) : Legible (joinSteps steps) := by
  induction steps with
  | nil => exact .nil
  | cons step rest ih =>
    rw [List.forall_mem_cons] at each
    cases rest with
    | nil => exact each.1
    | cons next rest =>
      rw [ValueObjects.joinSteps]
      · exact (each.1.append legible_pathSeparator).append (ih each.2)
      · exact List.cons_ne_nil _ _

/-- Behind legible tokens there may be a comma. -/
theorem followed (legible : Legible tokens) (follows : Bool) :
    Legible (tokens ++ if follows then [comma] else []) := by
  cases follows with
  | false => rwa [if_neg Bool.false_ne_true, List.append_nil]
  | true => exact legible.append legible_comma

theorem separated (legible : Legible tokens) (follows : Bool) :
    Legible (if follows then tokens ++ [Token.comma] else tokens) := by
  cases follows with
  | false => exact legible
  | true => exact legible.append legible_comma

theorem commaSeparated (each : ∀ elem ∈ elems, Legible elem) :
    Legible (commaSeparated trailing elems) := by
  apply Legible.flatMap
  rintro ⟨elem, separated⟩ member
  exact (each elem (mem_punctuated member)).separated separated

theorem argumentTokens (each : ∀ argument ∈ arguments, Legible argument.2) :
    Legible (argumentTokens trailing arguments) := by
  have within : ∀ pair ∈ punctuated trailing arguments, Legible pair.1.2 :=
    fun pair member => each _ (mem_punctuated member)
  unfold ValueObjects.argumentTokens
  extract_lets pairs lifetimes others start separated step
  have begins : Legible start := by
    apply Legible.flatMap
    rintro ⟨⟨first, tokens⟩, separated⟩ member
    exact (within _ (List.mem_of_mem_filter member)).separated separated
  have goes (state : List Token × Bool) (legible : Legible state.1) (pair : (Bool × List Token) × Bool)
      (member : pair ∈ others) : Legible (step state pair).1 := by
    have added := (within _ (List.mem_of_mem_filter member)).followed pair.2
    have before := legible.followed !state.2
    cases separated : state.2
    all_goals
      rw [separated] at before
      simpa [step, separated] using before.append added
  have ends : Legible (others.foldl step (start, separated)).1 :=
    List.foldlRecOn (motive := fun state : List Token × Bool => Legible state.1) others step begins goes
  exact ends

end Legible

/-! Types. -/

theorem tokensOf_segments (segments : List Segment) :
    Segment.tokensOf segments = segments.map Segment.tokens := by
  induction segments with
  | nil => rfl
  | cons segment rest ih => rw [Segment.tokensOf, ih, List.map_cons]

theorem tokensOf_arguments (arguments : List Argument) :
    Argument.tokensOf arguments = arguments.map Argument.tokens := by
  induction arguments with
  | nil => rfl
  | cons argument rest ih => rw [Argument.tokensOf, ih, List.map_cons]

theorem tokensOf_types (types : List Ty) : Ty.tokensOf types = types.map Ty.tokens := by
  induction types with
  | nil => rfl
  | cons ty rest ih => rw [Ty.tokensOf, ih, List.map_cons]

namespace Legible

theorem segment {arguments : Arguments} (word : Legible [.ident name])
    (legible : Legible arguments.tokens) : Legible (Segment.mk name arguments).tokens :=
  word.append legible

theorem plain (word : Legible [.ident name]) : Legible (Segment.plain name).tokens :=
  word

theorem arguments {arguments : List Argument} (turbofish trailing : Bool)
    (each : ∀ argument ∈ arguments, Legible argument.tokens.2) :
    Legible (Arguments.angle turbofish arguments trailing).tokens := by
  have opening : Legible ((if turbofish then pathSeparator else []) ++ [.punct '<' .alone]) := by
    cases turbofish
    all_goals exact legible_of_isFixed (by decide)
  have closing : Legible [.punct '>' .alone] := legible_of_isFixed (by decide)
  rw [Arguments.tokens, tokensOf_arguments]
  refine (opening.append (argumentTokens ?_)).append closing
  simpa using each

/-- The two colons of a root. -/
theorem root (rooted : Bool) : Legible (if rooted then pathSeparator else []) := by
  cases rooted with
  | false => exact .nil
  | true => exact legible_pathSeparator

theorem qualified {self : Ty} {segments : List Segment} (position : Nat) (rooted : Bool)
    (legible : Legible self.tokens) (each : ∀ segment ∈ segments, Legible segment.tokens) :
    Legible (Ty.qualified self position rooted segments).tokens := by
  have steps : ∀ step ∈ Segment.tokensOf segments, Legible step := by
    rw [tokensOf_segments]
    simpa using each
  have opening : Legible [.punct '<' .alone] := legible_of_isFixed (by decide)
  have closing : Legible [.punct '>' .alone] := legible_of_isFixed (by decide)
  have seen : Legible [.ident "as"] := legible_of_isFixed (by decide)
  have before : Legible (ValueObjects.joinSteps ((Segment.tokensOf segments).take position)) :=
    joinSteps fun step member => steps step (List.mem_of_mem_take member)
  have after : Legible (ValueObjects.joinSteps ((Segment.tokensOf segments).drop position)) :=
    joinSteps fun step member => steps step (List.mem_of_mem_drop member)
  rw [Ty.tokens]
  refine ((opening.append legible).append ?_).append after
  split
  · exact closing.append (root rooted)
  · refine (((seen.append (root rooted)).append before).append closing).append ?_
    split
    · exact .nil
    · exact legible_pathSeparator

theorem bracketed (legible : Legible tokens) : Legible [.group delimiter tokens] :=
  .group legible .nil

theorem verbatim (legible : Legible tokens) : Legible (Ty.verbatim tokens).tokens :=
  legible

theorem tuple {elems : List Ty} (each : ∀ elem ∈ elems, Legible elem.tokens) :
    Legible (Ty.tuple elems trailing).tokens := by
  rw [Ty.tokens, tokensOf_types]
  exact .bracketed (.commaSeparated (by simpa using each))

theorem paren {elem : Ty} (legible : Legible elem.tokens) : Legible (Ty.paren elem).tokens :=
  .bracketed legible

theorem slice {elem : Ty} (legible : Legible elem.tokens) : Legible (Ty.slice elem).tokens :=
  .bracketed legible

theorem array {elem : Ty} (legible : Legible elem.tokens) (length : Legible written) :
    Legible (Ty.array elem written).tokens :=
  .bracketed ((legible.append (legible_of_isFixed (by decide))).append length)

theorem pointer {elem : Ty} (legible : Legible elem.tokens) :
    Legible (Ty.pointer mutable elem).tokens := by
  have begins : Legible [.punct '*' .alone, .ident (if mutable then "mut" else "const")] := by
    cases mutable
    all_goals exact legible_of_isFixed (by decide)
  exact begins.append legible

theorem reference {elem : Ty} {lifetime? : Option String} (legible : Legible elem.tokens)
    (each : ∀ name ∈ lifetime?, Legible (Token.lifetime name)) :
    Legible (Ty.reference lifetime? mutable elem).tokens := by
  have begins : Legible [.punct '&' .alone] := legible_of_isFixed (by decide)
  have changes : Legible (if mutable then [.ident "mut"] else []) := by
    cases mutable
    · exact .nil
    · exact legible_of_isFixed (by decide)
  cases lifetime? with
  | none =>
    rw [Ty.tokens]
    exact ((begins.append .nil).append changes).append legible
  | some name =>
    rw [Ty.tokens]
    exact ((begins.append (each name rfl)).append changes).append legible

end Legible

namespace Grammar.QualifiedPath

/-- A path of legible steps, and a legible type if it begins with one. -/
structure IsLegible (path : QualifiedPath) : Prop where
  self : ∀ found ∈ path.self?, Legible found.1.tokens
  segments : ∀ segment ∈ path.segments, Legible segment.tokens

theorem isLegible_into {self : Ty} {rooted : Bool} {segments : List Segment}
    (legible : Legible self.tokens) (each : ∀ segment ∈ segments, Legible segment.tokens) :
    IsLegible ⟨some (self, position), rooted, segments⟩ where
  self := by
    rintro _ ⟨⟩
    exact legible
  segments := each

theorem IsLegible.ty {path : QualifiedPath} (legible : path.IsLegible) : Legible path.ty.tokens := by
  obtain ⟨self?, rooted, segments⟩ := path
  cases self? with
  | none =>
    rw [QualifiedPath.ty, Ty.tokens, tokensOf_segments]
    exact (Legible.root rooted).append (.joinSteps (by simpa using legible.segments))
  | some found => exact .qualified found.2 rooted (legible.self found rfl) legible.segments

end Grammar.QualifiedPath

end ValueObjects
