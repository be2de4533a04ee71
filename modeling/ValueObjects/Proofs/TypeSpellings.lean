import ValueObjects.Proofs.Payloads
/-!
Spellings of one type. What may be written in two ways without changing the type is gone from its
canonical form, and the gaps between the tokens that are left are gone from its canonical text. Not
so a comma behind the last argument or element and the colons before a list of arguments: those are
kept as they were found.
-/
namespace ValueObjects

/-! Tokens without the gaps between them. -/

mutual

/-- The token without what it says of the gap behind it. A mark that could belong to a word keeps
it: there a gap tells two words from one. -/
def Token.ungapped : Token → Token
  | .ident name => .ident name
  | .punct mark spacing => .punct mark (if Text.isWordChar mark then spacing else .alone)
  | .literal text => .literal text
  | .group delimiter body => .group delimiter (Token.ungappedAll body)

/-- The tokens without what they say of the gaps between them. -/
def Token.ungappedAll : List Token → List Token
  | [] => []
  | token :: rest => token.ungapped :: Token.ungappedAll rest

end

open Token

theorem Token.ungappedAll_eq_map (tokens : List Token) :
    ungappedAll tokens = tokens.map ungapped := by
  induction tokens with
  | nil => rfl
  | cons token rest ih => rw [ungappedAll, ih, List.map_cons]

@[simp]
theorem Token.ungappedAll_append (tokens others : List Token) :
    ungappedAll (tokens ++ others) = ungappedAll tokens ++ ungappedAll others := by
  simp only [ungappedAll_eq_map, List.map_append]

mutual

theorem Token.ungapped_ungapped : (token : Token) → token.ungapped.ungapped = token.ungapped
  | .ident _ => rfl
  | .punct mark spacing => by
    rw [ungapped, ungapped]
    split <;> rfl
  | .literal _ => rfl
  | .group delimiter body => by
    rw [ungapped, ungapped, ungappedAll_ungappedAll body]

@[simp]
theorem Token.ungappedAll_ungappedAll : (tokens : List Token) →
    ungappedAll (ungappedAll tokens) = ungappedAll tokens
  | [] => rfl
  | token :: rest => by
    rw [ungappedAll, ungappedAll, ungapped_ungapped token, ungappedAll_ungappedAll rest]

end

/-! The compact text of tokens does not depend on their gaps. -/

namespace Text

/-- Whether two texts are compacted alike, whatever stands around them. -/
def CompactAlike (text other : List Char) : Prop :=
  ∀ before space rest, compactAfter before space (text ++ rest) =
    compactAfter before space (other ++ rest)

theorem compactAfter_append
    (same : ∀ before space, compactAfter before space text = compactAfter before space other)
    (start : List Char) : ∀ before space, compactAfter before space (start ++ text) =
      compactAfter before space (start ++ other) := by
  induction start with
  | nil => exact same
  | cons c rest ih =>
    intro before space
    simp only [List.cons_append, compactAfter, ih]

theorem CompactAlike.append (first : CompactAlike text other) (second : CompactAlike more others) :
    CompactAlike (text ++ more) (other ++ others) := by
  intro before space rest
  rw [List.append_assoc, List.append_assoc, first]
  exact compactAfter_append (fun before space => second before space rest) other before space

theorem CompactAlike.refl (text : List Char) : CompactAlike text text :=
  fun _ _ _ => rfl

/-- Behind a mark that belongs to no word it makes no difference whether there is a gap. -/
theorem compactAfter_behind (mark : isWordChar c = false) (space other : Bool) (rest : List Char) :
    compactAfter (some c) space rest = compactAfter (some c) other rest := by
  induction rest generalizing space other with
  | nil => rfl
  | cons next rest ih =>
    by_cases blank : isBlank next = true
    · simp only [compactAfter, blank, if_true]
    · simp [compactAfter, blank, mark]

theorem compactAlike_mark (mark : isWordChar c = false) : CompactAlike [c, ' '] [c] := by
  intro before space rest
  have gap : isBlank ' ' = true := by decide
  by_cases blank : isBlank c = true
  · simp only [List.cons_append, List.nil_append, compactAfter, blank, gap, if_true]
  · simp only [List.cons_append, List.nil_append, compactAfter, blank, gap, mark, if_true,
      Bool.and_false, compactAfter_behind mark true false]

end Text

open Text

@[simp]
theorem Token.isEmpty_ungappedAll (tokens : List Token) :
    (ungappedAll tokens).isEmpty = tokens.isEmpty := by
  cases tokens <;> rfl

/-- The gap behind a token is compacted like the gap behind the token without it. -/
theorem Token.gap_ungapped (token : Token) (rest : List Token)
    (same : CompactAlike token.spell token.ungapped.spell) :
    CompactAlike (token.spell ++ token.gap rest)
      (token.ungapped.spell ++ token.ungapped.gap (ungappedAll rest)) := by
  have kept (still : token.ungapped.isJoint = token.isJoint) :
      CompactAlike (token.spell ++ token.gap rest)
        (token.ungapped.spell ++ token.ungapped.gap (ungappedAll rest)) := by
    rw [gap, gap, still, isEmpty_ungappedAll]
    exact same.append (.refl _)
  cases token with
  | ident name => exact kept rfl
  | literal text => exact kept rfl
  | group delimiter body => exact kept rfl
  | punct mark spacing =>
    by_cases inWord : isWordChar mark = true
    · exact kept (by simp [ungapped, inWord])
    · rw [Bool.not_eq_true] at inWord
      have alike := compactAlike_mark inWord
      cases spacing <;> cases rest <;>
        simp [ungapped, inWord, gap, isJoint, spell, ungappedAll, CompactAlike.refl]
      exact fun before space rest => (alike before space rest).symm

mutual

theorem Token.spell_ungapped : (token : Token) → CompactAlike token.spell token.ungapped.spell
  | .ident _ => .refl _
  | .punct _ _ => .refl _
  | .literal _ => .refl _
  | .group delimiter body => by
    simp only [spell, ungapped, isEmpty_ungappedAll]
    exact ((CompactAlike.refl _).append (spellAll_ungappedAll body)).append (.refl _)

/-- The text of tokens without their gaps is compacted like the text of the tokens. -/
theorem Token.spellAll_ungappedAll : (tokens : List Token) →
    CompactAlike (spell.spellAll tokens) (spell.spellAll (ungappedAll tokens))
  | [] => .refl _
  | token :: rest => by
    simp only [spell.spellAll, ungappedAll]
    exact (gap_ungapped token rest (spell_ungapped token)).append (spellAll_ungappedAll rest)

end

/-- Tokens that differ in gaps only have one compact text. -/
theorem Token.compact_spellAll (same : ungappedAll tokens = ungappedAll others) :
    compact (spell.spellAll tokens) = compact (spell.spellAll others) := by
  have alike (tokens : List Token) : compact (spell.spellAll tokens) =
      compact (spell.spellAll (ungappedAll tokens)) := by
    simpa [compact] using spellAll_ungappedAll tokens none false []
  rw [alike tokens, same, ← alike others]

/-! Types without the gaps of the tokens that they keep. -/

mutual

/-- The type without what the tokens that it keeps say of gaps. -/
def Ty.ungapped : Ty → Ty
  | .path rooted segments => .path rooted (Segment.ungappedAll segments)
  | .qualified self position rooted segments =>
    .qualified self.ungapped position rooted (Segment.ungappedAll segments)
  | .reference lifetime mutable elem => .reference lifetime mutable elem.ungapped
  | .pointer mutable elem => .pointer mutable elem.ungapped
  | .slice elem => .slice elem.ungapped
  | .array elem length => .array elem.ungapped (ungappedAll length)
  | .tuple elems trailing => .tuple (Ty.ungappedAll elems) trailing
  | .paren elem => .paren elem.ungapped
  | .group elem => .group elem.ungapped
  | .verbatim tokens => .verbatim (ungappedAll tokens)

def Ty.ungappedAll : List Ty → List Ty
  | [] => []
  | ty :: rest => ty.ungapped :: Ty.ungappedAll rest

def Segment.ungapped : Segment → Segment
  | .mk name arguments => .mk name arguments.ungapped

def Segment.ungappedAll : List Segment → List Segment
  | [] => []
  | segment :: rest => segment.ungapped :: Segment.ungappedAll rest

def Arguments.ungapped : Arguments → Arguments
  | .none => .none
  | .angle turbofish arguments trailing =>
    .angle turbofish (Argument.ungappedAll arguments) trailing

def Argument.ungapped : Argument → Argument
  | .lifetime name => .lifetime name
  | .type ty => .type ty.ungapped
  | .other tokens => .other (Token.ungappedAll tokens)

def Argument.ungappedAll : List Argument → List Argument
  | [] => []
  | argument :: rest => argument.ungapped :: Argument.ungappedAll rest

end

/-! How lists of tokens are put together does not depend on their gaps. -/

theorem punctuated_map (f : α → β) (trailing : Bool) (elems : List α) :
    punctuated trailing (elems.map f) =
      (punctuated trailing elems).map fun pair => (f pair.1, pair.2) := by
  induction elems with
  | nil => rfl
  | cons elem rest ih =>
    cases rest with
    | nil => rfl
    | cons next later => simpa [punctuated] using ih

theorem Token.ungappedAll_flatMap (f : α → List Token) (elems : List α) :
    ungappedAll (elems.flatMap f) = elems.flatMap fun elem => ungappedAll (f elem) := by
  induction elems with
  | nil => rfl
  | cons elem rest ih => rw [List.flatMap_cons, ungappedAll_append, ih, List.flatMap_cons]

@[simp]
theorem Token.ungapped_comma : comma.ungapped = comma := by
  simp [ungapped, comma]

theorem Token.ungappedAll_commaSeparated (trailing : Bool) (elems : List (List Token)) :
    ungappedAll (commaSeparated trailing elems) =
      commaSeparated trailing (elems.map ungappedAll) := by
  rw [commaSeparated, commaSeparated, ungappedAll_flatMap, punctuated_map, List.flatMap_map]
  congr 1
  funext ⟨elem, separated⟩
  cases separated <;> simp [ungappedAll]

theorem Token.ungappedAll_argumentTokens (trailing : Bool) (arguments : List (Bool × List Token)) :
    ungappedAll (argumentTokens trailing arguments) =
      argumentTokens trailing (arguments.map fun pair => (pair.1, ungappedAll pair.2)) := by
  unfold argumentTokens
  extract_lets pairs lifetimes others start separated step pairs' lifetimes' others' start'
    separated'
  have all : pairs' = pairs.map fun pair => ((pair.1.1, ungappedAll pair.1.2), pair.2) :=
    punctuated_map _ trailing arguments
  have firsts : lifetimes' = lifetimes.map fun pair => ((pair.1.1, ungappedAll pair.1.2), pair.2) := by
    simp only [lifetimes', all]
    exact List.filter_map
  have lasts : others' = others.map fun pair => ((pair.1.1, ungappedAll pair.1.2), pair.2) := by
    simp only [others', all]
    exact List.filter_map
  have begins : start' = ungappedAll start := by
    simp only [start', start, firsts, ungappedAll_flatMap, List.flatMap_map]
    congr 1
    funext ⟨⟨first, tokens⟩, follows⟩
    cases follows <;> simp [ungappedAll]
  have ends : separated' = separated := by
    simp only [separated', separated, firsts, List.getLast?_map]
    cases lifetimes.getLast? <;> rfl
  rw [lasts, begins, ends, List.foldl_map]
  refine congrArg Prod.fst (List.foldl_hom
    (fun state : List Token × Bool => (ungappedAll state.1, state.2)) ?_).symm
  rintro ⟨written, apart⟩ ⟨⟨first, tokens⟩, follows⟩
  cases apart <;> cases follows <;> simp [step, ungappedAll]

theorem Token.ungappedAll_joinSteps
    (same : steps.map ungappedAll = (others : List (List Token)).map ungappedAll) :
    ungappedAll (joinSteps steps) = ungappedAll (joinSteps others) := by
  induction steps generalizing others with
  | nil =>
    cases others with
    | nil => rfl
    | cons step rest => cases same
  | cons step rest ih =>
    cases others with
    | nil => cases same
    | cons other more =>
      rw [List.map_cons, List.map_cons, List.cons.injEq] at same
      have later := ih same.2
      cases rest <;> cases more <;> simp_all [joinSteps]

mutual

/-- The tokens of a type without gaps are those of the type, but for gaps. -/
theorem Ty.tokens_ungapped : (ty : Ty) →
    Token.ungappedAll ty.ungapped.tokens = Token.ungappedAll ty.tokens
  | .path rooted segments => by
    simp only [Ty.ungapped, Ty.tokens, ungappedAll_append,
      ungappedAll_joinSteps (Segment.tokensOf_ungappedAll segments)]
  | .qualified self position rooted segments => by
    have steps := Segment.tokensOf_ungappedAll segments
    have inside := congrArg (List.take position) steps
    have outside := congrArg (List.drop position) steps
    rw [← List.map_take, ← List.map_take] at inside
    rw [← List.map_drop, ← List.map_drop] at outside
    have inner := congrArg List.isEmpty inside
    have outer := congrArg List.isEmpty outside
    rw [List.isEmpty_map, List.isEmpty_map] at inner outer
    simp only [Ty.ungapped, Ty.tokens, ungappedAll_append, Ty.tokens_ungapped self, inner, outer,
      ungappedAll_joinSteps outside]
    split <;> simp only [ungappedAll_append, ungappedAll_joinSteps inside]
  | .reference lifetime mutable elem => by
    simp only [Ty.ungapped, Ty.tokens, ungappedAll_append, Ty.tokens_ungapped elem]
  | .pointer mutable elem => by
    simp only [Ty.ungapped, Ty.tokens, ungappedAll_append, Ty.tokens_ungapped elem]
  | .slice elem => by
    simp only [Ty.ungapped, Ty.tokens, Token.ungappedAll, Token.ungapped, Ty.tokens_ungapped elem]
  | .array elem length => by
    simp only [Ty.ungapped, Ty.tokens, Token.ungappedAll, Token.ungapped, ungappedAll_append,
      Ty.tokens_ungapped elem, ungappedAll_ungappedAll]
  | .tuple elems trailing => by
    simp only [Ty.ungapped, Ty.tokens, Token.ungappedAll, Token.ungapped,
      ungappedAll_commaSeparated, Ty.tokensOf_ungappedAll elems]
  | .paren elem => by
    simp only [Ty.ungapped, Ty.tokens, Token.ungappedAll, Token.ungapped, Ty.tokens_ungapped elem]
  | .group elem => by
    simp only [Ty.ungapped, Ty.tokens, Ty.tokens_ungapped elem]
  | .verbatim tokens => ungappedAll_ungappedAll tokens

theorem Ty.tokensOf_ungappedAll : (elems : List Ty) →
    (Ty.tokensOf (Ty.ungappedAll elems)).map Token.ungappedAll =
      (Ty.tokensOf elems).map Token.ungappedAll
  | [] => rfl
  | ty :: rest => by
    simp only [Ty.ungappedAll, Ty.tokensOf, List.map_cons, Ty.tokens_ungapped ty,
      Ty.tokensOf_ungappedAll rest]

theorem Segment.tokens_ungapped : (segment : Segment) →
    Token.ungappedAll segment.ungapped.tokens = Token.ungappedAll segment.tokens
  | .mk name arguments => by
    simp only [Segment.ungapped, Segment.tokens, Token.ungappedAll,
      Arguments.tokens_ungapped arguments]

theorem Segment.tokensOf_ungappedAll : (segments : List Segment) →
    (Segment.tokensOf (Segment.ungappedAll segments)).map Token.ungappedAll =
      (Segment.tokensOf segments).map Token.ungappedAll
  | [] => rfl
  | segment :: rest => by
    simp only [Segment.ungappedAll, Segment.tokensOf, List.map_cons,
      Segment.tokens_ungapped segment, Segment.tokensOf_ungappedAll rest]

theorem Arguments.tokens_ungapped : (arguments : Arguments) →
    Token.ungappedAll arguments.ungapped.tokens = Token.ungappedAll arguments.tokens
  | .none => rfl
  | .angle turbofish arguments trailing => by
    simp only [Arguments.ungapped, Arguments.tokens, ungappedAll_append,
      ungappedAll_argumentTokens, Argument.tokensOf_ungappedAll arguments]

theorem Argument.tokens_ungapped : (argument : Argument) →
    argument.ungapped.tokens.1 = argument.tokens.1 ∧
      Token.ungappedAll argument.ungapped.tokens.2 = Token.ungappedAll argument.tokens.2
  | .lifetime _ => ⟨rfl, rfl⟩
  | .type ty => ⟨rfl, Ty.tokens_ungapped ty⟩
  | .other tokens => ⟨rfl, ungappedAll_ungappedAll tokens⟩

theorem Argument.tokensOf_ungappedAll : (arguments : List Argument) →
    (Argument.tokensOf (Argument.ungappedAll arguments)).map
        (fun pair => (pair.1, Token.ungappedAll pair.2)) =
      (Argument.tokensOf arguments).map fun pair => (pair.1, Token.ungappedAll pair.2)
  | [] => rfl
  | argument :: rest => by
    simp only [Argument.ungappedAll, Argument.tokensOf, List.map_cons,
      (Argument.tokens_ungapped argument).1, (Argument.tokens_ungapped argument).2,
      Argument.tokensOf_ungappedAll rest]

end

/-! The canonical form goes by the names of a path, and puts no gap anywhere. -/

theorem Segment.ungappedAll_eq_map (segments : List Segment) :
    Segment.ungappedAll segments = segments.map Segment.ungapped := by
  induction segments with
  | nil => rfl
  | cons segment rest ih => rw [Segment.ungappedAll, ih, List.map_cons]

theorem Segment.canonicalAll_eq_map (segments : List Segment) :
    Segment.canonicalAll segments = segments.map Segment.canonical := by
  induction segments with
  | nil => rfl
  | cons segment rest ih => rw [Segment.canonicalAll, ih, List.map_cons]

theorem Ty.ungappedAll_eq_map (types : List Ty) : Ty.ungappedAll types = types.map Ty.ungapped := by
  induction types with
  | nil => rfl
  | cons ty rest ih => rw [Ty.ungappedAll, ih, List.map_cons]

theorem Ty.canonicalAll_eq_map (types : List Ty) :
    Ty.canonicalAll types = types.map Ty.canonical := by
  induction types with
  | nil => rfl
  | cons ty rest ih => rw [Ty.canonicalAll, ih, List.map_cons]

theorem Argument.ungappedAll_eq_map (arguments : List Argument) :
    Argument.ungappedAll arguments = arguments.map Argument.ungapped := by
  induction arguments with
  | nil => rfl
  | cons argument rest ih => rw [Argument.ungappedAll, ih, List.map_cons]

theorem Argument.canonicalAll_eq_map (arguments : List Argument) :
    Argument.canonicalAll arguments = arguments.map Argument.canonical := by
  induction arguments with
  | nil => rfl
  | cons argument rest ih => rw [Argument.canonicalAll, ih, List.map_cons]

theorem pathWith_ungapped (names : List String) (arguments : Arguments) :
    Segment.ungappedAll (pathWith names arguments) = pathWith names arguments.ungapped := by
  have plain : Segment.ungapped ∘ Segment.plain = Segment.plain := rfl
  rw [Segment.ungappedAll_eq_map, pathWith, pathWith, List.map_append, List.map_map, plain]
  cases names.getLast? <;> rfl

theorem names_ungapped (segments : List Segment) :
    (Segment.ungappedAll segments).map Segment.name = segments.map Segment.name := by
  rw [Segment.ungappedAll_eq_map, List.map_map]
  refine List.map_congr_left fun segment _ => ?_
  cases segment
  rfl

theorem canonicalPath_ungapped (segments : List Segment) :
    canonicalPath (Segment.ungappedAll segments) =
      Segment.ungappedAll (canonicalPath segments) := by
  cases found : segments.getLast? with
  | none =>
    rw [List.getLast?_eq_none_iff.mp found]
    rfl
  | some last =>
    have other : (Segment.ungappedAll segments).getLast? = some last.ungapped := by
      rw [Segment.ungappedAll_eq_map, List.getLast?_map, found, Option.map_some]
    have name : last.ungapped.name = last.name := by
      cases last
      rfl
    have arguments : last.ungapped.arguments = last.arguments.ungapped := by
      cases last
      rfl
    simp only [canonicalPath, other, found, names_ungapped, name, arguments]
    split
    · exact (pathWith_ungapped _ _).symm
    · split <;> rfl

mutual

theorem Ty.canonical_ungapped : (ty : Ty) → ty.ungapped.canonical = ty.canonical.ungapped
  | .path rooted segments => by
    rw [Ty.ungapped, Ty.canonical, Ty.canonical, Ty.ungapped,
      Segment.canonicalAll_ungappedAll segments, canonicalPath_ungapped]
  | .qualified self position rooted segments => by
    rw [Ty.ungapped, Ty.canonical, Ty.canonical, Ty.ungapped, Ty.canonical_ungapped self]
  | .reference lifetime mutable elem => by
    rw [Ty.ungapped, Ty.canonical, Ty.canonical, Ty.ungapped, Ty.canonical_ungapped elem]
  | .pointer mutable elem => by
    rw [Ty.ungapped, Ty.canonical, Ty.canonical, Ty.ungapped, Ty.canonical_ungapped elem]
  | .slice elem => by
    rw [Ty.ungapped, Ty.canonical, Ty.canonical, Ty.ungapped, Ty.canonical_ungapped elem]
  | .array elem length => by
    rw [Ty.ungapped, Ty.canonical, Ty.canonical, Ty.ungapped, Ty.canonical_ungapped elem]
  | .tuple elems trailing => by
    rw [Ty.ungapped, Ty.canonical, Ty.canonical, Ty.ungapped, Ty.canonicalAll_ungappedAll elems]
  | .paren elem => by
    rw [Ty.ungapped, Ty.canonical, Ty.canonical, Ty.canonical_ungapped elem]
  | .group elem => by
    rw [Ty.ungapped, Ty.canonical, Ty.canonical, Ty.canonical_ungapped elem]
  | .verbatim tokens => rfl

theorem Ty.canonicalAll_ungappedAll : (types : List Ty) →
    Ty.canonicalAll (Ty.ungappedAll types) = Ty.ungappedAll (Ty.canonicalAll types)
  | [] => rfl
  | ty :: rest => by
    rw [Ty.ungappedAll, Ty.canonicalAll, Ty.canonicalAll, Ty.ungappedAll, Ty.canonical_ungapped ty,
      Ty.canonicalAll_ungappedAll rest]

theorem Segment.canonical_ungapped : (segment : Segment) →
    segment.ungapped.canonical = segment.canonical.ungapped
  | .mk name arguments => by
    rw [Segment.ungapped, Segment.canonical, Segment.canonical, Segment.ungapped,
      Arguments.canonical_ungapped arguments]

theorem Segment.canonicalAll_ungappedAll : (segments : List Segment) →
    Segment.canonicalAll (Segment.ungappedAll segments) =
      Segment.ungappedAll (Segment.canonicalAll segments)
  | [] => rfl
  | segment :: rest => by
    rw [Segment.ungappedAll, Segment.canonicalAll, Segment.canonicalAll, Segment.ungappedAll,
      Segment.canonical_ungapped segment, Segment.canonicalAll_ungappedAll rest]

theorem Arguments.canonical_ungapped : (arguments : Arguments) →
    arguments.ungapped.canonical = arguments.canonical.ungapped
  | .none => rfl
  | .angle turbofish arguments trailing => by
    rw [Arguments.ungapped, Arguments.canonical, Arguments.canonical, Arguments.ungapped,
      Argument.canonicalAll_ungappedAll arguments]

theorem Argument.canonical_ungapped : (argument : Argument) →
    argument.ungapped.canonical = argument.canonical.ungapped
  | .lifetime _ => rfl
  | .type ty => by
    rw [Argument.ungapped, Argument.canonical, Argument.canonical, Argument.ungapped,
      Ty.canonical_ungapped ty]
  | .other _ => rfl

theorem Argument.canonicalAll_ungappedAll : (arguments : List Argument) →
    Argument.canonicalAll (Argument.ungappedAll arguments) =
      Argument.ungappedAll (Argument.canonicalAll arguments)
  | [] => rfl
  | argument :: rest => by
    rw [Argument.ungappedAll, Argument.canonicalAll, Argument.canonicalAll, Argument.ungappedAll,
      Argument.canonical_ungapped argument, Argument.canonicalAll_ungappedAll rest]

end

/-- No well-known path ends in a name that needs no path. -/
theorem wellKnown?_of_isPrelude (last : names.getLast? = some name) (prelude : isPrelude name) :
    wellKnown? names = none := by
  have ends : ∀ path ∈ wellKnownPaths, path.getLast? ≠ some name := by
    intro path member same
    have none : ∀ path ∈ wellKnownPaths, ∀ name ∈ path.getLast?, isPrelude name = false := by
      decide
    simp [none path member name same] at prelude
  refine List.find?_eq_none.mpr fun path member chosen => ?_
  rw [Bool.or_eq_true, Bool.and_eq_true, beq_iff_eq, List.isSuffixOf_iff_suffix] at chosen
  rcases chosen with single | suffix
  · exact ends path member (single.2.symm.trans last)
  · obtain ⟨before, rfl⟩ := suffix
    have filled : path ≠ [] := by
      rintro rfl
      simp [wellKnownPaths] at member
    rw [List.getLast?_append_of_ne_nil _ filled] at last
    exact ends path member last

theorem canonicalPath_of_isPrelude (ends : segments.getLast? = some last)
    (prelude : isPrelude last.name) :
    canonicalPath segments =
      if isStandard (segments.map Segment.name) then [last] else segments := by
  have unknown : wellKnown? (segments.map Segment.name) = none := by
    refine wellKnown?_of_isPrelude ?_ prelude
    rw [List.getLast?_map, ends, Option.map_some]
  simp only [canonicalPath, ends, unknown, prelude, Bool.and_true]

/-! Spellings of a type. -/

namespace Ty

/-- Two types differ in spelling only, at any depth that the canonical form looks into: in white
space, in parentheses around a type, in the colons of a root, or in a path of the standard library
before a name that needs none. -/
inductive Respelled : Ty → Ty → Prop where
  | refl (ty : Ty) : Respelled ty ty
  | symm : Respelled ty other → Respelled other ty
  | trans : Respelled ty other → Respelled other another → Respelled ty another
  /-- The tokens that are kept as they were found have other gaps. -/
  | gaps (ty other : Ty) : ty.ungapped = other.ungapped → Respelled ty other
  | parentheses (elem : Ty) : Respelled (.paren elem) elem
  | root (segments : List Segment) : Respelled (.path true segments) (.path false segments)
  | library (rooted : Bool) (between : List Segment) (last : Segment) :
      library ∈ ["std", "core", "alloc"] → last.name ∈ "String" :: "Option" :: primitives →
      Respelled (.path rooted (.plain library :: between ++ [last])) (.path rooted [last])
  | reference (lifetime : Option String) (mutable : Bool) : Respelled ty other →
      Respelled (.reference lifetime mutable ty) (.reference lifetime mutable other)
  | pointer (mutable : Bool) : Respelled ty other →
      Respelled (.pointer mutable ty) (.pointer mutable other)
  | slice : Respelled ty other → Respelled (.slice ty) (.slice other)
  | array (length : List Token) : Respelled ty other →
      Respelled (.array ty length) (.array other length)
  | element (before after : List Ty) (trailing : Bool) : Respelled ty other →
      Respelled (.tuple (before ++ ty :: after) trailing) (.tuple (before ++ other :: after) trailing)
  | argument (rooted : Bool) (before after : List Segment) (name : String) (turbofish : Bool)
      (earlier later : List Argument) (trailing : Bool) : Respelled ty other →
      Respelled
        (.path rooted (before ++ .mk name
          (.angle turbofish (earlier ++ .type ty :: later) trailing) :: after))
        (.path rooted (before ++ .mk name
          (.angle turbofish (earlier ++ .type other :: later) trailing) :: after))
  /-- The type that a path leads into. -/
  | self (position : Nat) (rooted : Bool) (segments : List Segment) : Respelled ty other →
      Respelled (.qualified ty position rooted segments) (.qualified other position rooted segments)

theorem canonical_library (standard : library ∈ ["std", "core", "alloc"])
    (prelude : last.name ∈ "String" :: "Option" :: primitives) :
    (Ty.path rooted (.plain library :: between ++ [last])).canonical =
      (Ty.path rooted [last]).canonical := by
  have short : isPrelude last.canonical.name = true := by
    have name : last.canonical.name = last.name := by
      cases last
      rfl
    simpa [isPrelude, or_assoc, name] using prelude
  have long (names : List String) : isStandard (library :: names) = true := by
    simpa [isStandard, or_assoc] using standard
  have alone : canonicalPath [last.canonical] = [last.canonical] := by
    rw [canonicalPath_of_isPrelude rfl short, ite_self]
  rw [Ty.canonical, Ty.canonical, Segment.canonicalAll_eq_map, Segment.canonicalAll_eq_map,
    List.map_append, List.map_cons, List.map_cons, List.map_nil, alone,
    canonicalPath_of_isPrelude List.getLast?_concat short]
  exact congrArg (Ty.path false) (if_pos (long _))

/-- Two spellings of a type have one canonical form, but for gaps. -/
theorem Respelled.canonical (same : Respelled ty other) :
    ty.canonical.ungapped = other.canonical.ungapped := by
  induction same with
  | refl ty => rfl
  | symm _ ih => exact ih.symm
  | trans _ _ ih more => exact ih.trans more
  | gaps ty other same => rw [← canonical_ungapped, same, canonical_ungapped]
  | parentheses elem => rfl
  | root segments => rfl
  | library rooted between last standard prelude => rw [canonical_library standard prelude]
  | reference lifetime mutable _ ih => rw [Ty.canonical, Ty.canonical, Ty.ungapped, ih, Ty.ungapped]
  | pointer mutable _ ih => rw [Ty.canonical, Ty.canonical, Ty.ungapped, ih, Ty.ungapped]
  | slice _ ih => rw [Ty.canonical, Ty.canonical, Ty.ungapped, ih, Ty.ungapped]
  | array length _ ih => rw [Ty.canonical, Ty.canonical, Ty.ungapped, ih, Ty.ungapped]
  | element before after trailing _ ih =>
    simp only [Ty.canonical, Ty.ungapped, canonicalAll_eq_map, ungappedAll_eq_map, List.map_append,
      List.map_cons, ih]
  | argument rooted before after name turbofish earlier later trailing _ ih =>
    rw [Ty.canonical, Ty.canonical, Ty.ungapped, Ty.ungapped, ← canonicalPath_ungapped,
      ← canonicalPath_ungapped]
    simp only [Segment.canonicalAll_eq_map,
      Segment.ungappedAll_eq_map, List.map_append, List.map_cons, Segment.canonical,
      Segment.ungapped, Arguments.canonical, Arguments.ungapped, Argument.canonicalAll_eq_map,
      Argument.ungappedAll_eq_map, Argument.canonical, Argument.ungapped, ih]
  | self position rooted segments _ ih =>
    rw [Ty.canonical, Ty.canonical, Ty.ungapped, ih, Ty.ungapped]

theorem Respelled.display (same : Respelled ty other) : ty.display = other.display := by
  have tokens : Token.ungappedAll ty.canonical.tokens =
      Token.ungappedAll other.canonical.tokens := by
    rw [← tokens_ungapped, same.canonical, tokens_ungapped]
  rw [Ty.display, Ty.display, compact_spellAll tokens]

end Ty

namespace Discovery

/-- What two types have in common as payloads. -/
structure OnePayload (ty other : Ty) : Prop where
  display : ty.display = other.display
  text : ∀ spelled another, Grammar.type? spelled = some ty → Grammar.type? another = some other →
    canonicalDisplay spelled = canonicalDisplay another
  /-- Wrappers of the two, in whichever modules, have one kind and share a payload group. -/
  wrappers : ∀ tree first second module home, first ∈ candidates tree → second ∈ candidates tree →
    Declares tree module first ty → Declares tree home second other →
    classify first.payload = classify second.payload ∧ InOneGroup (candidates tree) first second

/-- Types that differ in spelling only are one payload type: they have one canonical text, and so
one kind and one payload group. -/
theorem onePayload_of_respelled (same : Ty.Respelled ty other) : OnePayload ty other where
  display := same.display
  text spelled another read reread := by
    simp only [canonicalDisplay, read, reread, same.display]
  wrappers tree first second module home found present declares others := by
    refine ⟨?_, (inOneGroup_iff found present declares others).mpr same.display⟩
    rw [declares.payload, others.payload, same.display]

/-- An optional text, with the given colons before its argument and comma behind it. -/
def optionOf (turbofish trailing : Bool) (payload : Ty) : Ty :=
  .path false [.mk "Option" (.angle turbofish [.type payload] trailing)]

/-- Parentheses, roots and paths of the standard library, one inside the other. -/
theorem onePayload_of_respelled_option :
    OnePayload (.paren (.path true [.plain "std", .plain "option", .mk "Option" (.angle false
        [.type (.paren (.path true [.plain "std", .plain "string", .plain "String"]))] false)]))
      (optionOf false false (.path false [.plain "String"])) := by
  have inner : Ty.Respelled
      (.paren (.path true [.plain "std", .plain "string", .plain "String"]))
      (.path false [.plain "String"]) :=
    (Ty.Respelled.parentheses _).trans <| (Ty.Respelled.root _).trans <|
      .library false [.plain "string"] (.plain "String") (by decide) (by decide)
  exact onePayload_of_respelled <| (Ty.Respelled.parentheses _).trans <|
    (Ty.Respelled.root _).trans <|
      (Ty.Respelled.library false [.plain "option"] _ (by decide) (by decide)).trans <|
        .argument false [] [] "Option" false [] [] false inner

/-- A comma behind the argument or colons before it change the canonical text of an option, and it is
taken for a payload of no kind that is never empty. -/
theorem comma_changes_payload :
    canonicalDisplay "Option<u8>" = "Option<u8>" ∧
    canonicalDisplay "Option<u8,>" = "Option<u8,>" ∧
    canonicalDisplay "Option::<u8>" = "Option::<u8>" ∧
    canonicalDisplay "(u8,u8,)" = "(u8,u8,)" ∧ canonicalDisplay "(u8,u8)" = "(u8,u8)" ∧
    classify "Option<u8>" = ⟨.numeric .u8, true, "u8"⟩ ∧
    classify "Option<u8,>" = ⟨.other, false, "Option<u8,>"⟩ ∧
    classify "Option::<u8>" = ⟨.other, false, "Option::<u8>"⟩ := by
  decide +kernel

end Discovery

end ValueObjects
