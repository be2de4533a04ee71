import ValueObjects.Proofs.CompactTokens
import ValueObjects.Proofs.LegibleTypes
import ValueObjects.Proofs.TypeSpellings
/-!
Plain types: paths with their arguments, references, pointers, slices, arrays of a stated length,
tuples and what stands in parentheses. Functions, traits and computed lengths are none. A plain type
stays plain in its canonical form, and its tokens are tight.
-/
namespace ValueObjects

open Text Literal Token Lexer
open Grammar (reserved)

/-- A word that stays apart from the words beside it. -/
structure IsWordName (name : String) : Prop where
  spelled : IsName name.toList
  crisp : IsCrisp name.toList

/-- A numeral that stays apart from the words beside it. -/
structure IsNumeral (text : String) : Prop where
  digit : text.toList.head?.any Char.isDigit = true
  whole : scan? text.toList = some []
  crisp : IsCrisp text.toList

/-- An identifier. -/
structure IsFreeName (name : String) : Prop extends IsWordName name where
  free : name ∉ reserved

/-- The steps of paths that are no identifiers and take no arguments. -/
def pathWords : List String := ["super", "self", "crate", "try"]

/-- How often a list is repeated: a numeral or a name. -/
inductive IsLength : List Token → Prop where
  | numeral (numeral : IsNumeral text) : IsLength [.literal text]
  | name (free : IsFreeName name) : IsLength [.ident name]

/-- A constant argument: a numeral or a truth value. -/
inductive IsConstant : List Token → Prop where
  | numeral (numeral : IsNumeral text) : IsConstant [.literal text]
  | truth (member : name ∈ ["true", "false"]) : IsConstant [.ident name]

def Argument.isLifetime : Argument → Bool
  | .lifetime _ => true
  | _ => false

mutual

/-- A type of plain parts, as the grammar gives it. -/
inductive Ty.IsPlain : Ty → Prop where
  /-- Only behind a root could a path begin with `try`. -/
  | path (head : segments.head?.any (·.name != "try") = true)
      (each : ∀ segment ∈ segments, Segment.IsPlain segment) : Ty.IsPlain (.path rooted segments)
  | qualified (self : Ty.IsPlain ty) (into : position < segments.length)
      (root : position = 0 → rooted = true)
      (each : ∀ segment ∈ segments, Segment.IsPlain segment) :
      Ty.IsPlain (.qualified ty position rooted segments)
  | reference (lifetime : ∀ name ∈ lifetime?, IsWordName name) (elem : Ty.IsPlain ty) :
      Ty.IsPlain (.reference lifetime? mutable ty)
  | pointer (elem : Ty.IsPlain ty) : Ty.IsPlain (.pointer mutable ty)
  | slice (elem : Ty.IsPlain ty) : Ty.IsPlain (.slice ty)
  | array (elem : Ty.IsPlain ty) (length : IsLength written) : Ty.IsPlain (.array ty written)
  /-- A comma tells a tuple of one element from parentheses. -/
  | tuple (each : ∀ elem ∈ elems, Ty.IsPlain elem) (single : elems.length = 1 → trailing = true)
      (empty : elems = [] → trailing = false) : Ty.IsPlain (.tuple elems trailing)
  | paren (elem : Ty.IsPlain ty) : Ty.IsPlain (.paren ty)
  | inferred : Ty.IsPlain (.verbatim [.ident "_"])
  | never : Ty.IsPlain (.verbatim [.punct '!' .alone])

inductive Segment.IsPlain : Segment → Prop where
  | word (member : name ∈ pathWords) : Segment.IsPlain (.mk name .none)
  | step (word : IsWordName name) (free : name = "Self" ∨ name ∉ reserved)
      (plain : Arguments.IsPlain arguments) : Segment.IsPlain (.mk name arguments)

inductive Arguments.IsPlain : Arguments → Prop where
  | none : Arguments.IsPlain .none
  /-- Lifetimes stand first. -/
  | angle (each : ∀ argument ∈ arguments, Argument.IsPlain argument)
      (ordered : arguments.Pairwise fun first second => second.isLifetime → first.isLifetime)
      (empty : arguments = [] → trailing = false) :
      Arguments.IsPlain (.angle turbofish arguments trailing)

inductive Argument.IsPlain : Argument → Prop where
  | lifetime (word : IsWordName name) : Argument.IsPlain (.lifetime name)
  | type (plain : Ty.IsPlain ty) : Argument.IsPlain (.type ty)
  | constant (constant : IsConstant tokens) : Argument.IsPlain (.other tokens)

end

/-! The canonical form of a plain type is plain. -/

instance : Decidable (IsCrisp text) :=
  decidable_of_iff (text.head?.any isWordChar = true ∧ text.getLast?.any isWordChar = true ∧
    text.all (isBlank · == false) = true)
    ⟨fun ⟨first, last, clean⟩ => ⟨first, last, by simpa using clean⟩,
      fun ⟨first, last, clean⟩ => ⟨first, last, by simpa using clean⟩⟩

/-- The well-known paths are spelled with identifiers. -/
theorem wellKnownPaths_free : ∀ name ∈ wellKnownPaths.flatten,
    Emit.isWord name = true ∧ IsCrisp name.toList ∧ name ∉ reserved :=
  List.all_iff_forall_prop.mp (by decide)

theorem Segment.IsPlain.arguments {segment : Segment} (plain : Segment.IsPlain segment) :
    Arguments.IsPlain segment.arguments := by
  cases plain with
  | word => exact .none
  | step word free plain => exact plain

theorem pathWith_plain (member : path ∈ wellKnownPaths) (plain : Arguments.IsPlain arguments) :
    (pathWith path arguments).head?.any (·.name != "try") = true ∧
      ∀ segment ∈ pathWith path arguments, Segment.IsPlain segment := by
  have step {name : String} {arguments : Arguments} (present : name ∈ path)
      (plain : Arguments.IsPlain arguments) : Segment.IsPlain (.mk name arguments) := by
    obtain ⟨word, crisp, free⟩ := wellKnownPaths_free name (List.mem_flatten_of_mem member present)
    exact .step ⟨isName_of_isWord word, crisp⟩ (.inr free) plain
  constructor
  · simp only [wellKnownPaths, List.mem_cons, List.not_mem_nil, or_false] at member
    rcases member with rfl | rfl | rfl <;> rfl
  · intro segment present
    rcases List.mem_append.mp present with early | last
    · obtain ⟨name, listed, rfl⟩ := List.mem_map.mp early
      exact step (List.dropLast_subset _ listed) .none
    · obtain ⟨name, found, rfl⟩ := Option.mem_map.mp (Option.mem_toList.mp last)
      exact step (List.mem_of_getLast? found) plain

theorem canonicalPath_plain (head : segments.head?.any (·.name != "try") = true)
    (each : ∀ segment ∈ segments, Segment.IsPlain segment) :
    (canonicalPath segments).head?.any (·.name != "try") = true ∧
      ∀ segment ∈ canonicalPath segments, Segment.IsPlain segment := by
  unfold canonicalPath
  split
  · exact ⟨head, each⟩
  · rename_i last ends
    have member := List.mem_of_getLast? ends
    dsimp only
    split
    · rename_i path found
      exact pathWith_plain (List.mem_of_find?_eq_some found) (each last member).arguments
    · split
      · rename_i standard
        have prelude : isPrelude last.name = true := (Bool.and_eq_true _ _ ▸ standard).2
        have other : isPrelude "try" = false := by decide
        refine ⟨?_, by simpa using each last member⟩
        rw [List.head?_cons, Option.any_some, bne_iff_ne]
        intro same
        rw [same, other] at prelude
        cases prelude
      · exact ⟨head, each⟩

theorem Segment.name_canonical (segment : Segment) : segment.canonical.name = segment.name := by
  cases segment
  rfl

theorem Argument.isLifetime_canonical (argument : Argument) :
    argument.canonical.isLifetime = argument.isLifetime := by
  cases argument <;> rfl

mutual

/-- The canonical form of a plain type is plain. -/
theorem Ty.IsPlain.canonical : Ty.IsPlain ty → Ty.IsPlain ty.canonical
  | .path head each => by
    rename_i segments _
    have names : (segments.map Segment.canonical).head?.any (·.name != "try") = true := by
      simpa [Option.any_map, Function.comp_def, Segment.name_canonical] using head
    have plain : ∀ segment ∈ segments.map Segment.canonical, Segment.IsPlain segment := by
      intro segment member
      obtain ⟨found, present, rfl⟩ := List.mem_map.mp member
      exact (each found present).canonical
    rw [Ty.canonical, Segment.canonicalAll_eq_map]
    exact .path (canonicalPath_plain names plain).1 (canonicalPath_plain names plain).2
  | .qualified self into root each => .qualified self.canonical into root each
  | .reference lifetime elem => .reference lifetime elem.canonical
  | .pointer elem => .pointer elem.canonical
  | .slice elem => .slice elem.canonical
  | .array elem length => .array elem.canonical length
  | .tuple each single empty => by
    rw [Ty.canonical, Ty.canonicalAll_eq_map]
    refine .tuple ?_ (by simpa using single) (by simpa using empty)
    intro elem member
    obtain ⟨found, present, rfl⟩ := List.mem_map.mp member
    exact (each found present).canonical
  | .paren elem => elem.canonical
  | .inferred => .inferred
  | .never => .never

theorem Segment.IsPlain.canonical {segment : Segment} :
    Segment.IsPlain segment → Segment.IsPlain segment.canonical
  | .word member => .word member
  | .step word free plain => .step word free plain.canonical

theorem Arguments.IsPlain.canonical : Arguments.IsPlain arguments → Arguments.IsPlain arguments.canonical
  | .none => .none
  | .angle each ordered empty => by
    rw [Arguments.canonical, Argument.canonicalAll_eq_map]
    refine .angle ?_ ?_ (by simpa using empty)
    · intro argument member
      obtain ⟨found, present, rfl⟩ := List.mem_map.mp member
      exact (each found present).canonical
    · simpa [List.pairwise_map, Argument.isLifetime_canonical] using ordered

theorem Argument.IsPlain.canonical : Argument.IsPlain argument → Argument.IsPlain argument.canonical
  | .lifetime word => .lifetime word
  | .type plain => .type plain.canonical
  | .constant constant => .constant constant

end

/-! How tokens are put together. -/

theorem joinSteps_cons (step : List Token) (rest : List (List Token)) :
    joinSteps (step :: rest) = step ++ rest.flatMap (pathSeparator ++ ·) := by
  induction rest generalizing step with
  | nil => simp [joinSteps]
  | cons next more ih =>
    rw [joinSteps, ih, List.flatMap_cons, List.append_assoc, List.append_assoc]
    exact List.cons_ne_nil _ _

theorem commaSeparated_cons (trailing : Bool) (elem next : List Token)
    (rest : List (List Token)) :
    commaSeparated trailing (elem :: next :: rest) =
      elem ++ (comma :: commaSeparated trailing (next :: rest)) := by
  simp [commaSeparated, punctuated]

theorem commaSeparated_single (trailing : Bool) (elem : List Token) :
    commaSeparated trailing [elem] = elem ++ if trailing then [comma] else [] := by
  cases trailing <;> simp [commaSeparated, punctuated]

theorem punctuated_followed (trailing : Bool) (elems : List α) :
    ∀ pair ∈ (punctuated trailing elems).dropLast, pair.2 = true := by
  induction elems using punctuated.induct with
  | case1 => simp [punctuated]
  | case2 last => simp [punctuated]
  | case3 next rest more ih =>
    cases rest with
    | nil => exact (more rfl).elim
    | cons elem later =>
      have filled : punctuated trailing (elem :: later) ≠ [] := by
        cases later <;> exact List.cons_ne_nil _ _
      rw [punctuated, List.dropLast_cons_of_ne_nil filled]
      · exact List.forall_mem_cons.mpr ⟨rfl, ih⟩
      · exact List.cons_ne_nil _ _

theorem punctuated_map_fst (trailing : Bool) (elems : List α) :
    (punctuated trailing elems).map (·.1) = elems := by
  induction elems using punctuated.induct with
  | case1 => rfl
  | case2 last => rfl
  | case3 next rest more ih =>
    rw [punctuated, List.map_cons, ih]
    exact more

theorem filter_append_of_ordered {test : α → Bool} {elems : List α}
    (ordered : elems.Pairwise fun first second => test second → test first) :
    elems.filter test ++ elems.filter (!test ·) = elems := by
  induction elems with
  | nil => rfl
  | cons elem rest ih =>
    rw [List.pairwise_cons] at ordered
    cases first : test elem with
    | true => simpa [first] using ih ordered.2
    | false =>
      have none : ∀ other ∈ rest, test other = false := by
        intro other member
        cases second : test other with
        | false => rfl
        | true => cases first.symm.trans (ordered.1 other member second)
      have kept : rest.filter (!test ·) = rest :=
        List.filter_eq_self.mpr fun other member => by rw [none other member]; rfl
      have left : rest.filter test = [] :=
        List.filter_eq_nil_iff.mpr fun other member => by rw [none other member]; exact Bool.false_ne_true
      simp [first, kept, left]

/-- Arguments with their lifetimes first are written in their order. -/
theorem argumentTokens_of_ordered {arguments : List (Bool × List Token)}
    (ordered : arguments.Pairwise fun first second => second.1 → first.1) (trailing : Bool) :
    argumentTokens trailing arguments = commaSeparated trailing (arguments.map (·.2)) := by
  unfold argumentTokens
  extract_lets pairs lifetimes others start separated step
  have whole : lifetimes ++ others = pairs := by
    have ordered : pairs.Pairwise fun first second => second.1.1 → first.1.1 := by
      rw [← punctuated_map_fst trailing arguments] at ordered
      exact List.pairwise_map.mp ordered
    exact filter_append_of_ordered ordered
  have followed : ∀ pair ∈ (lifetimes ++ others).dropLast, pair.2 = true := by
    rw [whole]
    exact punctuated_followed trailing arguments
  have goes (written : List Token) (rest : List ((Bool × List Token) × Bool))
      (followed : ∀ pair ∈ rest.dropLast, pair.2 = true) :
      (rest.foldl step (written, true)).1 = written ++ rest.flatMap fun pair =>
        pair.1.2 ++ if pair.2 then [comma] else [] := by
    induction rest generalizing written with
    | nil => simp
    | cons pair rest ih =>
      cases rest with
      | nil => simp [step]
      | cons next more =>
        rw [List.dropLast_cons_of_ne_nil (List.cons_ne_nil _ _), List.forall_mem_cons] at followed
        have stepped : step (written, true) pair = (written ++ (pair.1.2 ++ [comma]), true) := by
          simp [step, followed.1]
        rw [List.foldl_cons, stepped, ih _ followed.2]
        simp [followed.1]
  have begins : start = lifetimes.flatMap fun pair =>
      pair.1.2 ++ if pair.2 then [comma] else [] := by
    refine congrArg (lifetimes.flatMap ·) (funext fun ⟨⟨first, tokens⟩, follows⟩ => ?_)
    cases follows <;> simp
  have written : commaSeparated trailing (arguments.map (·.2)) = pairs.flatMap fun pair =>
      pair.1.2 ++ if pair.2 then [comma] else [] := by
    rw [commaSeparated, punctuated_map, List.flatMap_map]
    refine congrArg (pairs.flatMap ·) (funext fun ⟨⟨first, tokens⟩, follows⟩ => ?_)
    cases follows <;> simp
  rw [written, ← whole, List.flatMap_append, ← begins]
  cases last : others with
  | nil => simp
  | cons pair rest =>
    have closed : separated = true := by
      cases found : lifetimes.getLast? with
      | none => simp [separated, found]
      | some final =>
        have member : final ∈ (lifetimes ++ others).dropLast := by
          rw [last, List.dropLast_append_cons]
          exact List.mem_append_left _ (List.mem_of_getLast? found)
        simp [separated, found, followed final member]
    have tail : ∀ other ∈ others.dropLast, other.2 = true := by
      intro other member
      refine followed other ?_
      rw [last] at member ⊢
      rw [List.dropLast_append_cons]
      exact List.mem_append_right _ member
    rw [closed, ← last]
    exact goes start others tail

/-! Plain types have tight tokens. -/

/-- The reserved words that a type may begin with. -/
def leadWords : List String := ["super", "self", "crate", "Self", "_"]

/-- The operator characters that a type may begin with, but for a path's root. -/
def leadMarks : List Char := ['<', '&', '*', '!']

/-- What a type begins with. -/
inductive Begins : List Token → Prop where
  | name (free : name ∉ reserved ∨ name ∈ leadWords) : Begins (.ident name :: rest)
  | root : Begins (.punct ':' .joint :: .punct ':' spacing :: rest)
  | mark {mark : Char} (member : mark ∈ leadMarks) : Begins (.punct mark spacing :: rest)
  | group (round : delimiter ≠ .brace) : Begins (.group delimiter body :: rest)

theorem Begins.append (begins : Begins tokens) (rest : List Token) : Begins (tokens ++ rest) := by
  cases begins with
  | name free => exact .name free
  | root => exact .root
  | mark member => exact .mark member
  | group round => exact .group round

theorem Begins.beginsLifetime (begins : Begins tokens) : beginsLifetime tokens = false := by
  cases begins with
  | mark member =>
    have apart : ∀ mark ∈ leadMarks, (mark == '\'') = false :=
      List.all_iff_forall_prop.mp (by decide)
    exact apart _ member
  | _ => rfl

theorem Segment.tokens_eq (segment : Segment) :
    segment.tokens = .ident segment.name :: segment.arguments.tokens := by
  cases segment
  rfl

/-- A step of a path that may stand first. -/
theorem Segment.IsPlain.begins {segment : Segment} (plain : Segment.IsPlain segment)
    (head : segment.name ≠ "try") (rest : List Token) : Begins (segment.tokens ++ rest) := by
  cases plain with
  | word member =>
    refine .name (.inr ?_)
    simp only [pathWords, List.mem_cons, List.not_mem_nil, or_false] at member
    simp only [name] at head
    rcases member with rfl | rfl | rfl | rfl
    all_goals first
      | decide
      | exact (head rfl).elim
  | step word free plain =>
    refine .name ?_
    rcases free with rfl | free
    · exact .inr (by decide)
    · exact .inl free

theorem Ty.IsPlain.begins (plain : Ty.IsPlain ty) : Begins ty.tokens := by
  cases plain with
  | path head each =>
    rename_i segments rooted
    cases segments with
    | nil => cases head
    | cons segment rest =>
      have first : segment.name ≠ "try" := by simpa using head
      rw [Ty.tokens, Segment.tokensOf, joinSteps_cons]
      cases rooted with
      | true => exact .root
      | false => exact (each segment List.mem_cons_self).begins first _
  | qualified self into root each => exact .mark (by decide)
  | reference lifetime elem => exact .mark (by decide)
  | pointer elem => exact .mark (by decide)
  | inferred => exact .name (.inr (by decide))
  | never => exact .mark (by decide)
  | _ => exact .group (by decide)

theorem Tight.append (first : Tight tokens) (second : Tight others)
    (apart : beginsLifetime others = false) : Tight (tokens ++ others) := by
  have kept {rest : List Token} (free : beginsLifetime rest = false) :
      beginsLifetime (rest ++ others) = false := by
    cases rest with
    | nil => exact apart
    | cons token rest => exact free
  induction first with
  | nil => exact second
  | name spelled crisp free _ ih => exact .name spelled crisp (kept free) ih
  | numeral digit reads crisp free _ ih => exact .numeral digit reads crisp (kept free) ih
  | mark isMark goes _ ih =>
    rename_i rest _
    refine .mark isMark (fun joint => ?_) ih
    have marked := goes joint
    cases rest with
    | nil => cases marked
    | cons token rest => exact marked
  | lifetime _ ih => exact .lifetime ih
  | group round inside _ _ ih => exact .group round inside ih

/-- The reserved words that plain types are spelled with. -/
def typeWords : List String := ["mut", "const", "as", "_", "true", "false"] ++ pathWords

theorem isWordName_of_mem : ∀ name ∈ typeWords, IsWordName name := by
  have known : ∀ name ∈ typeWords, Emit.isWord name = true ∧ IsCrisp name.toList :=
    List.all_iff_forall_prop.mp (by decide)
  intro name member
  exact ⟨isName_of_isWord (known name member).1, (known name member).2⟩

namespace Tight

variable {name text : String} {mark : Char}

theorem word (word : IsWordName name) (more : Tight rest) (apart : beginsLifetime rest = false) :
    Tight (.ident name :: rest) :=
  .name word.spelled word.crisp apart more

theorem known (member : name ∈ typeWords) (more : Tight rest)
    (apart : beginsLifetime rest = false) : Tight (.ident name :: rest) :=
  .word (isWordName_of_mem name member) more apart

theorem alone (isMark : mark ∈ freeMarks) (more : Tight rest) :
    Tight (.punct mark .alone :: rest) :=
  .mark isMark (fun joint => by cases joint) more

theorem ofNumeral (numeral : IsNumeral text) : Tight [.literal text] := by
  obtain ⟨used, whole, -, goes⟩ := scan?_local numeral.whole
  rw [List.append_nil] at whole
  have reads (after : List Char) (stops : Pause after) :
      Reads (text.toList ++ after) (.literal text) after := by
    rw [whole, ← String.ofList_toList (s := text), whole]
    exact reads_of_scan? goes stops
  exact .numeral numeral.digit reads numeral.crisp rfl .nil

theorem pathSeparator (more : Tight rest) : Tight (pathSeparator ++ rest) :=
  .mark (by decide) (fun _ => rfl) (.alone (by decide) more)

theorem joinSteps (each : ∀ step ∈ steps, Tight step ∧ beginsLifetime step = false) :
    Tight (joinSteps steps) := by
  induction steps with
  | nil => exact .nil
  | cons step rest ih =>
    rw [List.forall_mem_cons] at each
    cases rest with
    | nil => exact each.1.1
    | cons next more =>
      rw [ValueObjects.joinSteps, List.append_assoc]
      · exact each.1.1.append (.pathSeparator (ih each.2)) rfl
      · exact List.cons_ne_nil _ _

theorem commaSeparated (each : ∀ elem ∈ elems, Tight elem) :
    Tight (commaSeparated trailing elems) := by
  induction elems with
  | nil => exact .nil
  | cons elem rest ih =>
    rw [List.forall_mem_cons] at each
    cases rest with
    | nil =>
      rw [commaSeparated_single]
      cases trailing with
      | true => exact each.1.append (.alone (by decide) .nil) rfl
      | false => exact each.1.append .nil rfl
    | cons next more =>
      rw [commaSeparated_cons]
      exact each.1.append (.alone (by decide) (ih each.2)) rfl

end Tight

theorem IsLength.tight (length : IsLength tokens) : Tight tokens ∧ beginsLifetime tokens = false := by
  cases length with
  | numeral numeral => exact ⟨.ofNumeral numeral, rfl⟩
  | name free => exact ⟨.word free.toIsWordName .nil rfl, rfl⟩

theorem IsConstant.tight (constant : IsConstant tokens) : Tight tokens := by
  cases constant with
  | numeral numeral => exact .ofNumeral numeral
  | truth member =>
    have known : ∀ name ∈ ["true", "false"], name ∈ typeWords := by decide
    exact .known (known _ member) .nil rfl

/-- The arguments of a step, as far as they are written in order. -/
theorem Arguments.tokens_of_ordered
    (ordered : arguments.Pairwise fun first second => second.isLifetime → first.isLifetime)
    (turbofish trailing : Bool) :
    (Arguments.angle turbofish arguments trailing).tokens =
      (if turbofish then pathSeparator else []) ++ (.punct '<' .alone ::
        (commaSeparated trailing (arguments.map (·.tokens.2)) ++ [.punct '>' .alone])) := by
  have lifetime (argument : Argument) : argument.tokens.1 = argument.isLifetime := by
    cases argument <;> rfl
  have sorted : (arguments.map Argument.tokens).Pairwise fun first second =>
      second.1 → first.1 := by
    rw [List.pairwise_map]
    simpa only [lifetime] using ordered
  rw [Arguments.tokens, tokensOf_arguments, argumentTokens_of_ordered sorted, List.map_map]
  simp [Function.comp_def]

theorem Segment.beginsLifetime (segment : Segment) :
    ValueObjects.beginsLifetime segment.tokens = false := by
  cases segment
  rfl

theorem Arguments.beginsLifetime (arguments : Arguments) :
    ValueObjects.beginsLifetime arguments.tokens = false := by
  cases arguments with
  | none => rfl
  | angle turbofish arguments trailing => cases turbofish <;> rfl

theorem Tight.path {segments : List Segment} (each : ∀ segment ∈ segments, Tight segment.tokens) :
    Tight (ValueObjects.joinSteps (segments.map Segment.tokens)) := by
  refine .joinSteps fun step member => ?_
  obtain ⟨segment, present, rfl⟩ := List.mem_map.mp member
  exact ⟨each segment present, segment.beginsLifetime⟩

theorem beginsLifetime_path (segments : List Segment) (apart : beginsLifetime rest = false) :
    beginsLifetime (joinSteps (segments.map Segment.tokens) ++ rest) = false := by
  cases segments with
  | nil => exact apart
  | cons segment more =>
    rw [List.map_cons, joinSteps_cons, Segment.tokens_eq]
    rfl

/-- How a path into a type is written. -/
theorem Ty.tokens_qualified {segments : List Segment} (into : position < segments.length)
    (root : position = 0 → rooted = true) (self : Ty) :
    (Ty.qualified self position rooted segments).tokens =
      if position = 0 then
        .punct '<' .alone :: (self.tokens ++ .punct '>' .alone :: (pathSeparator ++
          joinSteps ((segments.drop position).map Segment.tokens)))
      else
        .punct '<' .alone :: (self.tokens ++ .ident "as" :: ((if rooted then pathSeparator else []) ++
          (joinSteps ((segments.take position).map Segment.tokens) ++
            .punct '>' .alone :: (pathSeparator ++
              joinSteps ((segments.drop position).map Segment.tokens))))) := by
  have outside : ((Segment.tokensOf segments).drop position).isEmpty = false := by
    simp [tokensOf_segments]
    omega
  have inside : ((Segment.tokensOf segments).take position).isEmpty = decide (position = 0) := by
    have filled : segments ≠ [] := List.ne_nil_of_length_pos (Nat.zero_lt_of_lt into)
    rw [tokensOf_segments, Bool.eq_iff_iff]
    simp [List.take_eq_nil_iff, filled]
  rw [Ty.tokens, inside, outside, tokensOf_segments, ← List.map_take, ← List.map_drop]
  by_cases first : position = 0
  · simp [first, root first]
  · simp [first]

mutual

theorem Ty.IsPlain.tight : Ty.IsPlain ty → Tight ty.tokens
  | @Ty.IsPlain.path segments rooted head each => by
    have steps : Tight (joinSteps (segments.map Segment.tokens)) :=
      .path fun segment member => (each segment member).tight
    rw [Ty.tokens, tokensOf_segments]
    cases rooted with
    | true => exact .pathSeparator steps
    | false => exact steps
  | @Ty.IsPlain.qualified ty position rooted segments self into root each => by
    have outside : Tight (joinSteps ((segments.drop position).map Segment.tokens)) :=
      .path fun segment member => (each segment (List.mem_of_mem_drop member)).tight
    have inside : Tight (joinSteps ((segments.take position).map Segment.tokens)) :=
      .path fun segment member => (each segment (List.mem_of_mem_take member)).tight
    have closed : Tight (.punct '>' .alone :: (pathSeparator ++
        joinSteps ((segments.drop position).map Segment.tokens))) :=
      .alone (by decide) (.pathSeparator outside)
    rw [Ty.tokens_qualified into root]
    split
    · exact .alone (by decide) (self.tight.append closed rfl)
    · have seen := inside.append closed rfl
      refine .alone (by decide) (self.tight.append ?_ rfl)
      cases rooted with
      | true => exact .known (by decide) (.pathSeparator seen) rfl
      | false => exact .known (by decide) seen (beginsLifetime_path _ rfl)
  | @Ty.IsPlain.reference lifetime? ty mutable lifetime elem => by
    have first := elem.begins.beginsLifetime
    have inner : Tight ((if mutable then [.ident "mut"] else []) ++ ty.tokens) ∧
        beginsLifetime ((if mutable then [.ident "mut"] else []) ++ ty.tokens) = false := by
      cases mutable with
      | true => exact ⟨.known (by decide) elem.tight first, rfl⟩
      | false => exact ⟨elem.tight, first⟩
    cases lifetime? with
    | none =>
      rw [Ty.tokens]
      exact .alone (by decide) inner.1
    | some name =>
      rw [Ty.tokens]
      exact .alone (by decide) (.lifetime (.word (lifetime name rfl) inner.1 inner.2))
  | .pointer elem => by
    rename_i mutable
    have first := elem.begins.beginsLifetime
    rw [Ty.tokens]
    cases mutable with
    | true => exact .alone (by decide) (.known (by decide) elem.tight first)
    | false => exact .alone (by decide) (.known (by decide) elem.tight first)
  | .slice elem => .group (by decide) elem.tight .nil
  | @Ty.IsPlain.array ty written elem length => by
    have inner : Tight (ty.tokens ++ .punct ';' .alone :: written) :=
      elem.tight.append (.alone (by decide) length.tight.1) rfl
    rw [Ty.tokens, List.append_assoc, List.singleton_append]
    exact .group (by decide) inner .nil
  | .tuple each single empty => by
    rw [Ty.tokens, tokensOf_types]
    refine .group (by decide) (.commaSeparated ?_) .nil
    intro tokens member
    obtain ⟨elem, present, rfl⟩ := List.mem_map.mp member
    exact (each elem present).tight
  | .paren elem => .group (by decide) elem.tight .nil
  | .inferred => .known (by decide) .nil rfl
  | .never => .alone (by decide) .nil

theorem Segment.IsPlain.tight {segment : Segment} : Segment.IsPlain segment → Tight segment.tokens
  | .word member => .known (List.mem_append_right _ member) .nil rfl
  | .step word _ plain => .word word plain.tight (Arguments.beginsLifetime _)

theorem Arguments.IsPlain.tight : Arguments.IsPlain arguments → Tight arguments.tokens
  | .none => .nil
  | @Arguments.IsPlain.angle arguments trailing turbofish each ordered empty => by
    have list : Tight (commaSeparated trailing (arguments.map (·.tokens.2))) := by
      refine .commaSeparated ?_
      intro tokens member
      obtain ⟨argument, present, rfl⟩ := List.mem_map.mp member
      exact (each argument present).tight
    have angles : Tight (.punct '<' .alone ::
        (commaSeparated trailing (arguments.map (·.tokens.2)) ++ [.punct '>' .alone])) :=
      .alone (by decide) (list.append (.alone (by decide) .nil) rfl)
    rw [Arguments.tokens_of_ordered ordered]
    cases turbofish with
    | true => exact .pathSeparator angles
    | false => exact angles

theorem Argument.IsPlain.tight : Argument.IsPlain argument → Tight argument.tokens.2
  | .lifetime word => .lifetime (.word word .nil rfl)
  | .type plain => plain.tight
  | .constant constant => constant.tight

end

end ValueObjects
