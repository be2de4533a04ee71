import ValueObjects.Proofs.Identifiers
import ValueObjects.Proofs.Literals
import ValueObjects.Token.Printer
/-!
Tokens that are read back from their written form. What makes a sequence of tokens legible is told
token by token: each stands by itself wherever the text breaks off behind it, or leads into the
next without a gap.
-/
namespace ValueObjects

open Text Literal Token

namespace Lexer

/-- Whether a comment begins at the head of the text. -/
def beginsComment (text : List Char) : Bool :=
  ['/', '/'].isPrefixOf text || ['/', '*'].isPrefixOf text

/-- A text with neither a gap nor a comment at its head. -/
structure Settled (text : List Char) : Prop where
  gap : text.head?.any isGap = false
  comment : beginsComment text = false

/-- A token at the head of a text that is no bracket, and what follows it. -/
structure Reads (text : List Char) (token : Token) (rest : List Char) : Prop
    extends Settled text where
  bracket : bracket? text = none
  leaf : leaf? text = some (token, rest)

end Lexer

open Lexer

/-- A token that is read wherever the text breaks off behind it. -/
def Stands (token : Token) : Prop :=
  ∀ after, Break after → Reads (spell token ++ after) token after

/-- An operator character that is read as joined to the token behind it: to another one, or as the
apostrophe of a lifetime to its word. -/
inductive Leads : Char → Token → Prop where
  | operator (isMark : mark ∈ marks) (plain : mark ≠ '\'') (begins : (spell next).head? = some c)
      (goes : c ∈ marks) (apart : beginsComment [mark, c] = false) : Leads mark next
  | lifetime (single : next.isJoint = false)
      (reads : ∀ after, Break after →
        Reads ('\'' :: (spell next ++ after)) (.punct '\'' .joint) (spell next ++ after)) :
      Leads '\'' next

/-- Tokens whose written form is read as the tokens. -/
inductive Legible : List Token → Prop where
  | nil : Legible []
  | leaf (single : token.isJoint = false) (stands : Stands token) (more : Legible rest) :
      Legible (token :: rest)
  | group (inside : Legible body) (more : Legible rest) : Legible (.group delimiter body :: rest)
  | joint (leads : Leads mark next) (more : Legible (next :: rest)) :
      Legible (.punct mark .joint :: next :: rest)

/-! Reading a settled text. -/

namespace Lexer

theorem pastComment?_settled (settled : beginsComment text = false) : pastComment? text = none := by
  unfold pastComment?
  split <;> first | rfl | cases settled

theorem documentation?_settled (settled : beginsComment text = false) :
    documentation? text = none := by
  simp only [documentation?]
  split <;> first | rfl | cases settled

theorem pastGaps_settled (settled : Settled text) (fuel : Nat) : pastGaps fuel text = text := by
  cases fuel with
  | zero => rfl
  | succ fuel =>
    cases text with
    | nil => rfl
    | cons c rest =>
      have noGap : isGap c = false := settled.gap
      simp [pastGaps, pastComment?_settled settled.comment, noGap]

theorem lexemes_gap (settled : Settled text) (fuel : Nat) :
    lexemes (fuel + 1) (' ' :: text) = lexemes (fuel + 1) text := by
  have past : pastGaps (fuel + 1) (' ' :: text) = pastGaps (fuel + 1) text := by
    rw [pastGaps_settled settled]
    exact pastGaps_settled settled fuel
  rw [lexemes, lexemes, past]

theorem lexemes_bracket (settled : Settled text) (read : bracket? text = some (lexeme, rest))
    (fuel : Nat) : lexemes (fuel + 1) text = (lexemes fuel rest).map (lexeme :: ·) := by
  have filled : text ≠ [] := by
    rintro rfl
    cases read
  simp [lexemes, pastGaps_settled settled, documentation?_settled settled.comment, read, filled]

theorem lexemes_leaf (reads : Reads text token rest) (fuel : Nat) :
    lexemes (fuel + 1) text = (lexemes fuel rest).map (.leaf token :: ·) := by
  have filled : text ≠ [] := by
    rintro rfl
    cases reads.leaf
  simp [lexemes, pastGaps_settled reads.toSettled, documentation?_settled reads.comment,
    reads.bracket, reads.leaf, filled]

theorem punct?_ne_group : punct? text ≠ some (.group delimiter body, rest) := by
  intro found
  unfold punct? at found
  split at found
  · split at found
    · simp only at found
      split at found <;> cases found
    · cases found
  · cases found
  · cases found

/-- A leaf is no group. -/
theorem leaf?_ne_group : leaf? text ≠ some (.group delimiter body, rest) := by
  intro found
  unfold leaf? at found
  split at found
  · cases found
  · simp only [Option.orElse_eq_orElse, Option.orElse_eq_or, Option.or_eq_some_iff] at found
    rcases found with found | ⟨_, found | ⟨_, found⟩⟩
    · exact punct?_ne_group found
    · unfold ident? at found
      split at found
      · cases found
      · obtain ⟨_, _, same⟩ := Option.map_eq_some_iff.mp found
        cases same
    · obtain ⟨_, _, same⟩ := Option.map_eq_some_iff.mp found
      cases same

end Lexer

/-! Legible tokens. -/

namespace Legible

theorem tail (legible : Legible (token :: rest)) : Legible rest := by
  cases legible <;> assumption

theorem inside (legible : Legible (.group delimiter tokens :: rest)) : Legible tokens := by
  cases legible with
  | leaf _ stands => exact (leaf?_ne_group (stands [] .ended).leaf).elim
  | group inside => exact inside

theorem append (first : Legible before) (second : Legible after) : Legible (before ++ after) := by
  induction first with
  | nil => exact second
  | leaf single stands _ ih => exact .leaf single stands ih
  | group inside _ _ ih => exact .group inside ih
  | joint leads _ ih => exact .joint leads ih

end Legible

/-! Operator characters. -/

namespace Lexer

/-- An operator character begins neither a gap, a bracket, a literal nor a word, but for the
apostrophe. -/
theorem marks_apart : ∀ mark ∈ marks, isGap mark = false ∧ isIdentStart mark = false ∧
    mark.isDigit = false ∧ mark ∉ ['(', ')', '[', ']', '\x7b', '\x7d', '"', 'r', 'b', 'c'] :=
  List.all_iff_forall_prop.mp (by decide)

theorem bracket?_of_ne (other : c ∉ ['(', ')', '[', ']', '\x7b', '\x7d']) (rest : List Char) :
    bracket? (c :: rest) = none := by
  unfold bracket?
  split
  any_goals
    rename_i same
    cases same
    exact absurd (by decide) other
  rfl

theorem scan?_of_ne (other : c ∉ ['"', 'r', 'b', 'c', '\'']) (noDigit : c.isDigit = false)
    (rest : List Char) : scan? (c :: rest) = none := by
  rw [Option.eq_none_iff_forall_ne_some]
  intro after read
  obtain ⟨used, whole, ⟨d, begins, shape⟩, -⟩ := scan?_local read
  cases used with
  | nil => cases begins
  | cons e used =>
    cases begins
    cases whole
    rcases shape with member | digit
    · exact other member
    · cases noDigit.symm.trans digit

theorem mark?_of_mem (settled : beginsComment (c :: rest) = false) (isMark : c ∈ marks) :
    mark? (c :: rest) = some (c, rest) := by
  unfold mark?
  split
  · rename_i same
    rw [same] at settled
    cases settled
  · rename_i same
    rw [same] at settled
    cases settled
  · rename_i same
    cases same
    simp [isMark]
  · contradiction

/-- An operator character is read as one; what follows tells whether it is joined to it. -/
theorem reads_mark (isMark : mark ∈ marks) (plain : mark ≠ '\'')
    (settled : beginsComment (mark :: rest) = false) :
    Reads (mark :: rest) (.punct mark (if (mark? rest).isSome then .joint else .alone)) rest where
  gap := (marks_apart mark isMark).1
  comment := settled
  bracket := by
    apply bracket?_of_ne
    intro member
    exact (marks_apart mark isMark).2.2.2 (List.mem_append_left ['"', 'r', 'b', 'c'] member)
  leaf := by
    obtain ⟨_, _, noDigit, apart⟩ := marks_apart mark isMark
    have noLiteral : scan? (mark :: rest) = none := by
      apply scan?_of_ne _ noDigit
      simp only [List.mem_cons, not_or] at apart ⊢
      simp [apart, plain]
    have punct : punct? (mark :: rest) =
        some (.punct mark (if (mark? rest).isSome then .joint else .alone), rest) := by
      rw [punct?, mark?_of_mem settled isMark]
      split
      · rename_i same
        cases same
        exact (plain rfl).elim
      · rename_i same
        cases same
        rfl
      · contradiction
    rw [leaf?, noLiteral, punct]
    rfl

end Lexer

theorem Leads.reads (leads : Leads mark next) (settled : Settled (spell next ++ text))
    (stops : next.isJoint = false → Break text) :
    Reads (mark :: (spell next ++ text)) (.punct mark .joint) (spell next ++ text) := by
  cases leads with
  | operator isMark plain begins goes apart =>
    rename_i c
    obtain ⟨more, spelled⟩ := List.head?_eq_some_iff.mp begins
    rw [spelled, List.cons_append] at settled ⊢
    have found : (mark? (c :: (more ++ text))).isSome = true := by
      rw [mark?_of_mem settled.comment goes]
      rfl
    have reads : Reads (mark :: (c :: (more ++ text))) _ (c :: (more ++ text)) :=
      reads_mark isMark plain (by exact apart)
    rwa [found] at reads
  | lifetime single reads => exact reads text (stops single)

/-! What legible tokens are written as. -/

/-- Lexemes of tokens. -/
def flat : Token → List Lexeme
  | .group delimiter body => .opening delimiter :: flatAll body ++ [.closing delimiter]
  | token => [.leaf token]
where
  flatAll : List Token → List Lexeme
    | [] => []
    | token :: rest => flat token ++ flatAll rest

open flat (flatAll)
open spell (spellAll)

/-- Behind a token that is not joined to the next the text breaks off. -/
theorem break_gap (single : token.isJoint = false) (stops : Break after) :
    Break (gap token rest ++ (spellAll rest ++ after)) := by
  cases rest with
  | nil => exact stops
  | cons next rest =>
    rw [gap, single]
    exact .before (by decide)

theorem Legible.settled (legible : Legible tokens) (filled : tokens ≠ []) (stops : Break after) :
    Settled (spellAll tokens ++ after) := by
  induction legible with
  | nil => exact (filled rfl).elim
  | leaf single stands _ _ =>
    rw [spellAll, List.append_assoc, List.append_assoc]
    exact (stands _ (break_gap single stops)).toSettled
  | @group _ _ delimiter _ _ _ _ => cases delimiter <;> exact ⟨rfl, rfl⟩
  | @joint mark next rest leads more ih =>
    have later := ih (List.cons_ne_nil _ _)
    rw [spellAll, List.append_assoc, List.append_assoc] at later
    rw [spellAll, spellAll, List.append_assoc, List.append_assoc, List.append_assoc,
      List.append_assoc]
    exact (leads.reads later fun single => break_gap single stops).toSettled

/-- Behind a gap the next token is read as it is at the head of a text. -/
theorem lexemes_past_gap (single : token.isJoint = false) (legible : Legible rest)
    (stops : Break after) (fuel : Nat) :
    lexemes ((flatAll rest).length + fuel) (gap token rest ++ (spellAll rest ++ after)) =
      lexemes ((flatAll rest).length + fuel) (spellAll rest ++ after) := by
  cases rest with
  | nil => rfl
  | cons next rest =>
    have filled : 0 < (flat next).length := by cases next <;> simp [flat]
    obtain ⟨spare, enough⟩ : ∃ spare, (flatAll (next :: rest)).length + fuel = spare + 1 := by
      refine ⟨(flatAll (next :: rest)).length + fuel - 1, ?_⟩
      simp only [flatAll, List.length_append]
      omega
    rw [enough, gap, single]
    exact lexemes_gap (legible.settled (List.cons_ne_nil _ _) stops) spare

theorem lexemes_opening (delimiter : Delimiter) (settled : Settled text) (fuel : Nat) :
    lexemes (fuel + 2) (delimiter.opening ++ text) =
      (lexemes (fuel + 1) text).map (.opening delimiter :: ·) := by
  cases delimiter with
  | parenthesis =>
    have noMarker : errorMarker.isPrefixOf ('(' :: text) = false := by
      rw [← Bool.not_eq_true, List.isPrefixOf_iff_prefix]
      rintro ⟨rest, same⟩
      cases same
      cases settled.comment
    have opened : bracket? ('(' :: text) = some (.opening .parenthesis, text) := by
      simp [bracket?, noMarker]
    exact lexemes_bracket ⟨rfl, rfl⟩ opened (fuel + 1)
  | bracket => exact lexemes_bracket ⟨rfl, rfl⟩ rfl (fuel + 1)
  | brace =>
    have opened : lexemes (fuel + 2) ('\x7b' :: ' ' :: text) =
        (lexemes (fuel + 1) (' ' :: text)).map (.opening .brace :: ·) :=
      lexemes_bracket ⟨rfl, rfl⟩ rfl (fuel + 1)
    rwa [lexemes_gap settled] at opened

theorem lexemes_closing (delimiter : Delimiter) (empty : Bool) (fuel : Nat) :
    lexemes (fuel + 1) (delimiter.closing empty ++ after) =
      (lexemes fuel after).map (.closing delimiter :: ·) := by
  cases delimiter with
  | parenthesis => exact lexemes_bracket ⟨rfl, rfl⟩ rfl fuel
  | bracket => exact lexemes_bracket ⟨rfl, rfl⟩ rfl fuel
  | brace =>
    cases empty with
    | true => exact lexemes_bracket ⟨rfl, rfl⟩ rfl fuel
    | false =>
      exact (lexemes_gap ⟨rfl, rfl⟩ fuel).trans (lexemes_bracket ⟨rfl, rfl⟩ rfl fuel)

theorem break_closing (delimiter : Delimiter) (empty : Bool) :
    Break (delimiter.closing empty ++ after) := by
  cases delimiter with
  | brace => cases empty <;> exact .before (by decide)
  | _ => exact .before (by decide)

theorem Legible.settled_body (legible : Legible tokens) (delimiter : Delimiter)
    (after : List Char) :
    Settled (spellAll tokens ++ (delimiter.closing tokens.isEmpty ++ after)) := by
  cases tokens with
  | nil => cases delimiter <;> exact ⟨rfl, rfl⟩
  | cons token rest => exact legible.settled (List.cons_ne_nil _ _) (break_closing delimiter _)

/-- The written form of legible tokens is cut into the lexemes of the tokens. -/
theorem Legible.lexemes (legible : Legible tokens) (stops : Break after) (fuel : Nat) :
    lexemes ((flatAll tokens).length + fuel) (spellAll tokens ++ after) =
      (Lexer.lexemes fuel after).map (flatAll tokens ++ ·) := by
  induction legible generalizing after fuel with
  | nil => simp [flatAll, spellAll]
  | @leaf token rest single stands more ih =>
    have alone : flat token = [.leaf token] := by
      cases token with
      | group delimiter body => exact (leaf?_ne_group (stands [] .ended).leaf).elim
      | _ => rfl
    have count : (flatAll (token :: rest)).length + fuel = (flatAll rest).length + fuel + 1 := by
      rw [flatAll, alone, List.singleton_append, List.length_cons, Nat.add_right_comm]
    rw [count, spellAll, List.append_assoc, List.append_assoc,
      lexemes_leaf (stands _ (break_gap single stops)), lexemes_past_gap single more stops,
      ih stops, Option.map_map, flatAll, alone]
    rfl
  | @group body rest delimiter inside more ihBody ihRest =>
    have stopsBody : Break (delimiter.closing body.isEmpty ++
        (gap (.group delimiter body) rest ++ (spellAll rest ++ after))) :=
      break_closing delimiter body.isEmpty
    have count : (flatAll (.group delimiter body :: rest)).length + fuel =
        (flatAll body).length + ((flatAll rest).length + fuel) + 2 := by
      simp only [flatAll, flat, List.length_append, List.length_cons, List.length_nil]
      omega
    have closed : (flatAll body).length + ((flatAll rest).length + fuel) + 1 =
        (flatAll body).length + ((flatAll rest).length + fuel + 1) := rfl
    rw [count, spellAll, spell, List.append_assoc, List.append_assoc, List.append_assoc,
      List.append_assoc, lexemes_opening delimiter (inside.settled_body delimiter _), closed,
      ihBody stopsBody, lexemes_closing, lexemes_past_gap rfl more stops, ihRest stops]
    simp [flatAll, flat, Option.map_map, Function.comp_def]
  | @joint mark next rest leads more ih =>
    have settled := more.settled (List.cons_ne_nil _ _) stops
    have count : (flatAll (.punct mark .joint :: next :: rest)).length + fuel =
        (flatAll (next :: rest)).length + fuel + 1 := by
      simp only [flatAll, flat, List.length_append, List.length_cons, List.length_nil]
      omega
    have spelled : spellAll (.punct mark .joint :: next :: rest) ++ after =
        mark :: (spellAll (next :: rest) ++ after) := rfl
    have reads : Reads (mark :: (spellAll (next :: rest) ++ after)) (.punct mark .joint)
        (spellAll (next :: rest) ++ after) := by
      rw [spellAll, List.append_assoc, List.append_assoc] at settled ⊢
      exact leads.reads settled fun single => break_gap single stops
    rw [count, spelled, lexemes_leaf reads, ih stops, Option.map_map]
    rfl

/-- The lexemes of tokens are matched to the tokens. -/
theorem assemble_flatAll (tokens : List Token) (groups : List (Delimiter × List Token))
    (found : List Token) (later : List Lexeme) :
    assemble groups found (flatAll tokens ++ later) =
      assemble groups (tokens.reverse ++ found) later := by
  match tokens with
  | [] => rfl
  | token :: rest =>
    rw [flatAll, List.append_assoc, List.reverse_cons, List.append_assoc, List.singleton_append,
      ← assemble_flatAll rest]
    cases token with
    | group delimiter body =>
      rw [flat, List.cons_append, List.cons_append, assemble, List.append_assoc,
        assemble_flatAll body]
      simp [assemble]
    | _ => rfl

/-- There are no more lexemes than characters. -/
theorem Legible.length_flatAll (legible : Legible tokens) :
    (flatAll tokens).length ≤ (spellAll tokens).length := by
  induction legible with
  | nil => exact Nat.le_refl 0
  | @leaf token rest single stands more ih =>
    have alone : (flat token).length = 1 := by
      cases token with
      | group delimiter body => exact (leaf?_ne_group (stands [] .ended).leaf).elim
      | _ => rfl
    have filled : (spell token).length ≠ 0 := by
      intro empty
      have read := (stands [] .ended).leaf
      rw [List.append_nil, List.eq_nil_of_length_eq_zero empty] at read
      cases read
    simp only [flatAll, spellAll, List.length_append, alone]
    omega
  | @group body rest delimiter inside more ihBody ihRest =>
    have opening : 1 ≤ delimiter.opening.length := by cases delimiter <;> decide
    have closing : 1 ≤ (delimiter.closing body.isEmpty).length := by
      cases delimiter <;> cases body.isEmpty <;> decide
    simp only [flatAll, flat, spellAll, spell, List.length_append, List.length_cons,
      List.length_nil]
    omega
  | @joint mark next rest leads more ih =>
    rw [flatAll, spellAll, List.length_append, List.length_append, List.length_append]
    simp only [flat, spell, List.length_cons, List.length_nil]
    omega

end ValueObjects
