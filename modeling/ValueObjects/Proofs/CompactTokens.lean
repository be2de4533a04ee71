import ValueObjects.Proofs.LexedTokens
import ValueObjects.Text.Compact

namespace ValueObjects

open Text Literal Token Lexer
open flat (flatAll)
open spell (spellAll)

/-! Compact text, token by token. -/

/-- Whether a token is one that a word could run into. -/
def Token.isWordy : Token → Bool
  | .ident _ => true
  | .literal _ => true
  | _ => false

def beginsWord (tokens : List Token) : Bool :=
  tokens.head?.any Token.isWordy

def Token.isMark : Token → Bool
  | .punct _ _ => true
  | _ => false

def Token.isApostrophe : Token → Bool
  | .punct mark _ => mark == '\''
  | _ => false

/-- Whether an operator character comes first. -/
def beginsMark (tokens : List Token) : Bool :=
  tokens.head?.any Token.isMark

def beginsLifetime (tokens : List Token) : Bool :=
  tokens.head?.any Token.isApostrophe

/-- The text that is kept between a token and what follows it. -/
def crack (token : Token) (rest : List Token) : List Char :=
  if token.isWordy && beginsWord rest then [' '] else []

mutual

/-- The characters of a token without white space; a brace has none inside. -/
def Token.pressed : Token → List Char
  | .ident name => name.toList
  | .punct mark _ => [mark]
  | .literal text => text.toList
  | .group .parenthesis body => '(' :: Token.pressedAll body ++ [')']
  | .group .bracket body => '[' :: Token.pressedAll body ++ [']']
  | .group .brace body => '\x7b' :: Token.pressedAll body ++ ['\x7d']

/-- The characters of tokens without white space, but for one space between two words. -/
def Token.pressedAll : List Token → List Char
  | [] => []
  | token :: rest => token.pressed ++ (crack token rest ++ Token.pressedAll rest)

end

/-- A text that begins and ends in the characters of a word and has no white space. -/
structure IsCrisp (text : List Char) : Prop where
  first : text.head?.any isWordChar = true
  last : text.getLast?.any isWordChar = true
  clean : ∀ c ∈ text, isBlank c = false

/-- The operator characters that may stand beside any other. -/
def freeMarks : List Char := [',', ';', ':', '<', '>', '&', '*', '!']

/-- Tokens that are read back from their compact text, but for which operator characters are
joined. -/
inductive Tight : List Token → Prop where
  | nil : Tight []
  | name (spelled : IsName name.toList) (crisp : IsCrisp name.toList)
      (apart : beginsLifetime rest = false) (more : Tight rest) : Tight (.ident name :: rest)
  | numeral (digit : text.toList.head?.any Char.isDigit = true)
      (reads : ∀ after, Pause after → Reads (text.toList ++ after) (.literal text) after)
      (crisp : IsCrisp text.toList) (apart : beginsLifetime rest = false) (more : Tight rest) :
      Tight (.literal text :: rest)
  | mark (isMark : mark ∈ freeMarks) (goes : spacing = .joint → beginsMark rest = true)
      (more : Tight rest) : Tight (.punct mark spacing :: rest)
  | lifetime (more : Tight (.ident name :: rest)) :
      Tight (.punct '\'' .joint :: .ident name :: rest)
  | group (round : delimiter ≠ .brace) (inside : Tight body) (more : Tight rest) :
      Tight (.group delimiter body :: rest)

/-! Compacting. -/

/-- A character that belongs to a word is not blank nor an operator; none of the latter belongs to
a word. -/
theorem freeMarks_apart : ∀ mark ∈ freeMarks, isWordChar mark = false ∧ isBlank mark = false ∧
    mark ∈ marks ∧ mark ≠ '\'' ∧ mark ≠ '/' ∧ mark ∈ pauses :=
  List.all_iff_forall_prop.mp (by decide)

/-- The space that compacting puts back before tokens. -/
def spaceBefore (before : Option Char) (space : Bool) (tokens : List Token) : List Char :=
  if space && before.any isWordChar && beginsWord tokens then [' '] else []

/-- Tokens are compacted to their pressed characters, wherever they stand; what follows goes on
behind a character `last`. -/
def Compacts (tokens : List Token) : Prop :=
  ∀ before space after, ∃ last, compactAfter before space (spellAll tokens ++ after) =
    spaceBefore before space tokens ++ (pressedAll tokens ++ compactAfter (some last) false after)

/-- A token is compacted to its pressed characters, and the last of them belongs to a word if the
token does. -/
def Presses (token : Token) : Prop :=
  ∀ before space after, ∃ last, isWordChar last = token.isWordy ∧
    compactAfter before space (spell token ++ after) =
      spaceBefore before space [token] ++
        (token.pressed ++ compactAfter (some last) false after)

theorem compactAfter_clean (clean : ∀ c ∈ text, isBlank c = false) (before : Char)
    (after : List Char) : compactAfter (some before) false (text ++ after) =
      text ++ compactAfter (some ((before :: text).getLast (List.cons_ne_nil _ _))) false after := by
  induction text generalizing before with
  | nil => rfl
  | cons c rest ih =>
    rw [List.forall_mem_cons] at clean
    simp [compactAfter, clean.1, ih clean.2 c]

theorem IsCrisp.presses (crisp : IsCrisp text) (wordy : token.isWordy = true)
    (spelled : spell token = text) (pressed : token.pressed = text) : Presses token := by
  intro before space after
  obtain ⟨c, rest, rfl⟩ : ∃ c rest, text = c :: rest := by
    cases text with
    | nil => cases crisp.first
    | cons c rest => exact ⟨c, rest, rfl⟩
  have word : isWordChar c = true := crisp.first
  have clean := List.forall_mem_cons.mp crisp.clean
  refine ⟨(c :: rest).getLast (List.cons_ne_nil _ _), ?_, ?_⟩
  · have last := crisp.last
    rw [List.getLast?_eq_some_getLast (List.cons_ne_nil _ _)] at last
    rw [wordy]
    exact last
  · have begins : beginsWord [token] = true := wordy
    rw [spelled, pressed, List.cons_append, compactAfter, clean.1, compactAfter_clean clean.2,
      spaceBefore, begins, word]
    cases space <;> cases before.any isWordChar <;> rfl

theorem presses_mark (isMark : mark ∈ freeMarks ∨ mark = '\'') (spacing : Spacing) :
    Presses (.punct mark spacing) := by
  have apart : isWordChar mark = false ∧ isBlank mark = false := by
    rcases isMark with member | rfl
    · exact ⟨(freeMarks_apart mark member).1, (freeMarks_apart mark member).2.1⟩
    · decide
  intro before space after
  refine ⟨mark, apart.1, ?_⟩
  have begins : beginsWord [.punct mark spacing] = false := rfl
  simp [spell, compactAfter, apart, spaceBefore, begins, pressed]

/-- A bracket stands as it is. -/
theorem compactAfter_bracket (bracket : c ∈ ['(', ')', '[', ']']) (before : Option Char) (space : Bool)
    (rest : List Char) :
    compactAfter before space (c :: rest) = c :: compactAfter (some c) false rest := by
  have apart : ∀ c ∈ ['(', ')', '[', ']'], isWordChar c = false ∧ isBlank c = false :=
    List.all_iff_forall_prop.mp (by decide)
  simp [compactAfter, apart c bracket]

theorem Compacts.presses_group (compacts : Compacts body ∨ body = []) (round : delimiter ≠ .brace) :
    Presses (.group delimiter body) := by
  have inner (opening : Char) (bracket : opening ∈ ['(', ')', '[', ']']) (after : List Char) :
      ∃ last : Option Char, compactAfter (some opening) false (spellAll body ++ after) =
        pressedAll body ++ compactAfter last false after := by
    rcases compacts with compacts | rfl
    · obtain ⟨last, same⟩ := compacts (some opening) false after
      exact ⟨some last, same⟩
    · exact ⟨some opening, rfl⟩
  intro before space after
  have begins : spaceBefore before space [.group delimiter body] = [] := by
    simp [spaceBefore, beginsWord, isWordy]
  cases delimiter with
  | brace => exact (round rfl).elim
  | parenthesis =>
    obtain ⟨last, same⟩ := inner '(' (by decide) (')' :: after)
    refine ⟨')', rfl, ?_⟩
    rw [begins]
    simp only [spell, Delimiter.opening, Delimiter.closing, List.append_assoc, List.cons_append,
      List.nil_append, pressed]
    rw [compactAfter_bracket (by decide), same, compactAfter_bracket (by decide)]
  | bracket =>
    obtain ⟨last, same⟩ := inner '[' (by decide) (']' :: after)
    refine ⟨']', rfl, ?_⟩
    rw [begins]
    simp only [spell, Delimiter.opening, Delimiter.closing, List.append_assoc, List.cons_append,
      List.nil_append, pressed]
    rw [compactAfter_bracket (by decide), same, compactAfter_bracket (by decide)]

/-- Behind a token the gap is closed, but for a space between two words. -/
theorem Presses.cons (presses : Presses token) (single : token.isWordy = true → token.isJoint = false)
    (compacts : rest ≠ [] → Compacts rest) : Compacts (token :: rest) := by
  intro before space after
  obtain ⟨last, wordy, same⟩ := presses before space (gap token rest ++ (spellAll rest ++ after))
  have starts : spaceBefore before space (token :: rest) = spaceBefore before space [token] := rfl
  rw [spellAll, List.append_assoc, List.append_assoc, same, starts, pressedAll]
  simp only [List.append_cancel_left_eq, List.append_assoc]
  cases rest with
  | nil => exact ⟨last, by simp [gap, spellAll, pressedAll, crack, beginsWord]⟩
  | cons next rest =>
    obtain ⟨final, later⟩ :=
      compacts (List.cons_ne_nil _ _) (some last) (!token.isJoint) after
    refine ⟨final, ?_⟩
    have past : compactAfter (some last) false
        (gap token (next :: rest) ++ (spellAll (next :: rest) ++ after)) =
          compactAfter (some last) (!token.isJoint) (spellAll (next :: rest) ++ after) := by
      have blank : isBlank ' ' = true := by decide
      cases joint : token.isJoint <;> simp [gap, joint, compactAfter, blank]
    have kept : spaceBefore (some last) (!token.isJoint) (next :: rest) =
        crack token (next :: rest) := by
      cases word : token.isWordy with
      | false => simp [spaceBefore, crack, wordy, word]
      | true => simp [spaceBefore, crack, wordy, word, single word]
    rw [past, later, kept]

theorem Tight.compacts (tight : Tight tokens) : tokens ≠ [] → Compacts tokens := by
  induction tight with
  | nil => exact fun filled => (filled rfl).elim
  | name spelled crisp apart more ih =>
    exact fun _ => (crisp.presses rfl rfl (by rw [pressed])).cons (fun _ => rfl) ih
  | numeral digit reads crisp apart more ih =>
    exact fun _ => (crisp.presses rfl rfl (by rw [pressed])).cons (fun _ => rfl) ih
  | mark isMark goes more ih =>
    exact fun _ => (presses_mark (.inl isMark) _).cons (fun word => by cases word) ih
  | lifetime more ih =>
    exact fun _ => (presses_mark (.inr rfl) _).cons (fun word => by cases word) ih
  | group round inside more ihBody ih =>
    intro _
    refine (Compacts.presses_group ?_ round).cons (fun word => by cases word) ih
    exact (Decidable.em (_ = [])).symm.imp ihBody id

/-- The compact text of tokens consists of their pressed characters. -/
theorem Tight.compact_spellAll (tight : Tight tokens) :
    compact (spellAll tokens) = pressedAll tokens := by
  cases tokens with
  | nil => rfl
  | cons token rest =>
    obtain ⟨last, same⟩ := tight.compacts (List.cons_ne_nil _ _) none false []
    simpa [compact, spaceBefore, compactAfter] using same

/-! Reading compact text. -/

mutual

/-- The token as it is read from compact text; `goes` if an operator character follows. -/
def Token.respaced (goes : Bool) : Token → Token
  | .ident name => .ident name
  | .punct mark _ => .punct mark (if mark == '\'' || goes then .joint else .alone)
  | .literal text => .literal text
  | .group delimiter body => .group delimiter (Token.respacedAll body)

/-- The tokens as they are read from their compact text. -/
def Token.respacedAll : List Token → List Token
  | [] => []
  | token :: rest => token.respaced (beginsMark rest) :: Token.respacedAll rest

end

/-- What may follow tokens: nothing or a closing bracket. -/
inductive Closes : List Char → Prop where
  | ended : Closes []
  | before (bracket : c ∈ [')', ']']) : Closes (c :: rest)

theorem Closes.pause (closes : Closes after) : Pause after := by
  cases closes with
  | ended => exact .ended
  | before bracket =>
    have pauses : ∀ c ∈ [')', ']'], c ∈ pauses := List.all_iff_forall_prop.mp (by decide)
    exact .before (pauses _ bracket)

theorem settled_of_freeMark (isMark : mark ∈ freeMarks) (rest : List Char) :
    Settled (mark :: rest) := by
  have apart := freeMarks_apart mark isMark
  exact settled_of_ne (marks_apart mark apart.2.2.1).1 apart.2.2.2.2.1 rest

theorem pressed_group {delimiter : Delimiter} (round : delimiter ≠ .brace) (body : List Token) :
    (Token.group delimiter body).pressed =
      delimiter.opening ++ (pressedAll body ++ delimiter.closing true) := by
  cases delimiter with
  | brace => exact (round rfl).elim
  | _ => rfl

theorem closes_closing {delimiter : Delimiter} (round : delimiter ≠ .brace) (after : List Char) :
    Closes (delimiter.closing true ++ after) := by
  have brackets : ')' ∈ [')', ']'] ∧ ']' ∈ [')', ']'] := by decide
  cases delimiter with
  | brace => exact (round rfl).elim
  | parenthesis => exact .before brackets.1
  | bracket => exact .before brackets.2

theorem mark?_of_noMark (noMark : c ∉ marks) (rest : List Char) : mark? (c :: rest) = none := by
  unfold mark?
  split
  · rfl
  · rfl
  · rename_i same
    cases same
    simp [noMark]
  · rfl

namespace Tight

variable {tokens rest : List Token} {after : List Char}

/-- Behind a word or a literal a tight text pauses. -/
theorem pause (tight : Tight rest) (token : Token) (wordy : token.isWordy = true)
    (apart : beginsLifetime rest = false) (closes : Closes after) :
    Pause (crack token rest ++ (pressedAll rest ++ after)) := by
  cases begins : beginsWord rest with
  | true =>
    have space : crack token rest = [' '] := by rw [crack, wordy, begins]; rfl
    rw [space, List.singleton_append]
    exact .before (by decide)
  | false =>
    have noSpace : crack token rest = [] := by rw [crack, begins, Bool.and_false]; rfl
    rw [noSpace, List.nil_append]
    cases tight with
    | nil => exact closes.pause
    | name | numeral => cases begins
    | mark isMark => exact .before (freeMarks_apart _ isMark).2.2.2.2.2
    | lifetime => cases apart
    | @group delimiter _ _ round =>
      cases delimiter with
      | brace => exact (round rfl).elim
      | parenthesis =>
        have pauses : '(' ∈ pauses := by decide
        exact .before pauses
      | bracket =>
        have pauses : '[' ∈ pauses := by decide
        exact .before pauses

theorem settled (tight : Tight tokens) (filled : tokens ≠ []) (closes : Closes after) :
    Settled (pressedAll tokens ++ after) := by
  cases tight with
  | nil => exact (filled rfl).elim
  | name spelled =>
    obtain ⟨c, more, split, start⟩ := spelled.start
    rw [pressedAll, pressed, split]
    exact settled_of_start start _
  | numeral digit reads crisp apart more =>
    rw [pressedAll, pressed, List.append_assoc, List.append_assoc]
    exact (reads _ (more.pause (.literal _) rfl apart closes)).toSettled
  | mark isMark => exact settled_of_freeMark isMark _
  | lifetime => exact ⟨rfl, rfl⟩
  | @group delimiter _ _ round =>
    cases delimiter with
    | brace => exact (round rfl).elim
    | _ => exact ⟨rfl, rfl⟩

/-- An operator character is seen as one where it begins what follows. -/
theorem mark?_isSome (tight : Tight tokens) (closes : Closes after) :
    (mark? (pressedAll tokens ++ after)).isSome = beginsMark tokens := by
  cases tight with
  | nil =>
    cases closes with
    | ended => rfl
    | before bracket =>
      have apart : ∀ c ∈ [')', ']'], c ∉ marks := List.all_iff_forall_prop.mp (by decide)
      rw [pressedAll, List.nil_append, mark?_of_noMark (apart _ bracket)]
      rfl
  | name spelled =>
    obtain ⟨c, more, split, start⟩ := spelled.start
    rw [pressedAll, pressed, split, List.cons_append, List.cons_append, mark?_of_start start]
    rfl
  | @numeral text _ digit reads crisp =>
    have apart : ∀ c ∈ marks, isWordChar c = false := List.all_iff_forall_prop.mp (by decide)
    obtain ⟨c, first, word⟩ := (Option.any_eq_true _ _).mp crisp.first
    obtain ⟨more, split⟩ := List.head?_eq_some_iff.mp first
    have noMark : c ∉ marks := fun mark => by cases word.symm.trans (apart c mark)
    rw [pressedAll, pressed, split, List.cons_append, List.cons_append, mark?_of_noMark noMark]
    rfl
  | mark isMark =>
    rw [pressedAll, pressed, List.append_assoc, List.singleton_append,
      mark?_of_mem (settled_of_freeMark isMark _).comment (freeMarks_apart _ isMark).2.2.1]
    rfl
  | lifetime => rfl
  | @group delimiter _ _ round =>
    cases delimiter with
    | brace => exact (round rfl).elim
    | _ => rfl

/-- Past the space before a word the tokens are read as they are without it. -/
theorem lexemes_crack (tight : Tight rest) (closes : Closes after) (token : Token) (fuel : Nat) :
    Lexer.lexemes ((flatAll (respacedAll rest)).length + fuel)
        (crack token rest ++ (pressedAll rest ++ after)) =
      Lexer.lexemes ((flatAll (respacedAll rest)).length + fuel) (pressedAll rest ++ after) := by
  cases rest with
  | nil => simp [crack, beginsWord]
  | cons next rest =>
    cases space : token.isWordy && beginsWord (next :: rest) with
    | false => rw [crack, space]; rfl
    | true =>
      obtain ⟨spare, enough⟩ :
          ∃ spare, (flatAll (respacedAll (next :: rest))).length + fuel = spare + 1 := by
        have filled : 0 < (flat (next.respaced (beginsMark rest))).length := by
          cases next <;> simp [respaced, flat]
        refine ⟨(flatAll (respacedAll (next :: rest))).length + fuel - 1, ?_⟩
        simp only [respacedAll, flatAll, List.length_append]
        omega
      rw [crack, space, enough]
      exact lexemes_gap (tight.settled (List.cons_ne_nil _ _) closes) spare

/-- A token that is no group is one lexeme, and the next begins behind the space before it. -/
theorem lexemes_cons
    (reads : Reads (token.pressed ++ (crack token rest ++ (pressedAll rest ++ after)))
      (token.respaced (beginsMark rest)) (crack token rest ++ (pressedAll rest ++ after)))
    (alone : flat (token.respaced (beginsMark rest)) = [.leaf (token.respaced (beginsMark rest))])
    (tight : Tight rest) (closes : Closes after)
    (ih : ∀ fuel, Lexer.lexemes ((flatAll (respacedAll rest)).length + fuel)
      (pressedAll rest ++ after) = (Lexer.lexemes fuel after).map (flatAll (respacedAll rest) ++ ·))
    (fuel : Nat) : Lexer.lexemes ((flatAll (respacedAll (token :: rest))).length + fuel)
        (pressedAll (token :: rest) ++ after) =
      (Lexer.lexemes fuel after).map (flatAll (respacedAll (token :: rest)) ++ ·) := by
  have count : (flatAll (respacedAll (token :: rest))).length + fuel =
      (flatAll (respacedAll rest)).length + fuel + 1 := by
    rw [respacedAll, flatAll, alone, List.singleton_append, List.length_cons, Nat.add_right_comm]
  rw [count, pressedAll, List.append_assoc, List.append_assoc, lexemes_leaf reads,
    tight.lexemes_crack closes, ih, Option.map_map, respacedAll, flatAll, alone]
  rfl

/-- The compact text of tight tokens is cut into the lexemes of the tokens as it spaces them. -/
theorem lexemes (tight : Tight tokens) (closes : Closes after) (fuel : Nat) :
    Lexer.lexemes ((flatAll (respacedAll tokens)).length + fuel) (pressedAll tokens ++ after) =
      (Lexer.lexemes fuel after).map (flatAll (respacedAll tokens) ++ ·) := by
  induction tight generalizing after fuel with
  | nil => simp [respacedAll, flatAll, pressedAll]
  | name spelled crisp apart more ih =>
    rename_i _ name
    have reads := spelled.reads (more.pause (.ident name) rfl apart closes)
    rw [String.ofList_toList] at reads
    exact lexemes_cons reads rfl more closes (ih closes) fuel
  | numeral digit reads crisp apart more ih =>
    exact lexemes_cons (reads _ (more.pause (.literal _) rfl apart closes)) rfl more closes
      (ih closes) fuel
  | mark isMark goes more ih =>
    rename_i rest
    have apart := freeMarks_apart _ isMark
    have reads := reads_mark apart.2.2.1 apart.2.2.2.1
      (settled_of_freeMark isMark (pressedAll rest ++ after)).comment
    rw [more.mark?_isSome closes] at reads
    refine lexemes_cons ?_ rfl more closes (ih closes) fuel
    simpa [respaced, apart.2.2.2.1, crack, isWordy, pressed] using reads
  | lifetime more ih =>
    rename_i name _
    refine lexemes_cons ?_ rfl more closes (ih closes) fuel
    cases more with
    | name spelled crisp apart later =>
      simpa [respaced, crack, isWordy, pressed, pressedAll] using
        spelled.reads_lifetime (later.pause (.ident name) rfl apart closes)
  | @group delimiter body rest round inside more ihBody ih =>
    have settled : Settled (pressedAll body ++
        (delimiter.closing true ++ (pressedAll rest ++ after))) := by
      by_cases filled : body = []
      · subst filled
        cases delimiter <;> exact ⟨rfl, rfl⟩
      · exact inside.settled filled (closes_closing round _)
    have count : (flatAll (respacedAll (.group delimiter body :: rest))).length + fuel =
        (flatAll (respacedAll body)).length +
          ((flatAll (respacedAll rest)).length + fuel) + 2 := by
      simp only [respacedAll, respaced, flatAll, flat, List.length_append, List.length_cons,
        List.length_nil]
      omega
    have closed : (flatAll (respacedAll body)).length +
        ((flatAll (respacedAll rest)).length + fuel) + 1 =
        (flatAll (respacedAll body)).length +
          ((flatAll (respacedAll rest)).length + fuel + 1) := rfl
    have split : pressedAll (.group delimiter body :: rest) ++ after = delimiter.opening ++
        (pressedAll body ++ (delimiter.closing true ++ (pressedAll rest ++ after))) := by
      simp [pressedAll, pressed_group round, crack, isWordy]
    rw [count, split, lexemes_opening delimiter settled, closed,
      ihBody (closes_closing round _), lexemes_closing, ih closes]
    simp [respacedAll, respaced, flatAll, flat, Option.map_map, Function.comp_def]

/-- There are no more lexemes than characters. -/
theorem length_flatAll (tight : Tight tokens) :
    (flatAll (respacedAll tokens)).length ≤ (pressedAll tokens).length := by
  have filled {text : List Char} (crisp : IsCrisp text) : 1 ≤ text.length := by
    cases text with
    | nil => cases crisp.first
    | cons c rest => exact Nat.le_add_left 1 rest.length
  induction tight with
  | nil => exact Nat.le_refl 0
  | name spelled crisp apart more ih =>
    have one := filled crisp
    simp only [respacedAll, respaced, flatAll, flat, pressedAll, pressed, List.length_append,
      List.length_cons, List.length_nil]
    omega
  | numeral digit reads crisp apart more ih =>
    have one := filled crisp
    simp only [respacedAll, respaced, flatAll, flat, pressedAll, pressed, List.length_append,
      List.length_cons, List.length_nil]
    omega
  | mark isMark goes more ih =>
    simp only [respacedAll, respaced, flatAll, flat, pressedAll, pressed, List.length_append,
      List.length_cons, List.length_nil] at ih ⊢
    omega
  | lifetime more ih =>
    simp only [respacedAll, respaced, flatAll, flat, pressedAll, pressed, List.length_append,
      List.length_cons, List.length_nil] at ih ⊢
    omega
  | @group delimiter body rest round inside more ihBody ih =>
    have brackets : delimiter.opening.length = 1 ∧ (delimiter.closing true).length = 1 := by
      cases delimiter with
      | brace => exact (round rfl).elim
      | _ => exact ⟨rfl, rfl⟩
    simp only [respacedAll, respaced, flatAll, flat, pressedAll, pressed_group round,
      List.length_append, List.length_cons, List.length_nil, brackets] at ih ihBody ⊢
    omega

/-- No order mark stands before tight tokens. -/
theorem pastOrderMark (tight : Tight tokens) :
    pastOrderMark (pressedAll tokens) = pressedAll tokens := by
  have other (c : Char) (rest : List Char) (plain : c ≠ '\ufeff') :
      Lexer.pastOrderMark (c :: rest) = c :: rest := by
    unfold Lexer.pastOrderMark
    split
    · rename_i same
      exact (plain (List.cons.inj same).1).elim
    · rfl
  cases tight with
  | nil => rfl
  | name spelled =>
    obtain ⟨c, more, split, start⟩ := spelled.start
    have solid := isSolid_of_isIdentStart start
    rw [pressedAll, pressed, split]
    refine other c _ ?_
    rintro rfl
    cases solid
  | numeral digit reads crisp =>
    obtain ⟨c, first, isDigit⟩ := (Option.any_eq_true _ _).mp digit
    obtain ⟨more, split⟩ := List.head?_eq_some_iff.mp first
    rw [pressedAll, pressed, split]
    refine other c _ ?_
    rintro rfl
    cases isDigit
  | mark isMark =>
    have outside : '\ufeff' ∉ freeMarks := by decide
    refine other _ _ ?_
    rintro rfl
    exact outside isMark
  | lifetime => rfl
  | @group delimiter _ _ round =>
    cases delimiter with
    | brace => exact (round rfl).elim
    | _ => rfl

/-- Tight tokens are read back from their compact text, as it spaces them. -/
theorem tokens?_compact (tight : Tight tokens) :
    tokens? (String.ofList (compact (spellAll tokens))) = some (respacedAll tokens) := by
  obtain ⟨spare, enough⟩ : ∃ spare, (pressedAll tokens).length + 1 =
      (flatAll (respacedAll tokens)).length + (spare + 1) := by
    have := tight.length_flatAll
    exact ⟨(pressedAll tokens).length - (flatAll (respacedAll tokens)).length, by omega⟩
  have cut := tight.lexemes .ended (spare + 1)
  rw [List.append_nil] at cut
  have ended : Lexer.lexemes (spare + 1) [] = some [] := rfl
  rw [tight.compact_spellAll, tokens?, String.toList_ofList, tight.pastOrderMark, enough, cut, ended]
  have matched := assemble_flatAll (respacedAll tokens) [] [] []
  simpa [assemble] using matched

end Tight

end ValueObjects
