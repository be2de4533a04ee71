import ValueObjects.Proofs.Words

namespace ValueObjects

open Text Literal Token
open flat (flatAll)

namespace Lexer

/-! Literals. -/

/-- A literal begins neither a gap, a comment nor a bracket. -/
theorem literals_apart (begins : c ∈ ['"', 'r', 'b', 'c', '\''] ∨ c.isDigit = true) :
    isGap c = false ∧ c ≠ '/' ∧ c ∉ ['(', ')', '[', ']', '\x7b', '\x7d'] := by
  rcases begins with member | digit
  · have apart : ∀ c ∈ ['"', 'r', 'b', 'c', '\''],
        isGap c = false ∧ c ≠ '/' ∧ c ∉ ['(', ')', '[', ']', '\x7b', '\x7d'] :=
      List.all_iff_forall_prop.mp (by decide)
    exact apart c member
  · have solid := isSolid_of_isIdentContinue
      (isIdentContinue_of_isHexDigit (isHexDigit_of_isDigit digit))
    simp only [isSolid, Bool.and_eq_true, Bool.not_eq_true', bne_iff_ne] at solid
    refine ⟨solid.1.1, solid.1.2, fun bracket => ?_⟩
    have apart : ∀ c ∈ ['(', ')', '[', ']', '\x7b', '\x7d'], c.isDigit = false :=
      List.all_iff_forall_prop.mp (by decide)
    cases digit.symm.trans (apart c bracket)

theorem settled_of_ne (noGap : isGap c = false) (noSlash : c ≠ '/') (rest : List Char) :
    Settled (c :: rest) where
  gap := noGap
  comment := by
    have apart : ('/' == c) = false := by simpa using noSlash.symm
    simp [beginsComment, List.isPrefixOf, apart]

theorem leaf?_of_scan? (read : scan? (used ++ rest) = some rest) :
    leaf? (used ++ rest) = some (.literal (String.ofList used), rest) := by
  rw [leaf?, read]
  simp

/-- A text that is scanned as one literal before every pause is read as the literal. -/
theorem reads_of_scan? (read : ∀ after, Pause after → scan? (used ++ after) = some after)
    (stops : Pause after) : Reads (used ++ after) (.literal (String.ofList used)) after := by
  have here := read after stops
  obtain ⟨same, whole, ⟨c, begins, shape⟩, -⟩ := scan?_local here
  cases List.append_cancel_right whole
  obtain ⟨noGap, noSlash, noBracket⟩ := literals_apart shape
  obtain ⟨more, rfl⟩ := List.head?_eq_some_iff.mp begins
  exact {
    toSettled := settled_of_ne noGap noSlash _
    bracket := bracket?_of_ne noBracket _
    leaf := leaf?_of_scan? here }

/-- A text that is scanned as one literal before every pause stands by itself. -/
theorem stands_of_scan? (read : ∀ after, Pause after → scan? (used ++ after) = some after) :
    Stands (.literal (String.ofList used)) := by
  intro after stops
  rw [spell, String.toList_ofList]
  exact reads_of_scan? read stops.pause

theorem stands_quoteLiteral (text : String) : Stands (.literal (quoteLiteral text)) := by
  rw [← String.ofList_toList (s := quoteLiteral text)]
  apply stands_of_scan?
  intro after stops
  have past : pastSuffix after = after := by simpa [pastSuffix, word?] using pastSuffix_append stops []
  rw [scan?_eq, textual?_quoteLiteral, Option.map_some, past, Option.some_or]

/-- The marker of tokens that could not be produced is read before every text. -/
theorem stands_errorMarker : Stands (.literal (String.ofList errorMarker)) := by
  intro after stops
  rw [spell, String.toList_ofList]
  have noBracket : bracket? (errorMarker ++ after) = none := rfl
  have noLiteral : scan? (errorMarker ++ after) = none := scan?_of_ne (by decide) (by decide) _
  exact {
    gap := rfl
    comment := rfl
    bracket := noBracket
    leaf := by
      rw [leaf?, noLiteral]
      rfl }

/-! Operator characters. -/

theorem beginsComment_break (stops : Break after) : beginsComment (c :: after) = false := by
  cases stops with
  | ended => simp [beginsComment, List.isPrefixOf]
  | before isBreak =>
    rename_i d _
    have apart : ¬ '/' = d ∧ ¬ '*' = d := by
      constructor
      all_goals
        rintro rfl
        exact absurd isBreak (by decide)
    simp [beginsComment, List.isPrefixOf, apart]

theorem mark?_break (stops : Break after) : mark? after = none := by
  cases stops with
  | ended => rfl
  | before isBreak =>
    rename_i d _
    have apart : ∀ d ∈ breaks, marks.contains d = false := List.all_iff_forall_prop.mp (by decide)
    unfold mark?
    split
    · rfl
    · rfl
    · rename_i same
      cases same
      rw [apart d isBreak]
      rfl
    · rfl

theorem stands_mark (isMark : mark ∈ marks) (plain : mark ≠ '\'') :
    Stands (.punct mark .alone) := by
  intro after stops
  have reads := reads_mark isMark plain (beginsComment_break stops)
  rwa [mark?_break stops] at reads

theorem mark?_eq_some (found : mark? text = some (mark, rest)) :
    text = mark :: rest ∧ mark ∈ marks ∧ beginsComment text = false := by
  unfold mark? at found
  split at found
  · cases found
  · cases found
  · rename_i c tail noLine noBlock
    split at found
    · rename_i isMark
      cases found
      refine ⟨rfl, by simpa using isMark, ?_⟩
      rw [← Bool.not_eq_true, beginsComment, Bool.or_eq_true, List.isPrefixOf_iff_prefix,
        List.isPrefixOf_iff_prefix]
      rintro (⟨tail, same⟩ | ⟨tail, same⟩)
      · cases same
        exact noLine tail rfl rfl
      · cases same
        exact noBlock tail rfl rfl
    · cases found
  · cases found

/-- An operator character, or the apostrophe of a lifetime. -/
theorem punct?_cases (found : punct? text = some (token, rest)) :
    (∃ mark, mark? text = some (mark, rest) ∧ mark ≠ '\'' ∧
      token = .punct mark (if (mark? rest).isSome then .joint else .alone)) ∨
    (mark? text = some ('\'', rest) ∧ token = .punct '\'' .joint ∧
      ∃ name after, name? rest = some (name, after) ∧ after.head? ≠ some '\'' ∧
        (['#'].isPrefixOf after && !(['r', '#'].isPrefixOf rest)) = false) := by
  unfold punct? at found
  split at found
  · rename_i tail marked
    split at found
    · rename_i name after word
      simp only at found
      split at found
      · cases found
      · rename_i plain
        cases found
        rw [Bool.or_eq_true, not_or, Bool.not_eq_true, Bool.not_eq_true] at plain
        refine .inr ⟨marked, rfl, name, after, word, ?_, plain.2⟩
        intro closes
        obtain ⟨more, rfl⟩ := List.head?_eq_some_iff.mp closes
        cases plain.1
    · cases found
  · rename_i mark tail other marked
    cases found
    refine .inl ⟨mark, marked, ?_, rfl⟩
    rintro rfl
    exact other rfl
  · cases found

/-! Leaves. -/

theorem head_errorMarker (rest : List Char) : (errorMarker ++ rest).head? = some '(' := rfl

/-- A leaf is a literal, an operator character, a word or the marker. -/
theorem leaf?_cases (found : leaf? text = some (token, rest)) :
    (∃ used, text = used ++ rest ∧ scan? text = some rest ∧
      token = .literal (String.ofList used)) ∨
    (scan? text = none ∧ punct? text = some (token, rest)) ∨
    (∃ name, name? text = some (name, rest) ∧ token = .ident name) ∨
    (text = errorMarker ++ rest ∧ token = .literal (String.ofList errorMarker)) := by
  unfold leaf? at found
  split at found
  · rename_i tail read
    cases found
    obtain ⟨used, rfl, -⟩ := scan?_local read
    exact .inl ⟨used, rfl, read, by simp⟩
  · rename_i noLiteral
    simp only [Option.orElse_eq_orElse, Option.orElse_eq_or, Option.or_eq_some_iff] at found
    rcases found with found | ⟨_, found | ⟨_, found⟩⟩
    · exact .inr (.inl ⟨noLiteral, found⟩)
    · unfold ident? at found
      split at found
      · cases found
      · obtain ⟨⟨name, after⟩, word, same⟩ := Option.map_eq_some_iff.mp found
        cases same
        exact .inr (.inr (.inl ⟨name, word, rfl⟩))
    · obtain ⟨after, begins, same⟩ := Option.map_eq_some_iff.mp found
      cases same
      exact .inr (.inr (.inr ⟨isPrefixOf?_eq_some.mp begins, rfl⟩))

/-- A leaf that is not joined to the next stands by itself. -/
theorem stands_leaf (found : leaf? text = some (token, rest)) (single : token.isJoint = false) :
    Stands token := by
  rcases leaf?_cases found with ⟨used, rfl, read, rfl⟩ | ⟨-, read⟩ | ⟨name, word, rfl⟩ | ⟨-, rfl⟩
  · obtain ⟨same, whole, -, goes⟩ := scan?_local read
    cases List.append_cancel_right whole
    exact stands_of_scan? goes
  · rcases punct?_cases read with ⟨mark, marked, plain, rfl⟩ | ⟨-, rfl, -⟩
    · cases ended : (mark? rest).isSome with
      | false => exact stands_mark (mark?_eq_some marked).2.1 plain
      | true =>
        rw [ended] at single
        cases single
    · cases single
  · exact (name?_spells word).2.stands
  · exact stands_errorMarker

/-- A leaf begins with the character that the text begins with. -/
theorem head_leaf (found : leaf? (c :: text) = some (token, rest)) :
    (spell token).head? = some c := by
  rcases leaf?_cases found with ⟨used, whole, read, rfl⟩ | ⟨-, read⟩ | ⟨name, word, rfl⟩ |
    ⟨whole, rfl⟩
  · obtain ⟨same, again, ⟨d, begins, -⟩, -⟩ := scan?_local read
    cases List.append_cancel_right (whole.symm.trans again)
    obtain ⟨more, rfl⟩ := List.head?_eq_some_iff.mp begins
    cases whole
    simp [spell]
  · rcases punct?_cases read with ⟨mark, marked, plain, rfl⟩ | ⟨marked, rfl, -⟩
    all_goals
      cases (mark?_eq_some marked).1
      rfl
  · obtain ⟨whole, spelled⟩ := name?_spells word
    obtain ⟨d, more, split, -⟩ := spelled.start
    rw [split] at whole
    cases whole
    simp [spell, split]
  · have begins := head_errorMarker rest
    rw [← whole] at begins
    cases begins
    rw [spell, String.toList_ofList]
    rfl

/-! Tokens that are joined to the next. -/

/-- The letters that a quoted text may have before its double quote. -/
def letterings : List (List Char) := [['r'], ['b'], ['b', 'r'], ['c'], ['c', 'r']]

theorem raw?_shape (read : raw? alphabet text = some found) :
    (∃ body, text = '"' :: body) ∨ ∃ c body, text = '#' :: c :: body ∧ isIdentStart c = false := by
  have apart : isIdentStart '"' = false ∧ isIdentStart '#' = false := by decide
  rcases text with _ | ⟨c, text⟩
  · cases read
  by_cases sign : c = '#'
  · subst sign
    rcases text with _ | ⟨d, text⟩
    · cases read
    refine .inr ⟨d, text, rfl, ?_⟩
    by_cases again : d = '#'
    · rw [again]
      exact apart.2
    · by_cases quote : d = '"'
      · rw [quote]
        exact apart.1
      · simp [raw?, again, quote] at read
  · by_cases quote : c = '"'
    · exact .inl ⟨text, by rw [quote]⟩
    · simp [raw?, sign, quote] at read

theorem letters_spelled : ∀ letters ∈ letterings, IsWord letters := by
  have starts : ∀ c ∈ ['r', 'b', 'c'], isIdentStart c = true ∧ isIdentContinue c = true :=
    List.all_iff_forall_prop.mp (by decide)
  intro letters member
  simp only [letterings, List.mem_cons, List.not_mem_nil, or_false] at member
  rcases member with rfl | rfl | rfl | rfl | rfl
  all_goals
    refine ⟨_, _, rfl, (starts _ (by decide)).1, ?_⟩
    simp [(starts 'r' (by decide)).2]

theorem name?_letters (member : letters ∈ letterings) (quote : q ∈ quotes)
    (plain : letters = ['r'] → q ≠ '#') (body : List Char) :
    name? (letters ++ q :: body) = some (String.ofList letters, q :: body) := by
  have apart : ∀ q ∈ quotes, isIdentContinue q = false :=
    List.all_iff_forall_prop.mp (by decide)
  apply (IsName.plain (letters_spelled letters member)).read (.before (apart q quote))
  intro single same
  cases same
  exact plain single rfl

/-- No literal ends with the double quote that its letters come before, or sooner. -/
theorem letters_unfinished (member : letters ∈ letterings) (before : used <+: letters ++ ['"']) :
    scan? used = none := by
  have short : ∀ letters ∈ letterings, (letters ++ ['"']).length < 4 ∧
      ∀ count < 4, scan? ((letters ++ ['"']).take count) = none := by
    decide
  obtain ⟨length, none⟩ := short letters member
  rw [List.prefix_iff_eq_take.mp before]
  exact none _ (Nat.lt_of_le_of_lt before.length_le length)

/-- A literal that begins with a name has a double quote behind its letters, unless the name is
closed by an apostrophe or followed by a number sign. -/
theorem literal_shape (read : scan? text = some rest) (word : name? text = some (name, after))
    (opens : after.head? ≠ some '\'')
    (plain : (['#'].isPrefixOf after && !(['r', '#'].isPrefixOf text)) = false) :
    ∃ letters ∈ letterings, ∃ body, text = letters ++ '"' :: body := by
  obtain ⟨whole, spelled⟩ := name?_spells word
  obtain ⟨c, more, split, start⟩ := spelled.start
  rw [split, List.cons_append] at whole
  -- A number sign behind two letters makes no lifetime of them.
  have noSign (letters : List Char) (member : letters ∈ [['b', 'r'], ['c', 'r']]) (body : List Char) :
      text ≠ letters ++ '#' :: body := by
    rintro rfl
    have known : ∀ letters ∈ [['b', 'r'], ['c', 'r']], letters ∈ letterings ∧ letters ≠ ['r'] := by
      decide
    obtain ⟨known, longer⟩ := known letters member
    have named : name? (letters ++ '#' :: body) = _ :=
      name?_letters known (by decide) (fun single => (longer single).elim) body
    cases word.symm.trans named
    simp only [List.mem_cons, List.not_mem_nil, or_false] at member
    rcases member with rfl | rfl
    all_goals cases plain
  rw [scan?_eq] at read
  rcases Option.or_eq_some_iff.mp read with read | ⟨-, read⟩
  · obtain ⟨found, read, -⟩ := Option.map_eq_some_iff.mp read
    unfold textual? at read
    split at read
    · cases whole
      cases start
    · rcases raw?_shape read with ⟨body, rfl⟩ | ⟨d, body, rfl, noStart⟩
      · exact ⟨['r'], by decide, body, rfl⟩
      · simp [name?, plainName?, noStart] at word
    · exact ⟨['b'], by decide, _, rfl⟩
    · rcases raw?_shape read with ⟨body, rfl⟩ | ⟨d, body, rfl, -⟩
      · exact ⟨['b', 'r'], by decide, body, rfl⟩
      · exact (noSign ['b', 'r'] (by decide) _ rfl).elim
    · exact ⟨['c'], by decide, _, rfl⟩
    · rcases raw?_shape read with ⟨body, rfl⟩ | ⟨d, body, rfl, -⟩
      · exact ⟨['c', 'r'], by decide, body, rfl⟩
      · exact (noSign ['c', 'r'] (by decide) _ rfl).elim
    · cases read
  rcases Option.or_eq_some_iff.mp read with read | ⟨-, read⟩
  · obtain ⟨tail, begins, -⟩ := Option.bind_eq_some_iff.mp read
    cases isPrefixOf?_eq_some.mp begins
    have named : name? (['b'] ++ '\'' :: tail) = _ :=
      name?_letters (by decide) (by decide) (by decide) tail
    cases word.symm.trans named
    exact (opens rfl).elim
  rcases Option.or_eq_some_iff.mp read with read | ⟨-, read⟩
  · obtain ⟨tail, begins, -⟩ := Option.bind_eq_some_iff.mp read
    cases whole.symm.trans (isPrefixOf?_eq_some.mp begins)
    cases start
  · rw [whole, noNumber_of_start start] at read
    cases read

/-- What is read behind an operator character that is joined to it is what it leads into. -/
theorem leads_leaf (found : leaf? text = some (.punct mark .joint, rest))
    (next : leaf? rest = some (token, later)) : Leads mark token := by
  rcases leaf?_cases found with ⟨_, _, _, same⟩ | ⟨-, read⟩ | ⟨_, _, same⟩ | ⟨_, same⟩
  · cases same
  · rcases punct?_cases read with ⟨_, marked, plain, same⟩ | ⟨marked, same, name, after, word, opens, free⟩
    · cases ended : mark? rest with
      | none =>
        rw [ended] at same
        cases same
      | some found =>
        obtain ⟨c, tail⟩ := found
        rw [ended] at same
        cases same
        obtain ⟨rfl, goes, -⟩ := mark?_eq_some ended
        obtain ⟨rfl, isMark, settled⟩ := mark?_eq_some marked
        exact .operator isMark plain (head_leaf next) goes settled
    · cases same
      obtain ⟨whole, spelled⟩ := name?_spells word
      obtain ⟨c, more, split, start⟩ := spelled.start
      rcases leaf?_cases next with ⟨used, shape, read, rfl⟩ | ⟨-, read⟩ | ⟨other, again, rfl⟩ |
        ⟨shape, -⟩
      · obtain ⟨letters, member, body, shaped⟩ := literal_shape read word opens free
        obtain ⟨same, again, -, goes⟩ := scan?_local read
        cases List.append_cancel_right (shape.symm.trans again)
        have quoted : used ++ later = (letters ++ ['"']) ++ body := by
          rw [← shape, shaped, List.append_assoc, List.singleton_append]
        rcases List.append_eq_append_iff.mp quoted with ⟨short, same, -⟩ | ⟨more, rfl, -⟩
        · have ended := goes [] .ended
          rw [List.append_nil, letters_unfinished member ⟨short, same.symm⟩] at ended
          cases ended
        · refine .lifetime rfl fun after _ => ?_
          rw [spell, String.toList_ofList, List.append_assoc, List.append_assoc]
          have named : name? (letters ++ '"' :: (more ++ after)) = _ :=
            name?_letters member (by decide) (by simp) _
          exact reads_apostrophe named (by simp) rfl
      · have none : mark? rest = none := by
          rw [whole, split, List.cons_append]
          exact mark?_of_start start _
        rcases punct?_cases read with ⟨_, marked, -⟩ | ⟨marked, -⟩
        all_goals cases none.symm.trans marked
      · exact (name?_spells again).2.leads
      · have begins := head_errorMarker later
        rw [← shape, whole, split] at begins
        cases begins
        cases start
  · cases same
  · cases same

/-- Behind a character that is joined to what follows there is neither a gap nor a bracket. -/
theorem joined_rest (found : leaf? text = some (.punct mark .joint, rest)) :
    ∃ c tail, rest = c :: tail ∧ Settled rest ∧ bracket? rest = none := by
  rcases leaf?_cases found with ⟨_, _, _, same⟩ | ⟨-, read⟩ | ⟨_, _, same⟩ | ⟨_, same⟩
  · cases same
  · rcases punct?_cases read with ⟨_, -, -, same⟩ | ⟨-, same, name, after, word, -⟩
    · cases ended : mark? rest with
      | none =>
        rw [ended] at same
        cases same
      | some found =>
        obtain ⟨c, tail⟩ := found
        obtain ⟨rfl, isMark, settled⟩ := mark?_eq_some ended
        obtain ⟨noGap, -, -, noBracket⟩ := marks_apart c isMark
        refine ⟨c, tail, rfl, ⟨noGap, settled⟩, bracket?_of_ne ?_ tail⟩
        exact fun member => noBracket (List.mem_append_left ['"', 'r', 'b', 'c'] member)
    · obtain ⟨rfl, spelled⟩ := name?_spells word
      obtain ⟨c, more, split, start⟩ := spelled.start
      rw [split, List.cons_append]
      exact ⟨c, _, rfl, settled_of_start start _, bracket?_of_ne (starts_apart start).2.2.1 _⟩
  · cases same
  · cases same

end Lexer

open Lexer

/-- Lexemes that are read as they are from the written form of the tokens that they make up. -/
inductive Follows : List Lexeme → Prop where
  | nil : Follows []
  | opening (more : Follows rest) : Follows (.opening delimiter :: rest)
  | closing (more : Follows rest) : Follows (.closing delimiter :: rest)
  | leaf (single : token.isJoint = false) (stands : Stands token) (more : Follows rest) :
      Follows (.leaf token :: rest)
  | joint (leads : Leads mark next) (more : Follows (.leaf next :: rest)) :
      Follows (.leaf (.punct mark .joint) :: .leaf next :: rest)

/-- The attribute that a comment stands for. -/
theorem follows_documented (body : List Char) (inner : Bool) (more : Follows rest) :
    Follows (documented body inner ++ rest) := by
  have word : IsWord "doc".toList :=
    ⟨'d', ['o', 'c'], rfl, by decide, List.all_iff_forall_prop.mp (by decide +kernel)⟩
  have bracketed : Follows ([.opening .bracket, .leaf (.ident "doc"), .leaf (.punct '=' .alone),
      .leaf (.literal (quoteLiteral (String.ofList body))), .closing .bracket] ++ rest) :=
    .opening <| .leaf rfl (IsName.plain word).stands <|
      .leaf rfl (stands_mark (by decide) (by decide)) <|
      .leaf rfl (stands_quoteLiteral _) <| .closing more
  rw [documented, List.append_assoc, List.append_assoc]
  refine .leaf rfl (stands_mark (by decide) (by decide)) ?_
  cases inner with
  | false => exact bracketed
  | true => exact .leaf rfl (stands_mark (by decide) (by decide)) bracketed

/-- What a text is cut into. -/
theorem follows_lexemes (cut : lexemes fuel text = some lexed) : Follows lexed := by
  induction fuel generalizing text lexed with
  | zero => cases cut
  | succ fuel ih =>
    rcases lexemes_cases cut with ⟨body, inner, rest, later, -, goes, rfl⟩ | ⟨-, rfl⟩ |
      ⟨lexeme, rest, later, bracket, goes, rfl⟩ | ⟨token, rest, later, leaf, goes, rfl⟩
    · exact follows_documented body inner (ih goes)
    · exact .nil
    · cases lexeme with
      | leaf token => exact (bracket?_ne_leaf bracket).elim
      | opening delimiter => exact .opening (ih goes)
      | closing delimiter => exact .closing (ih goes)
    · cases joint : token.isJoint with
      | false => exact .leaf joint (stands_leaf leaf joint) (ih goes)
      | true =>
        obtain ⟨mark, rfl⟩ : ∃ mark, token = .punct mark .joint := by
          unfold isJoint at joint
          split at joint
          · exact ⟨_, rfl⟩
          · cases joint
        obtain ⟨c, tail, filled, settled, noBracket⟩ := joined_rest leaf
        have more := ih goes
        cases fuel with
        | zero => cases goes
        | succ fuel =>
          -- What the character is joined to is the next leaf.
          have past := pastGaps_settled settled (fuel + 1)
          rcases lexemes_cases goes with ⟨_, _, _, _, comment, -⟩ | ⟨empty, -⟩ |
            ⟨_, _, _, bracket, -⟩ | ⟨next, after, _, read, -, rfl⟩
          · rw [past, documentation?_settled settled.comment] at comment
            cases comment
          · rw [past, filled] at empty
            cases empty
          · rw [past, noBracket] at bracket
            cases bracket
          · rw [past] at read
            exact .joint (leads_leaf leaf read) more

theorem flat_leaf (stands : Stands token) : flat token = [.leaf token] := by
  cases token with
  | group delimiter body => exact (leaf?_ne_group (stands [] .ended).leaf).elim
  | _ => rfl

theorem flatAll_append (first second : List Token) :
    flatAll (first ++ second) = flatAll first ++ flatAll second := by
  induction first with
  | nil => rfl
  | cons token rest ih => rw [List.cons_append, flatAll, flatAll, ih, List.append_assoc]

/-- The lexemes read so far: those of the groups still open and of the tokens in the innermost. -/
def readSoFar : List (Delimiter × List Token) → List Token → List Lexeme
  | [], tokens => flatAll tokens.reverse
  | (delimiter, before) :: groups, tokens =>
    readSoFar groups before ++ .opening delimiter :: flatAll tokens.reverse

theorem readSoFar_cons (groups : List (Delimiter × List Token)) (token : Token)
    (tokens : List Token) :
    readSoFar groups (token :: tokens) = readSoFar groups tokens ++ flat token := by
  cases groups with
  | nil => simp [readSoFar, flatAll_append, flatAll]
  | cons group groups => simp [readSoFar, flatAll_append, flatAll]

/-- Matched lexemes are those of the tokens. -/
theorem eq_flatAll (follows : Follows lexed) {groups : List (Delimiter × List Token)}
    (matched : assemble groups tokens lexed = some result) :
    readSoFar groups tokens ++ lexed = flatAll result := by
  induction follows generalizing groups tokens with
  | nil =>
    cases groups with
    | nil =>
      cases matched
      exact List.append_nil _
    | cons group groups => cases matched
  | opening _ ih => simpa [readSoFar, flatAll] using ih matched
  | closing _ ih =>
    cases groups with
    | nil => cases matched
    | cons group groups =>
      obtain ⟨opened, before⟩ := group
      rw [assemble] at matched
      split at matched
      · rename_i same
        rw [← ih matched, readSoFar_cons, readSoFar, flat, same]
        simp
      · cases matched
  | leaf _ stands _ ih =>
    have more := ih matched
    rwa [readSoFar_cons, flat_leaf stands, List.append_assoc] at more
  | joint _ _ ih =>
    have more := ih matched
    rw [readSoFar_cons, List.append_assoc] at more
    exact more

theorem legible_of_leaf {later : List Lexeme}
    (follows : Follows (.leaf token :: (flatAll rest ++ later)))
    (ends : ∀ token rest, later ≠ .leaf token :: rest)
    (more : Follows (flatAll rest ++ later) → Legible rest ∧ Follows later) :
    Legible (token :: rest) ∧ Follows later := by
  generalize split : flatAll rest ++ later = lexed at follows
  cases follows with
  | leaf single stands goes =>
    obtain ⟨legible, after⟩ := more (split ▸ goes)
    exact ⟨.leaf single stands legible, after⟩
  | joint leads goes =>
    obtain ⟨legible, after⟩ := more (split ▸ goes)
    refine ⟨?_, after⟩
    cases rest with
    | nil => exact (ends _ _ split).elim
    | cons token rest =>
      -- The next token is the one that the lexemes go on with.
      cases token with
      | group delimiter body => cases split
      | _ =>
        cases split
        exact .joint leads legible

/-- Tokens are legible if their lexemes are read as they are. What comes after them is no token that
the last could be joined to. -/
theorem legible_of_follows {later : List Lexeme} (tokens : List Token)
    (follows : Follows (flatAll tokens ++ later))
    (ends : ∀ token rest, later ≠ .leaf token :: rest) : Legible tokens ∧ Follows later := by
  match tokens with
  | [] => exact ⟨.nil, follows⟩
  | .group delimiter body :: rest =>
    have opened : Follows (.opening delimiter :: (flatAll body ++
        .closing delimiter :: (flatAll rest ++ later))) := by
      simpa [flatAll, flat] using follows
    cases opened with
    | opening more =>
      obtain ⟨inside, closed⟩ := legible_of_follows body more (by simp)
      cases closed with
      | closing more =>
        obtain ⟨legible, after⟩ := legible_of_follows rest more ends
        exact ⟨.group inside legible, after⟩
  | .ident _ :: rest | .literal _ :: rest | .punct _ _ :: rest =>
    exact legible_of_leaf follows ends fun more => legible_of_follows rest more ends

/-- The tokens of every text are legible. -/
theorem legible_of_tokens? (read : tokens? text = some tokens) : Legible tokens := by
  obtain ⟨lexed, cut, matched⟩ := Option.bind_eq_some_iff.mp read
  have follows := follows_lexemes cut
  have split : lexed = flatAll tokens ++ [] := by
    rw [List.append_nil]
    exact eq_flatAll follows matched
  rw [split] at follows
  exact (legible_of_follows tokens follows (by simp)).1

end ValueObjects
