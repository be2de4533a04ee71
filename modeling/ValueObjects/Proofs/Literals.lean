import Mathlib.Data.List.Basic
import ValueObjects.Proofs.NumericLiterals
import ValueObjects.Proofs.Quoting

namespace ValueObjects.Literal

open Text

/-! Escapes. -/

theorem byteEscape?_local (read : byteEscape? alphabet text = some (code, rest)) :
    ∃ used, text = used ++ rest ∧
      ∀ more, byteEscape? alphabet (used ++ more) = some (code, more) := by
  unfold byteEscape? at read
  split at read
  · rename_i high low rest
    obtain ⟨fits, same⟩ := Option.ite_none_right_eq_some.mp read
    cases same
    exact ⟨[high, low], rfl, fun more => if_pos fits⟩
  · cases read

theorem codeDigits?_local (read : codeDigits? code count text = some (found, rest)) :
    ∃ used, text = used ++ rest ∧
      ∀ more, codeDigits? code count (used ++ more) = some (found, more) := by
  induction text generalizing code count with
  | nil => cases read
  | cons c text ih =>
    rw [codeDigits?] at read
    by_cases digit : isHexDigit c = true
    · rw [if_pos digit] at read
      split at read
      · cases read
      · rename_i few
        obtain ⟨used, rfl, same⟩ := ih read
        refine ⟨c :: used, rfl, fun more => ?_⟩
        rw [List.cons_append, codeDigits?, if_pos digit, if_neg few, same]
    · rw [if_neg digit] at read
      by_cases blank : (c == '_' && decide (count > 0)) = true
      · rw [if_pos blank] at read
        obtain ⟨used, rfl, same⟩ := ih read
        refine ⟨c :: used, rfl, fun more => ?_⟩
        rw [List.cons_append, codeDigits?, if_neg digit, if_pos blank, same]
      · rw [if_neg blank] at read
        split at read
        · rename_i ends
          cases read
          refine ⟨[c], rfl, fun more => ?_⟩
          rw [List.singleton_append, codeDigits?, if_neg digit, if_neg blank, if_pos ends]
        · cases read

theorem codeEscape?_local (read : codeEscape? text = some (code, rest)) :
    ∃ used, text = used ++ rest ∧ ∀ more, codeEscape? (used ++ more) = some (code, more) := by
  unfold codeEscape? at read
  split at read
  · obtain ⟨used, rfl, same⟩ := codeDigits?_local read
    exact ⟨'\x7b' :: used, rfl, same⟩
  · cases read

/-- Blanks that are left out end before a character, and which character it is tells that they end
there. -/
theorem pastBlanks?_local (read : pastBlanks? text = some rest) :
    ∃ used, text = used ++ rest ∧ rest ≠ [] ∧
      ∀ more, more.head? = rest.head? → pastBlanks? (used ++ more) = some more := by
  induction text using pastBlanks?.induct with
  | case1 text ih =>
    obtain ⟨used, rfl, filled, same⟩ := ih read
    exact ⟨'\r' :: '\n' :: used, rfl, filled, same⟩
  | case2 text ih =>
    obtain ⟨used, rfl, filled, same⟩ := ih read
    exact ⟨' ' :: used, rfl, filled, same⟩
  | case3 text ih =>
    obtain ⟨used, rfl, filled, same⟩ := ih read
    exact ⟨'\t' :: used, rfl, filled, same⟩
  | case4 text ih =>
    obtain ⟨used, rfl, filled, same⟩ := ih read
    exact ⟨'\n' :: used, rfl, filled, same⟩
  | case5 text other =>
    rw [pastBlanks?] at read
    · cases read
    · exact other
  | case6 => cases read
  | case7 text noPair noSpace noTab noLine noReturn filled =>
    rw [pastBlanks?] at read
    · cases read
      refine ⟨[], rfl, filled, fun more same => ?_⟩
      cases rest with
      | nil => exact (filled rfl).elim
      | cons c rest =>
        cases more with
        | nil => cases same
        | cons d more =>
          cases same
          rw [List.nil_append, pastBlanks?]
          · rintro _ ⟨⟩
            exact noReturn _ rfl
          · rintro _ ⟨⟩
            exact noSpace _ rfl
          · rintro _ ⟨⟩
            exact noTab _ rfl
          · rintro _ ⟨⟩
            exact noLine _ rfl
          · rintro _ ⟨⟩
            exact noReturn _ rfl
          · exact List.cons_ne_nil _ _
    all_goals assumption

/-- What a character of a quoted text stands for does not depend on more than the next character. -/
theorem quotedChar?_local (read : quotedChar? alphabet text = some (found, rest)) :
    ∃ used, text = used ++ rest ∧ used ≠ [] ∧
      ∀ more, more.head? = rest.head? → quotedChar? alphabet (used ++ more) = some (found, more) := by
  have plain {text : List Char} (used : List Char) (filled : used ≠ []) (whole : text = used ++ rest)
      (same : ∀ more, quotedChar? alphabet (used ++ more) = some (found, more)) :
      ∃ used, text = used ++ rest ∧ used ≠ [] ∧ ∀ more, more.head? = rest.head? →
        quotedChar? alphabet (used ++ more) = some (found, more) :=
    ⟨used, whole, filled, fun more _ => same more⟩
  unfold quotedChar? at read
  split at read
  case h_3 tail =>
    obtain ⟨⟨code, after⟩, escape, same⟩ := Option.map_eq_some_iff.mp read
    cases same
    obtain ⟨used, rfl, same⟩ := byteEscape?_local escape
    refine plain ('\\' :: 'x' :: used) (List.cons_ne_nil _ _) rfl fun more => ?_
    rw [List.cons_append, List.cons_append, quotedChar?, same]
    rfl
  case h_4 tail =>
    split at read
    · cases read
    · rename_i unicode
      split at read
      · rename_i code after escape
        split at read
        · cases read
        · rename_i allowed
          cases read
          obtain ⟨used, rfl, same⟩ := codeEscape?_local escape
          refine plain ('\\' :: 'u' :: used) (List.cons_ne_nil _ _) rfl fun more => ?_
          rw [List.cons_append, List.cons_append, quotedChar?, if_neg unicode, same]
          exact if_neg allowed
      · cases read
  case h_11 tail =>
    split at read
    · cases read
    · rename_i allowed
      cases read
      exact plain ['\\', '0'] (List.cons_ne_nil _ _) rfl fun more => if_neg allowed
  case h_12 tail =>
    obtain ⟨after, blanks, same⟩ := Option.map_eq_some_iff.mp read
    cases same
    obtain ⟨used, rfl, -, same⟩ := pastBlanks?_local blanks
    refine ⟨'\\' :: '\n' :: used, rfl, List.cons_ne_nil _ _, fun more alike => ?_⟩
    rw [List.cons_append, List.cons_append, quotedChar?, same more alike]
    rfl
  case h_13 tail =>
    obtain ⟨after, blanks, same⟩ := Option.map_eq_some_iff.mp read
    cases same
    obtain ⟨used, rfl, -, same⟩ := pastBlanks?_local blanks
    refine ⟨'\\' :: '\r' :: '\n' :: used, rfl, List.cons_ne_nil _ _, fun more alike => ?_⟩
    rw [List.cons_append, List.cons_append, List.cons_append, quotedChar?, same more alike]
    rfl
  case h_15 c tail _ noReturn _ _ _ _ _ _ _ _ _ _ _ noEscape =>
    obtain ⟨admitted, same⟩ := Option.ite_none_right_eq_some.mp read
    cases same
    refine plain [c] (List.cons_ne_nil _ _) rfl fun more => ?_
    rw [List.singleton_append, quotedChar?_plain alphabet noReturn noEscape, if_pos admitted]
  all_goals
    cases read
    try exact plain [_, _] (List.cons_ne_nil _ _) rfl fun more => rfl

/-! Quoted text. -/

/-- A line that goes on adds nothing to the characters that follow. -/
theorem quoted?_skip {text rest : List Char} (unclosed : text.head? ≠ some '"')
    (read : quotedChar? alphabet text = some (none, rest)) (fuel : Nat) :
    quoted? alphabet (fuel + 1) text = quoted? alphabet fuel rest := by
  rw [quoted?, read]
  rintro more rfl
  exact unclosed rfl

/-- A quoted text is read the same before every text, with fuel for its characters. -/
theorem quoted?_local (read : quoted? alphabet fuel text = some (found, rest)) :
    ∃ used, text = used ++ rest ∧ used ≠ [] ∧ ∀ more enough, used.length ≤ enough →
      quoted? alphabet enough (used ++ more) = some (found, more) := by
  induction fuel generalizing text found with
  | zero => cases read
  | succ fuel ih =>
    rw [quoted?.eq_def] at read
    split at read
    · contradiction
    · cases read
      refine ⟨['"'], rfl, List.cons_ne_nil _ _, fun more enough bound => ?_⟩
      cases enough with
      | zero => cases bound
      | succ enough => rfl
    · rename_i text _ _ _ same unclosed
      cases same
      -- The text is what one character takes, and what the later ones take.
      have step {char : Option Char} {middle cs : List Char}
          (one : quotedChar? alphabet text = some (char, middle))
          (later : quoted? alphabet fuel middle = some (cs, rest)) :
          ∃ used, text = used ++ rest ∧ used ≠ [] ∧ ∀ more enough, used.length ≤ enough →
            ∃ fewer tail, enough = fewer + 1 ∧ (used ++ more).head? ≠ some '"' ∧
              quotedChar? alphabet (used ++ more) = some (char, tail) ∧
              quoted? alphabet fewer tail = some (cs, more) := by
        obtain ⟨first, rfl, filled, alike⟩ := quotedChar?_local one
        obtain ⟨last, rfl, goes, others⟩ := ih later
        obtain ⟨c, first, rfl⟩ := List.exists_cons_of_ne_nil filled
        obtain ⟨d, last, rfl⟩ := List.exists_cons_of_ne_nil goes
        refine ⟨c :: first ++ d :: last, (List.append_assoc _ _ _).symm, List.cons_ne_nil _ _, ?_⟩
        intro more enough bound
        simp only [List.length_append, List.length_cons] at bound
        obtain ⟨fewer, rfl⟩ := Nat.exists_eq_succ_of_ne_zero (n := enough) (by omega)
        rw [List.append_assoc]
        refine ⟨fewer, d :: last ++ more, rfl, ?_, alike _ rfl,
          others more fewer (by simp only [List.length_cons]; omega)⟩
        intro quote
        cases quote
        exact unclosed _ rfl
      split at read
      · rename_i c middle char
        obtain ⟨⟨cs, after⟩, later, same⟩ := Option.map_eq_some_iff.mp read
        cases same
        obtain ⟨used, rfl, filled, goes⟩ := step char later
        refine ⟨used, rfl, filled, fun more enough bound => ?_⟩
        obtain ⟨fewer, tail, rfl, quote, one, others⟩ := goes more enough bound
        rw [quoted?_step quote one, others]
        rfl
      · rename_i middle char
        obtain ⟨used, rfl, filled, goes⟩ := step char read
        refine ⟨used, rfl, filled, fun more enough bound => ?_⟩
        obtain ⟨fewer, tail, rfl, quote, one, others⟩ := goes more enough bound
        rw [quoted?_skip quote one, others]
      · cases read

/-! Raw text. -/

theorem isPrefixOf?_eq_some {first text : List Char} :
    first.isPrefixOf? text = some rest ↔ text = first ++ rest := by
  rw [List.isPrefixOf?_eq_some_iff_append_eq, eq_comm]

/-- Whether a text begins with a delimiter does not depend on what follows as many characters. -/
theorem isPrefixOf?_append {delimiter used : List Char} (long : delimiter.length ≤ used.length)
    (more : List Char) :
    delimiter.isPrefixOf? (used ++ more) = (delimiter.isPrefixOf? used).map (· ++ more) := by
  induction delimiter generalizing used with
  | nil => rfl
  | cons c delimiter ih =>
    cases used with
    | nil => cases long
    | cons d used =>
      simp only [List.cons_append, List.isPrefixOf?]
      split
      · exact ih (Nat.le_of_succ_le_succ long)
      · rfl

theorem rawBody?_end (closes : delimiter.isPrefixOf? text = some rest) :
    rawBody? alphabet delimiter ('"' :: text) = some ([], rest) := by
  rw [rawBody?]
  · simp [closes]
  · exact fun _ same => by cases same
  · exact fun same => by cases same

theorem rawBody?_more (noReturn : c ≠ '\r')
    (goes : (if c == '"' then delimiter.isPrefixOf? text else none) = none) :
    rawBody? alphabet delimiter (c :: text) =
      if alphabet.admits c then
        (rawBody? alphabet delimiter text).map fun (cs, rest) => (c :: cs, rest)
      else none := by
  rw [rawBody?]
  · rw [goes]
  · exact fun _ same => (noReturn same).elim
  · exact noReturn

/-- A raw text is read the same before every text. It is longer than its delimiter. -/
theorem rawBody?_local (read : rawBody? alphabet delimiter text = some (found, rest)) :
    ∃ used, text = used ++ rest ∧ delimiter.length < used.length ∧
      ∀ more, rawBody? alphabet delimiter (used ++ more) = some (found, more) := by
  induction text using rawBody?.induct alphabet delimiter generalizing found with
  | case1 tail ih =>
    rw [rawBody?] at read
    obtain ⟨⟨cs, after⟩, later, same⟩ := Option.map_eq_some_iff.mp read
    cases same
    obtain ⟨used, rfl, long, goes⟩ := ih later
    refine ⟨'\r' :: '\n' :: used, rfl, by simp only [List.length_cons]; omega, fun more => ?_⟩
    rw [List.cons_append, List.cons_append, rawBody?, goes]
    rfl
  | case2 tail unpaired =>
    rw [rawBody?] at read
    · cases read
    · exact unpaired
  | case3 c tail _ noReturn after closes =>
    obtain ⟨quote, ended⟩ := Option.ite_none_right_eq_some.mp closes
    cases beq_iff_eq.mp quote
    cases (rawBody?_end ended).symm.trans read
    obtain rfl := isPrefixOf?_eq_some.mp ended
    refine ⟨'"' :: delimiter, rfl, Nat.lt_succ_self _, fun more => ?_⟩
    exact rawBody?_end (isPrefixOf?_eq_some.mpr rfl)
  | case4 c tail _ noReturn goes admitted ih =>
    rw [rawBody?_more noReturn goes, if_pos admitted] at read
    obtain ⟨⟨cs, after⟩, later, same⟩ := Option.map_eq_some_iff.mp read
    cases same
    obtain ⟨used, rfl, long, others⟩ := ih later
    refine ⟨c :: used, rfl, Nat.lt_succ_of_lt long, fun more => ?_⟩
    have goesOn : (if c == '"' then delimiter.isPrefixOf? (used ++ more) else none) = none := by
      rw [isPrefixOf?_append (Nat.le_of_lt long)] at goes ⊢
      cases opened : delimiter.isPrefixOf? used with
      | none => simp
      | some past =>
        cases quote : c == '"' with
        | true =>
          rw [opened, quote] at goes
          cases goes
        | false => rfl
    rw [List.cons_append, rawBody?_more noReturn goesOn, if_pos admitted, others]
    rfl
  | case5 c tail _ noReturn goes refused =>
    rw [rawBody?_more noReturn goes, if_neg refused] at read
    cases read
  | case6 => cases read

theorem raw?_local (read : raw? alphabet text = some (found, rest)) :
    ∃ used, text = used ++ rest ∧ ∀ more, raw? alphabet (used ++ more) = some (found, more) := by
  simp only [raw?] at read
  split at read
  · rename_i tail opened
    obtain ⟨few, body⟩ := Option.ite_none_right_eq_some.mp read
    obtain ⟨used, rfl, -, goes⟩ := rawBody?_local body
    have whole := List.takeWhile_append_dropWhile (p := (· == '#')) (l := text)
    have marks : ∀ c ∈ text.takeWhile (· == '#'), (c == '#') = true :=
      fun c member => List.all_eq_true.mp List.all_takeWhile c member
    rw [opened] at whole
    generalize text.takeWhile (· == '#') = delimiter at *
    refine ⟨delimiter ++ '"' :: used, ?_, fun more => ?_⟩
    · rw [← whole, List.append_assoc, List.cons_append]
    · have taken : (delimiter ++ '"' :: used ++ more).takeWhile (· == '#') = delimiter := by
        rw [List.append_assoc, List.takeWhile_append_of_pos marks]
        exact List.append_nil _
      have dropped :
          (delimiter ++ '"' :: used ++ more).dropWhile (· == '#') = '"' :: (used ++ more) := by
        rw [List.append_assoc, List.dropWhile_append_of_pos marks]
        rfl
      simp only [raw?, taken, dropped, if_pos few, goes]
  · cases read

/-- A text in quotes is read the same before every text. -/
theorem textual?_local (read : textual? text = some (found, rest)) :
    ∃ used, text = used ++ rest ∧ (∃ c ∈ used.head?, c ∈ ['"', 'r', 'b', 'c']) ∧
      ∀ more, textual? (used ++ more) = some (found, more) := by
  have quoted {alphabet : Alphabet} {tail : List Char}
      (read : quoted? alphabet (tail.length + 1) tail = some (found, rest)) :
      ∃ used, tail = used ++ rest ∧ ∀ more,
        quoted? alphabet ((used ++ more).length + 1) (used ++ more) = some (found, more) := by
    obtain ⟨used, rfl, -, goes⟩ := quoted?_local read
    exact ⟨used, rfl, fun more => goes more _ (by simp only [List.length_append]; omega)⟩
  unfold textual? at read
  split at read
  · obtain ⟨used, rfl, goes⟩ := quoted read
    exact ⟨'"' :: used, rfl, ⟨'"', rfl, by decide⟩, goes⟩
  · obtain ⟨used, rfl, goes⟩ := raw?_local read
    exact ⟨'r' :: used, rfl, ⟨'r', rfl, by decide⟩, goes⟩
  · obtain ⟨used, rfl, goes⟩ := quoted read
    exact ⟨'b' :: '"' :: used, rfl, ⟨'b', rfl, by decide⟩, goes⟩
  · obtain ⟨used, rfl, goes⟩ := raw?_local read
    exact ⟨'b' :: 'r' :: used, rfl, ⟨'b', rfl, by decide⟩, goes⟩
  · obtain ⟨used, rfl, goes⟩ := quoted read
    exact ⟨'c' :: '"' :: used, rfl, ⟨'c', rfl, by decide⟩, goes⟩
  · obtain ⟨used, rfl, goes⟩ := raw?_local read
    exact ⟨'c' :: 'r' :: used, rfl, ⟨'c', rfl, by decide⟩, goes⟩
  · cases read

/-! Characters. -/

/-- What follows an apostrophe at the head of the text. -/
def pastApostrophe? : List Char → Option (List Char)
  | '\'' :: rest => some rest
  | _ => none

theorem pastApostrophe?_eq_some : pastApostrophe? text = some rest ↔ text = '\'' :: rest := by
  constructor
  · intro read
    unfold pastApostrophe? at read
    split at read <;> cases read
    rfl
  · rintro rfl
    rfl

/-- What follows the character behind an apostrophe. -/
def pastCharacter? (alphabet : Alphabet) (text : List Char) : Option (List Char) :=
  match text with
  | '\\' :: '\n' :: _ => none
  | '\\' :: '\r' :: _ => none
  | '\\' :: _ => (quotedChar? alphabet text).map (·.2)
  | c :: rest => if alphabet == .ascii && c.toNat ≥ 128 then none else some rest
  | [] => none

theorem character?_eq (alphabet : Alphabet) (text : List Char) :
    character? alphabet text = (pastCharacter? alphabet text).bind pastApostrophe? := by
  unfold character?
  extract_lets inner
  change _ = inner.bind pastApostrophe?
  clear_value inner
  cases inner with
  | none => rfl
  | some rest =>
    rw [Option.bind_some]
    unfold pastApostrophe?
    split <;> simp_all

theorem pastCharacter?_plain (alphabet : Alphabet) (noEscape : c ≠ '\\') (text : List Char) :
    pastCharacter? alphabet (c :: text) =
      if alphabet == .ascii && c.toNat ≥ 128 then none else some text := by
  rw [pastCharacter?]
  all_goals simp_all

theorem pastCharacter?_escape (alphabet : Alphabet) (noLine : d ≠ '\n') (noReturn : d ≠ '\r')
    (text : List Char) :
    pastCharacter? alphabet ('\\' :: d :: text) =
      (quotedChar? alphabet ('\\' :: d :: text)).map (·.2) := by
  rw [pastCharacter?]
  all_goals simp_all

/-- What a character is followed by tells which character ends it, and no more of it does. -/
theorem pastCharacter?_local (read : pastCharacter? alphabet text = some (d :: rest)) :
    ∃ used, text = used ++ d :: rest ∧
      ∀ more, pastCharacter? alphabet (used ++ d :: more) = some (d :: more) := by
  rcases text with _ | ⟨c, text⟩
  · cases read
  by_cases escape : c = '\\'
  · subst escape
    rcases text with _ | ⟨e, text⟩
    · cases read
    have noLine : e ≠ '\n' := by
      rintro rfl
      cases read
    have noReturn : e ≠ '\r' := by
      rintro rfl
      cases read
    rw [pastCharacter?_escape alphabet noLine noReturn] at read
    obtain ⟨⟨found, tail⟩, char, same⟩ := Option.map_eq_some_iff.mp read
    cases same
    obtain ⟨used, whole, filled, goes⟩ := quotedChar?_local char
    refine ⟨used, whole, fun more => ?_⟩
    have again := goes (d :: more) rfl
    -- The two texts begin with the same two characters.
    obtain ⟨tail, begins⟩ : ∃ tail, used ++ d :: more = '\\' :: e :: tail := by
      rcases used with _ | ⟨_, _ | ⟨_, used⟩⟩
      · exact (filled rfl).elim
      · cases whole
        exact ⟨more, rfl⟩
      · cases whole
        exact ⟨used ++ d :: more, rfl⟩
    rw [begins] at again ⊢
    rw [pastCharacter?_escape alphabet noLine noReturn, again]
    rfl
  · rw [pastCharacter?_plain alphabet escape] at read
    obtain ⟨plain, same⟩ := Option.ite_none_left_eq_some.mp read
    cases same
    refine ⟨[c], rfl, fun more => ?_⟩
    rw [List.singleton_append, pastCharacter?_plain alphabet escape, if_neg plain]

/-- A character between apostrophes is read the same before every text. -/
theorem character?_local (read : character? alphabet text = some rest) :
    ∃ used, text = used ++ rest ∧ ∀ more, character? alphabet (used ++ more) = some more := by
  rw [character?_eq] at read
  obtain ⟨tail, char, closes⟩ := Option.bind_eq_some_iff.mp read
  cases pastApostrophe?_eq_some.mp closes
  obtain ⟨used, rfl, goes⟩ := pastCharacter?_local char
  refine ⟨used ++ ['\''], by simp, fun more => ?_⟩
  rw [character?_eq, List.append_assoc, List.singleton_append, goes]
  rfl

/-! All literals. -/

theorem scan?_eq (text : List Char) : scan? text =
    ((textual? text).map fun found => pastSuffix found.2).or
      (((['b', '\''].isPrefixOf? text).bind fun rest => (character? .ascii rest).map pastSuffix).or
      (((['\''].isPrefixOf? text).bind fun rest => (character? .unicode rest).map pastSuffix).or
      (number? text))) := by
  simp only [scan?, number?, Option.orElse_eq_orElse, Option.orElse_eq_or]

/-- What a literal's suffix is does not depend on what follows, as long as a pause does. -/
theorem pastSuffix_local (ended : pastSuffix text = rest) :
    ∃ used, text = used ++ rest ∧ ∀ after, Pause after → pastSuffix (used ++ after) = after := by
  obtain ⟨used, rfl⟩ : rest <:+ text := ended ▸ pastSuffix_suffix text
  refine ⟨used, rfl, fun after stops => ?_⟩
  rw [pastSuffix_append stops]
  rcases word_of_pastSuffix ended with rfl | word
  · rfl
  · rw [pastSuffix_word word, List.nil_append]

theorem textual?_digit (digit : c.isDigit = true) (text : List Char) :
    textual? (c :: text) = none := by
  unfold textual?
  split
  any_goals
    rename_i same
    cases same
    cases digit
  rfl

/-- A literal is read the same before a pause. -/
theorem scan?_local (read : scan? text = some rest) :
    ∃ used, text = used ++ rest ∧
      (∃ c ∈ used.head?, c ∈ ['"', 'r', 'b', 'c', '\''] ∨ c.isDigit = true) ∧
      ∀ after, Pause after → scan? (used ++ after) = some after := by
  rw [scan?_eq] at read
  rcases Option.or_eq_some_iff.mp read with read | ⟨-, read⟩
  · obtain ⟨⟨found, tail⟩, read, ended⟩ := Option.map_eq_some_iff.mp read
    obtain ⟨used, rfl, ⟨c, begins, member⟩, goes⟩ := textual?_local read
    obtain ⟨suffix, rfl, ends⟩ := pastSuffix_local ended
    refine ⟨used ++ suffix, (List.append_assoc _ _ _).symm, ⟨c, ?_, .inl ?_⟩, ?_⟩
    · simp [Option.mem_def.mp begins]
    · exact List.mem_append_left ['\''] member
    · intro after stops
      rw [scan?_eq, List.append_assoc, goes, Option.map_some, ends after stops, Option.some_or]
  rcases Option.or_eq_some_iff.mp read with read | ⟨-, read⟩
  · obtain ⟨tail, opened, read⟩ := Option.bind_eq_some_iff.mp read
    obtain rfl := isPrefixOf?_eq_some.mp opened
    obtain ⟨tail, read, ended⟩ := Option.map_eq_some_iff.mp read
    obtain ⟨used, rfl, goes⟩ := character?_local read
    obtain ⟨suffix, rfl, ends⟩ := pastSuffix_local ended
    refine ⟨'b' :: '\'' :: used ++ suffix, by simp, ⟨'b', rfl, .inl (by decide)⟩, ?_⟩
    intro after stops
    have again := goes (suffix ++ after)
    rw [scan?_eq, List.append_assoc]
    change ((character? .ascii (used ++ (suffix ++ after))).map pastSuffix).or _ = _
    rw [again, Option.map_some, ends after stops, Option.some_or]
  rcases Option.or_eq_some_iff.mp read with read | ⟨-, read⟩
  · obtain ⟨tail, opened, read⟩ := Option.bind_eq_some_iff.mp read
    obtain rfl := isPrefixOf?_eq_some.mp opened
    obtain ⟨tail, read, ended⟩ := Option.map_eq_some_iff.mp read
    obtain ⟨used, rfl, goes⟩ := character?_local read
    obtain ⟨suffix, rfl, ends⟩ := pastSuffix_local ended
    refine ⟨'\'' :: used ++ suffix, by simp, ⟨'\'', rfl, .inl (by decide)⟩, ?_⟩
    intro after stops
    have again := goes (suffix ++ after)
    rw [scan?_eq, List.append_assoc]
    change ((character? .unicode (used ++ (suffix ++ after))).map pastSuffix).or _ = _
    rw [again, Option.map_some, ends after stops, Option.some_or]
  · obtain ⟨c, more, rfl, digit⟩ := number?_shape read
    refine ⟨c :: more, rfl, ⟨c, rfl, .inr digit⟩, fun after stops => ?_⟩
    have plain : c ≠ 'b' ∧ c ≠ '\'' := by
      constructor
      all_goals
        rintro rfl
        cases digit
    rw [scan?_eq, number?_local read stops, List.cons_append, textual?_digit digit]
    simp [List.isPrefixOf?, plain.1.symm, plain.2.symm]

end ValueObjects.Literal
