import Mathlib.Data.Bool.AllAny
import Mathlib.Data.List.TakeWhile
import ValueObjects.Token.Literal

namespace ValueObjects.Literal

open Text

/-- The characters that may follow a token in written text. -/
def breaks : List Char := [' ', '\n', ')', ']', '\x7d']

/-- What may follow a token in written text: nothing, a gap or a closing bracket. -/
inductive Break : List Char → Prop where
  | ended : Break []
  | before (isBreak : c ∈ breaks) : Break (c :: rest)

/-- The characters that may follow a word or a literal: those that may follow any token, opening
brackets and operators that go on neither. -/
def pauses : List Char :=
  breaks ++ ['(', '[', ',', ';', ':', '<', '>', '&', '*', '!']

/-- What may follow a word or a literal. -/
inductive Pause : List Char → Prop where
  | ended : Pause []
  | before (isPause : c ∈ pauses) : Pause (c :: rest)

theorem Break.pause (stops : Break after) : Pause after := by
  cases stops with
  | ended => exact .ended
  | before isBreak => exact .before (List.mem_append_left _ isBreak)

/-- A pause goes on neither a word nor a number. -/
theorem pauses_apart : ∀ c ∈ pauses, isIdentStart c = false ∧ isIdentContinue c = false ∧
    c.isDigit = false ∧ isHexDigit c = false ∧
    (c ≠ '.' ∧ c ≠ '_' ∧ c ≠ '+' ∧ c ≠ '-' ∧ c ≠ 'e' ∧ c ≠ 'E') :=
  List.all_iff_forall_prop.mp (by decide)

theorem Pause.head (stops : Pause after) (test : Char → Bool) (fails : ∀ c ∈ pauses, test c = false) :
    after.head?.any test = false := by
  cases stops with
  | ended => rfl
  | before isPause => exact fails _ isPause

/-! The scanners of numbers, one character at a time. -/

/-- Whether a point before the text is not one of a number. -/
def pastPoint (text : List Char) : Bool :=
  text.head?.any fun c => c == '.' || isIdentStart c

theorem mantissa?_pointed : mantissa? true ('.' :: rest) = some (true, '.' :: rest) := by
  unfold mantissa?
  rfl

theorem mantissa?_point :
    mantissa? false ('.' :: rest) = if pastPoint rest then none else mantissa? true rest := by
  cases rest with
  | nil => simp [mantissa?, pastPoint]
  | cons c rest =>
    rw [mantissa?]
    rfl

theorem mantissa?_other (noPoint : c ≠ '.') : mantissa? point (c :: rest) =
    if c.isDigit || c == '_' then mantissa? point rest else some (point, c :: rest) := by
  rw [mantissa?]
  exact noPoint

/-- Whether a mantissa goes on into an exponent. -/
def atExponent (text : List Char) : Bool :=
  text.head?.any fun c => c == 'e' || c == 'E'

/-- What follows a mantissa and its exponent; there is a point in the one or there is the other. -/
def pastMantissa (point : Bool) (text : List Char) : Option (List Char) :=
  let plain := if point then some text else none
  if atExponent text then (exponent? false false text.tail).or plain else plain

theorem float?_cons (first : Char) (text : List Char) :
    float? (first :: text) = if first.isDigit then
      (mantissa? false text).bind fun found => pastMantissa found.1 found.2
    else none := by
  rw [float?]
  cases first.isDigit with
  | false => rfl
  | true =>
    cases mantissa? false text with
    | none => rfl
    | some found =>
      obtain ⟨point, rest⟩ := found
      cases rest with
      | nil => rfl
      | cons e rest =>
        simp only [Bool.not_true, Bool.false_eq_true, if_false, if_true, Option.bind_some,
          pastMantissa, atExponent, List.head?_cons, Option.any_some, List.tail_cons]
        split
        · cases exponent? false false rest <;> rfl
        · rfl

/-- Whether a number is not in another base than ten, as far as its first letters tell. -/
def IsDecimal (text : List Char) : Prop :=
  ∀ d rest, text = '0' :: d :: rest → d ∉ ['x', 'o', 'b']

theorem whole?_decimal (decimal : IsDecimal text) : whole? text = digits? 10 true text := by
  unfold whole?
  split
  any_goals exact absurd (decimal _ _ rfl) (by decide)
  rfl

theorem exists_base (other : ¬IsDecimal text) :
    ∃ d rest, text = '0' :: d :: rest ∧ d ∈ ['x', 'o', 'b'] := by
  simpa only [IsDecimal, Classical.not_forall, Classical.not_not, exists_prop] using other

/-! Numbers before a pause. -/

section Pause

variable {after : List Char} (stops : Pause after)

include stops

theorem pastPoint_append : pastPoint (text ++ after) = pastPoint text := by
  cases text with
  | nil =>
    apply stops.head
    intro c isPause
    obtain ⟨noStart, _, _, _, apart⟩ := pauses_apart c isPause
    simp [noStart, apart]
  | cons c text => rfl

theorem mantissa?_append (point : Bool) (text : List Char) :
    mantissa? point (text ++ after) =
      (mantissa? point text).map fun found => (found.1, found.2 ++ after) := by
  induction text generalizing point with
  | nil =>
    cases stops with
    | ended => rfl
    | before isPause =>
      obtain ⟨_, _, noDigit, _, apart⟩ := pauses_apart _ isPause
      rw [List.nil_append, mantissa?_other apart.1]
      simp [noDigit, apart, mantissa?]
  | cons c text ih =>
    rw [List.cons_append]
    by_cases dot : c = '.'
    · subst dot
      cases point with
      | true => rw [mantissa?_pointed, mantissa?_pointed]; rfl
      | false =>
        rw [mantissa?_point, mantissa?_point, pastPoint_append stops, ih]
        split <;> rfl
    · rw [mantissa?_other dot, mantissa?_other dot, ih]
      split <;> rfl

theorem exponent?_append (signed digits : Bool) (text : List Char) :
    exponent? signed digits (text ++ after) = (exponent? signed digits text).map (· ++ after) := by
  induction text generalizing signed digits with
  | nil =>
    cases stops with
    | ended => simp
    | before isPause =>
      obtain ⟨_, _, noDigit, _, apart⟩ := pauses_apart _ isPause
      cases digits <;> simp [exponent?, noDigit, apart]
  | cons c text ih =>
    rw [List.cons_append, exponent?, exponent?, ih, ih, ih]
    repeat' split
    all_goals rfl

theorem pastMantissa_append (point : Bool) (text : List Char) :
    pastMantissa point (text ++ after) = (pastMantissa point text).map (· ++ after) := by
  cases text with
  | nil =>
    have noLetter : atExponent after = false := by
      apply stops.head
      intro c isPause
      simp [(pauses_apart c isPause).2.2.2.2]
    rw [List.nil_append, pastMantissa, noLetter]
    cases point <;> rfl
  | cons c text =>
    simp only [pastMantissa, List.cons_append, List.tail_cons, exponent?_append stops]
    cases exponent? false false text <;> cases point <;> split <;> rename_i letter <;>
      simp_all [atExponent]

theorem float?_append (text : List Char) :
    float? (text ++ after) = (float? text).map (· ++ after) := by
  cases text with
  | nil =>
    cases stops with
    | ended => rfl
    | before isPause => simp [float?, (pauses_apart _ isPause).2.2.1]
  | cons first text =>
    rw [List.cons_append, float?_cons, float?_cons, mantissa?_append stops]
    split
    · cases mantissa? false text with
      | none => rfl
      | some found => exact pastMantissa_append stops found.1 found.2
    · rfl

theorem dropWhile_append (text : List Char) :
    (text ++ after).dropWhile isIdentContinue = text.dropWhile isIdentContinue ++ after := by
  rw [List.dropWhile_append]
  split
  · rename_i empty
    rw [List.isEmpty_iff.mp empty, List.nil_append]
    cases stops with
    | ended => rfl
    | before isPause => rw [List.dropWhile_cons, (pauses_apart _ isPause).2.1]; rfl
  · rfl

theorem pastSuffix_append (text : List Char) :
    pastSuffix (text ++ after) = pastSuffix text ++ after := by
  cases text with
  | nil =>
    cases stops with
    | ended => rfl
    | before isPause => simp [pastSuffix, word?, (pauses_apart _ isPause).1]
  | cons c text =>
    simp only [List.cons_append, pastSuffix, word?, dropWhile_append stops]
    split <;> rfl

theorem closed?_append (text : List Char) :
    closed? (text ++ after) = (closed? text).map (· ++ after) := by
  simp only [closed?, pastSuffix_append stops]
  cases pastSuffix text with
  | nil =>
    cases stops with
    | ended => rfl
    | before isPause => simp [(pauses_apart _ isPause).2.1]
  | cons c rest =>
    simp only [List.cons_append]
    split <;> rfl

end Pause

/-! Whole numbers before a text that goes on no word. -/

/-- A text that goes on no word. -/
inductive Quiet : List Char → Prop where
  | ended : Quiet []
  | before (apart : isIdentContinue c = false) : Quiet (c :: rest)

theorem Pause.quiet (stops : Pause text) : Quiet text := by
  cases stops with
  | ended => exact .ended
  | before isPause => exact .before (pauses_apart _ isPause).2.1

theorem ascii_of_isHexDigit (digit : isHexDigit c = true) : c.toNat < 128 := by
  revert digit
  simp only [isHexDigit, hexDigit?, Char.isDigit, Bool.and_eq_true, decide_eq_true_eq,
    UInt32.le_iff_toNat_le, Char.le_def, ge_iff_le]
  intro digit
  change c.val.toNat < 128
  repeat' split at digit
  · exact Nat.lt_of_le_of_lt (by assumption : _ ∧ _).2 (by decide)
  · exact Nat.lt_of_le_of_lt (by assumption : _ ∧ _).2 (by decide)
  · exact Nat.lt_of_le_of_lt (by assumption : _ ∧ _).2 (by decide)
  · cases digit

private theorem digits_ascii : ∀ code < 128,
    (isHexDigit (Char.ofNat code) = true → isIdentContinue (Char.ofNat code) = true) ∧
    ((Char.ofNat code).isDigit = true → isIdentStart (Char.ofNat code) = false) := by
  decide

theorem isIdentContinue_of_isHexDigit (digit : isHexDigit c = true) : isIdentContinue c = true := by
  have ascii := ascii_of_isHexDigit digit
  rw [← Char.ofNat_toNat c] at digit ⊢
  exact (digits_ascii _ ascii).1 digit

theorem isHexDigit_of_isDigit (digit : c.isDigit = true) : isHexDigit c = true := by
  simp [isHexDigit, hexDigit?, digit]

theorem isIdentStart_of_isDigit (digit : c.isDigit = true) : isIdentStart c = false := by
  have ascii := ascii_of_isHexDigit (isHexDigit_of_isDigit digit)
  rw [← Char.ofNat_toNat c] at digit ⊢
  exact (digits_ascii _ ascii).2 digit

section Quiet

variable {after : List Char} (quiet : Quiet after)

include quiet

theorem digits?_append (base : Nat) (empty : Bool) (text : List Char) :
    digits? base empty (text ++ after) = (digits? base empty text).map (· ++ after) := by
  induction text generalizing empty with
  | nil =>
    cases quiet with
    | ended => simp
    | @before c rest apart =>
      have noHex : isHexDigit c = false := by
        rw [← Bool.not_eq_true]
        intro digit
        cases apart.symm.trans (isIdentContinue_of_isHexDigit digit)
      have noDigit : c.isDigit = false := by
        rw [← Bool.not_eq_true]
        intro digit
        cases noHex.symm.trans (isHexDigit_of_isDigit digit)
      have other : c ≠ '_' := by
        rintro rfl
        cases apart
      cases empty <;> simp [digits?, noDigit, noHex, other]
  | cons c text ih =>
    rw [List.cons_append, digits?, digits?, ih, ih]
    repeat' split
    all_goals rfl

theorem isDecimal_append (decimal : IsDecimal text) : IsDecimal (text ++ after) := by
  rintro d rest same member
  rcases text with _ | ⟨c, _ | ⟨e, text⟩⟩
  · cases quiet with
    | ended => cases same
    | before apart =>
      cases same
      cases apart
  · cases quiet with
    | ended => cases same
    | before apart =>
      cases same
      have word : ∀ d ∈ ['x', 'o', 'b'], isIdentContinue d = true :=
        List.all_iff_forall_prop.mp (by decide)
      cases apart.symm.trans (word d member)
  · cases same
    exact decimal d text rfl member

theorem whole?_append (text : List Char) :
    whole? (text ++ after) = (whole? text).map (· ++ after) := by
  by_cases decimal : IsDecimal text
  · rw [whole?_decimal decimal, whole?_decimal (isDecimal_append quiet decimal),
      digits?_append quiet]
  · obtain ⟨base, rest, rfl, member⟩ := exists_base decimal
    simp only [List.mem_cons, List.not_mem_nil, or_false] at member
    rcases member with rfl | rfl | rfl
    all_goals exact digits?_append quiet _ true rest

end Quiet

/-! Numbers before any text. -/

theorem mantissa?_suffix (read : mantissa? point text = some (pointed, rest)) : rest <:+ text := by
  induction text generalizing point with
  | nil =>
    cases read
    exact List.suffix_refl _
  | cons c text ih =>
    have later {point : Bool} (read : mantissa? point text = some (pointed, rest)) :
        rest <:+ c :: text := (ih read).trans (List.suffix_cons _ _)
    by_cases dot : c = '.'
    · subst dot
      cases point with
      | true =>
        rw [mantissa?_pointed] at read
        cases read
        exact List.suffix_refl _
      | false =>
        rw [mantissa?_point] at read
        split at read
        · cases read
        · exact later read
    · rw [mantissa?_other dot] at read
      split at read
      · exact later read
      · cases read
        exact List.suffix_refl _

/-- A text that a mantissa stops at the head of holds no point of it. -/
theorem mantissa?_stopped (read : mantissa? point text = some (pointed, text)) : pointed = point := by
  cases text with
  | nil =>
    cases read
    rfl
  | cons c text =>
    have shorter {point : Bool} : mantissa? point text ≠ some (pointed, c :: text) := fun read =>
      Nat.not_succ_le_self _ (mantissa?_suffix read).length_le
    by_cases dot : c = '.'
    · subst dot
      cases point with
      | true =>
        rw [mantissa?_pointed] at read
        cases read
        rfl
      | false =>
        rw [mantissa?_point] at read
        split at read
        · cases read
        · exact (shorter read).elim
    · rw [mantissa?_other dot] at read
      split at read
      · exact (shorter read).elim
      · cases read
        rfl

/-- A suffix that begins before the text is all of it. -/
theorem eq_nil_of_suffix {first text : List Char} (suffix : first ++ text <:+ text) : first = [] := by
  have bound := suffix.length_le
  rw [List.length_append] at bound
  exact List.eq_nil_of_length_eq_zero (by omega)

/-- What follows the part of a text that a mantissa ends in does not matter. -/
theorem mantissa?_of_append
    (read : mantissa? point (text ++ after) = some (pointed, rest ++ after)) :
    mantissa? point text = some (pointed, rest) := by
  induction text generalizing point with
  | nil =>
    cases eq_nil_of_suffix (mantissa?_suffix read)
    cases mantissa?_stopped read
    rfl
  | cons c text ih =>
    rw [List.cons_append] at read
    by_cases dot : c = '.'
    · subst dot
      cases point with
      | true =>
        rw [mantissa?_pointed, Option.some.injEq, Prod.mk.injEq, ← List.cons_append,
          List.append_cancel_right_eq] at read
        rw [mantissa?_pointed, read.1, read.2]
      | false =>
        rw [mantissa?_point] at read
        split at read
        · cases read
        · rename_i goes
          rw [mantissa?_point, ih read, if_neg]
          intro past
          apply goes
          cases text with
          | nil => cases past
          | cons d text => exact past
    · rw [mantissa?_other dot] at read
      rw [mantissa?_other dot]
      split at read
      · rename_i digit
        rw [if_pos digit, ih read]
      · rename_i digit
        rw [Option.some.injEq, Prod.mk.injEq, ← List.cons_append,
          List.append_cancel_right_eq] at read
        rw [if_neg digit, read.1, read.2]

/-- What a character does to an exponent does not depend on what follows: nothing reads on from it,
the exponent ends before it, or the exponent goes on behind it. -/
theorem exponent?_cons (signed digits : Bool) (c : Char) :
    (∀ text, exponent? signed digits (c :: text) = none) ∨
    (digits = true ∧ ∀ text, exponent? signed digits (c :: text) = some (c :: text)) ∨
    ∃ sign given, (digits = true → given = true) ∧
      ∀ text, exponent? signed digits (c :: text) = exponent? sign given text := by
  by_cases sign : (c == '+' || c == '-') = true
  · cases digits with
    | true => exact .inr (.inl ⟨rfl, fun text => by rw [exponent?, if_pos sign, if_pos rfl]⟩)
    | false =>
      cases signed with
      | true => exact .inl fun text => by rw [exponent?, if_pos sign]; rfl
      | false =>
        exact .inr (.inr ⟨true, false, id, fun text => by rw [exponent?, if_pos sign]; rfl⟩)
  · by_cases digit : c.isDigit = true
    · exact .inr (.inr ⟨signed, true, fun _ => rfl, fun text => by
        rw [exponent?, if_neg sign, if_pos digit]⟩)
    · by_cases blank : (c == '_') = true
      · exact .inr (.inr ⟨signed, digits, id, fun text => by
          rw [exponent?, if_neg sign, if_neg digit, if_pos blank]⟩)
      · cases digits with
        | true => exact .inr (.inl ⟨rfl, fun text => by
            rw [exponent?, if_neg sign, if_neg digit, if_neg blank]
            rfl⟩)
        | false =>
          refine .inl fun text => ?_
          rw [exponent?, if_neg sign, if_neg digit, if_neg blank]
          rfl

theorem exponent?_suffix (read : exponent? signed digits text = some rest) : rest <:+ text := by
  induction text generalizing signed digits with
  | nil =>
    rw [exponent?] at read
    split at read <;> cases read
    exact List.suffix_refl _
  | cons c text ih =>
    rcases exponent?_cons signed digits c with fails | ⟨_, stops⟩ | ⟨_, _, _, goes⟩
    · cases (fails text).symm.trans read
    · cases (stops text).symm.trans read
      exact List.suffix_refl _
    · exact (ih ((goes text).symm.trans read)).trans (List.suffix_cons _ _)

/-- An exponent that stops at the head of a text has its digits. -/
theorem exponent?_stopped (read : exponent? signed digits text = some text) : digits = true := by
  cases text with
  | nil =>
    rw [exponent?] at read
    split at read
    · assumption
    · cases read
  | cons c text =>
    rcases exponent?_cons signed digits c with fails | ⟨given, _⟩ | ⟨_, _, _, goes⟩
    · cases (fails text).symm.trans read
    · exact given
    · have bound := (exponent?_suffix ((goes text).symm.trans read)).length_le
      exact (Nat.not_succ_le_self _ bound).elim

/-- What follows the part of a text that an exponent ends in does not matter. -/
theorem exponent?_of_append (read : exponent? signed digits (text ++ after) = some (rest ++ after)) :
    exponent? signed digits text = some rest := by
  induction text generalizing signed digits with
  | nil =>
    cases eq_nil_of_suffix (exponent?_suffix read)
    cases exponent?_stopped read
    rfl
  | cons c text ih =>
    rw [List.cons_append] at read
    rcases exponent?_cons signed digits c with fails | ⟨_, stops⟩ | ⟨_, _, _, goes⟩
    · cases (fails _).symm.trans read
    · have same := Option.some.inj ((stops _).symm.trans read)
      rw [← List.cons_append, List.append_cancel_right_eq] at same
      rw [stops, same]
    · rw [goes]
      exact ih ((goes _).symm.trans read)

/-- An exponent that a text holds is found before any text. -/
theorem exponent?_extend (read : exponent? signed digits text = some rest) (after : List Char) :
    ∃ found, exponent? signed digits (text ++ after) = some found := by
  have given (after : List Char) : ∀ signed, ∃ found, exponent? signed true after = some found := by
    induction after with
    | nil => exact fun _ => ⟨[], rfl⟩
    | cons c after ih =>
      intro signed
      rw [exponent?]
      repeat' split
      all_goals first | exact ⟨_, rfl⟩ | exact ih _ | contradiction
  induction text generalizing signed digits with
  | nil =>
    cases exponent?_suffix read |>.eq_of_length_le (by simp)
    cases exponent?_stopped read
    exact given after signed
  | cons c text ih =>
    rw [List.cons_append]
    rcases exponent?_cons signed digits c with fails | ⟨_, stops⟩ | ⟨_, _, _, goes⟩
    · cases (fails _).symm.trans read
    · exact ⟨_, stops _⟩
    · rw [goes]
      exact ih ((goes _).symm.trans read)

theorem pastMantissa_suffix (read : pastMantissa point text = some rest) : rest <:+ text := by
  have plain (read : (if point then some text else none) = some rest) : rest <:+ text := by
    split at read <;> cases read
    exact List.suffix_refl _
  rw [pastMantissa] at read
  split at read
  · rcases Option.or_eq_some_iff.mp read with read | ⟨_, read⟩
    · exact (exponent?_suffix read).trans (List.tail_suffix text)
    · exact plain read
  · exact plain read

/-- Nothing is read past a mantissa only if there is a point in it. -/
theorem pastMantissa_stopped (read : pastMantissa point text = some text) : point = true := by
  have plain (read : (if point then some text else none) = some text) : point = true := by
    split at read
    · assumption
    · cases read
  rw [pastMantissa] at read
  split at read
  · rename_i letter
    rcases Option.or_eq_some_iff.mp read with read | ⟨_, read⟩
    · cases text with
      | nil => cases letter
      | cons e text => exact (Nat.not_succ_le_self _ (exponent?_suffix read).length_le).elim
    · exact plain read
  · exact plain read

theorem pastMantissa_of_append (read : pastMantissa point (text ++ after) = some (rest ++ after)) :
    pastMantissa point text = some rest := by
  cases text with
  | nil =>
    cases eq_nil_of_suffix (pastMantissa_suffix read)
    rw [pastMantissa_stopped read]
    rfl
  | cons c text =>
    have plain (read : (if point then some (c :: text ++ after) else none) = some (rest ++ after)) :
        (if point then some (c :: text) else none) = some rest := by
      split at read
      · rename_i given
        rw [if_pos given, List.append_cancel_right (Option.some.inj read)]
      · cases read
    rw [pastMantissa] at read ⊢
    split at read
    · rename_i letter
      rw [if_pos (by exact letter)]
      rcases Option.or_eq_some_iff.mp read with read | ⟨unread, read⟩
      · rw [List.tail_cons, exponent?_of_append read, Option.some_or]
      · have none : exponent? false false text = none := by
          rw [Option.eq_none_iff_forall_ne_some]
          intro rest found
          obtain ⟨_, extended⟩ := exponent?_extend found after
          cases unread.symm.trans extended
        rw [List.tail_cons, none, Option.none_or]
        exact plain read
    · rename_i letter
      rw [if_neg (by exact letter)]
      exact plain read

theorem float?_suffix (read : float? (first :: text) = some rest) : rest <:+ text := by
  rw [float?_cons] at read
  split at read
  · obtain ⟨⟨point, middle⟩, mantissa, read⟩ := Option.bind_eq_some_iff.mp read
    exact (pastMantissa_suffix read).trans (mantissa?_suffix mantissa)
  · cases read

theorem float?_of_append (read : float? (text ++ after) = some (rest ++ after)) :
    float? text = some rest := by
  cases text with
  | nil =>
    cases after with
    | nil => cases read
    | cons first after =>
      have bound := (float?_suffix read).length_le
      simp only [List.length_append, List.length_cons] at bound
      omega
  | cons first text =>
    rw [List.cons_append, float?_cons] at read
    rw [float?_cons]
    split at read
    · rename_i digit
      obtain ⟨⟨point, middle⟩, mantissa, read⟩ := Option.bind_eq_some_iff.mp read
      obtain ⟨used, rfl⟩ := pastMantissa_suffix read
      rw [← List.append_assoc] at mantissa read
      rw [if_pos digit, mantissa?_of_append mantissa]
      exact pastMantissa_of_append read
    · cases read

/-! Numbers with their suffixes. -/

/-- Whether a text is a word. -/
def IsWord (text : List Char) : Prop :=
  ∃ c rest, text = c :: rest ∧ isIdentStart c = true ∧ ∀ d ∈ rest, isIdentContinue d = true

theorem continue_of_dropWhile {text after : List Char}
    (ended : (text ++ after).dropWhile isIdentContinue = after) :
    ∀ c ∈ text, isIdentContinue c = true := by
  have whole := List.takeWhile_append_dropWhile (p := isIdentContinue) (l := text ++ after)
  rw [ended, List.append_cancel_right_eq] at whole
  intro c member
  rw [← whole] at member
  exact List.all_eq_true.mp List.all_takeWhile c member

/-- What ends before a text with its suffix is no suffix or a word. -/
theorem word_of_pastSuffix (ended : pastSuffix (text ++ after) = after) :
    text = [] ∨ IsWord text := by
  cases text with
  | nil => exact .inl rfl
  | cons c text =>
    simp only [List.cons_append, pastSuffix, word?] at ended
    split at ended
    · exact .inr ⟨c, text, rfl, by assumption, continue_of_dropWhile ended⟩
    · rw [Option.getD_none, ← List.cons_append] at ended
      cases List.append_left_eq_self.mp ended

theorem pastSuffix_word (word : IsWord text) : pastSuffix text = [] := by
  obtain ⟨c, rest, rfl, start, later⟩ := word
  simpa [pastSuffix, word?, start, List.dropWhile_eq_nil_iff] using later

theorem closed?_eq_some : closed? text = some rest ↔ pastSuffix text = rest ∧ Quiet rest := by
  have step : closed? text =
      if (pastSuffix text).head?.any isIdentContinue then none else some (pastSuffix text) := by
    simp only [closed?]
    cases pastSuffix text <;> rfl
  have quiet : ¬rest.head?.any isIdentContinue = true ↔ Quiet rest := by
    cases rest with
    | nil => simpa using Quiet.ended
    | cons c rest =>
      simp only [List.head?_cons, Option.any_some, Bool.not_eq_true]
      refine ⟨.before, fun quiet => ?_⟩
      cases quiet
      assumption
  rw [step, ← quiet]
  constructor
  · intro read
    split at read <;> cases read
    exact ⟨rfl, by assumption⟩
  · rintro ⟨rfl, apart⟩
    exact if_neg apart

theorem closed?_of_append (read : closed? (text ++ after) = some after) : closed? text = some [] := by
  have suffix := word_of_pastSuffix (closed?_eq_some.mp read).1
  refine closed?_eq_some.mpr ⟨?_, .ended⟩
  rcases suffix with rfl | word
  · rfl
  · exact pastSuffix_word word

/-- The number at the head of the text, with its suffix. -/
def number? (text : List Char) : Option (List Char) :=
  ((float? text).bind closed?).or ((whole? text).bind closed?)

theorem number?_append (stops : Pause after) (text : List Char) :
    number? (text ++ after) = (number? text).map (· ++ after) := by
  have closed (found : Option (List Char)) :
      (found.map (· ++ after)).bind closed? = (found.bind closed?).map (· ++ after) := by
    cases found with
    | none => rfl
    | some rest => exact closed?_append stops rest
  rw [number?, float?_append stops, whole?_append stops.quiet, closed, closed, number?]
  cases (float? text).bind closed? <;> rfl

/-- A digit in another base than ten that is no digit is a letter of at least ten. -/
theorem hexValue_of_letter (digit : isHexDigit c = true) (letter : c.isDigit = false) :
    10 ≤ hexValue c := by
  simp only [isHexDigit, hexValue, hexDigit?, letter, Bool.false_eq_true, if_false] at digit ⊢
  repeat' split at digit
  · simp [*]
  · simp [*]
  · cases digit

/-- The digits of a whole number are those of a mantissa. -/
theorem mantissa?_of_digits? (read : digits? 10 empty text = some rest)
    (noPoint : rest.head? ≠ some '.') : mantissa? false text = some (false, rest) := by
  induction text generalizing empty with
  | nil =>
    rw [digits?] at read
    split at read <;> cases read
    rfl
  | cons c text ih =>
    have stop (noDigit : c.isDigit = false) (other : c ≠ '_') (read : some (c :: text) = some rest) :
        mantissa? false (c :: text) = some (false, rest) := by
      cases read
      have dot : c ≠ '.' := by
        rintro rfl
        exact noPoint rfl
      rw [mantissa?_other dot]
      simp [noDigit, other]
    have goes (digit : (c.isDigit || c == '_') = true) {empty : Bool}
        (read : digits? 10 empty text = some rest) :
        mantissa? false (c :: text) = some (false, rest) := by
      have dot : c ≠ '.' := by
        rintro rfl
        cases digit
      rw [mantissa?_other dot, if_pos digit, ih read]
    rw [digits?] at read
    cases digit : c.isDigit with
    | true =>
      rw [digit, if_pos rfl] at read
      split at read
      · cases read
      · exact goes (by simp [digit]) read
    | false =>
      rw [digit, if_neg Bool.false_ne_true] at read
      cases letter : isHexDigit c with
      | true =>
        have other : c ≠ '_' := by
          rintro rfl
          cases letter
        rw [letter, if_pos rfl, if_pos (hexValue_of_letter letter digit)] at read
        split at read
        · cases read
        · exact stop digit other read
      | false =>
        rw [letter, if_neg Bool.false_ne_true] at read
        by_cases blank : c = '_'
        · rw [if_pos (beq_iff_eq.mpr blank)] at read
          split at read
          · cases read
          · exact goes (by simp [blank]) read
        · rw [if_neg (by simpa using blank)] at read
          split at read
          · cases read
          · exact stop digit blank read

theorem pastSuffix_suffix (text : List Char) : pastSuffix text <:+ text := by
  cases text with
  | nil => exact List.suffix_refl _
  | cons c text =>
    simp only [pastSuffix, word?]
    split
    · exact (List.dropWhile_suffix _).trans (List.suffix_cons _ _)
    · exact List.suffix_refl _

/-- Of what goes on a word nothing can follow a number. -/
theorem closed?_of_continue (continues : ∀ c ∈ text, isIdentContinue c = true)
    (read : closed? text = some rest) : rest = [] := by
  obtain ⟨rfl, quiet⟩ := closed?_eq_some.mp read
  cases left : pastSuffix text with
  | nil => rfl
  | cons c more =>
    rw [left] at quiet
    cases quiet with
    | before apart =>
      have member : c ∈ text := (pastSuffix_suffix text).subset (left ▸ List.mem_cons_self)
      cases apart.symm.trans (continues c member)

/-- A whole number that takes a text to its end leaves nothing for a number with a point or an
exponent to end before. -/
theorem closed_float?_of_whole (whole : whole? text = some rest) (ended : closed? rest = some [])
    (float : float? text = some middle) (closed : closed? middle = some found) : found = [] := by
  cases text with
  | nil => cases float
  | cons first text =>
    rw [float?_cons] at float
    split at float
    · rename_i digit
      by_cases decimal : IsDecimal (first :: text)
      · rw [whole?_decimal decimal, digits?, if_pos digit] at whole
        split at whole
        · cases whole
        · have past : pastSuffix (rest ++ []) = [] := by
            rw [List.append_nil]
            exact (closed?_eq_some.mp ended).1
          have suffix : rest = [] ∨ IsWord rest := word_of_pastSuffix past
          rcases suffix with rfl | ⟨c, later, rfl, start, continues⟩
          · rw [mantissa?_of_digits? whole (by simp)] at float
            cases float
          · have noPoint : (c :: later).head? ≠ some '.' := by
              intro same
              cases same
              cases start
            rw [mantissa?_of_digits? whole noPoint] at float
            change pastMantissa false (c :: later) = some middle at float
            rw [pastMantissa] at float
            split at float
            · rw [if_neg Bool.false_ne_true, Option.or_none] at float
              have suffix := exponent?_suffix float
              exact closed?_of_continue (fun d member => continues d (suffix.subset member)) closed
            · cases float
      · obtain ⟨d, more, same, member⟩ := exists_base decimal
        cases same
        simp only [List.mem_cons, List.not_mem_nil, or_false] at member
        rcases member with rfl | rfl | rfl
        all_goals
          rw [mantissa?_other (by decide)] at float
          cases float
    · cases float

theorem number?_of_append (read : number? (text ++ after) = some after) : number? text = some [] := by
  rcases Option.or_eq_some_iff.mp read with read | ⟨_, read⟩
  · obtain ⟨middle, float, closed⟩ := Option.bind_eq_some_iff.mp read
    obtain ⟨used, rfl⟩ : after <:+ middle :=
      (closed?_eq_some.mp closed).1 ▸ pastSuffix_suffix middle
    rw [number?, float?_of_append float, Option.bind_some, closed?_of_append closed, Option.some_or]
  · obtain ⟨middle, whole, closed⟩ := Option.bind_eq_some_iff.mp read
    have quiet := (closed?_eq_some.mp closed).2
    rw [whole?_append quiet] at whole
    obtain ⟨rest, digits, rfl⟩ := Option.map_eq_some_iff.mp whole
    have ended := closed?_of_append closed
    rw [number?, digits, Option.bind_some, ended]
    cases float : (float? text).bind closed? with
    | none => rfl
    | some found =>
      obtain ⟨middle, found, closed⟩ := Option.bind_eq_some_iff.mp float
      rw [closed_float?_of_whole digits ended found closed, Option.some_or]

/-- A number is read the same before a pause. -/
theorem number?_local (read : number? (text ++ rest) = some rest) (stops : Pause after) :
    number? (text ++ after) = some after := by
  rw [number?_append stops, number?_of_append read]
  rfl

theorem digits?_suffix (read : digits? base empty text = some rest) : rest <:+ text := by
  induction text generalizing empty with
  | nil =>
    rw [digits?] at read
    split at read <;> cases read
    exact List.suffix_refl _
  | cons c text ih =>
    have later {empty : Bool} (read : digits? base empty text = some rest) :
        rest <:+ c :: text := (ih read).trans (List.suffix_cons _ _)
    rw [digits?] at read
    repeat' split at read
    any_goals exact later read
    all_goals cases read
    all_goals exact List.suffix_refl _

theorem whole?_suffix (read : whole? text = some rest) : rest <:+ text := by
  unfold whole? at read
  split at read
  any_goals
    exact (digits?_suffix read).trans ((List.suffix_cons _ _).trans (List.suffix_cons _ _))
  exact digits?_suffix read

theorem digit_of_whole? (read : whole? (c :: text) = some rest) : c.isDigit = true := by
  by_cases decimal : IsDecimal (c :: text)
  · rw [whole?_decimal decimal, digits?] at read
    cases digit : c.isDigit with
    | true => rfl
    | false =>
      rw [digit, if_neg Bool.false_ne_true] at read
      split at read
      · rename_i letter
        rw [if_pos (hexValue_of_letter letter digit)] at read
        cases read
      · split at read <;> cases read
  · obtain ⟨d, more, same, -⟩ := exists_base decimal
    cases same
    decide

/-- A number begins with a digit and ends where no word goes on. -/
theorem number?_shape (read : number? text = some rest) :
    ∃ c more, text = c :: more ++ rest ∧ c.isDigit = true := by
  have begins : ∃ c more, text = c :: more ∧ c.isDigit = true := by
    cases text with
    | nil => cases read
    | cons c text =>
      refine ⟨c, text, rfl, ?_⟩
      rcases Option.or_eq_some_iff.mp read with read | ⟨_, read⟩
      · obtain ⟨middle, float, -⟩ := Option.bind_eq_some_iff.mp read
        rw [float?_cons] at float
        exact (Option.ite_none_right_eq_some.mp float).1
      · obtain ⟨middle, whole, -⟩ := Option.bind_eq_some_iff.mp read
        exact digit_of_whole? whole
  have ends : rest <:+ text ∧ Quiet rest := by
    have closed {middle : List Char} (suffix : middle <:+ text) (read : closed? middle = some rest) :
        rest <:+ text ∧ Quiet rest := by
      obtain ⟨rfl, quiet⟩ := closed?_eq_some.mp read
      exact ⟨(pastSuffix_suffix middle).trans suffix, quiet⟩
    rcases Option.or_eq_some_iff.mp read with read | ⟨_, read⟩
    · obtain ⟨middle, float, ended⟩ := Option.bind_eq_some_iff.mp read
      cases text with
      | nil => cases float
      | cons c text => exact closed ((float?_suffix float).trans (List.suffix_cons _ _)) ended
    · obtain ⟨middle, whole, ended⟩ := Option.bind_eq_some_iff.mp read
      exact closed (whole?_suffix whole) ended
  obtain ⟨c, more, rfl, digit⟩ := begins
  obtain ⟨⟨used, whole⟩, quiet⟩ := ends
  cases used with
  | nil =>
    rw [List.nil_append] at whole
    subst whole
    cases quiet with
    | before apart =>
      cases apart.symm.trans (isIdentContinue_of_isHexDigit (isHexDigit_of_isDigit digit))
  | cons d used =>
    obtain ⟨rfl, rfl⟩ := List.cons.inj whole
    exact ⟨d, used, rfl, digit⟩

end ValueObjects.Literal
