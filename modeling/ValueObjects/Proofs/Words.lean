import ValueObjects.Proofs.Legibility

namespace ValueObjects

open Text Literal Token

namespace Lexer

/-- The characters that make a quoted text of the letters before them. -/
def quotes : List Char := ['"', '#', '\'']

/-- A word begins neither a gap, a comment, a bracket, an operator nor a number. -/
theorem starts_apart (start : isIdentStart c = true) : isGap c = false ∧ c ≠ '/' ∧
    c ∉ ['(', ')', '[', ']', '\x7b', '\x7d'] ∧ c ∉ marks ∧ c.isDigit = false := by
  have solid := isSolid_of_isIdentStart start
  simp only [isSolid, Bool.and_eq_true, Bool.not_eq_true', bne_iff_ne] at solid
  refine ⟨solid.1.1, solid.1.2, ?_, ?_, ?_⟩
  · intro bracket
    have apart : ∀ c ∈ ['(', ')', '[', ']', '\x7b', '\x7d'], isIdentStart c = false :=
      List.all_iff_forall_prop.mp (by decide)
    cases start.symm.trans (apart c bracket)
  · intro mark
    cases start.symm.trans (marks_apart c mark).2.1
  · cases digit : c.isDigit with
    | false => rfl
    | true => cases start.symm.trans (isIdentStart_of_isDigit digit)

theorem settled_of_start (start : isIdentStart c = true) (rest : List Char) :
    Settled (c :: rest) where
  gap := (starts_apart start).1
  comment := by
    have noSlash : ('/' == c) = false := by simpa using (starts_apart start).2.1.symm
    simp [beginsComment, List.isPrefixOf, noSlash]

theorem mark?_of_start (start : isIdentStart c = true) (rest : List Char) :
    mark? (c :: rest) = none := by
  have noMark : marks.contains c = false := by simpa using (starts_apart start).2.2.2.1
  unfold mark?
  split
  · rfl
  · rfl
  · rename_i same
    cases same
    rw [noMark]
    rfl
  · rfl

/-! Words. -/

theorem takeWhile_word {rest after : List Char} (later : ∀ d ∈ rest, isIdentContinue d = true)
    (quiet : Quiet after) : (rest ++ after).takeWhile isIdentContinue = rest := by
  rw [List.takeWhile_append_of_pos later]
  cases quiet with
  | ended => exact List.append_nil _
  | before apart => rw [List.takeWhile_cons_of_neg (by simp [apart]), List.append_nil]

theorem dropWhile_word {rest after : List Char} (later : ∀ d ∈ rest, isIdentContinue d = true)
    (quiet : Quiet after) : (rest ++ after).dropWhile isIdentContinue = after := by
  rw [List.dropWhile_append_of_pos later]
  cases quiet with
  | ended => rfl
  | before apart => rw [List.dropWhile_cons_of_neg (by simp [apart])]

theorem plainName?_word (word : IsWord text) (quiet : Quiet after) :
    plainName? (text ++ after) = some (String.ofList text, after) := by
  obtain ⟨c, rest, rfl, start, later⟩ := word
  simp only [List.cons_append, plainName?, start, if_true, takeWhile_word later quiet,
    dropWhile_word later quiet]

/-- A name is read before a text that goes on no word and makes no raw name of it. -/
theorem IsName.read (spelled : IsName text) (quiet : Quiet after)
    (plain : text = ['r'] → after.head? ≠ some '#') :
    name? (text ++ after) = some (String.ofList text, after) := by
  cases spelled with
  | plain word =>
    have noRaw : ∀ rest, text ++ after ≠ 'r' :: '#' :: rest := by
      intro rest same
      obtain ⟨c, _ | ⟨d, more⟩, rfl, start, later⟩ := word
      · cases same
        exact plain rfl rfl
      · cases same
        cases later '#' List.mem_cons_self
    rw [name?, plainName?_word word quiet]
    exact noRaw
  | raw word allowed =>
    rename_i text
    have read := plainName?_word word quiet
    have permitted : neverRaw.contains (String.ofList text) = false := by simpa using allowed
    have spelling : "r#" ++ String.ofList text = String.ofList ('r' :: '#' :: text) :=
      String.toList_inj.mp (by simp)
    rw [List.cons_append, List.cons_append, name?, read]
    simp only [permitted, Bool.false_eq_true, if_false, spelling]

/-- Whether a word may begin or go on with `c`. -/
def isWordPart (c : Char) : Bool :=
  isIdentStart c || isIdentContinue c

/-- A text whose first word is followed by no quote. -/
def Unquoted (text : List Char) : Prop :=
  ∀ c ∈ (text.dropWhile isWordPart).head?, c ∉ quotes

namespace Unquoted

theorem tail (unquoted : Unquoted (c :: text)) (part : isWordPart c = true) : Unquoted text := by
  rwa [Unquoted, List.dropWhile_cons_of_pos part] at unquoted

/-- No quote begins the text, since no quote is a part of a word. -/
theorem head (unquoted : Unquoted (c :: text)) : c ∉ quotes := by
  intro quote
  have apart : ∀ c ∈ quotes, ¬isWordPart c = true :=
    List.all_iff_forall_prop.mp (by decide)
  rw [Unquoted, List.dropWhile_cons_of_neg (apart c quote)] at unquoted
  exact unquoted c rfl quote

theorem noRaw (unquoted : Unquoted text) (alphabet : Alphabet) : raw? alphabet text = none := by
  cases text with
  | nil => rfl
  | cons c text =>
    have plain := unquoted.head
    simp only [quotes, List.mem_cons, List.not_mem_nil, or_false, not_or] at plain
    rw [raw?]
    simp [plain]

theorem noText (unquoted : Unquoted text) : textual? text = none := by
  have letters : ∀ c ∈ ['r', 'b', 'c'], isWordPart c = true :=
    List.all_iff_forall_prop.mp (by decide)
  unfold textual?
  split
  · exact (unquoted.head (by decide)).elim
  · exact (unquoted.tail (letters 'r' (by decide))).noRaw _
  · exact ((unquoted.tail (letters 'b' (by decide))).head (by decide)).elim
  · exact ((unquoted.tail (letters 'b' (by decide))).tail (letters 'r' (by decide))).noRaw _
  · exact ((unquoted.tail (letters 'c' (by decide))).head (by decide)).elim
  · exact ((unquoted.tail (letters 'c' (by decide))).tail (letters 'r' (by decide))).noRaw _
  · rfl

/-- No beginning of a quoted text begins the text. -/
theorem noStart (unquoted : Unquoted text) :
    quotedStarts.any (·.isPrefixOf text) = false := by
  have ends : ∀ start ∈ quotedStarts,
      (start.dropWhile isWordPart).head?.any (quotes.contains ·) = true := by
    decide
  rw [List.any_eq_false]
  intro start member begins
  obtain ⟨rest, rfl⟩ := List.isPrefixOf_iff_prefix.mp begins
  have quote := ends start member
  cases split : start.dropWhile isWordPart with
  | nil =>
    rw [split] at quote
    cases quote
  | cons c more =>
    rw [split] at quote
    refine unquoted c ?_ (by simpa using quote)
    simp [List.dropWhile_append, split]

end Unquoted

/-- Behind a word a pause is no quote. -/
theorem unquoted_word (word : IsWord text) (stops : Pause after) : Unquoted (text ++ after) := by
  obtain ⟨c, rest, rfl, start, later⟩ := word
  have parts : ∀ d ∈ c :: rest, isWordPart d = true := by
    intro d member
    rw [isWordPart, Bool.or_eq_true]
    rcases List.mem_cons.mp member with rfl | member
    · exact .inl start
    · exact .inr (later d member)
  rw [Unquoted, List.dropWhile_append_of_pos parts]
  cases stops with
  | ended => simp
  | before isPause =>
    have apart : ∀ d ∈ pauses, ¬isWordPart d = true ∧ d ∉ quotes :=
      List.all_iff_forall_prop.mp (by decide)
    rw [List.dropWhile_cons_of_neg (apart _ isPause).1]
    rintro d ⟨⟩
    exact (apart _ isPause).2

theorem noNumber_of_start (start : isIdentStart c = true) (rest : List Char) :
    number? (c :: rest) = none := by
  rw [Option.eq_none_iff_forall_ne_some]
  intro after read
  obtain ⟨d, more, same, digit⟩ := number?_shape read
  cases same
  cases digit.symm.trans (starts_apart start).2.2.2.2

theorem IsName.start (spelled : IsName text) : ∃ c rest, text = c :: rest ∧ isIdentStart c = true := by
  cases spelled with
  | plain word =>
    obtain ⟨c, rest, rfl, start, -⟩ := word
    exact ⟨c, rest, rfl, start⟩
  | raw => exact ⟨'r', _, rfl, by decide⟩

/-- A name before a pause is no literal, nor does it begin as a quoted text does. -/
theorem IsName.unquoted (spelled : IsName text) (stops : Pause after) :
    scan? (text ++ after) = none ∧ quotedStarts.any (·.isPrefixOf (text ++ after)) = false := by
  cases spelled with
  | plain word =>
    have unquoted := unquoted_word word stops
    refine ⟨?_, unquoted.noStart⟩
    obtain ⟨c, rest, rfl, start, later⟩ := word
    have noByte : ['b', '\''].isPrefixOf? (c :: rest ++ after) = none := by
      rw [Option.eq_none_iff_forall_ne_some]
      intro tail begins
      rw [isPrefixOf?_eq_some.mp begins] at unquoted
      exact (unquoted.tail (by decide)).head (by decide)
    have noCharacter : ['\''].isPrefixOf? (c :: rest ++ after) = none := by
      rw [Option.eq_none_iff_forall_ne_some]
      intro tail begins
      rw [isPrefixOf?_eq_some.mp begins] at unquoted
      exact unquoted.head (by decide)
    rw [scan?_eq, unquoted.noText, noByte, noCharacter, List.cons_append,
      noNumber_of_start start]
    rfl
  | raw word =>
    obtain ⟨c, rest, rfl, start, -⟩ := word
    have plain : c ∉ quotes := by
      intro quote
      have apart : ∀ c ∈ quotes, isIdentStart c = false :=
        List.all_iff_forall_prop.mp (by decide)
      cases start.symm.trans (apart c quote)
    simp only [quotes, List.mem_cons, List.not_mem_nil, or_false, not_or] at plain
    have noRaw : raw? .unicode ('#' :: (c :: rest ++ after)) = none := by
      simp [raw?, plain]
    constructor
    · have noText : textual? ('r' :: '#' :: (c :: rest ++ after)) = none := noRaw
      rw [List.cons_append, List.cons_append, scan?_eq, noText,
        noNumber_of_start (by decide)]
      rfl
    · have apart : ¬ '"' = c ∧ ¬ '#' = c := ⟨fun same => plain.1 same.symm, fun same => plain.2.1 same.symm⟩
      simp [quotedStarts, List.isPrefixOf, apart]

/-- A name is read before a pause. -/
theorem IsName.reads (spelled : IsName text) (stops : Pause after) :
    Reads (text ++ after) (.ident (String.ofList text)) after := by
  have plain : after.head? ≠ some '#' := by
    cases stops with
    | ended => simp
    | before isPause =>
      rintro ⟨⟩
      exact absurd isPause (by decide)
  have read : name? (text ++ after) = some (String.ofList text, after) :=
    spelled.read stops.quiet fun _ => plain
  obtain ⟨noLiteral, noStart⟩ := spelled.unquoted stops
  obtain ⟨c, rest, rfl, start⟩ := spelled.start
  rw [List.cons_append] at read noLiteral noStart ⊢
  exact {
    toSettled := settled_of_start start _
    bracket := bracket?_of_ne (starts_apart start).2.2.1 _
    leaf := by
      rw [leaf?, noLiteral, punct?, mark?_of_start start, ident?, noStart, read]
      rfl }

/-! Lifetimes. -/

/-- Behind the first character of a name there is no apostrophe. -/
theorem IsName.second (spelled : IsName (c :: d :: rest)) : d ≠ '\'' := by
  rintro rfl
  cases spelled with
  | plain word =>
    obtain ⟨_, _, same, -, later⟩ := word
    cases same
    cases later '\'' List.mem_cons_self

/-- An apostrophe is read as that of a lifetime before a name that no apostrophe closes and no
number sign follows. -/
theorem reads_apostrophe (word : name? text = some (name, after)) (opens : after.head? ≠ some '\'')
    (plain : (['#'].isPrefixOf after && !(['r', '#'].isPrefixOf text)) = false) :
    Reads ('\'' :: text) (.punct '\'' .joint) text where
  gap := (marks_apart '\'' (by decide)).1
  comment := rfl
  bracket := rfl
  leaf := by
    have closes : ['\''].isPrefixOf after = false := by
      cases after with
      | nil => rfl
      | cons c after =>
        have other : '\'' ≠ c := by
          rintro rfl
          exact opens rfl
        simp [List.isPrefixOf, other]
    have noCharacter : character? .unicode text = none := by
      obtain ⟨rfl, spelled⟩ := name?_spells word
      obtain ⟨c, rest, split, start⟩ := spelled.start
      have noEscape : c ≠ '\\' := by
        rintro rfl
        cases start
      rw [split] at spelled ⊢
      rw [character?_eq, List.cons_append, pastCharacter?_plain _ noEscape]
      change pastApostrophe? (rest ++ after) = none
      rw [Option.eq_none_iff_forall_ne_some]
      intro tail found
      have begins := pastApostrophe?_eq_some.mp found
      cases rest with
      | nil => exact opens (by rw [← List.nil_append after, begins]; rfl)
      | cons d rest =>
        cases begins
        exact spelled.second rfl
    have noNumber : number? ('\'' :: text) = none := by
      rw [Option.eq_none_iff_forall_ne_some]
      intro rest read
      obtain ⟨d, more, same, digit⟩ := number?_shape read
      cases same
      cases digit
    have noLiteral : scan? ('\'' :: text) = none := by
      rw [scan?_eq, noNumber]
      change (((character? .unicode text).map pastSuffix).or none) = none
      rw [noCharacter]
      rfl
    have marked : mark? ('\'' :: text) = some ('\'', text) := rfl
    rw [leaf?, noLiteral, punct?, marked]
    simp only [word, closes, plain]
    rfl

end Lexer

open Lexer

theorem Lexer.IsName.stands (spelled : IsName name.toList) : Stands (.ident name) := by
  intro after stops
  have reads := spelled.reads stops.pause
  rwa [String.ofList_toList] at reads

/-- An apostrophe is read before a name. -/
theorem Lexer.IsName.reads_lifetime {name : String} (spelled : IsName name.toList) (stops : Pause after) :
    Reads ('\'' :: (name.toList ++ after)) (.punct '\'' .joint) (name.toList ++ after) := by
  have apart : ∀ c ∈ ['#', '\''], after.head? ≠ some c := by
    intro c member
    cases stops with
    | ended => simp
    | before isPause =>
      rintro ⟨⟩
      have none : ∀ c ∈ ['#', '\''], c ∉ pauses := List.all_iff_forall_prop.mp (by decide)
      exact none _ member isPause
  have plain : ['#'].isPrefixOf after = false := by
    cases after with
    | nil => rfl
    | cons c after =>
      have other : '#' ≠ c := by
        rintro rfl
        exact apart '#' (by decide) rfl
      simp [List.isPrefixOf, other]
  apply reads_apostrophe (spelled.read stops.quiet fun _ => apart '#' (by decide))
  · exact apart '\'' (by decide)
  · rw [plain]
    rfl

/-- An apostrophe leads into a name. -/
theorem Lexer.IsName.leads (spelled : IsName name.toList) : Leads '\'' (.ident name) :=
  .lifetime rfl fun _ stops => spelled.reads_lifetime stops.pause

/-- A text that is spelled as a name is cut into that name. -/
theorem Lexer.IsName.tokens? {name : String} (spelled : IsName name.toList) :
    Lexer.tokens? name = some [.ident name] := by
  have reads := spelled.stands [] .ended
  rw [spell, List.append_nil] at reads
  obtain ⟨c, rest, same, _⟩ := spelled.start
  rw [Lexer.tokens?, pastOrderMark_of_solid spelled.solid.1, lexemes_leaf reads, same]
  rfl

/-- The identifiers among the texts that are spelled as they are read. -/
theorem Grammar.name?_eq_self_iff {name : String} :
    name? name = some name ↔ IsName name.toList ∧ name ∉ reserved := by
  constructor
  · exact isName_of_name?
  · rintro ⟨spelled, free⟩
    rw [name?, readText, spelled.tokens?, Option.bind_some]
    exact read_name_iff.mpr ⟨rfl, free⟩

end ValueObjects
