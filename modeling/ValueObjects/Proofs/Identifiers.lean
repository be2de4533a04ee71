import ValueObjects.Proofs.Characters
import ValueObjects.Proofs.NumericLiterals

namespace ValueObjects

namespace Lexer

open Text Literal

/-- The tokens read before the outermost group that is open, latest first. -/
def outermost : List (Delimiter × List Token) → List Token → List Token
  | [], tokens => tokens
  | (_, before) :: groups, _ => outermost groups before

/-- Matching brackets goes on from the outermost tokens. It adds nothing only at the end of the
lexemes, and a group first if one is open. -/
theorem assemble_outermost {groups : List (Delimiter × List Token)}
    (found : assemble groups tokens lexed = some result) :
    ∃ more, result = (outermost groups tokens).reverse ++ more ∧
      (groups = [] → more = [] → lexed = []) ∧
      (groups ≠ [] → ∃ delimiter body later, more = .group delimiter body :: later) := by
  induction lexed generalizing groups tokens with
  | nil =>
    cases groups with
    | nil =>
      cases found
      exact ⟨[], by simp [outermost]⟩
    | cons group groups => cases found
  | cons lexeme rest ih =>
    cases lexeme with
    | leaf token =>
      obtain ⟨more, split, empty, opened⟩ := ih found
      cases groups with
      | nil => exact ⟨token :: more, by simpa [outermost] using split, by simp, by simp⟩
      | cons group groups => exact ⟨more, split, by simp, opened⟩
    | opening delimiter =>
      obtain ⟨more, split, _, opened⟩ := ih found
      have grouped := opened (by simp)
      refine ⟨more, split, ?_, fun _ => grouped⟩
      obtain ⟨delimiter, body, later, rfl⟩ := grouped
      simp
    | closing delimiter =>
      cases groups with
      | nil => cases found
      | cons group groups =>
        obtain ⟨opened, before⟩ := group
        simp only [assemble] at found
        split at found
        · obtain ⟨more, split, _, later⟩ := ih found
          cases groups with
          | nil =>
            refine ⟨.group delimiter tokens.reverse :: more, ?_, by simp, by simp⟩
            simpa [outermost] using split
          | cons group groups => exact ⟨more, split, by simp, fun _ => later (by simp)⟩
        · cases found

theorem assemble_ident (found : assemble [] [] lexed = some [.ident name]) :
    lexed = [.leaf (.ident name)] := by
  cases lexed with
  | nil => cases found
  | cons lexeme rest =>
    cases lexeme with
    | leaf token =>
      have later : assemble [] [token] rest = some [.ident name] := found
      obtain ⟨more, split, empty, _⟩ := assemble_outermost later
      simp only [outermost, List.reverse_cons, List.reverse_nil, List.nil_append, List.cons_append,
        List.cons.injEq] at split
      obtain ⟨rfl, rfl⟩ := split
      rw [empty rfl rfl]
    | opening delimiter =>
      have later : assemble [(delimiter, [])] [] rest = some [.ident name] := found
      obtain ⟨more, split, _, opened⟩ := assemble_outermost later
      obtain ⟨closed, body, later, rfl⟩ := opened (by simp)
      simp [outermost] at split
    | closing delimiter => cases found

theorem pastComment?_of_ne (other : c ≠ '/') : pastComment? (c :: rest) = none := by
  unfold pastComment?
  split <;> simp_all

/-- A gap ends where a solid character stands. -/
theorem pastGaps_of_solid (solid : Solid text) : pastGaps fuel text = text := by
  cases fuel with
  | zero => rfl
  | succ fuel =>
    cases text with
    | nil => rfl
    | cons c rest =>
      have head := solid c List.mem_cons_self
      simp only [isSolid, Bool.and_eq_true, Bool.not_eq_true', bne_iff_ne] at head
      simp [pastGaps, pastComment?_of_ne head.1.2, head.1.1]

theorem pastOrderMark_of_solid (solid : Solid text) : pastOrderMark text = text := by
  unfold pastOrderMark
  split
  · have mark := solid _ List.mem_cons_self
    cases mark
  · rfl

/-- How an identifier is spelled: as a word, or as one behind the mark of raw identifiers. -/
inductive IsName : List Char → Prop where
  | plain (word : IsWord text) : IsName text
  | raw (word : IsWord text) (allowed : String.ofList text ∉ neverRaw) : IsName ('r' :: '#' :: text)

theorem plainName?_spells (found : plainName? text = some (name, rest)) :
    text = name.toList ++ rest ∧ IsWord name.toList := by
  cases text with
  | nil => cases found
  | cons c text =>
    simp only [plainName?] at found
    split at found
    · rename_i start
      cases found
      rw [String.toList_ofList]
      refine ⟨by simp, c, _, rfl, start, ?_⟩
      intro d member
      exact List.all_eq_true.mp List.all_takeWhile d member
    · cases found

theorem name?_spells (found : name? text = some (name, rest)) :
    text = name.toList ++ rest ∧ IsName name.toList := by
  unfold name? at found
  split at found
  · split at found
    · rename_i plain after word
      split at found
      · cases found
      · rename_i allowed
        cases found
        obtain ⟨spelled, word⟩ := plainName?_spells word
        rw [String.toList_append]
        refine ⟨by simp [spelled], .raw word ?_⟩
        simpa using allowed
    · cases found
  · obtain ⟨spelled, word⟩ := plainName?_spells found
    exact ⟨spelled, .plain word⟩

/-- The characters of a word are solid, and none of them is a colon. -/
theorem solid_of_word (word : IsWord text) : Solid text ∧ ':' ∉ text := by
  obtain ⟨c, rest, rfl, start, later⟩ := word
  constructor
  · intro d member
    rcases List.mem_cons.mp member with rfl | member
    · exact isSolid_of_isIdentStart start
    · exact isSolid_of_isIdentContinue (later d member)
  · intro colon
    rcases List.mem_cons.mp colon with rfl | colon
    · cases start
    · cases later _ colon

theorem IsName.solid (spelled : IsName text) : Solid text ∧ ':' ∉ text := by
  cases spelled with
  | plain word => exact solid_of_word word
  | raw word =>
    obtain ⟨solid, plain⟩ := solid_of_word word
    have mark : Solid ['r', '#'] := solid_of_all (by decide)
    exact ⟨mark.append solid, by simpa using plain⟩

theorem punct?_ne_ident : punct? text ≠ some (.ident name, rest) := by
  intro found
  unfold punct? at found
  split at found
  · split at found
    · simp only at found
      split at found <;> cases found
    · cases found
  · cases found
  · cases found

theorem leaf?_ident (found : leaf? text = some (.ident name, rest)) :
    name? text = some (name, rest) := by
  unfold leaf? at found
  split at found
  · cases found
  · simp only [Option.orElse_eq_orElse, Option.orElse_eq_or, Option.or_eq_some_iff] at found
    rcases found with found | ⟨_, found | ⟨_, found⟩⟩
    · exact (punct?_ne_ident found).elim
    · unfold ident? at found
      split at found
      · cases found
      · obtain ⟨⟨spelled, after⟩, word, same⟩ := Option.map_eq_some_iff.mp found
        cases same
        exact word
    · obtain ⟨after, _, same⟩ := Option.map_eq_some_iff.mp found
      cases same

theorem bracket?_ne_leaf : bracket? text ≠ some (.leaf token, rest) := by
  intro found
  unfold bracket? at found
  split at found
  · split at found <;> cases found
  all_goals cases found

/-- What cutting a text can begin with: documentation, its end, a bracket or another token. -/
theorem lexemes_cases (found : lexemes (fuel + 1) text = some lexed) :
    (∃ body inner rest later, documentation? (pastGaps (fuel + 1) text) = some (body, inner, rest) ∧
      lexemes fuel rest = some later ∧ lexed = documented body inner ++ later) ∨
    (pastGaps (fuel + 1) text = [] ∧ lexed = []) ∨
    (∃ lexeme rest later, bracket? (pastGaps (fuel + 1) text) = some (lexeme, rest) ∧
      lexemes fuel rest = some later ∧ lexed = lexeme :: later) ∨
    (∃ token rest later, leaf? (pastGaps (fuel + 1) text) = some (token, rest) ∧
      lexemes fuel rest = some later ∧ lexed = .leaf token :: later) := by
  simp only [lexemes] at found
  generalize pastGaps (fuel + 1) text = here at found
  split at found
  · rename_i read
    obtain ⟨later, ended, same⟩ := Option.map_eq_some_iff.mp found
    exact .inl ⟨_, _, _, later, read, ended, same.symm⟩
  · split at found
    · rename_i empty
      cases found
      exact .inr (.inl ⟨by simpa using empty, rfl⟩)
    · split at found
      · rename_i bracket
        obtain ⟨later, ended, same⟩ := Option.map_eq_some_iff.mp found
        exact .inr (.inr (.inl ⟨_, _, later, bracket, ended, same.symm⟩))
      · split at found
        · rename_i leaf
          obtain ⟨later, ended, same⟩ := Option.map_eq_some_iff.mp found
          exact .inr (.inr (.inr ⟨_, _, later, leaf, ended, same.symm⟩))
        · cases found

theorem pastGaps_of_lexemes_nil (found : lexemes fuel text = some []) : pastGaps fuel text = [] := by
  cases fuel with
  | zero => cases found
  | succ fuel =>
    rcases lexemes_cases found with ⟨_, _, _, _, _, _, same⟩ | ⟨ended, _⟩ |
      ⟨_, _, _, _, _, same⟩ | ⟨_, _, _, _, _, same⟩
    · simp [documented] at same
    · exact ended
    · cases same
    · cases same

/-- A single identifier stands at the head of the text past a gap, and a gap follows it. -/
theorem lexemes_ident (found : lexemes fuel text = some [.leaf (.ident name)]) :
    ∃ rest past, name? (pastGaps fuel text) = some (name, rest) ∧ pastGaps past rest = [] := by
  cases fuel with
  | zero => cases found
  | succ fuel =>
    rcases lexemes_cases found with ⟨_, _, _, _, _, _, same⟩ | ⟨_, same⟩ |
      ⟨_, _, _, bracket, _, same⟩ | ⟨_, rest, _, leaf, ended, same⟩
    · simp [documented] at same
    · cases same
    · cases same
      exact (bracket?_ne_leaf bracket).elim
    · cases same
      exact ⟨rest, fuel, leaf?_ident leaf, pastGaps_of_lexemes_nil ended⟩

theorem tokens?_ident (found : tokens? text = some [.ident name]) :
    ∃ fuel rest past, name? (pastGaps fuel (pastOrderMark text.toList)) = some (name, rest) ∧
      pastGaps past rest = [] := by
  obtain ⟨lexed, cut, matched⟩ := Option.bind_eq_some_iff.mp found
  rw [assemble_ident matched] at cut
  exact ⟨_, lexemes_ident cut⟩

end Lexer

namespace Grammar

open Text

theorem require_apply (test : List Token → Bool) (cursor : Cursor) :
    require test cursor = if test cursor.rest then some ((), cursor) else none := by
  have step : require test cursor =
      (if test cursor.rest then (pure () : Reader Unit) else fail) cursor := rfl
  rw [step]
  split <;> rfl

theorem name_ident (word : String) (rest done : List Token) :
    name ⟨.ident word :: rest, done⟩ =
      if word ∈ reserved then none else some (word, ⟨rest, .ident word :: done⟩) := by
  have step : name ⟨.ident word :: rest, done⟩ =
      (require atName ⟨.ident word :: rest, done⟩).bind fun result => anyName result.2 := rfl
  rw [step, require_apply]
  by_cases taken : word ∈ reserved
  · simp [atName, taken]
  · simp [atName, taken]
    rfl

/-- A single identifier is a single token. -/
theorem read_name_iff :
    read (fun _ => name) tokens = some spelled ↔ tokens = [.ident spelled] ∧ spelled ∉ reserved := by
  constructor
  · intro found
    cases tokens with
    | nil => cases found
    | cons token rest =>
      cases token with
      | ident word =>
        rw [read, complete, name_ident] at found
        by_cases taken : word ∈ reserved
        · simp [taken] at found
        · cases rest with
          | nil =>
            obtain rfl : word = spelled := by simpa [taken] using found
            exact ⟨rfl, taken⟩
          | cons token rest => simp [taken] at found
      | punct mark spacing => cases found
      | literal text => cases found
      | group delimiter body => cases found
  · rintro ⟨rfl, free⟩
    rw [read, complete, name_ident, if_neg free]

theorem read_name (found : read (fun _ => name) tokens = some spelled) :
    tokens = [.ident spelled] :=
  (read_name_iff.mp found).1

/-- An identifier is spelled as one, and it is no reserved word. -/
theorem isName_of_name? (found : name? text = some spelled) :
    Lexer.IsName spelled.toList ∧ spelled ∉ reserved := by
  obtain ⟨tokens, lexed, whole⟩ := Option.bind_eq_some_iff.mp found
  obtain ⟨rfl, free⟩ := read_name_iff.mp whole
  obtain ⟨_, _, _, word, _⟩ := Lexer.tokens?_ident lexed
  exact ⟨(Lexer.name?_spells word).2, free⟩

theorem characters_of_name? (found : name? text = some spelled) :
    Solid spelled.toList ∧ ':' ∉ spelled.toList :=
  (isName_of_name? found).1.solid

/-- An identifier consists of solid characters. -/
theorem solid_of_name? (found : name? text = some spelled) : Solid spelled.toList :=
  (characters_of_name? found).1

/-- An identifier has no colon in it. -/
theorem colon_of_name? (found : name? text = some spelled) : ':' ∉ spelled.toList :=
  (characters_of_name? found).2

/-- A text of solid characters is no other identifier than itself. -/
theorem name?_eq_self (solid : Solid text.toList)
    (found : name? text = some spelled) : spelled = text := by
  obtain ⟨tokens, lexed, whole⟩ := Option.bind_eq_some_iff.mp found
  rw [read_name whole] at lexed
  obtain ⟨fuel, rest, past, word, ended⟩ := Lexer.tokens?_ident lexed
  rw [Lexer.pastOrderMark_of_solid solid, Lexer.pastGaps_of_solid solid] at word
  have split := (Lexer.name?_spells word).1
  have tail : Solid rest := by
    intro c member
    exact solid c (split ▸ List.mem_append_right _ member)
  rw [Lexer.pastGaps_of_solid tail] at ended
  rw [ended, List.append_nil] at split
  exact String.toList_inj.mp split.symm

end Grammar

end ValueObjects
