import ValueObjects.Derive
import ValueObjects.Proofs.Eligibility
import ValueObjects.Proofs.Readers
import ValueObjects.Proofs.Results

namespace ValueObjects.Derive

open Grammar

/-- A structure is read for the deriving as it is read among the items of a file. -/
theorem subject_eq_some_struct (rules : Rules) {cursor after : Cursor} :
    subject rules cursor = some (.struct decl, after) ↔
      (do structDecl rules (← outerAttributes rules)) cursor = some (.struct decl, after) := by
  rw [subject, bind_eq_some, bind_eq_some]
  refine exists_congr fun attrs => exists_congr fun between => and_congr_right fun _ => ?_
  rw [structDecl, bind_eq_some, bind_eq_some]
  refine exists_congr fun isPublic => exists_congr fun between => and_congr_right fun _ => ?_
  rw [bind_apply, bind_apply, word?_apply]
  by_cases follows : atWord "struct" between.rest = true
  · rw [if_pos follows]
    cases word "struct" between with
    | none => exact ⟨nofun, nofun⟩
    | some past =>
      simp only [Option.map_some, Option.bind_some, if_true, bind_eq_some, pure_apply]
      constructor
      · rintro ⟨name, named, ranName, generic, closed, ranGeneric, body, last, ranBody, same⟩
        cases same
        exact ⟨name, named, ranName, generic, closed, ranGeneric, body, after, ranBody, rfl⟩
      · rintro ⟨name, named, ranName, generic, closed, ranGeneric, body, last, ranBody, same⟩
        cases same
        exact ⟨name, named, ranName, generic, closed, ranGeneric, body, after, ranBody, rfl⟩
  · -- Enumerations and unions are read as other declarations.
    rw [if_neg follows, word_eq_none follows, Option.bind_none, Option.bind_some]
    refine ⟨fun ran => ?_, nofun⟩
    obtain ⟨isEnum, past, _, ran⟩ := bind_eq_some.mp ran
    cases isEnum with
    | true =>
      obtain ⟨_, _, _, ran⟩ := bind_eq_some.mp ran
      obtain ⟨_, _, _, ran⟩ := bind_eq_some.mp ran
      obtain ⟨_, _, _, ran⟩ := bind_eq_some.mp ran
      cases ran
    | false =>
      obtain ⟨_, _, _, ran⟩ := bind_eq_some.mp ran
      obtain ⟨_, _, _, ran⟩ := bind_eq_some.mp ran
      obtain ⟨_, _, _, ran⟩ := bind_eq_some.mp ran
      obtain ⟨_, _, _, ran⟩ := bind_eq_some.mp ran
      cases ran

def IsComma : Token → Prop
  | .punct mark _ => mark = ','
  | _ => False

def AtComma : List Token → Prop
  | [] => True
  | token :: _ => IsComma token

/-- The value of an option, as it is written: a literal, or tokens of another beginning up to a
comma. -/
inductive IsValue : List Token → OptionValue → Prop where
  | literal (text : String) : IsValue [.literal text] (.literal (some text))
  | truth (known : spelled = "true" ∨ spelled = "false") :
      IsValue [.ident spelled] (.literal none)
  | negated (numeral : isNumeral text = true) :
      IsValue [.punct '-' spacing, .literal text] (.literal none)
  | tokens (filled : tokens ≠ []) (plain : atLiteral tokens = false)
      (whole : ∀ token ∈ tokens, ¬IsComma token) : IsValue tokens (.tokens tokens)

/-- Options with commas between them, and perhaps one at the end. -/
inductive IsOptions : List Token → List (String × OptionValue) → Prop where
  | none : IsOptions [] []
  | last (value : IsValue tokens found) :
      IsOptions (.ident key :: .punct '=' spacing :: tokens) [(key, found)]
  | more (value : IsValue tokens found) (rest : IsOptions others pairs) :
      IsOptions (.ident key :: .punct '=' spacing :: (tokens ++ .punct ',' after :: others))
        ((key, found) :: pairs)

theorem atMark_comma (token : Token) (rest : List Token) :
    atMark "," (token :: rest) = true ↔ IsComma token := by
  cases token with
  | punct mark spacing => simp [atMark, startsWith, IsComma, eq_comm (a := ',')]
  | _ => exact ⟨nofun, nofun⟩

theorem goesOn_iff {tokens : List Token} :
    (!tokens.isEmpty && !atMark "," tokens) = true ↔ ¬AtComma tokens := by
  cases tokens with
  | nil => exact ⟨nofun, fun ends => (ends trivial).elim⟩
  | cons token rest =>
    rw [AtComma, ← atMark_comma token rest]
    simp

def anyToken : Reader Token := do
  match ← upcoming with
  | token :: rest =>
    consume [token] rest
    return token
  | [] => fail

theorem untilComma_eq : untilComma = do
    let tokens ← collect (guarded (fun tokens => !tokens.isEmpty && !atMark "," tokens) anyToken)
    if tokens.isEmpty then fail
    return .tokens tokens :=
  rfl

/-- The runs up to a comma take the tokens before it. -/
theorem repeats_untilComma {cursor after : Cursor} {tokens : List Token}
    (repeats : Repeats
      (guarded (fun tokens => !tokens.isEmpty && !atMark "," tokens) anyToken)
      cursor tokens after) :
    cursor.rest = tokens ++ after.rest ∧ AtComma after.rest ∧ ∀ token ∈ tokens, ¬IsComma token := by
  induction repeats with
  | @done cursor after stopped =>
    rw [guarded_apply] at stopped
    split at stopped
    · cases ran : anyToken cursor <;> simp [ran] at stopped
    · rename_i ends
      rw [goesOn_iff, not_not] at ends
      cases stopped
      exact ⟨rfl, ends, nofun⟩
  | @more cursor found between tokens after stepped repeats ih =>
    obtain ⟨rest, ends, whole⟩ := ih
    rw [guarded_apply] at stepped
    split at stepped
    · rename_i goes
      rw [goesOn_iff] at goes
      obtain ⟨input, done⟩ := cursor
      cases input with
      | nil => exact (goes trivial).elim
      | cons token others =>
        cases stepped
        exact ⟨congrArg _ rest, ends, List.forall_mem_cons.mpr ⟨goes, whole⟩⟩
    · cases stepped

theorem untilComma_repeats {tokens rest : List Token} (ends : AtComma rest)
    (whole : ∀ token ∈ tokens, ¬IsComma token) (done : List Token) :
    Repeats (guarded (fun tokens => !tokens.isEmpty && !atMark "," tokens) anyToken)
      ⟨tokens ++ rest, done⟩ tokens ⟨rest, tokens.reverse ++ done⟩ := by
  induction tokens generalizing done with
  | nil =>
    apply Repeats.done
    rw [guarded_apply, if_neg]
    · rfl
    · exact goesOn_iff.not.mpr (not_not.mpr ends)
  | cons token tokens ih =>
    obtain ⟨other, whole⟩ := List.forall_mem_cons.mp whole
    rw [List.reverse_cons, List.append_assoc]
    apply Repeats.more ?_ (ih whole (token :: done))
    rw [guarded_apply, if_pos]
    · rfl
    · exact goesOn_iff.mpr other

theorem untilComma_append {tokens rest : List Token} (filled : tokens ≠ [])
    (whole : ∀ token ∈ tokens, ¬IsComma token) (ends : AtComma rest) (done : List Token) :
    untilComma ⟨tokens ++ rest, done⟩ = some (.tokens tokens, ⟨rest, tokens.reverse ++ done⟩) := by
  have ran := (untilComma_repeats ends whole done).collect (by simp)
  rw [untilComma_eq, bind_apply, ran, Option.bind_some]
  cases tokens with
  | nil => exact (filled rfl).elim
  | cons token rest => rfl

/-- A value that is no literal is made of the tokens before a comma. -/
theorem untilComma_eq_some {cursor after : Cursor} (ran : untilComma cursor = some (found, after)) :
    ∃ tokens, cursor.rest = tokens ++ after.rest ∧ AtComma after.rest ∧ tokens ≠ [] ∧
      (∀ token ∈ tokens, ¬IsComma token) ∧ found = .tokens tokens := by
  rw [untilComma_eq] at ran
  obtain ⟨tokens, between, collected, ran⟩ := bind_eq_some.mp ran
  obtain ⟨rest, ends, whole⟩ := repeats_untilComma (repeats_of_collect collected)
  cases tokens with
  | nil => cases ran
  | cons token others =>
    cases ran
    exact ⟨_, rest, ends, List.cons_ne_nil _ _, whole, rfl⟩

/-- What stands after a minus sign decides whether it begins a literal. -/
theorem atLiteral_punct (mark : Char) (spacing : Spacing) (tokens : List Token) :
    atLiteral (.punct mark spacing :: tokens) = true ↔
      mark = '-' ∧ ∃ text rest, tokens = .literal text :: rest ∧ isNumeral text = true := by
  constructor
  · intro follows
    unfold atLiteral at follows
    split at follows
    · rename_i heads
      cases heads
    · rename_i heads
      cases heads
    · rename_i heads
      cases heads
      exact ⟨rfl, _, _, rfl, follows⟩
    · cases follows
  · rintro ⟨rfl, text, rest, rfl, numeral⟩
    exact numeral

theorem atLiteral_append {tokens rest : List Token} (filled : tokens ≠ []) (ends : AtComma rest) :
    atLiteral (tokens ++ rest) = atLiteral tokens := by
  cases tokens with
  | nil => exact (filled rfl).elim
  | cons token others =>
    cases token with
    | punct mark spacing =>
      apply Bool.eq_iff_iff.mpr
      rw [List.cons_append, atLiteral_punct, atLiteral_punct]
      cases others with
      | cons next others => simp
      | nil =>
        cases rest with
        | nil => rfl
        | cons next others =>
          cases next with
          | literal text => exact ends.elim
          | _ => simp
    | _ => rfl

theorem literal_numeral (text : String) (spacing : Spacing) (rest done : List Token) :
    literal ⟨.punct '-' spacing :: .literal text :: rest, done⟩ =
      if isNumeral text then some (none, ⟨rest, .literal text :: .punct '-' .alone :: done⟩)
      else none := by
  have step : literal ⟨.punct '-' spacing :: .literal text :: rest, done⟩ =
      (if isNumeral text then do
        consume [.punct '-' .alone, .literal text] rest
        return none
      else fail : Reader (Option String)) ⟨.punct '-' spacing :: .literal text :: rest, done⟩ := rfl
  rw [step]
  split <;> rfl

theorem literal_ident (spelled : String) (rest done : List Token) :
    literal ⟨.ident spelled :: rest, done⟩ =
      if spelled == "true" || spelled == "false" then
        some (none, ⟨rest, .ident spelled :: done⟩)
      else none := by
  have step : literal ⟨.ident spelled :: rest, done⟩ =
      (if spelled == "true" || spelled == "false" then do
        consume [.ident spelled] rest
        return none
      else fail : Reader (Option String)) ⟨.ident spelled :: rest, done⟩ := rfl
  rw [step]
  split <;> rfl

theorem literal_eq_none {tokens : List Token} (other : atLiteral tokens = false)
    (done : List Token) : literal ⟨tokens, done⟩ = none := by
  unfold atLiteral at other
  rw [literal]
  split at other
  · cases other
  all_goals simp_all [bind_apply, upcoming_apply, fail]

/-- Reading a literal takes what is a literal as it is written. -/
theorem literal_eq_some {cursor after : Cursor} (ran : literal cursor = some (text?, after)) :
    ∃ tokens, cursor.rest = tokens ++ after.rest ∧ IsValue tokens (.literal text?) := by
  obtain ⟨input, done⟩ := cursor
  cases follows : atLiteral input with
  | false =>
    rw [literal_eq_none follows] at ran
    cases ran
  | true =>
    unfold atLiteral at follows
    split at follows
    · cases ran
      exact ⟨[_], rfl, .literal _⟩
    · rw [literal_ident, if_pos follows] at ran
      cases ran
      rw [Bool.or_eq_true, beq_iff_eq, beq_iff_eq] at follows
      exact ⟨[_], rfl, .truth follows⟩
    · rw [literal_numeral, if_pos follows] at ran
      cases ran
      exact ⟨[_, _], rfl, .negated follows⟩
    · cases follows

theorem literal_append {tokens : List Token} (value : IsValue tokens (.literal text?))
    (rest done : List Token) :
    atLiteral (tokens ++ rest) = true ∧
      ∃ after, literal ⟨tokens ++ rest, done⟩ = some (text?, ⟨rest, after⟩) := by
  cases value with
  | literal text => exact ⟨rfl, _, rfl⟩
  | truth known =>
    rcases known with rfl | rfl
    · exact ⟨rfl, _, rfl⟩
    · exact ⟨rfl, _, rfl⟩
  | negated numeral => exact ⟨numeral, _, (literal_numeral ..).trans (if_pos numeral)⟩

/-- The value behind the equality sign. -/
def value : Reader OptionValue := do
  if atLiteral (← upcoming) then
    return .literal (← literal)
  else
    untilComma

theorem option_apply (cursor : Cursor) :
    option cursor = (anyName cursor).bind fun named =>
      (mark "=" named.2).bind fun marked =>
        (value marked.2).map fun found => ((named.1, found.1), found.2) := by
  rw [option, bind_apply]
  congr
  funext ⟨key, named⟩
  rw [bind_apply]
  congr
  funext ⟨_, marked⟩
  rw [bind_apply, upcoming_apply, Option.bind_some, value, bind_apply, upcoming_apply,
    Option.bind_some]
  by_cases follows : atLiteral marked.rest = true
  · rw [if_pos follows, if_pos follows, bind_apply, bind_apply]
    cases literal marked <;> rfl
  · rw [if_neg follows, if_neg follows, bind_apply]
    cases untilComma marked <;> rfl

/-- Reading a value takes what is one as it is written. -/
theorem value_eq_some {cursor after : Cursor} (ran : value cursor = some (found, after)) :
    ∃ tokens, cursor.rest = tokens ++ after.rest ∧ IsValue tokens found := by
  rw [value, bind_apply, upcoming_apply, Option.bind_some] at ran
  by_cases follows : atLiteral cursor.rest = true
  · rw [if_pos follows] at ran
    obtain ⟨text?, between, ran, same⟩ := bind_eq_some.mp ran
    cases same
    exact literal_eq_some ran
  · rw [if_neg follows] at ran
    obtain ⟨tokens, rest, ends, filled, whole, rfl⟩ := untilComma_eq_some ran
    rw [rest, atLiteral_append filled ends, Bool.not_eq_true] at follows
    exact ⟨tokens, rest, .tokens filled follows whole⟩

theorem value_append {tokens rest : List Token} (written : IsValue tokens found)
    (ends : AtComma rest) (done : List Token) :
    ∃ after, value ⟨tokens ++ rest, done⟩ = some (found, ⟨rest, after⟩) := by
  rw [value, bind_apply, upcoming_apply, Option.bind_some]
  cases found with
  | literal text? =>
    obtain ⟨follows, after, ran⟩ := literal_append written rest done
    exact ⟨after, by rw [if_pos follows, bind_apply, ran]; rfl⟩
  | tokens found =>
    cases written with
    | tokens filled plain whole =>
      refine ⟨tokens.reverse ++ done, ?_⟩
      rw [if_neg, untilComma_append filled whole ends]
      simp [atLiteral_append filled ends, plain]

theorem mark_equals (spacing : Spacing) (rest done : List Token) :
    mark "=" ⟨.punct '=' spacing :: rest, done⟩ = some ((), ⟨rest, .punct '=' .alone :: done⟩) :=
  rfl

theorem atMark_equals {tokens : List Token} (follows : atMark "=" tokens = true) :
    ∃ spacing rest, tokens = .punct '=' spacing :: rest := by
  cases tokens with
  | nil => cases follows
  | cons token rest =>
    cases token with
    | punct mark spacing =>
      have same : '=' = mark := by simpa [atMark, startsWith] using follows
      exact ⟨spacing, rest, same ▸ rfl⟩
    | _ => cases follows

/-- An option is a key, an equality sign and a value. -/
theorem option_eq_some {cursor after : Cursor} (ran : option cursor = some ((key, found), after)) :
    ∃ spacing tokens, cursor.rest = .ident key :: .punct '=' spacing :: (tokens ++ after.rest) ∧
      IsValue tokens found := by
  obtain ⟨input, done⟩ := cursor
  rw [option_apply, Option.bind_eq_some_iff] at ran
  obtain ⟨named, ranKey, ran⟩ := ran
  obtain ⟨marked, ranMark, ran⟩ := Option.bind_eq_some_iff.mp ran
  obtain ⟨result, ranValue, same⟩ := Option.map_eq_some_iff.mp ran
  cases input with
  | nil => cases ranKey
  | cons token rest =>
    cases token with
    | ident word =>
      cases ranKey
      rw [mark_apply] at ranMark
      split at ranMark
      · rename_i follows
        obtain ⟨spacing, others, rfl⟩ := atMark_equals follows
        cases ranMark
        cases same
        obtain ⟨tokens, split, written⟩ := value_eq_some ranValue
        exact ⟨spacing, tokens, congrArg _ (congrArg _ split), written⟩
      · cases ranMark
    | _ => cases ranKey

theorem option_append (key : String) (spacing : Spacing) {tokens rest : List Token}
    (written : IsValue tokens found) (ends : AtComma rest) (done : List Token) :
    ∃ after, option ⟨.ident key :: .punct '=' spacing :: (tokens ++ rest), done⟩ =
      some ((key, found), ⟨rest, after⟩) := by
  obtain ⟨after, ran⟩ := value_append written ends (.punct '=' .alone :: .ident key :: done)
  refine ⟨after, ?_⟩
  have named : anyName ⟨.ident key :: .punct '=' spacing :: (tokens ++ rest), done⟩ =
    some (key, ⟨.punct '=' spacing :: (tokens ++ rest), .ident key :: done⟩) := rfl
  rw [option_apply, named, Option.bind_some, mark_equals, Option.bind_some, ran]
  rfl

theorem mark_comma_eq_some {cursor after : Cursor} (ran : mark "," cursor = some ((), after)) :
    ∃ spacing, cursor.rest = .punct ',' spacing :: after.rest := by
  obtain ⟨input, done⟩ := cursor
  rw [mark_apply] at ran
  split at ran
  · rename_i follows
    cases input with
    | nil => cases follows
    | cons token rest =>
      have comma := (atMark_comma token rest).mp follows
      cases ran
      cases token with
      | punct mark spacing =>
        cases comma
        exact ⟨spacing, rfl⟩
      | _ => exact comma.elim
  · cases ran

/-- What is read as options up to the end is written as options. -/
theorem isOptions_of_repeats {cursor after : Cursor} {pairs : List ((String × OptionValue) × Bool)}
    (repeats : Repeats (element "," List.isEmpty option) cursor pairs after) :
    after.rest = [] ∧ IsOptions cursor.rest (pairs.map (·.1)) := by
  induction repeats with
  | @done cursor after stopped =>
    rw [element_apply] at stopped
    split at stopped
    · rename_i ended
      cases stopped
      have empty := List.isEmpty_iff.mp ended
      exact ⟨empty, empty ▸ .none⟩
    · obtain ⟨found, _, ran⟩ := Option.bind_eq_some_iff.mp stopped
      split at ran
      · cases ran
      · obtain ⟨_, _, same⟩ := Option.map_eq_some_iff.mp ran
        cases same
  | @more cursor pair between pairs after stepped repeats ih =>
    obtain ⟨ended, others⟩ := ih
    refine ⟨ended, ?_⟩
    rw [element_apply] at stepped
    split at stepped
    · cases stepped
    · obtain ⟨⟨⟨key, value⟩, mid⟩, ranOption, ran⟩ := Option.bind_eq_some_iff.mp stepped
      obtain ⟨spacing, tokens, split, written⟩ := option_eq_some ranOption
      rw [split]
      split at ran
      · rename_i last
        cases ran
        have empty := List.isEmpty_iff.mp last
        rw [empty] at others ⊢
        cases pairs with
        | nil =>
          rw [List.append_nil]
          exact .last written
        | cons pair pairs => cases others
      · obtain ⟨marked, ranMark, same⟩ := Option.map_eq_some_iff.mp ran
        cases same
        obtain ⟨comma, follows⟩ := mark_comma_eq_some ranMark
        rw [follows]
        exact .more written others

/-- What is written as options is read as they are. -/
theorem repeats_of_isOptions {tokens : List Token} (written : IsOptions tokens found)
    (done : List Token) :
    ∃ pairs after, Repeats (element "," List.isEmpty option) ⟨tokens, done⟩ pairs ⟨[], after⟩ ∧
      pairs.map (·.1) = found ∧ pairs.length ≤ tokens.length := by
  have ended (done : List Token) :
      Repeats (element "," List.isEmpty option) ⟨[], done⟩ [] ⟨[], done⟩ :=
    .done rfl
  induction written generalizing done with
  | none => exact ⟨[], done, ended done, rfl, Nat.le_refl 0⟩
  | @last tokens value key spacing written =>
    have atEnd : AtComma [] := trivial
    obtain ⟨after, ran⟩ := option_append key spacing written atEnd done
    rw [List.append_nil] at ran
    refine ⟨[((key, value), false)], after, .more ?_ (ended after), rfl, by simp⟩
    rw [element_apply, ran]
    rfl
  | @more tokens value others pairs key spacing comma written rest ih =>
    have atNext : AtComma (.punct ',' comma :: others) := rfl
    obtain ⟨after, ran⟩ := option_append key spacing written atNext done
    obtain ⟨results, last, repeats, same, few⟩ := ih (.punct ',' .alone :: after)
    refine ⟨((key, value), true) :: results, last, .more ?_ repeats, congrArg _ same, ?_⟩
    · rw [element_apply, ran]
      rfl
    · simp only [List.length_cons, List.length_append]
      omega

/-- The options between the brackets of an attribute are read just if they are well-formed. -/
theorem read_options_iff {tokens : List Token} :
    (∃ trailing, read (fun _ => commaList option) tokens = some (found, trailing)) ↔
      IsOptions tokens found := by
  have run : read (fun _ => commaList option) tokens =
      complete (separated "," List.isEmpty option) tokens := rfl
  rw [run, complete, separated_apply]
  constructor
  · rintro ⟨trailing, ran⟩
    cases collected : collect (element "," List.isEmpty option) ⟨tokens, []⟩ with
    | none => simp [collected] at ran
    | some result =>
      obtain ⟨pairs, rest, done⟩ := result
      obtain ⟨ended, written⟩ := isOptions_of_repeats (repeats_of_collect collected)
      cases ended
      rw [collected] at ran
      cases ran
      exact written
  · intro written
    obtain ⟨pairs, after, repeats, rfl, few⟩ := repeats_of_isOptions written []
    exact ⟨_, by rw [repeats.collect few]; rfl⟩

/-- The options that an attribute gives: none if it has another name or nothing behind its name, and
those between its brackets. An attribute that is given a value is not well-formed. -/
inductive Gives (attr : Attribute) : List (String × OptionValue) → Prop where
  | other (named : attr.isNamed Refusal.attributeName = false) : Gives attr []
  | word (named : attr.isNamed Refusal.attributeName = true) (body : attr.body = .word) :
      Gives attr []
  | list (named : attr.isNamed Refusal.attributeName = true) (body : attr.body = .list tokens)
      (written : IsOptions tokens found) : Gives attr found

/-- The options of an attribute are read just if it gives them, and refused if it gives none. -/
theorem optionsOf_iff {attr : Attribute} : optionsOf attr = .ok found ↔ Gives attr found := by
  unfold optionsOf
  cases named : attr.isNamed Refusal.attributeName with
  | false =>
    rw [Bool.not_false, if_pos rfl]
    constructor
    · rintro ⟨⟩
      exact .other named
    · intro gives
      cases gives with
      | other => rfl
      | word same => cases named.symm.trans same
      | list same => cases named.symm.trans same
  | true =>
    rw [Bool.not_true, if_neg Bool.false_ne_true]
    cases body : attr.body with
    | word =>
      constructor
      · rintro ⟨⟩
        exact .word named body
      · intro gives
        cases gives with
        | other same => cases named.symm.trans same
        | word => rfl
        | list _ same => cases body.symm.trans same
    | value text =>
      refine ⟨nofun, fun gives => ?_⟩
      cases gives with
      | other same => cases named.symm.trans same
      | word _ same => cases body.symm.trans same
      | list _ same => cases body.symm.trans same
    | list tokens =>
      constructor
      · intro ran
        cases result : read (fun _ => commaList option) tokens with
        | none => simp [result] at ran
        | some pair =>
          simp only [result] at ran
          cases ran
          exact .list named body (read_options_iff.mp ⟨pair.2, result⟩)
      · intro gives
        cases gives with
        | other same => cases named.symm.trans same
        | word _ same => cases body.symm.trans same
        | list _ same written =>
          cases body.symm.trans same
          obtain ⟨trailing, result⟩ := read_options_iff.mpr written
          simp only [result]

/-- The options that attributes give together. -/
theorem options_iff {attrs : List Attribute} :
    options attrs = .ok found ↔ ∃ each, List.Forall₂ Gives attrs each ∧ each.flatten = found := by
  unfold options
  rw [bind_eq_ok]
  simp only [mapM_eq_ok, optionsOf_iff, pure, Except.pure, Except.ok.injEq]

/-- The path that the value of an option names: by its tokens, or in a text without a suffix. -/
inductive NamesPath : OptionValue → QualifiedPath → Prop where
  | tokens (path : pathOf? tokens = some found) : NamesPath (.tokens tokens) found
  | text (string : literalKind written = .string) (plain : plainText? written = some body)
      (lexed : Lexer.tokens? body = some tokens) (path : pathOf? tokens = some found) :
      NamesPath (.literal (some written)) found

theorem optionPath_iff {value : OptionValue} :
    optionPath value = .ok found ↔ NamesPath value found := by
  cases value with
  | tokens tokens =>
    rw [optionPath]
    cases path : pathOf? tokens with
    | none =>
      refine ⟨nofun, fun names => ?_⟩
      cases names with
      | tokens same => cases path.symm.trans same
    | some named =>
      constructor
      · rintro ⟨⟩
        exact .tokens path
      · intro names
        cases names with
        | tokens same => exact congrArg Except.ok (Option.some.inj (path.symm.trans same))
  | literal text? =>
    cases text? with
    | none => exact ⟨nofun, nofun⟩
    | some text =>
      rw [optionPath]
      constructor
      · intro ran
        split at ran
        · rename_i string
          split at ran
          · rename_i path
            cases ran
            obtain ⟨body, plain, path⟩ := Option.bind_eq_some_iff.mp path
            obtain ⟨tokens, lexed, path⟩ := Option.bind_eq_some_iff.mp path
            exact .text (beq_iff_eq.mp string) plain lexed path
          · cases ran
        · cases ran
      · rintro ⟨⟩
        rename_i string plain lexed path
        simp [string, plain, lexed, path]

/-- Whether the options in the attributes are well-formed, have no key but `crate`, and name a path
by the first of them. -/
def HasValidOptions (attrs : List Attribute) : Prop :=
  ∃ each, List.Forall₂ Gives attrs each ∧ (∀ pair ∈ each.flatten, pair.1 = Refusal.optionName) ∧
    ∀ pair, each.flatten.head? = some pair → ∃ path, NamesPath pair.2 path

/-- The path to the runtime is found just if the options are valid. -/
theorem runtimePath_iff {found : List (String × OptionValue)} :
    (∃ runtime, runtimePath found = .ok runtime) ↔
      (∀ pair ∈ found, pair.1 = Refusal.optionName) ∧
        ∀ pair, found.head? = some pair → ∃ path, NamesPath pair.2 path := by
  unfold runtimePath
  cases foreign : found.find? (·.1 != Refusal.optionName) with
  | some pair =>
    refine ⟨nofun, fun ⟨known, _⟩ => ?_⟩
    have unknown := List.find?_some foreign
    simp [known pair (List.mem_of_find?_eq_some foreign)] at unknown
  | none =>
    have known : ∀ pair ∈ found, pair.1 = Refusal.optionName := by
      simpa using List.find?_eq_none.mp foreign
    rw [and_iff_right known]
    cases found with
    | nil => simp [pure, Except.pure]
    | cons pair others =>
      obtain ⟨key, value⟩ := pair
      have same : key = Refusal.optionName := known (key, value) List.mem_cons_self
      have first : ((key, value) :: others).lookup Refusal.optionName = some value := by
        rw [same, List.lookup_cons_self]
      simp [first, bind_eq_ok, optionPath_iff, pure, Except.pure]

/-- The options are valid just if they are read and the path to the runtime is found. -/
theorem hasValidOptions_iff {attrs : List Attribute} :
    HasValidOptions attrs ↔
      ∃ found runtime, options attrs = .ok found ∧ runtimePath found = .ok runtime := by
  constructor
  · rintro ⟨each, gives, valid⟩
    obtain ⟨runtime, path⟩ := runtimePath_iff.mpr valid
    exact ⟨_, runtime, options_iff.mpr ⟨each, gives, rfl⟩, path⟩
  · rintro ⟨found, runtime, read, path⟩
    obtain ⟨each, gives, rfl⟩ := options_iff.mp read
    exact ⟨each, gives, runtimePath_iff.mp ⟨runtime, path⟩⟩

/-- With valid options it is the parameters and fields that decide. -/
theorem expand_struct {decl : StructDecl} (read : options decl.attrs = .ok found)
    (path : runtimePath found = .ok runtime) :
    expand (.struct decl) =
      if decl.isGeneric then .error .generic
      else match decl.fields.list with
        | [field] => .ok ⟨runtime, decl.name, field.name, field.ty⟩
        | _ => .error .notOneField := by
  rw [expand, Subject.attrs, read, ok_bind, path, ok_bind, Subject.isGeneric]
  cases decl.isGeneric <;> rfl

theorem expand_struct_error {decl : StructDecl} (invalid : ¬HasValidOptions decl.attrs) :
    ∃ refusal, expand (.struct decl) = .error refusal := by
  rw [hasValidOptions_iff] at invalid
  rw [expand, Subject.attrs]
  cases read : options decl.attrs with
  | error refusal => exact ⟨refusal, rfl⟩
  | ok found =>
    rw [ok_bind]
    cases path : runtimePath found with
    | error refusal => exact ⟨refusal, rfl⟩
    | ok runtime => exact (invalid ⟨found, runtime, read, path⟩).elim

open Discovery in
/-- A structure that derives the capability is expanded just if the scan takes it for a wrapper,
and for the payload that the expansion has, if its options are valid; otherwise it is refused. -/
theorem expand_iff_ofDerive? (scope? : Option String) (decl : StructDecl)
    (derives : Derives decl capability) :
    (HasValidOptions decl.attrs →
      ((∃ expansion, expand (.struct decl) = .ok expansion) ↔
        ∃ descriptor, ofDerive? scope? decl = some descriptor) ∧
      ∀ expansion descriptor, expand (.struct decl) = .ok expansion →
        ofDerive? scope? decl = some descriptor →
        descriptor.typeName = expansion.name ∧
          descriptor.payload = expansion.payload.display) ∧
    (¬HasValidOptions decl.attrs → ∃ refusal, expand (.struct decl) = .error refusal) := by
  refine ⟨fun valid => ?_, expand_struct_error⟩
  obtain ⟨found, runtime, read, path⟩ := hasValidOptions_iff.mp valid
  rw [expand_struct read path, ofDerive?, contains_derivedNames.mpr derives, Bool.true_and]
  cases decl.isGeneric with
  | true => exact ⟨⟨nofun, nofun⟩, nofun⟩
  | false =>
    rw [if_neg Bool.false_ne_true, Bool.not_false, if_pos rfl]
    rcases decl.fields.list with _ | ⟨field, _ | ⟨next, others⟩⟩
    · exact ⟨⟨nofun, nofun⟩, nofun⟩
    · refine ⟨⟨fun _ => ⟨_, rfl⟩, fun _ => ⟨_, rfl⟩⟩, ?_⟩
      rintro _ _ ⟨⟩ ⟨⟩
      exact ⟨rfl, rfl⟩
    · exact ⟨⟨nofun, nofun⟩, nofun⟩

/-- A structure that derives the capability by a path, with the given options. -/
def aged (options : List Token) : StructDecl :=
  ⟨[⟨false, ["derive"], .list ([.ident "Copy", .punct ',' .alone, .ident "kit"] ++
      Token.pathSeparator ++ [.ident "Value"])⟩,
    ⟨false, ["value"], .word⟩, ⟨false, ["value"], .list options⟩],
    "Age", false, .positional [⟨true, none, .path false [.plain "u8"]⟩]⟩

/-- A path, and then a number, which is not looked at. -/
def pathAndNumber : List Token :=
  [.ident "crate", .punct '=' .alone, .ident "kit", .punct ',' .alone,
    .ident "crate", .punct '=' .joint, .punct '-' .alone, .literal "1", .punct ',' .alone]

/-- A path without a key. -/
def keyless : List Token :=
  [.punct '=' .alone, .ident "kit"]

/-- Both kinds of options. -/
theorem expand_iff_ofDerive?_aged :
    Discovery.Derives (aged pathAndNumber) Discovery.capability ∧
    (HasValidOptions (aged pathAndNumber).attrs ∧
      ((∃ expansion, expand (.struct (aged pathAndNumber)) = .ok expansion) ↔
        ∃ descriptor, Discovery.ofDerive? none (aged pathAndNumber) = some descriptor)) ∧
    (¬HasValidOptions (aged keyless).attrs ∧
      ∃ refusal, expand (.struct (aged keyless)) = .error refusal) := by
  have derives (options : List Token) :
      Discovery.Derives (aged options) Discovery.capability := by
    apply Discovery.contains_derivedNames.mp
    rfl
  refine ⟨derives _, ?_, ?_⟩
  · have valid : HasValidOptions (aged pathAndNumber).attrs :=
      hasValidOptions_iff.mpr ⟨_, _, rfl, rfl⟩
    exact ⟨valid, ((expand_iff_ofDerive? none _ (derives _)).1 valid).1⟩
  · have invalid : ¬HasValidOptions (aged keyless).attrs := by
      rw [hasValidOptions_iff]
      rintro ⟨found, runtime, read, _⟩
      cases read
    exact ⟨invalid, (expand_iff_ofDerive? none _ (derives _)).2 invalid⟩

end ValueObjects.Derive
