import Mathlib.Data.List.Basic
import ValueObjects.Grammar
import ValueObjects.Proofs.LexedTokens
import ValueObjects.Proofs.Readers

namespace ValueObjects

open Lexer

namespace Legible

theorem drop (legible : Legible tokens) (count : Nat) : Legible (tokens.drop count) := by
  induction count generalizing tokens with
  | zero => exact legible
  | succ count ih =>
    cases tokens with
    | nil => exact legible
    | cons token rest => exact ih legible.tail

theorem head (legible : Legible (token :: rest)) (single : token.isJoint = false) :
    Legible [token] := by
  cases legible with
  | leaf single stands => exact .leaf single stands .nil
  | group inside => exact .group inside .nil
  | joint => cases single

/-- A lifetime at the head of legible tokens. -/
theorem lifetime (legible : Legible (.punct '\'' .joint :: .ident name :: rest)) :
    Legible (Token.lifetime name) := by
  cases legible with
  | leaf single => cases single
  | joint leads more => exact .joint leads (more.head rfl)

end Legible

theorem Grammar.startsWith_cons {first : Char}
    (begins : startsWith (first :: chars) tokens = true) :
    ∃ spacing rest, tokens = .punct first spacing :: rest ∧
      (chars ≠ [] → spacing = .joint ∧ startsWith chars rest = true) := by
  cases tokens with
  | nil => cases chars <;> cases begins
  | cons token rest =>
    cases token with
    | punct c spacing =>
      cases chars with
      | nil =>
        obtain rfl : first = c := by simpa [startsWith] using begins
        exact ⟨spacing, rest, rfl, fun filled => (filled rfl).elim⟩
      | cons next chars =>
        cases spacing with
        | alone => cases begins
        | joint =>
          obtain ⟨rfl, later⟩ : first = c ∧ startsWith (next :: chars) rest = true := by
            simpa [startsWith] using begins
          exact ⟨.joint, rest, rfl, fun _ => ⟨rfl, later⟩⟩
    | _ => cases chars <;> cases begins

theorem Token.operator_cons (mark : Char) (chars : List Char) :
    ∃ spacing rest, operator (mark :: chars) = .punct mark spacing :: rest := by
  cases chars with
  | nil => exact ⟨.alone, [], rfl⟩
  | cons next chars => exact ⟨.joint, operator (next :: chars), rfl⟩

/-- An operator at the head of legible tokens, free at its end. -/
theorem Legible.operator (legible : Legible tokens)
    (begins : Grammar.startsWith chars tokens = true) (plain : chars.contains '\'' = false) :
    Legible (Token.operator chars) := by
  induction chars generalizing tokens with
  | nil => exact .nil
  | cons mark more ih =>
    rw [List.contains_cons, Bool.or_eq_false_iff] at plain
    have noApostrophe : mark ≠ '\'' := by
      rintro rfl
      cases plain.1
    obtain ⟨spacing, rest, rfl, later⟩ := Grammar.startsWith_cons begins
    cases more with
    | nil =>
      refine .leaf rfl ?_ .nil
      cases legible with
      | leaf single stands =>
        cases spacing with
        | alone => exact stands
        | joint => cases single
      | joint leads =>
        cases leads with
        | operator isMark => exact stands_mark isMark noApostrophe
        | lifetime => contradiction
    | cons next more =>
      obtain ⟨rfl, goes⟩ := later (List.cons_ne_nil _ _)
      cases legible with
      | leaf single => cases single
      | joint leads legible =>
        have whole := ih legible goes plain.2
        obtain ⟨_, _, same, -⟩ := Grammar.startsWith_cons goes
        obtain ⟨_, _, shape⟩ := Token.operator_cons next more
        cases same
        have split : Token.operator (mark :: next :: more) =
            .punct mark .joint :: Token.operator (next :: more) := rfl
        rw [split]
        rw [shape] at whole ⊢
        cases leads with
        | operator isMark _ head goes apart =>
          cases head
          exact .joint (.operator isMark noApostrophe rfl goes apart) whole
        | lifetime => contradiction


namespace Grammar

open Std.Do

set_option mvcgen.warning false

/-- A cursor between legible tokens. -/
structure Cursor.IsLegible (cursor : Cursor) : Prop where
  rest : Legible cursor.rest
  done : Legible cursor.done.reverse

/-- The reader leaves the cursor between legible tokens, and what it gives has the property. -/
abbrev Gives (reader : Reader α) (holds : α → Prop) : Prop :=
  ⦃fun cursor => ⌜cursor.IsLegible⌝⦄ reader ⦃⇓? result cursor => ⌜cursor.IsLegible ∧ holds result⌝⦄

/-- The reader leaves the cursor between legible tokens. -/
abbrev Keeps (reader : Reader α) : Prop :=
  ⦃fun cursor => ⌜cursor.IsLegible⌝⦄ reader ⦃⇓? _ cursor => ⌜cursor.IsLegible⌝⦄

theorem gives_iff {reader : Reader α} : Gives reader holds ↔
    ∀ cursor, cursor.IsLegible → ∀ result after, reader cursor = some (result, after) →
      after.IsLegible ∧ holds result := by
  simp only [Triple.iff, SPred.entails_1, wp, PredTrans.apply_pushArg, StateT.run]
  constructor
  · intro gives cursor legible result after read
    have ends := gives cursor legible
    rw [read] at ends
    exact ends
  · intro gives cursor legible
    cases read : reader cursor with
    | none => trivial
    | some found => exact gives cursor legible _ _ read

theorem keeps_iff {reader : Reader α} : Keeps reader ↔
    ∀ cursor, cursor.IsLegible → ∀ result after, reader cursor = some (result, after) →
      after.IsLegible := by
  have trivially : Gives reader (fun _ => True) ↔ _ := gives_iff
  simpa [Gives] using trivially

theorem Gives.imp {reader : Reader α} {goes : α → Prop} (gives : Gives reader holds)
    (implies : ∀ result, holds result → goes result) : Gives reader goes :=
  gives_iff.mpr fun cursor legible result _ read =>
    (gives_iff.mp gives cursor legible _ _ read).imp_right (implies result)

theorem Keeps.gives {reader : Reader α} (keeps : Keeps reader) : Gives reader fun _ => True :=
  gives_iff.mpr fun cursor legible _ _ read => ⟨keeps_iff.mp keeps cursor legible _ _ read, trivial⟩

theorem Gives.keeps {reader : Reader α} (gives : Gives reader holds) : Keeps reader :=
  keeps_iff.mpr fun cursor legible _ _ read => (gives_iff.mp gives cursor legible _ _ read).1

theorem Gives.bind {reader : Reader α} {next : α → Reader β} {goes : β → Prop}
    (first : Gives reader holds) (more : ∀ result, holds result → Gives (next result) goes) :
    Gives (reader >>= next) goes := by
  apply gives_iff.mpr
  intro cursor legible result after read
  obtain ⟨found, between, ran, read⟩ := bind_eq_some.mp read
  obtain ⟨there, has⟩ := gives_iff.mp first cursor legible _ _ ran
  exact gives_iff.mp (more found has) between there _ _ read

theorem gives_pure {holds : α → Prop} (has : holds result) : Gives (pure result : Reader α) holds := by
  mvcgen

/-! One token. -/

@[spec]
theorem fail_spec {holds : PostCond α (.arg Cursor (.except PUnit .pure))} :
    ⦃fun _ => holds.2.1 ⟨⟩⦄ (fail : Reader α) ⦃holds⦄ := by
  simp only [Triple.iff, SPred.entails_1]
  intro cursor stopped
  exact stopped

theorem upcoming_rest :
    ⦃fun cursor => ⌜cursor.IsLegible⌝⦄ upcoming
    ⦃⇓? result cursor => ⌜cursor.IsLegible ∧ result = cursor.rest⌝⦄ := by
  mvcgen [upcoming]

@[spec]
theorem upcoming_spec : Keeps upcoming := by
  mvcgen [upcoming]

@[spec]
theorem consume_spec (tokens rest : List Token) :
    ⦃fun cursor => ⌜Legible rest ∧ Legible tokens ∧ Legible cursor.done.reverse⌝⦄
    consume tokens rest ⦃⇓? _ cursor => ⌜cursor.IsLegible⌝⦄ := by
  mvcgen [consume]
  rename_i cursor legible after
  obtain ⟨later, read, before⟩ := legible
  have done : after.2.done.reverse = cursor.done.reverse ++ tokens := by simp [after]
  exact ⟨later, done ▸ before.append read⟩

@[spec]
theorem require_spec : Keeps (require test) := by
  mvcgen [require]

@[spec]
theorem mark_spec (text : String) (plain : text.toList.contains '\'' = false) :
    Keeps (mark text) := by
  mvcgen [mark, upcoming_rest, -upcoming_spec]
  rename_i begins cursor found
  obtain ⟨legible, rfl⟩ := found
  exact ⟨legible.rest.drop _, legible.rest.operator begins plain, legible.done⟩

@[spec]
theorem mark?_spec (text : String) (plain : text.toList.contains '\'' = false) :
    Keeps (mark? text) := by
  mvcgen [mark?]

/-- A token that is no operator character is recorded as it is. -/
theorem Cursor.IsLegible.next {cursor : Cursor} {rest : List Token} (legible : cursor.IsLegible)
    (begins : token :: rest = cursor.rest) (single : token.isJoint = false) :
    Legible rest ∧ Legible [token] ∧ Legible cursor.done.reverse := by
  have whole := legible.rest
  rw [← begins] at whole
  exact ⟨whole.tail, whole.head single, legible.done⟩

@[spec]
theorem word_spec (text : String) : Keeps (word text) := by
  mvcgen [word, upcoming_rest, -upcoming_spec]
  rename_i found
  exact found.1.next found.2 rfl

@[spec]
theorem word?_spec (text : String) : Keeps (word? text) := by
  mvcgen [word?]

theorem anyName_gives : Gives anyName fun found => Legible [.ident found] := by
  mvcgen [anyName, upcoming_rest, -upcoming_spec]
  · rename_i found
    exact found.1.next found.2 rfl
  · rename_i found _ _ legible
    exact ⟨legible, (found.1.next found.2 rfl).2.1⟩

@[spec]
theorem anyName_spec : Keeps anyName :=
  anyName_gives.keeps

theorem name_gives : Gives name fun found => Legible [.ident found] := by
  mvcgen [name, anyName_gives, -anyName_spec]

@[spec]
theorem name_spec : Keeps name :=
  name_gives.keeps

theorem lifetime_gives : Gives lifetime fun found => Legible (Token.lifetime found) := by
  mvcgen [lifetime, upcoming_rest, -upcoming_spec]
  · rename_i found
    have whole := found.1.rest
    rw [← found.2] at whole
    exact ⟨whole.tail.tail, whole.lifetime, found.1.done⟩
  · rename_i found _ _ legible
    have whole := found.1.rest
    rw [← found.2] at whole
    exact ⟨legible, whole.lifetime⟩

@[spec]
theorem lifetime_spec : Keeps lifetime :=
  lifetime_gives.keeps

theorem lifetime?_gives :
    Gives lifetime? fun found? => ∀ found ∈ found?, Legible (Token.lifetime found) := by
  mvcgen [lifetime?, lifetime_gives, -lifetime_spec]
  · rename_i found
    exact ⟨found.1, by simpa using found.2⟩
  · rename_i legible
    exact ⟨legible, by simp⟩

@[spec]
theorem lifetime?_spec : Keeps lifetime? :=
  lifetime?_gives.keeps

@[spec]
theorem literal_spec : Keeps literal := by
  mvcgen [literal, upcoming_rest, -upcoming_spec]
  · rename_i found
    exact found.1.next found.2 rfl
  · rename_i found
    exact found.1.next found.2 rfl
  · rename_i found
    have whole := found.1.rest
    rw [← found.2] at whole
    have sign : Legible [.punct '-' .alone] :=
      .leaf rfl (stands_mark (by decide) (by decide)) .nil
    exact ⟨whole.tail.tail, sign.append (whole.tail.head rfl), found.1.done⟩

@[spec]
theorem literalOf_spec : Keeps (literalOf kind) := by
  mvcgen [literalOf, upcoming_rest, -upcoming_spec]
  rename_i found
  exact found.1.next found.2 rfl

@[spec]
theorem anyGroup_spec : Keeps anyGroup := by
  mvcgen [anyGroup, upcoming_rest, -upcoming_spec]
  rename_i found
  exact found.1.next found.2 rfl

@[spec]
theorem atEnd_spec : Keeps atEnd := by
  mvcgen [atEnd]

/-! Readers made of others. -/

theorem Cursor.isLegible_start (legible : Legible tokens) : Cursor.IsLegible ⟨tokens, []⟩ :=
  ⟨legible, .nil⟩

theorem inside_gives {reader : Reader α} (gives : Gives reader holds) :
    Gives (inside delimiter reader) holds := by
  mvcgen [inside, upcoming_rest, -upcoming_spec]
  · rename_i ran cursor found
    obtain ⟨legible, after, before⟩ := found.1.next found.2 rfl
    obtain ⟨there, -⟩ := gives_iff.mp gives _ (Cursor.isLegible_start after.inside) _ _ ran
    exact ⟨legible, .group there.done .nil, before⟩
  · rename_i ran _ found _ _ legible
    obtain ⟨-, after, -⟩ := found.1.next found.2 rfl
    exact ⟨legible, (gives_iff.mp gives _ (Cursor.isLegible_start after.inside) _ _ ran).2⟩

@[spec]
theorem inside_spec {reader : Reader α} (keeps : Keeps reader) :
    Keeps (inside delimiter reader) :=
  (inside_gives keeps.gives).keeps

@[spec]
theorem attempt_spec {reader : Reader α} (keeps : Keeps reader) : Keeps (attempt reader) := by
  apply keeps_iff.mpr
  intro cursor legible result after read
  unfold attempt at read
  split at read
  · rename_i found between ran
    cases read
    exact keeps_iff.mp keeps cursor legible _ _ ran
  · cases read
    exact legible

/-- Looking ahead does not move. -/
@[spec]
theorem ahead_spec {reader : Reader α} : Keeps (ahead reader) := by
  apply keeps_iff.mpr
  intro cursor legible result after read
  unfold ahead at read
  split at read
  all_goals
    cases read
    exact legible

theorem captured_gives {reader : Reader α} (gives : Gives reader holds) :
    Gives (captured reader) fun found => holds found.1 ∧ Legible found.2 := by
  apply gives_iff.mpr
  intro cursor legible result after read
  unfold captured at read
  split at read
  · rename_i found between ran
    cases read
    obtain ⟨there, has⟩ := gives_iff.mp gives _ (Cursor.isLegible_start legible.rest) _ _ ran
    refine ⟨⟨there.rest, ?_⟩, has, there.done⟩
    simpa using legible.done.append there.done
  · cases read

@[spec]
theorem captured_spec {reader : Reader α} (keeps : Keeps reader) : Keeps (captured reader) :=
  (captured_gives keeps.gives).keeps

section Repeating

variable {holds : α → Prop}

theorem loop_gives {step : Reader (Option α)}
    (gives : Gives step fun found? => ∀ found ∈ found?, holds found) (fuel : Nat) :
    Gives (loop step fuel) fun found => ∀ one ∈ found, holds one := by
  induction fuel with
  | zero => mvcgen [loop]
  | succ fuel ih =>
    mvcgen [loop, gives, ih]
    · rename_i first
      exact first.1
    · rename_i first _ _ others
      exact ⟨others.1, List.forall_mem_cons.mpr ⟨first.2 _ rfl, others.2⟩⟩
    · rename_i stopped
      exact ⟨stopped.1, by simp⟩

theorem collect_gives {step : Reader (Option α)}
    (gives : Gives step fun found? => ∀ found ∈ found?, holds found) :
    Gives (collect step) fun found => ∀ one ∈ found, holds one := by
  have loops := loop_gives gives
  mvcgen [collect, loops]

@[spec]
theorem collect_spec {step : Reader (Option α)} (keeps : Keeps step) : Keeps (collect step) :=
  (collect_gives (keeps.gives.imp fun _ _ _ _ => trivial)).keeps

theorem collectWhile_gives {reader : Reader α} (gives : Gives reader holds) :
    Gives (collectWhile test reader) fun found => ∀ one ∈ found, holds one := by
  unfold collectWhile
  apply collect_gives
  mvcgen [gives]
  · rename_i found
    exact ⟨found.1, by simpa using found.2⟩
  · rename_i legible
    exact ⟨legible, by simp⟩

@[spec]
theorem collectWhile_spec {reader : Reader α} (keeps : Keeps reader) :
    Keeps (collectWhile test reader) :=
  (collectWhile_gives keeps.gives).keeps

@[spec]
theorem collectAll_spec {reader : Reader α} (keeps : Keeps reader) : Keeps (collectAll reader) :=
  collectWhile_spec keeps

theorem separated_gives {elem : Reader α} (plain : operator.toList.contains '\'' = false)
    (gives : Gives elem holds) :
    Gives (separated operator stop elem) fun found => ∀ one ∈ found.1, holds one := by
  have step : Gives (do
      if stop (← upcoming) then return none
      let result ← elem
      if stop (← upcoming) then return some (result, false)
      mark operator
      return some (result, true)) fun found? => ∀ found ∈ found?, holds found.1 := by
    mvcgen [gives] with grind
  have pairs := collect_gives step
  mvcgen [separated, pairs, -collect_spec]
  rename_i found
  refine ⟨found.1, fun one member => ?_⟩
  obtain ⟨pair, present, rfl⟩ := List.mem_map.mp member
  exact found.2 pair present

@[spec]
theorem separated_spec {elem : Reader α} (plain : operator.toList.contains '\'' = false)
    (keeps : Keeps elem) : Keeps (separated operator stop elem) :=
  (separated_gives plain keeps.gives).keeps

@[spec]
theorem commaList_spec {elem : Reader α} (keeps : Keeps elem) : Keeps (commaList elem) :=
  separated_spec rfl keeps

theorem seriesUpTo_spec {elem : Reader α} {stop : List Token → Bool}
    (plain : operator.toList.contains '\'' = false)
    (keeps : Keeps elem) (fuel : Nat) : Keeps (seriesUpTo operator stop elem fuel) := by
  induction fuel with
  | zero => mvcgen [seriesUpTo]
  | succ fuel ih => mvcgen [seriesUpTo, keeps, ih]

@[spec]
theorem series_spec {elem : Reader α} (plain : operator.toList.contains '\'' = false)
    (keeps : Keeps elem) : Keeps (series operator stop elem) := by
  have ends : ∀ fuel, Keeps (seriesUpTo operator stop elem fuel) := seriesUpTo_spec plain keeps
  mvcgen [series, ends]

end Repeating

end Grammar

end ValueObjects
