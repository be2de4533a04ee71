import ValueObjects.Proofs.PlainTypes
import ValueObjects.Proofs.Readers

namespace ValueObjects

open Token
open size (sizes)

/-- The same tokens, with further operator characters joined. -/
inductive Joins : List Token → List Token → Prop where
  | nil : Joins [] []
  | ident (more : Joins tokens input) : Joins (.ident name :: tokens) (.ident name :: input)
  | literal (more : Joins tokens input) : Joins (.literal text :: tokens) (.literal text :: input)
  | punct (kept : spacing = .joint → joined = .joint) (more : Joins tokens input) :
      Joins (.punct mark spacing :: tokens) (.punct mark joined :: input)
  | group (inside : Joins body content) (more : Joins tokens input) :
      Joins (.group delimiter body :: tokens) (.group delimiter content :: input)

namespace Joins

theorem append_inv (joins : Joins (tokens ++ others) input) :
    ∃ first second, input = first ++ second ∧ Joins tokens first ∧ Joins others second := by
  induction tokens generalizing input with
  | nil => exact ⟨[], input, rfl, .nil, joins⟩
  | cons token rest ih =>
    cases joins with
    | ident more =>
      obtain ⟨first, second, rfl, left, right⟩ := ih more
      exact ⟨_, _, rfl, .ident left, right⟩
    | literal more =>
      obtain ⟨first, second, rfl, left, right⟩ := ih more
      exact ⟨_, _, rfl, .literal left, right⟩
    | punct kept more =>
      obtain ⟨first, second, rfl, left, right⟩ := ih more
      exact ⟨_, _, rfl, .punct kept left, right⟩
    | group inside more =>
      obtain ⟨first, second, rfl, left, right⟩ := ih more
      exact ⟨_, _, rfl, .group inside left, right⟩

theorem sizes_eq (joins : Joins tokens input) : sizes input = sizes tokens := by
  induction joins with
  | nil => rfl
  | ident _ ih => simp [sizes, size, ih]
  | literal _ ih => simp [sizes, size, ih]
  | punct _ _ ih => simp [sizes, size, ih]
  | group _ _ ihBody ih => simp [sizes, size, ihBody, ih]

theorem length_eq (joins : Joins tokens input) : input.length = tokens.length := by
  induction joins with
  | nil => rfl
  | _ => simp [*]

end Joins

/-- Tight tokens are joined when they are read from their compact text. -/
theorem Tight.joins (tight : Tight tokens) : Joins tokens (respacedAll tokens) := by
  induction tight with
  | nil => exact .nil
  | name _ _ _ _ ih => exact .ident ih
  | numeral _ _ _ _ _ ih => exact .literal ih
  | mark _ goes _ ih => exact .punct (fun joint => by simp [goes joint]) ih
  | lifetime _ ih => exact .punct (fun _ => rfl) ih
  | group _ _ _ ihBody ih => exact .group ihBody ih

namespace Grammar

/-- The reader takes the tokens, however they are joined, and gives the result wherever what
follows allows it. -/
def Yields (reader : Reader α) (tokens : List Token) (result : α)
    (follows : List Token → Prop) : Prop :=
  ∀ input, Joins tokens input → ∀ rest, follows rest → ∀ done,
    reader ⟨input ++ rest, done⟩ = some (result, ⟨rest, tokens.reverse ++ done⟩)

/-- Anything may follow. -/
def anywhere (_ : List Token) : Prop := True

variable {reader : Reader α} {tokens others : List Token} {result : α}
  {follows : List Token → Prop}

namespace Yields

theorem weaken {allowed : List Token → Prop} (yields : Yields reader tokens result allowed)
    (allows : ∀ rest, follows rest → allowed rest) : Yields reader tokens result follows :=
  fun input joins rest followed => yields input joins rest (allows rest followed)

theorem free (yields : Yields reader tokens result anywhere) :
    Yields reader tokens result follows :=
  yields.weaken fun _ _ => trivial

theorem pure (result : α) : Yields (Pure.pure result) [] result follows := by
  intro input joins rest _ done
  cases joins
  rfl

theorem bind {next : α → Reader β} {between : List Token → Prop} {last : β}
    (first : Yields reader tokens result between)
    (linked : ∀ input, Joins others input → ∀ rest, follows rest → between (input ++ rest))
    (second : Yields (next result) others last follows) :
    Yields (reader >>= next) (tokens ++ others) last follows := by
  intro input joins rest followed done
  obtain ⟨front, back, rfl, left, right⟩ := joins.append_inv
  rw [bind_apply, List.append_assoc, first front left _ (linked back right rest followed),
    Option.bind_some, second back right rest followed, List.reverse_append, List.append_assoc]

/-- A reader that may be followed by anything goes before any other. -/
theorem before {next : α → Reader β} {last : β} (first : Yields reader tokens result anywhere)
    (second : Yields (next result) others last follows) :
    Yields (reader >>= next) (tokens ++ others) last follows :=
  first.bind (fun _ _ _ _ => trivial) second

/-- A reader that takes all the tokens goes before one that takes none. -/
theorem after {next : α → Reader β} {between : List Token → Prop} {last : β}
    (first : Yields reader tokens result between)
    (linked : ∀ rest, follows rest → between rest)
    (second : Yields (next result) [] last follows) :
    Yields (reader >>= next) tokens last follows := by
  intro input joins rest followed done
  rw [bind_apply, first input joins rest (linked rest followed), Option.bind_some]
  exact second [] .nil rest followed _

/-- A reader whose result is changed at the end. -/
theorem map {next : α → Reader β} {last : β} (first : Yields reader tokens result follows)
    (ends : next result = Pure.pure last) : Yields (reader >>= next) tokens last follows :=
  first.after (fun _ => id) (ends ▸ .pure last)

/-- What the tokens to come decide. -/
theorem upcoming {body : List Token → Reader α} (reader : Reader α)
    (yields : Yields reader tokens result follows)
    (decided : ∀ input, Joins tokens input → ∀ rest, follows rest → body (input ++ rest) = reader) :
    Yields (Grammar.upcoming >>= body) tokens result follows := by
  intro input joins rest followed done
  rw [bind_apply, upcoming_apply, Option.bind_some, decided input joins rest followed]
  exact yields input joins rest followed done

theorem captured (yields : Yields reader tokens result follows) :
    Yields (captured reader) tokens (result, tokens) follows := by
  intro input joins rest followed done
  simp [Grammar.captured, yields input joins rest followed []]

theorem inside {delimiter : Delimiter} (yields : Yields reader tokens result (· = [])) :
    Yields (inside delimiter reader) [.group delimiter tokens] result anywhere := by
  intro input joins rest _ done
  cases joins with
  | @group _ content _ empty _ joined more =>
    cases more
    have taken := yields content joined [] rfl []
    rw [List.append_nil, List.append_nil] at taken
    rw [Grammar.inside, bind_apply, upcoming_apply, List.singleton_append]
    simp [taken]
    rfl

end Yields

theorem startsWith_append (joins : Joins (operator marks) input) (rest : List Token) :
    startsWith marks (input ++ rest) = true ∧ (input ++ rest).drop marks.length = rest := by
  induction marks generalizing input with
  | nil =>
    cases joins
    exact ⟨by simp [startsWith], rfl⟩
  | cons mark more ih =>
    cases more with
    | nil =>
      cases joins with
      | punct _ ended =>
        cases ended
        exact ⟨beq_self_eq_true mark, rfl⟩
    | cons next later =>
      cases joins with
      | punct kept joins =>
        obtain rfl := kept rfl
        obtain ⟨starts, dropped⟩ := ih joins
        refine ⟨?_, dropped⟩
        rw [List.cons_append, startsWith, starts, beq_self_eq_true]
        · rfl
        · exact List.cons_ne_nil _ _

/-! Words and operators. -/

theorem yields_mark {text : String} (spelled : operator text.toList = tokens) :
    Yields (mark text) tokens () anywhere := by
  subst spelled
  intro input joins rest _ done
  obtain ⟨starts, dropped⟩ := startsWith_append joins rest
  rw [mark_apply, atMark, if_pos starts, ← String.length_toList, dropped]

theorem yields_mark? {text : String} (spelled : operator text.toList = tokens) :
    Yields (mark? text) tokens true anywhere := by
  refine Yields.upcoming (mark text >>= fun _ => pure true) ?_ ?_
  · exact (yields_mark spelled).map rfl
  · intro input joins rest _
    subst spelled
    rw [atMark, if_pos (startsWith_append joins rest).1]

theorem yields_noMark (text : String) :
    Yields (mark? text) [] false fun rest => atMark text rest = false := by
  refine Yields.upcoming (pure false) (.pure false) ?_
  intro input joins rest absent
  cases joins
  simp [absent]

theorem yields_word (text : String) : Yields (word text) [.ident text] () anywhere := by
  intro input joins rest _ done
  cases joins with
  | ident more =>
    cases more
    have step : word text ⟨.ident text :: rest, done⟩ =
        (if text == text then consume [.ident text] rest else fail : Reader Unit)
          ⟨.ident text :: rest, done⟩ := rfl
    rw [List.singleton_append, step, if_pos (beq_self_eq_true text)]
    rfl

theorem yields_word? (text : String) : Yields (word? text) [.ident text] true anywhere := by
  refine Yields.upcoming (word text >>= fun _ => pure true) ?_ ?_
  · exact (yields_word text).map rfl
  · intro input joins rest _
    cases joins with
    | ident more => exact if_pos (beq_self_eq_true text)

theorem yields_noWord (text : String) :
    Yields (word? text) [] false fun rest => atWord text rest = false := by
  refine Yields.upcoming (pure false) (.pure false) ?_
  intro input joins rest absent
  cases joins
  simp [absent]

theorem yields_anyName (name : String) : Yields anyName [.ident name] name anywhere := by
  intro input joins rest _ done
  cases joins with
  | ident more =>
    cases more
    rfl

theorem yields_name {name : String} (free : name ∉ reserved) :
    Yields Grammar.name [.ident name] name anywhere := by
  intro input joins rest followed done
  have taken := yields_anyName name input joins rest followed done
  cases joins with
  | ident more =>
    cases more
    have follows : atName (.ident name :: rest) = true := by simpa [atName] using free
    rw [Grammar.name, bind_apply, require, bind_apply, upcoming_apply, Option.bind_some,
      List.singleton_append, if_pos follows]
    exact taken

theorem yields_lifetime (name : String) :
    Yields lifetime (Token.lifetime name) name anywhere := by
  intro input joins rest _ done
  cases joins with
  | punct kept more =>
    obtain rfl := kept rfl
    cases more with
    | ident more =>
      cases more
      rfl

theorem yields_lifetime? (name : String) :
    Yields lifetime? (Token.lifetime name) (some name) anywhere := by
  refine Yields.upcoming (lifetime >>= fun name => pure (some name)) ?_ ?_
  · exact (yields_lifetime name).map rfl
  · intro input joins rest _
    cases joins with
    | punct kept more =>
      obtain rfl := kept rfl
      cases more with
      | ident more => rfl

theorem yields_noLifetime : Yields lifetime? [] none fun rest => atLifetime rest = false := by
  refine Yields.upcoming (pure none) (.pure none) ?_
  intro input joins rest absent
  cases joins
  simp [absent]

theorem yields_literal (text : String) :
    Yields literal [.literal text] (some text) anywhere := by
  intro input joins rest _ done
  cases joins with
  | literal more =>
    cases more
    rfl

theorem yields_truth {name : String} (member : name ∈ ["true", "false"]) :
    Yields literal [.ident name] none anywhere := by
  intro input joins rest _ done
  cases joins with
  | ident more =>
    cases more
    have truth : (name == "true" || name == "false") = true := by simpa using member
    have step : literal ⟨.ident name :: rest, done⟩ =
        (if name == "true" || name == "false" then do
          consume [.ident name] rest
          return none
        else fail : Reader (Option String)) ⟨.ident name :: rest, done⟩ := rfl
    rw [List.singleton_append, step, if_pos truth]
    rfl

/-! Repetition. -/

/-- A step for each of the results, and one that gives nothing. -/
theorem yields_collect {step : Reader (Option β)} {results : List β} {written : β → List Token}
    (between : β → List Token → Prop)
    (each : ∀ result ∈ results, Yields step (written result) (some result) (between result))
    (filled : ∀ result ∈ results, written result ≠ [])
    (linked : ∀ result ∈ results.dropLast, ∀ next ∈ results, ∀ input, Joins (written next) input →
      ∀ rest, between result (input ++ rest))
    (closed : ∀ result ∈ results, ∀ rest, follows rest → between result rest)
    (stops : Yields step [] none follows) :
    Yields (collect step) (results.flatMap written) results follows := by
  intro input joins rest followed done
  refine Repeats.collect ?_ ?_
  · clear filled
    induction results generalizing input done with
    | nil =>
      cases joins
      exact .done (stops [] .nil rest followed done)
    | cons result more ih =>
      rw [List.forall_mem_cons] at each closed
      rw [List.flatMap_cons] at joins
      obtain ⟨front, back, rfl, left, right⟩ := joins.append_inv
      have goes : between result (back ++ rest) := by
        cases more with
        | nil =>
          cases right
          exact closed.1 rest followed
        | cons next later =>
          rw [List.flatMap_cons] at right
          obtain ⟨second, third, rfl, joined, _⟩ := right.append_inv
          rw [List.append_assoc]
          refine linked result ?_ next (by simp) second joined _
          simp
      have inner : ∀ result ∈ more.dropLast, ∀ next ∈ more, ∀ input, Joins (written next) input →
          ∀ rest, between result (input ++ rest) := by
        intro earlier member next present
        cases more with
        | nil => cases member
        | cons second later =>
          refine linked earlier ?_ next (List.mem_cons_of_mem _ present)
          rw [List.dropLast_cons_of_ne_nil (List.cons_ne_nil _ _)]
          exact List.mem_cons_of_mem _ member
      have taken := each.1 front left (back ++ rest) goes done
      have later := ih each.2 inner closed.2 back right ((written result).reverse ++ done)
      rw [List.append_assoc, List.flatMap_cons, List.reverse_append, List.append_assoc]
      exact .more taken later
  · rw [List.length_append, joins.length_eq]
    exact Nat.le_add_right_of_le (length_le_flatMap filled)

/-- Readers one after another, for as long as the test holds. -/
theorem yields_collectWhile {test : List Token → Bool} {written : α → List Token}
    (between : List Token → Prop) {elems : List α}
    (each : ∀ elem ∈ elems, Yields reader (written elem) elem between)
    (filled : ∀ elem ∈ elems, written elem ≠ [])
    (goes : ∀ elem ∈ elems, ∀ input, Joins (written elem) input → ∀ rest,
      test (input ++ rest) = true ∧ between (input ++ rest))
    (stops : ∀ rest, follows rest → test rest = false ∧ between rest) :
    Yields (collectWhile test reader) (elems.flatMap written) elems follows := by
  refine yields_collect (fun _ => between) ?_ filled ?_ ?_ ?_
  · intro elem member
    refine Yields.upcoming (reader >>= fun found => pure (some found)) ?_ ?_
    · exact (each elem member).map rfl
    · intro input joins rest _
      rw [if_pos (goes elem member input joins rest).1]
  · exact fun _ _ next present input joins rest => (goes next present input joins rest).2
  · exact fun _ _ rest followed => (stops rest followed).2
  · refine Yields.upcoming (pure none) (.pure none) ?_
    intro input joins rest followed
    cases joins
    simp [(stops rest followed).1]

/-- No reader at all where the test does not hold. -/
theorem yields_collectNone (test : List Token → Bool) (reader : Reader α) :
    Yields (collectWhile test reader) [] [] fun rest => test rest = false := by
  intro input joins rest absent done
  cases joins
  have stops : guarded test reader ⟨rest, done⟩ = some (none, ⟨rest, done⟩) := by
    rw [guarded_apply, if_neg (by simp [absent])]
  exact (Repeats.done stops).collect (Nat.zero_le _)

theorem punctuated_getLast? (trailing : Bool) (elems : List α) :
    (punctuated trailing elems).getLast?.any (·.2) = (!elems.isEmpty && trailing) := by
  induction elems with
  | nil => rfl
  | cons elem rest ih =>
    cases rest with
    | nil => rfl
    | cons next later =>
      have more : punctuated trailing (next :: later) ≠ [] := by
        cases later <;> exact List.cons_ne_nil _ _
      rw [punctuated, List.getLast?_cons_of_ne_nil more, ih]
      · rfl
      · exact List.cons_ne_nil _ _

section Elements

variable {stop : List Token → Bool} {between : List Token → Prop} {trailing : Bool}

/-- An element and the comma behind it. -/
theorem yields_followed {written : List Token} {elem : α}
    (yields : Yields reader written elem between)
    (goes : ∀ input, Joins written input → ∀ rest, stop (input ++ rest) = false)
    (comma : ∀ spacing rest, between (.punct ',' spacing :: rest) ∧
      stop (.punct ',' spacing :: rest) = false) :
    Yields (element "," stop reader) (written ++ [.comma]) (some (elem, true)) anywhere := by
  intro input joins rest _ done
  obtain ⟨front, back, rfl, left, right⟩ := joins.append_inv
  have separator : Yields (mark ",") [Token.comma] () anywhere := yields_mark rfl
  have marked := separator back right rest trivial (written.reverse ++ done)
  obtain ⟨spacing, rfl⟩ : ∃ spacing, back = [.punct ',' spacing] := by
    cases right with
    | punct _ more =>
      cases more
      exact ⟨_, rfl⟩
  have taken := yields front left _ (comma spacing rest).1 done
  rw [List.append_assoc, element_apply, if_neg (by simp [goes front left]), List.singleton_append,
    taken, Option.bind_some, if_neg (by simp [(comma spacing rest).2])]
  rw [List.singleton_append] at marked
  rw [marked, List.reverse_append, List.append_assoc]
  rfl

/-- An element that no comma follows. -/
theorem yields_last {written : List Token} {elem : α}
    (yields : Yields reader written elem between)
    (goes : ∀ input, Joins written input → ∀ rest, stop (input ++ rest) = false)
    (stops : ∀ rest, follows rest → stop rest = true ∧ between rest) :
    Yields (element "," stop reader) written (some (elem, false)) follows := by
  intro input joins rest followed done
  rw [element_apply, if_neg (by simp [goes input joins]),
    yields input joins rest (stops rest followed).2, Option.bind_some, if_pos (stops rest followed).1]

/-- Elements with commas between them, up to where the test holds. -/
theorem yields_separated {written : α → List Token} {elems : List α}
    (each : ∀ elem ∈ elems, Yields reader (written elem) elem between)
    (filled : ∀ elem ∈ elems, written elem ≠ [])
    (goes : ∀ elem ∈ elems, ∀ input, Joins (written elem) input → ∀ rest,
      stop (input ++ rest) = false)
    (comma : ∀ spacing rest, between (.punct ',' spacing :: rest) ∧
      stop (.punct ',' spacing :: rest) = false)
    (stops : ∀ rest, follows rest → stop rest = true ∧ between rest) :
    Yields (separated "," stop reader) (commaSeparated trailing (elems.map written))
      (elems, !elems.isEmpty && trailing) follows := by
  have pieces : commaSeparated trailing (elems.map written) =
      (punctuated trailing elems).flatMap fun pair =>
        written pair.1 ++ if pair.2 then [Token.comma] else [] := by
    rw [commaSeparated, punctuated_map, List.flatMap_map]
    refine congrArg (List.flatMap · _) (funext fun pair => ?_)
    cases pair.2 <;> simp
  have listed : ∀ pair ∈ punctuated trailing elems, pair.1 ∈ elems := by
    intro pair member
    rw [← punctuated_map_fst trailing elems]
    exact List.mem_map_of_mem member
  have ended : Yields (element "," stop reader) [] none follows := by
    intro input joins rest followed done
    cases joins
    rw [List.nil_append, element_apply, if_pos (stops rest followed).1]
    rfl
  have collected : Yields (collect (element "," stop reader))
      (commaSeparated trailing (elems.map written)) (punctuated trailing elems) follows := by
    rw [pieces]
    refine yields_collect (fun pair rest => pair.2 = false → follows rest) ?_ ?_ ?_
      (fun _ _ _ followed _ => followed) ended
    · intro pair member
      obtain ⟨elem, followed⟩ := pair
      have present := listed _ member
      cases followed with
      | true => exact (yields_followed (each elem present) (goes elem present) comma).free
      | false =>
        rw [if_neg Bool.false_ne_true, List.append_nil]
        exact (yields_last (each elem present) (goes elem present) stops).weaken
          fun rest followed => followed rfl
    · intro pair member
      exact List.append_ne_nil_of_left_ne_nil (filled pair.1 (listed pair member)) _
    · intro pair member _ _ _ _ _ last
      rw [punctuated_followed trailing elems pair member] at last
      cases last
  intro input joins rest followed done
  rw [separated_apply, collected input joins rest followed, Option.map_some]
  dsimp only
  rw [punctuated_map_fst, punctuated_getLast?]

end Elements

end Grammar

end ValueObjects
