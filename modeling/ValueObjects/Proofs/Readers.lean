import ValueObjects.Grammar.Cursor

namespace ValueObjects.Grammar

theorem bind_apply (reader : Reader α) (next : α → Reader β) (cursor : Cursor) :
    (reader >>= next) cursor = (reader cursor).bind fun found => next found.1 found.2 :=
  rfl

theorem pure_apply (a : α) (cursor : Cursor) : (pure a : Reader α) cursor = some (a, cursor) :=
  rfl

theorem upcoming_apply (cursor : Cursor) : upcoming cursor = some (cursor.rest, cursor) :=
  rfl

/-- A bind that succeeds is made of two runs that succeed. -/
theorem bind_eq_some {reader : Reader α} {next : α → Reader β} {cursor after : Cursor} :
    (reader >>= next) cursor = some (b, after) ↔
      ∃ a between, reader cursor = some (a, between) ∧ next a between = some (b, after) := by
  rw [bind_apply, Option.bind_eq_some_iff, Prod.exists]

/-- The runs of a step one after another, up to one that gives nothing. -/
inductive Repeats (step : Reader (Option α)) : Cursor → List α → Cursor → Prop where
  | done (stopped : step cursor = some (none, after)) : Repeats step cursor [] after
  | more (stepped : step cursor = some (some a, between)) (rest : Repeats step between as after) :
      Repeats step cursor (a :: as) after

variable {cursor after : Cursor}

theorem repeats_of_loop {step : Reader (Option α)} {fuel : Nat} {results : List α}
    (ran : loop step fuel cursor = some (results, after)) : Repeats step cursor results after := by
  induction fuel generalizing cursor results with
  | zero => cases ran
  | succ fuel ih =>
    obtain ⟨result?, between, first, ran⟩ := bind_eq_some.mp ran
    cases result? with
    | none =>
      cases ran
      exact .done first
    | some result =>
      obtain ⟨others, last, rest, ran⟩ := bind_eq_some.mp ran
      cases ran
      exact .more first (ih rest)

/-- Enough fuel for all runs and the one that gives nothing. -/
theorem Repeats.loop {step : Reader (Option α)} {results : List α} {fuel : Nat}
    (repeats : Repeats step cursor results after) (enough : results.length < fuel) :
    loop step fuel cursor = some (results, after) := by
  induction repeats generalizing fuel with
  | done stopped =>
    obtain ⟨fuel, rfl⟩ := Nat.exists_eq_succ_of_ne_zero (Nat.ne_zero_of_lt enough)
    rw [Grammar.loop, bind_apply, stopped]
    rfl
  | more stepped rest ih =>
    obtain ⟨fuel, rfl⟩ := Nat.exists_eq_succ_of_ne_zero (Nat.ne_zero_of_lt enough)
    rw [Grammar.loop, bind_apply, stepped, Option.bind_some]
    exact bind_eq_some.mpr ⟨_, _, ih (Nat.lt_of_succ_lt_succ enough), rfl⟩

theorem repeats_of_collect {step : Reader (Option α)} {results : List α}
    (ran : collect step cursor = some (results, after)) : Repeats step cursor results after :=
  repeats_of_loop ran

theorem Repeats.collect {step : Reader (Option α)} {results : List α}
    (repeats : Repeats step cursor results after) (few : results.length ≤ cursor.rest.length) :
    collect step cursor = some (results, after) :=
  repeats.loop (Nat.lt_succ_of_le few)

/-- One run of a reader, if the test holds. -/
def guarded (test : List Token → Bool) (reader : Reader α) : Reader (Option α) := do
  if test (← upcoming) then return some (← reader) else return none

theorem guarded_apply (test : List Token → Bool) (reader : Reader α) (cursor : Cursor) :
    guarded test reader cursor =
      if test cursor.rest then (reader cursor).map fun found => (some found.1, found.2)
      else some (none, cursor) := by
  rw [guarded, bind_apply, upcoming_apply, Option.bind_some]
  by_cases holds : test cursor.rest = true
  · rw [if_pos holds, if_pos holds, bind_apply]
    cases reader cursor <;> rfl
  · rw [if_neg holds, if_neg holds]
    rfl

theorem mark_apply (text : String) (cursor : Cursor) :
    mark text cursor =
      if atMark text cursor.rest then
        some ((), ⟨cursor.rest.drop text.length,
          (Token.operator text.toList).reverse ++ cursor.done⟩)
      else none := by
  have step : mark text cursor =
      (if atMark text cursor.rest then
        consume (Token.operator text.toList) (cursor.rest.drop text.length)
      else fail) cursor := rfl
  rw [step]
  split <;> rfl

theorem word_eq_none {text : String} (other : ¬atWord text cursor.rest = true) :
    word text cursor = none := by
  obtain ⟨input, done⟩ := cursor
  cases input with
  | nil => rfl
  | cons token rest =>
    cases token with
    | ident name =>
      change ¬(name == text) = true at other
      have step : word text ⟨.ident name :: rest, done⟩ =
          (if name == text then consume [.ident name] rest else fail : Reader Unit)
            ⟨.ident name :: rest, done⟩ := rfl
      rw [step, if_neg other]
      rfl
    | _ => rfl

theorem word?_apply (text : String) (cursor : Cursor) :
    word? text cursor =
      if atWord text cursor.rest then (word text cursor).map fun past => (true, past.2)
      else some (false, cursor) := by
  rw [word?, bind_apply, upcoming_apply, Option.bind_some]
  by_cases follows : atWord text cursor.rest = true
  · rw [if_pos follows, if_pos follows, bind_apply]
    cases word text cursor <;> rfl
  · rw [if_neg follows, if_neg follows]
    rfl

/-- What is captured is what the reader gives from a cursor that has read nothing. -/
theorem run_of_captured {reader : Reader α} {result : α}
    (ran : captured reader cursor = some ((result, tokens), after)) :
    ∃ inner, reader ⟨cursor.rest, []⟩ = some (result, inner) := by
  unfold captured at ran
  split at ran
  · rename_i read
    cases ran
    exact ⟨_, read⟩
  · cases ran

/-- An element and the operator behind it, unless the test holds where either could stand. -/
def element (operator : String) (stop : List Token → Bool) (elem : Reader α) :
    Reader (Option (α × Bool)) := do
  if stop (← upcoming) then return none
  let result ← elem
  if stop (← upcoming) then return some (result, false)
  mark operator
  return some (result, true)

theorem element_apply (operator : String) (stop : List Token → Bool) (elem : Reader α)
    (cursor : Cursor) :
    element operator stop elem cursor =
      if stop cursor.rest then some (none, cursor)
      else (elem cursor).bind fun found =>
        if stop found.2.rest then some (some (found.1, false), found.2)
        else (mark operator found.2).map fun past => (some (found.1, true), past.2) := by
  rw [element, bind_apply, upcoming_apply, Option.bind_some]
  by_cases ended : stop cursor.rest = true
  · rw [if_pos ended, if_pos ended]
    rfl
  · rw [if_neg ended, if_neg ended, bind_apply]
    congr
    funext ⟨found, between⟩
    rw [bind_apply, upcoming_apply, Option.bind_some]
    by_cases last : stop between.rest = true
    · rw [if_pos last, if_pos last]
      rfl
    · rw [if_neg last, if_neg last, bind_apply]
      cases mark operator between <;> rfl

/-- Separated elements are the elements of the runs. -/
theorem separated_apply (operator : String) (stop : List Token → Bool) (elem : Reader α)
    (cursor : Cursor) :
    separated operator stop elem cursor =
      (collect (element operator stop elem) cursor).map fun (pairs, after) =>
        ((pairs.map (·.1), pairs.getLast?.any (·.2)), after) := by
  rw [separated, bind_apply]
  change (collect (element operator stop elem) cursor).bind _ = _
  cases collect (element operator stop elem) cursor with
  | none => rfl
  | some found =>
    cases last : found.1.getLast? <;> simp [last, pure_apply]

end ValueObjects.Grammar
