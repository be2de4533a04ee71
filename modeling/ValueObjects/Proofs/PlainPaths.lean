import ValueObjects.Grammar
import ValueObjects.Proofs.Yielding

namespace ValueObjects

open Grammar
open Token (pathSeparator)
open Token.size (sizes)

/-! Numbers of tokens. -/

theorem sizes_append (tokens others : List Token) :
    sizes (tokens ++ others) = sizes tokens + sizes others := by
  induction tokens with
  | nil => simp [sizes]
  | cons token rest ih => rw [List.cons_append, sizes, sizes, ih, Nat.add_assoc]

theorem sizes_le_flatMap (written : α → List Token) {elems : List α} (member : elem ∈ elems) :
    sizes (written elem) ≤ sizes (elems.flatMap written) := by
  obtain ⟨before, after, rfl⟩ := List.append_of_mem member
  rw [List.flatMap_append, List.flatMap_cons, sizes_append, sizes_append]
  omega

theorem sizes_le_joinSteps (member : step ∈ steps) : sizes step ≤ sizes (joinSteps steps) := by
  cases steps with
  | nil => cases member
  | cons first rest =>
    rw [joinSteps_cons, sizes_append]
    rcases List.mem_cons.mp member with rfl | member
    · exact Nat.le_add_right _ _
    · have joined := sizes_le_flatMap (pathSeparator ++ ·) member
      rw [sizes_append] at joined
      omega

theorem sizes_le_commaSeparated (trailing : Bool) (member : elem ∈ elems) :
    sizes elem ≤ sizes (commaSeparated trailing elems) := by
  rw [← punctuated_map_fst trailing elems] at member
  obtain ⟨pair, present, rfl⟩ := List.mem_map.mp member
  refine Nat.le_trans ?_ (sizes_le_flatMap _ present)
  dsimp only
  split
  · rw [sizes_append]
    exact Nat.le_add_right _ _
  · exact Nat.le_refl _

/-! What may follow. -/

/-- The operator characters that may follow a type. -/
def endMarks : List Char := ['>', ',', ';']

/-- What may follow a type. -/
inductive Ends : List Token → Prop where
  | ended : Ends []
  | mark {mark : Char} (member : mark ∈ endMarks) : Ends (.punct mark spacing :: rest)
  | cast : Ends (.ident "as" :: rest)

/-- What may follow a generic argument. -/
inductive ArgumentEnds : List Token → Prop where
  | mark {mark : Char} (member : mark ∈ ['>', ',']) : ArgumentEnds (.punct mark spacing :: rest)

/-- What may follow a step of a path: what follows the path, or the next step. -/
inductive StepEnds : List Token → Prop where
  | last (ends : Ends rest) : StepEnds rest
  | step {name : String} :
      StepEnds (.punct ':' .joint :: .punct ':' spacing :: .ident name :: rest)

theorem ArgumentEnds.ends (ends : ArgumentEnds rest) : Ends rest := by
  cases ends with
  | mark member =>
    exact .mark (List.mem_append_left [';'] member)

section Characters

variable {text name : String} {mark : Char}

/-- Whether a text begins with another character than these. -/
def avoids (text : String) (marks : List Char) : Bool :=
  text.toList.head?.any fun c => !marks.contains c

theorem exists_of_avoids {marks : List Char} (other : avoids text marks = true) :
    ∃ c more, text.toList = c :: more ∧ c ∉ marks := by
  obtain ⟨c, first, outside⟩ := (Option.any_eq_true _ _).mp other
  obtain ⟨more, split⟩ := List.head?_eq_some_iff.mp first
  exact ⟨c, more, split, by simpa using outside⟩

theorem avoids_of_subset {fewer marks : List Char} (other : avoids text marks = true)
    (subset : fewer ⊆ marks) : avoids text fewer = true := by
  obtain ⟨c, more, split, outside⟩ := exists_of_avoids other
  simpa [avoids, split] using fun member => outside (subset member)

/-- An operator does not follow where another character does. -/
theorem atMark_of_avoids {marks : List Char} (other : avoids text marks = true)
    (member : mark ∈ marks) : atMark text (.punct mark spacing :: rest) = false := by
  obtain ⟨c, more, split, outside⟩ := exists_of_avoids other
  have differs : (c == mark) = false := beq_eq_false_iff_ne.mpr fun same => outside (same ▸ member)
  rw [atMark, split]
  cases more with
  | nil => exact differs
  | cons next later => cases spacing <;> simp [startsWith, differs]

/-- No operator follows where no operator character does. -/
theorem atMark_of_noMark {marks : List Char} (other : avoids text marks = true)
    (none : beginsMark tokens = false) : atMark text tokens = false := by
  obtain ⟨c, more, split, _⟩ := exists_of_avoids other
  rw [atMark, split]
  cases tokens with
  | nil => cases more <;> rfl
  | cons token rest =>
    cases token with
    | punct mark spacing => cases none
    | _ => cases more <;> rfl

/-- No operator follows a type, but for brackets and separators. -/
theorem Ends.not_atMark (ends : Ends rest) (other : avoids text endMarks = true) :
    atMark text rest = false := by
  cases ends with
  | ended | cast => exact atMark_of_noMark other rfl
  | mark member => exact atMark_of_avoids other member

theorem ArgumentEnds.not_atMark (ends : ArgumentEnds rest) (other : avoids text endMarks = true) :
    atMark text rest = false :=
  ends.ends.not_atMark other

/-! What a type begins with. -/

/-- A type does not begin with any other reserved word. -/
theorem ne_of_begins (free : name ∉ reserved ∨ name ∈ leadWords)
    (member : text ∈ reserved ∧ text ∉ leadWords) : (name == text) = false := by
  rw [beq_eq_false_iff_ne]
  rintro rfl
  exact free.elim (fun free => free member.1) member.2

theorem Begins.ne_nil (begins : Begins tokens) : tokens ≠ [] := by
  cases begins <;> exact List.cons_ne_nil _ _

theorem Begins.sizes_pos (begins : Begins tokens) : 0 < sizes tokens := by
  cases begins <;> simp only [sizes, Token.size] <;> omega

theorem Begins.joins (begins : Begins tokens) (joins : Joins tokens input) :
    Begins (input ++ rest) := by
  cases begins with
  | name free =>
    cases joins with
    | ident more => exact .name free
  | root =>
    cases joins with
    | punct kept more =>
      obtain rfl := kept rfl
      cases more with
      | punct _ more => exact .root
  | mark member =>
    cases joins with
    | punct _ more => exact .mark member
  | group round =>
    cases joins with
    | group inside more => exact .group round

theorem Begins.not_atMark (begins : Begins tokens)
    (other : avoids text (leadMarks ++ [':']) = true) : atMark text tokens = false := by
  cases begins with
  | name | group => exact atMark_of_noMark other rfl
  | @root spacing =>
    have colon : ':' ∈ leadMarks ++ [':'] := by decide
    exact atMark_of_avoids other colon
  | mark member => exact atMark_of_avoids other (List.mem_append_left [':'] member)

theorem Begins.not_atWord (begins : Begins tokens)
    (member : text ∈ reserved ∧ text ∉ leadWords) : atWord text tokens = false := by
  cases begins with
  | name free => exact ne_of_begins free member
  | _ => rfl

theorem Begins.not_atLifetime (begins : Begins tokens) : atLifetime tokens = false := by
  cases begins with
  | mark member =>
    simp only [leadMarks, List.mem_cons, List.not_mem_nil, or_false] at member
    rcases member with rfl | rfl | rfl | rfl <;> rfl
  | _ => rfl

theorem Begins.not_atLiteral (begins : Begins tokens) : atLiteral tokens = false := by
  cases begins with
  | @name name _ free =>
    have words : ∀ text ∈ ["true", "false"], text ∈ reserved ∧ text ∉ leadWords := by decide
    rw [atLiteral, ne_of_begins free (words "true" (by decide)),
      ne_of_begins free (words "false" (by decide))]
    rfl
  | mark member =>
    simp only [leadMarks, List.mem_cons, List.not_mem_nil, or_false] at member
    rcases member with rfl | rfl | rfl | rfl <;> rfl
  | _ => rfl

theorem Begins.not_atBrace (begins : Begins tokens) : atGroup .brace tokens = false := by
  cases begins with
  | group round => exact beq_eq_false_iff_ne.mpr round
  | _ => rfl

end Characters

namespace Grammar

/-! What the parts of a type yield, if smaller types are yielded. -/

/-- Readers that yield the plain types of at most so many tokens, and how often a list is
repeated. -/
structure YieldsPlain (rules : Rules) (bound : Nat) : Prop where
  type : ∀ ty, Ty.IsPlain ty → sizes ty.tokens ≤ bound → ∀ plus,
    Yields (rules.type plus) ty.tokens ty Ends
  length : ∀ written, IsLength written → ∃ expr,
    Yields (rules.expr true) written expr (· = [])

variable {rules : Rules} {bound : Nat} {text name : String}

theorem yields_argumentTail : Yields (argumentTail rules) [] false ArgumentEnds := by
  refine (yields_noMark "=").after (fun rest ends => ends.not_atMark (by decide)) ?_
  rw [if_neg Bool.false_ne_true]
  exact (yields_noMark ":").after (fun rest ends => ends.not_atMark (by decide)) (.pure false)

theorem yields_constant (constant : IsConstant written) :
    Yields (argument rules) written (.other written) ArgumentEnds := by
  have read : ∃ text, Yields literal written text ArgumentEnds := by
    cases constant with
    | numeral numeral => exact ⟨_, (yields_literal _).free⟩
    | truth member => exact ⟨_, (yields_truth member).free⟩
  have marked : ∀ input, Joins written input → ∀ rest,
      atLifetime (input ++ rest) = false ∧ atLiteral (input ++ rest) = true := by
    intro input joins rest
    cases constant with
    | numeral numeral =>
      cases joins with
      | literal more => exact ⟨rfl, rfl⟩
    | truth member =>
      cases joins with
      | ident more =>
        refine ⟨rfl, ?_⟩
        simpa [atLiteral] using member
  obtain ⟨text, read⟩ := read
  have taken : Yields (constArgument rules) written () ArgumentEnds :=
    .upcoming (literal >>= fun _ => pure ()) (read.map rfl) fun input joins rest ends => by
      rw [if_pos (marked input joins rest).2]
  refine Yields.upcoming (captured (constArgument rules) >>= fun found => pure (.other found.2))
    (taken.captured.map rfl) ?_
  intro input joins rest ends
  obtain ⟨other, holds⟩ := marked input joins rest
  rw [other, holds]
  rfl

/-- A type as a generic argument; tells whether a binding or a constraint follows it. -/
def typeArgument (rules : Rules) : Reader (Ty × Bool) := do
  let ty ← rules.type true
  let bound ← if singleStep? ty then argumentTail rules else pure false
  return (ty, bound)

theorem yields_typeArgument (yields : YieldsPlain rules bound) (plain : Ty.IsPlain found)
    (small : sizes found.tokens ≤ bound) :
    Yields (argument rules) found.tokens (.type found) ArgumentEnds := by
  have read : Yields (typeArgument rules) found.tokens (found, false) ArgumentEnds := by
    refine (yields.type found plain small true).after (fun rest ends => ends.ends) ?_
    dsimp only
    split
    · exact yields_argumentTail.map rfl
    · exact Yields.map (.pure false) rfl
  refine Yields.upcoming (captured (typeArgument rules) >>= fun found =>
    pure (if found.1.2 then .other found.2 else .type found.1.1)) (read.captured.map rfl) ?_
  intro input joins rest ends
  have begins : Begins (input ++ rest) := plain.begins.joins joins
  rw [begins.not_atLifetime, begins.not_atLiteral, begins.not_atBrace]
  rfl

theorem yields_argument (yields : YieldsPlain rules bound) (plain : Argument.IsPlain found)
    (small : sizes found.tokens.2 ≤ bound) :
    Yields (argument rules) found.tokens.2 found ArgumentEnds := by
  cases plain with
  | type plain => exact yields_typeArgument yields plain small
  | constant constant => exact yields_constant constant
  | lifetime word =>
    refine Yields.upcoming (lifetime >>= fun name => pure (.lifetime name))
      ((yields_lifetime _).free.map rfl) ?_
    intro input joins rest ends
    cases joins with
    | punct kept more =>
      obtain rfl := kept rfl
      cases more with
      | ident more =>
        cases more
        have plus : atMark "+" rest = false := ends.not_atMark (by decide)
        simp [atLifetime, skip, plus]

/-- A closing angle bracket follows. -/
def Closing (rest : List Token) : Prop :=
  ∃ spacing more, rest = .punct '>' spacing :: more

theorem filled_argument (plain : Argument.IsPlain found) : found.tokens.2 ≠ [] := by
  cases plain with
  | lifetime word => exact List.cons_ne_nil _ _
  | type plain => exact plain.begins.ne_nil
  | constant constant => cases constant <;> exact List.cons_ne_nil _ _

/-- An argument begins with no other operators than a type or a lifetime does. -/
theorem not_atMark_argument (plain : Argument.IsPlain found) (joins : Joins found.tokens.2 input)
    (other : avoids text (leadMarks ++ [':'] ++ ['\'']) = true) :
    atMark text (input ++ rest) = false := by
  cases plain with
  | lifetime word =>
    cases joins with
    | punct kept more =>
      have apostrophe : '\'' ∈ leadMarks ++ [':'] ++ ['\''] := by decide
      exact atMark_of_avoids other apostrophe
  | type plain =>
    refine (plain.begins.joins joins).not_atMark (avoids_of_subset other ?_)
    exact List.subset_append_left _ ['\'']
  | constant constant =>
    cases constant with
    | numeral numeral =>
      cases joins with
      | literal more => exact atMark_of_noMark other rfl
    | truth member =>
      cases joins with
      | ident more => exact atMark_of_noMark other rfl

variable {arguments : List Argument} {trailing inTurbofish inExpr : Bool}

theorem yields_arguments (yields : YieldsPlain rules bound)
    (each : ∀ argument ∈ arguments, Argument.IsPlain argument)
    (empty : arguments = [] → trailing = false)
    (small : ∀ argument ∈ arguments, sizes argument.tokens.2 ≤ bound) :
    Yields (separated "," (atMark ">") (argument rules))
      (commaSeparated trailing (arguments.map (·.tokens.2))) (arguments, trailing) Closing := by
  have whole : (!arguments.isEmpty && trailing) = trailing := by
    cases arguments with
    | nil => rw [empty rfl]; rfl
    | cons => rfl
  rw [← whole]
  conv => enter [2]; rw [whole]
  refine yields_separated (fun argument member =>
    yields_argument yields (each argument member) (small argument member)) ?_ ?_ ?_ ?_
  · exact fun argument member => filled_argument (each argument member)
  · exact fun argument member input joins rest =>
      not_atMark_argument (each argument member) joins (by decide)
  · exact fun spacing rest => ⟨.mark (by decide), rfl⟩
  · rintro rest ⟨spacing, more, rfl⟩
    exact ⟨rfl, .mark (by decide)⟩

theorem yields_angleArguments (inTurbofish : Bool) (yields : YieldsPlain rules bound)
    (each : ∀ argument ∈ arguments, Argument.IsPlain argument)
    (empty : arguments = [] → trailing = false)
    (small : ∀ argument ∈ arguments, sizes argument.tokens.2 ≤ bound) :
    Yields (angleArguments rules inTurbofish)
      (.punct '<' .alone ::
        (commaSeparated trailing (arguments.map (·.tokens.2)) ++ [.punct '>' .alone]))
      (.angle inTurbofish arguments trailing) anywhere := by
  have opened : Yields (mark "<") [.punct '<' .alone] () anywhere := yields_mark rfl
  have closed : Yields (mark ">" >>= fun _ => pure (.angle inTurbofish arguments trailing))
      [.punct '>' .alone] (Arguments.angle inTurbofish arguments trailing) anywhere :=
    Yields.map (yields_mark rfl) rfl
  refine opened.before ((yields_arguments yields each empty small).bind ?_ closed)
  intro input joins rest _
  cases joins with
  | punct _ more => exact ⟨_, _, rfl⟩

/-- What follows the name of a step of a path. -/
def stepArguments (rules : Rules) (inExpr : Bool) (name : String) : Reader Segment := do
  let tokens ← upcoming
  if !inExpr && atMark "<" tokens && !atMark "<=" tokens then
    return .mk name (← angleArguments rules false)
  else if atMark "::" tokens && atMark "<" (skip (skip tokens)) then
    return .mk name (← turbofish rules)
  else
    return .plain name

theorem yields_noArguments :
    Yields (stepArguments rules inExpr name) [] (.plain name) StepEnds := by
  refine Yields.upcoming (pure (.plain name)) (.pure _) ?_
  intro input joins rest ends
  cases joins
  cases ends with
  | last ends =>
    have angle : atMark "<" rest = false := ends.not_atMark (by decide)
    have root : atMark "::" rest = false := ends.not_atMark (by decide)
    simp [angle, root]
  | step => cases inExpr <;> rfl

theorem exists_commaSeparated (trailing : Bool) (elem : List Token) (rest : List (List Token)) :
    ∃ tail, commaSeparated trailing (elem :: rest) = elem ++ tail := by
  cases rest with
  | nil => exact ⟨_, commaSeparated_single trailing elem⟩
  | cons next more => exact ⟨_, commaSeparated_cons trailing elem next more⟩

/-- An angle bracket that opens a list is no comparison. -/
theorem not_atMark_comparison (each : ∀ argument ∈ arguments, Argument.IsPlain argument)
    (joins : Joins (commaSeparated trailing (arguments.map (·.tokens.2)) ++ [.punct '>' .alone])
      input) (spacing : Spacing) (rest : List Token) :
    atMark "<=" (.punct '<' spacing :: (input ++ rest)) = false := by
  have second : atMark "=" (input ++ rest) = false := by
    cases arguments with
    | nil =>
      cases joins with
      | punct _ more => rfl
    | cons argument more =>
      obtain ⟨tail, first⟩ :=
        exists_commaSeparated trailing argument.tokens.2 (more.map (·.tokens.2))
      rw [List.map_cons, first, List.append_assoc] at joins
      obtain ⟨front, back, rfl, left, _⟩ := joins.append_inv
      rw [List.append_assoc]
      exact not_atMark_argument (each argument List.mem_cons_self) left (by decide)
  cases spacing with
  | alone => rfl
  | joint => exact second

theorem yields_stepArguments (yields : YieldsPlain rules bound)
    (plain : Arguments.IsPlain found) (small : sizes found.tokens ≤ bound) :
    Yields (stepArguments rules false name) found.tokens (.mk name found) StepEnds := by
  cases plain with
  | none => exact yields_noArguments
  | @angle arguments trailing inTurbofish each ordered empty =>
    have tokens := Arguments.tokens_of_ordered ordered inTurbofish trailing
    have few : ∀ argument ∈ arguments, sizes argument.tokens.2 ≤ bound := by
      intro argument member
      have listed : argument.tokens.2 ∈ arguments.map (·.tokens.2) := List.mem_map_of_mem member
      have part := sizes_le_commaSeparated trailing listed
      rw [tokens, sizes_append, sizes, sizes_append] at small
      omega
    have read := yields_angleArguments inTurbofish yields each empty few
    rw [tokens]
    cases inTurbofish with
    | false =>
      refine Yields.upcoming (angleArguments rules false >>= fun found => pure (.mk name found))
        (read.free.map rfl) ?_
      intro input joins rest ends
      cases joins with
      | punct kept more =>
        have comparison := not_atMark_comparison each more
        rw [List.cons_append, comparison]
        rfl
    | true =>
      refine Yields.upcoming (turbofish rules >>= fun found => pure (.mk name found)) ?_ ?_
      · exact Yields.map ((Yields.before (yields_mark rfl) read).free) rfl
      · intro input joins rest ends
        cases joins with
        | punct kept more =>
          obtain rfl := kept rfl
          cases more with
          | punct _ more =>
            cases more with
            | punct _ more => rfl

theorem any_atWord_pathWords (name : String) (rest : List Token) :
    pathWords.any (atWord · (.ident name :: rest)) = pathWords.contains name := by
  rw [List.contains_eq_any_beq]
  rfl

theorem notMem_pathWords (free : name = "Self" ∨ name ∉ reserved) :
    pathWords.contains name = false := by
  have known : "Self" ∉ pathWords ∧ ∀ name ∈ pathWords, name ∈ reserved := by decide
  rw [List.contains_eq_mem, decide_eq_false_iff_not]
  rcases free with rfl | free
  · exact known.1
  · exact fun member => free (known.2 name member)

/-- A step of a path is its name and what follows the name. -/
theorem yields_step {step : Segment} (free : name = "Self" ∨ name ∉ reserved)
    (tail : Yields (stepArguments rules inExpr name) written step follows) :
    Yields (segment rules inExpr) (.ident name :: written) step follows := by
  have other (rest : List Token) : pathWords.any (atWord · (.ident name :: rest)) = false :=
    (any_atWord_pathWords name rest).trans (notMem_pathWords free)
  have decided (reader : Reader String)
      (chosen : ∀ rest, (if atWord "Self" (.ident name :: rest) then anyName else Grammar.name) =
        reader) (taken : Yields reader [.ident name] name anywhere) :
      Yields (segment rules inExpr) (.ident name :: written) step follows := by
    refine Yields.upcoming (reader >>= stepArguments rules inExpr) (taken.before tail) ?_
    intro input joins rest ends
    cases joins with
    | @ident _ input _ more =>
      have named := congrArg (· >>= stepArguments rules inExpr) (chosen (input ++ rest))
      rw [apply_ite (· >>= stepArguments rules inExpr)] at named
      exact (if_neg (by rw [← pathWords, List.cons_append, other]; exact Bool.false_ne_true)).trans
        named
  rcases free with rfl | free
  · exact decided anyName (fun rest => rfl) (yields_anyName "Self")
  · refine decided Grammar.name (fun rest => ?_) (yields_name free)
    refine if_neg fun same => ?_
    have known : "Self" ∈ reserved := by decide
    exact free (eq_of_beq same ▸ known)

theorem yields_segment (yields : YieldsPlain rules bound) (plain : Segment.IsPlain found)
    (small : sizes found.tokens ≤ bound + 1) :
    Yields (segment rules false) found.tokens found StepEnds := by
  cases plain with
  | @word name member =>
    refine Yields.upcoming (anyName >>= fun name => pure (.plain name))
      ((yields_anyName name).free.map rfl) ?_
    intro input joins rest ends
    cases joins with
    | ident more =>
      refine if_pos ((any_atWord_pathWords name _).trans ?_)
      simpa using member
  | @step name arguments word free plain =>
    refine yields_step free (yields_stepArguments yields plain ?_)
    rw [Segment.tokens, sizes, Token.size] at small
    · omega
    · exact fun _ _ same => by cases same

variable {segments : List Segment} {rooted : Bool}

theorem yields_root (rooted : Bool) :
    Yields (mark? "::") (if rooted then pathSeparator else []) rooted
      fun rest => atMark "::" rest = false := by
  cases rooted with
  | true => exact (yields_mark? rfl).free
  | false => exact yields_noMark "::"

theorem yields_steps {continues : List Token → Bool} (yields : YieldsPlain rules bound)
    (each : ∀ segment ∈ segments, Segment.IsPlain segment)
    (small : ∀ segment ∈ segments, sizes segment.tokens ≤ bound + 1)
    (goes : ∀ spacing name rest,
      continues (.punct ':' .joint :: .punct ':' spacing :: .ident name :: rest) = true)
    (stops : ∀ rest, Ends rest → continues rest = false) :
    Yields (collectWhile continues do
        mark "::"
        segment rules false)
      (segments.flatMap fun segment => pathSeparator ++ segment.tokens) segments Ends := by
  refine yields_collectWhile StepEnds ?_ ?_ ?_ ?_
  · intro segment member
    have step := yields_segment yields (each segment member) (small segment member)
    exact Yields.before (yields_mark rfl) step
  · exact fun segment _ => List.cons_ne_nil _ _
  · intro segment member input joins rest
    rw [Segment.tokens_eq] at joins
    cases joins with
    | punct kept more =>
      obtain rfl := kept rfl
      cases more with
      | punct _ more =>
        cases more with
        | ident more => exact ⟨goes _ _ _, .step⟩
  · exact fun rest ends => ⟨stops rest ends, .last ends⟩

theorem joinSteps_segments (first : Segment) (later : List Segment) :
    joinSteps ((first :: later).map Segment.tokens) =
      first.tokens ++ later.flatMap fun segment => pathSeparator ++ segment.tokens := by
  rw [List.map_cons, joinSteps_cons, List.flatMap_map]

theorem stepEnds_of_joins
    (joins : Joins (segments.flatMap fun segment => pathSeparator ++ segment.tokens) input)
    (ends : Ends rest) : StepEnds (input ++ rest) := by
  cases segments with
  | nil =>
    cases joins
    exact .last ends
  | cons segment more =>
    rw [List.flatMap_cons, Segment.tokens_eq] at joins
    cases joins with
    | punct kept more =>
      obtain rfl := kept rfl
      cases more with
      | punct _ more =>
        cases more with
        | ident more => exact .step

/-- Steps of a path, as many as there are. -/
theorem yields_joinSteps {continues : List Token → Bool} (build : List Segment → α)
    (yields : YieldsPlain rules bound) (filled : segments ≠ [])
    (each : ∀ segment ∈ segments, Segment.IsPlain segment)
    (small : ∀ segment ∈ segments, sizes segment.tokens ≤ bound + 1)
    (goes : ∀ spacing name rest,
      continues (.punct ':' .joint :: .punct ':' spacing :: .ident name :: rest) = true)
    (stops : ∀ rest, Ends rest → continues rest = false) :
    Yields (do
        let first ← segment rules false
        let rest ← collectWhile continues do
          mark "::"
          segment rules false
        return build (first :: rest))
      (joinSteps (segments.map Segment.tokens)) (build segments) Ends := by
  obtain ⟨first, later, rfl⟩ := List.exists_cons_of_ne_nil filled
  rw [List.forall_mem_cons] at each small
  rw [joinSteps_segments]
  have step := yields_segment yields each.1 small.1
  have steps := yields_steps yields each.2 small.2 goes stops
  exact step.bind (fun input joins rest => stepEnds_of_joins joins) (steps.map rfl)

theorem not_atMark_steps {marks : List Char} (other : avoids text marks = true)
    {segments : List Segment} (filled : segments ≠ [])
    (joins : Joins (joinSteps (segments.map Segment.tokens)) input) (rest : List Token) :
    atMark text (input ++ rest) = false := by
  obtain ⟨first, later, rfl⟩ := List.exists_cons_of_ne_nil filled
  rw [joinSteps_segments, Segment.tokens_eq] at joins
  cases joins with
  | ident more => exact atMark_of_noMark other rfl

theorem yields_path (yields : YieldsPlain rules bound) (filled : segments ≠ [])
    (each : ∀ segment ∈ segments, Segment.IsPlain segment)
    (small : ∀ segment ∈ segments, sizes segment.tokens ≤ bound + 1) (rooted : Bool) :
    Yields (path rules false)
      ((if rooted then pathSeparator else []) ++ joinSteps (segments.map Segment.tokens))
      ⟨none, rooted, segments⟩ Ends := by
  refine (yields_root rooted).bind ?_ (yields_joinSteps
    (QualifiedPath.mk none rooted) yields filled each small ?_ ?_)
  · have colon : avoids "::" [] = true := by decide
    exact fun input joins rest _ => not_atMark_steps colon filled joins rest
  · exact fun spacing name rest => rfl
  · intro rest ends
    have none : atMark "::" rest = false := ends.not_atMark (by decide)
    rw [none]
    rfl

/-- A path into a type, seen as the trait if there is one. -/
def QualifiedPath.into (self : Ty) : Option QualifiedPath → List Segment → QualifiedPath
  | some seen, steps =>
    ⟨some (self, seen.segments.length), seen.rooted, seen.segments ++ steps⟩
  | none, steps => ⟨some (self, 0), true, steps⟩

/-- The steps behind the type that a path leads into. -/
def qualifiedSteps (rules : Rules) (self : Ty) (trait? : Option QualifiedPath) :
    Reader QualifiedPath := do
  mark ">"
  mark "::"
  let first ← segment rules false
  let rest ← collectWhile (atMark "::") do
    mark "::"
    segment rules false
  return .into self trait? (first :: rest)

theorem yields_qualifiedSteps (yields : YieldsPlain rules bound) (filled : segments ≠ [])
    (each : ∀ segment ∈ segments, Segment.IsPlain segment)
    (small : ∀ segment ∈ segments, sizes segment.tokens ≤ bound + 1) (self : Ty)
    (trait? : Option QualifiedPath) :
    Yields (qualifiedSteps rules self trait?)
      (.punct '>' .alone :: (pathSeparator ++ joinSteps (segments.map Segment.tokens)))
      (.into self trait? segments) Ends := by
  have closed : Yields (mark ">") [.punct '>' .alone] () anywhere := yields_mark rfl
  have separated : Yields (mark "::") pathSeparator () anywhere := yields_mark rfl
  refine closed.before (separated.before (yields_joinSteps
    (QualifiedPath.into self trait?) yields filled each small ?_ ?_))
  · exact fun spacing name rest => rfl
  · exact fun rest ends => ends.not_atMark (by decide)

variable {self : Ty}

/-- A path that does not lead into a type. -/
theorem yields_unqualified (yields : YieldsPlain rules bound) (filled : segments ≠ [])
    (each : ∀ segment ∈ segments, Segment.IsPlain segment)
    (small : ∀ segment ∈ segments, sizes segment.tokens ≤ bound + 1) (rooted : Bool) :
    Yields (qualifiedPath rules false)
      ((if rooted then pathSeparator else []) ++ joinSteps (segments.map Segment.tokens))
      ⟨none, rooted, segments⟩ Ends := by
  refine (yields_noMark "<").bind ?_ (yields_path yields filled each small rooted)
  intro input joins rest _
  cases rooted with
  | true =>
    cases joins with
    | punct => rfl
  | false =>
    have angle : avoids "<" [] = true := by decide
    exact not_atMark_steps angle filled joins rest

/-- A path into a type that is seen as no trait. -/
theorem yields_qualified (yields : YieldsPlain rules bound) (plain : Ty.IsPlain self)
    (low : sizes self.tokens ≤ bound) (filled : segments ≠ [])
    (each : ∀ segment ∈ segments, Segment.IsPlain segment)
    (small : ∀ segment ∈ segments, sizes segment.tokens ≤ bound + 1) :
    Yields (qualifiedPath rules false)
      (.punct '<' .alone :: (self.tokens ++ .punct '>' .alone :: (pathSeparator ++
        joinSteps (segments.map Segment.tokens))))
      ⟨some (self, 0), true, segments⟩ Ends := by
  have opened : Yields (mark? "<") [.punct '<' .alone] true anywhere := yields_mark? rfl
  have steps := yields_qualifiedSteps yields filled each small self none
  refine opened.before ((yields.type self plain low true).bind ?_
    ((yields_noWord "as").bind ?_ steps))
  · intro input joins rest _
    cases joins with
    | punct _ more => exact .mark (by decide)
  · intro input joins rest _
    cases joins with
    | punct _ more => rfl

/-- A path into a type that is seen as a trait. -/
theorem yields_seen {inside : List Segment} (yields : YieldsPlain rules bound)
    (plain : Ty.IsPlain self) (low : sizes self.tokens ≤ bound) (seen : inside ≠ [])
    (filled : segments ≠ [])
    (each : ∀ segment ∈ inside ++ segments, Segment.IsPlain segment)
    (small : ∀ segment ∈ inside ++ segments, sizes segment.tokens ≤ bound + 1) (rooted : Bool) :
    Yields (qualifiedPath rules false)
      (.punct '<' .alone :: (self.tokens ++ .ident "as" ::
        ((if rooted then pathSeparator else []) ++ (joinSteps (inside.map Segment.tokens) ++
          .punct '>' .alone :: (pathSeparator ++ joinSteps (segments.map Segment.tokens))))))
      ⟨some (self, inside.length), rooted, inside ++ segments⟩ Ends := by
  rw [List.forall_mem_append] at each small
  have opened : Yields (mark? "<") [.punct '<' .alone] true anywhere := yields_mark? rfl
  have path := yields_path yields seen each.1 small.1 rooted
  have steps := yields_qualifiedSteps yields filled each.2 small.2 self
    (some ⟨none, rooted, inside⟩)
  rw [← List.append_assoc]
  refine opened.before ((yields.type self plain low true).bind ?_
    ((yields_word? "as").before (path.bind ?_ steps)))
  · intro input joins rest _
    cases joins with
    | ident more => exact .cast
  · intro input joins rest _
    cases joins with
    | punct _ more => exact .mark (by decide)

/-- What may follow a path to make another type of it; tells whether the path is all there is. -/
def pathEnd (rules : Rules) (plus : Bool) (path : QualifiedPath) :
    Reader (QualifiedPath × Bool) := do
  if path.self?.isSome then
    return (path, true)
  else if atMacro path (← upcoming) then
    let _ ← macroArguments
    return (path, false)
  else if false || (plus && atMark "+" (← upcoming)) then
    if plus then
      let _ ← moreBounds rules false
    return (path, false)
  else
    return (path, true)

theorem yields_pathEnd (plus : Bool) (found : QualifiedPath) :
    Yields (pathEnd rules plus found) [] (found, true) Ends := by
  intro input joins rest ends done
  cases joins
  have call : atMark "!" rest = false := ends.not_atMark (by decide)
  have sum : atMark "+" rest = false := ends.not_atMark (by decide)
  cases into : found.self?.isSome <;>
    simp [pathEnd, into, bind_apply, upcoming_apply, pure_apply, atMacro, call, sum]

theorem yields_pathType {found : QualifiedPath}
    (read : Yields (qualifiedPath rules false) tokens found Ends) (plus : Bool) :
    Yields (pathType rules plus false) tokens found.ty Ends := by
  have whole : Yields (qualifiedPath rules false >>= pathEnd rules plus) tokens (found, true)
      Ends :=
    read.after (fun _ ends => ends) (yields_pathEnd plus found)
  exact whole.captured.map rfl

end Grammar

end ValueObjects
