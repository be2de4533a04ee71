import ValueObjects.Proofs.PlainPaths

namespace ValueObjects

open Grammar
open Token (pathSeparator)
open Token.size (sizes)

namespace Grammar

variable {rules : Rules} {bound : Nat} {text name : String} {segments : List Segment}
  {rooted : Bool} {self : Ty}

/-! What each form of a type yields. -/

/-- A step that may stand first is one that a path may begin with. -/
theorem atNameOrPathWord_of_plain (plain : Segment.IsPlain found) (head : found.name ≠ "try")
    (rest : List Token) : atNameOrPathWord (.ident found.name :: rest) = true := by
  have word (member : found.name ∈ ["self", "Self", "super", "crate"]) :
      atPathWord (.ident found.name :: rest) = true := by
    simpa [atPathWord, atWord, or_assoc] using member
  rw [atNameOrPathWord, Bool.or_eq_true]
  cases plain with
  | word member =>
    refine .inr (word ?_)
    simp only [pathWords, Segment.name, List.mem_cons, List.not_mem_nil, or_false] at member head ⊢
    tauto
  | step _ free _ =>
    rcases free with rfl | free
    · exact .inr rfl
    · exact .inl (by simpa [atName, Segment.name] using free)

/-- A type that begins with a path. -/
theorem yields_ty_path {found : QualifiedPath}
    (read : Yields (qualifiedPath rules false) tokens found Ends) (begins : Begins tokens)
    (leads : ∀ input, Joins tokens input → ∀ rest, atPath (input ++ rest) = true ∧
      atGroup .parenthesis (input ++ rest) = false) (plus : Bool) :
    Yields (ty rules plus) tokens found.ty Ends := by
  refine Yields.upcoming (pathType rules plus false) (yields_pathType read plus) ?_
  intro input joins rest _
  have words : ∀ text ∈ ["for", "fn", "unsafe", "extern"],
      atWord text (input ++ rest) = false := by
    have known : ∀ text ∈ ["for", "fn", "unsafe", "extern"],
        text ∈ reserved ∧ text ∉ leadWords := by decide
    exact fun text member => (begins.joins joins).not_atWord (known text member)
  obtain ⟨path, group⟩ := leads input joins rest
  rw [words "for" (by decide), group, atFunction, words "fn" (by decide),
    words "unsafe" (by decide), words "extern" (by decide), path]
  rfl

theorem yields_ty_reference {elem : Ty} {lifetime? : Option String} {mutable : Bool}
    (yields : YieldsPlain rules bound) (plain : Ty.IsPlain elem)
    (low : sizes elem.tokens ≤ bound) (plus : Bool) :
    Yields (ty rules plus) (Ty.reference lifetime? mutable elem).tokens
      (.reference lifetime? mutable elem) Ends := by
  have opened : Yields (mark "&") [.punct '&' .alone] () anywhere := yields_mark rfl
  have read : Yields (rules.type false >>= fun ty => pure (.reference lifetime? mutable ty))
      elem.tokens (Ty.reference lifetime? mutable elem) Ends :=
    (yields.type elem plain low false).map rfl
  have inner : Yields (do
      let mutable ← word? "mut"
      return .reference lifetime? mutable (← rules.type false))
      ((if mutable then [.ident "mut"] else []) ++ elem.tokens)
      (Ty.reference lifetime? mutable elem) Ends := by
    cases mutable with
    | true => exact (yields_word? "mut").before read
    | false =>
      refine (yields_noWord "mut").bind ?_ read
      exact fun input joins rest _ => (plain.begins.joins joins).not_atWord (by decide)
  have whole : Yields (reference rules) (Ty.reference lifetime? mutable elem).tokens
      (.reference lifetime? mutable elem) Ends := by
    cases lifetime? with
    | some name =>
      rw [Ty.tokens, List.append_assoc, List.append_assoc]
      exact opened.before ((yields_lifetime? name).before inner)
    | none =>
      rw [Ty.tokens, List.append_assoc, List.append_nil]
      refine opened.before (yields_noLifetime.bind ?_ inner)
      intro input joins rest _
      cases mutable with
      | true =>
        cases joins with
        | ident more => rfl
      | false => exact (plain.begins.joins joins).not_atLifetime
  refine Yields.upcoming (reference rules) whole ?_
  intro input joins rest _
  rw [Ty.tokens.eq_def] at joins
  cases joins with
  | @punct _ spacing =>
    cases spacing <;> rfl

theorem yields_ty_pointer {elem : Ty} {mutable : Bool} (yields : YieldsPlain rules bound)
    (plain : Ty.IsPlain elem) (low : sizes elem.tokens ≤ bound) (plus : Bool) :
    Yields (ty rules plus) (Ty.pointer mutable elem).tokens (.pointer mutable elem) Ends := by
  have opened : Yields (mark "*") [.punct '*' .alone] () anywhere := yields_mark rfl
  have read : Yields (rules.type false >>= fun ty => pure (.pointer mutable ty))
      elem.tokens (Ty.pointer mutable elem) Ends :=
    (yields.type elem plain low false).map rfl
  have whole : Yields (pointer rules) (Ty.pointer mutable elem).tokens (.pointer mutable elem)
      Ends := by
    rw [Ty.tokens]
    cases mutable with
    | true =>
      refine opened.before ((yields_noWord "const").bind ?_ ((yields_word "mut").before read))
      intro input joins rest _
      cases joins with
      | ident more => rfl
    | false => exact opened.before ((yields_word? "const").before read)
  refine Yields.upcoming (pointer rules) whole ?_
  intro input joins rest _
  rw [Ty.tokens] at joins
  cases joins with
  | @punct _ spacing =>
    cases spacing <;> rfl

/-- What stands in brackets behind the type of the elements. -/
def arrayLength (rules : Rules) (elem : Ty) : Reader Ty := do
  if ← mark? ";" then
    let (_, length) ← captured (rules.expr true)
    return .array elem length
  else
    return .slice elem

/-- What may follow a type to the end of a group. -/
theorem ends_of_joins (apart : Ends written) (joins : Joins written input) (ended : rest = []) :
    Ends (input ++ rest) := by
  subst ended
  cases apart with
  | ended =>
    cases joins
    exact .ended
  | mark member =>
    cases joins with
    | punct _ more => exact .mark member
  | cast =>
    cases joins with
    | ident more => exact .cast

theorem yields_bracketed {elem found : Ty} (yields : YieldsPlain rules bound)
    (plain : Ty.IsPlain elem) (low : sizes elem.tokens ≤ bound)
    (tail : Yields (arrayLength rules elem) written found (· = [])) (apart : Ends written)
    (plus : Bool) :
    Yields (ty rules plus) [.group .bracket (elem.tokens ++ written)] found Ends := by
  have body : Yields (rules.type true >>= arrayLength rules) (elem.tokens ++ written) found
      (· = []) :=
    (yields.type elem plain low true).bind (fun _ joins _ => ends_of_joins apart joins) tail
  refine Yields.upcoming (bracketed rules) body.inside.free ?_
  intro input joins rest _
  cases joins with
  | group inside more => rfl

theorem yields_ty_slice {elem : Ty} (yields : YieldsPlain rules bound) (plain : Ty.IsPlain elem)
    (low : sizes elem.tokens ≤ bound) (plus : Bool) :
    Yields (ty rules plus) (Ty.slice elem).tokens (.slice elem) Ends := by
  have tail : Yields (arrayLength rules elem) [] (Ty.slice elem) (· = []) := by
    refine (yields_noMark ";").after ?_ (.pure _)
    rintro rest rfl
    rfl
  have whole := yields_bracketed yields plain low tail .ended plus
  rwa [List.append_nil] at whole

theorem yields_ty_array {elem : Ty} (yields : YieldsPlain rules bound) (plain : Ty.IsPlain elem)
    (low : sizes elem.tokens ≤ bound) (length : IsLength written) (plus : Bool) :
    Yields (ty rules plus) (Ty.array elem written).tokens (.array elem written) Ends := by
  obtain ⟨expr, read⟩ := yields.length written length
  have separator : Yields (mark? ";") [.punct ';' .alone] true anywhere := yields_mark? rfl
  have tail : Yields (arrayLength rules elem) ([.punct ';' .alone] ++ written)
      (.array elem written) (· = []) :=
    separator.before (Yields.map read.captured rfl)
  rw [Ty.tokens, List.append_assoc]
  exact yields_bracketed yields plain low tail (.mark (by decide)) plus

/-- What makes of a type in parentheses the first of several bounds. -/
def enclosedEnd (rules : Rules) (plus : Bool) : Enclosed → Reader (Option Ty)
  | .tuple elems trailing => return some (.tuple elems trailing)
  | .bound => do
    if ← mark? "+" then
      let _ ← series "+" (fun _ => false) (rules.bound false)
    return none
  | .single ty => do
    if plus && mayBeBound ty && atMark "+" (← upcoming) then
      mark "+"
      let _ ← series "+" (fun _ => false) (rules.bound false)
      return none
    else
      return some (.paren ty)

theorem yields_parenthesized {enclosing : Enclosed} {found : Ty}
    (read : Yields (enclosed rules) written enclosing (· = []))
    (tail : Yields (enclosedEnd rules plus enclosing) [] (some found) Ends) :
    Yields (ty rules plus) [.group .parenthesis written] found Ends := by
  have group : Yields (inside .parenthesis (enclosed rules)) [.group .parenthesis written]
      enclosing anywhere := read.inside
  have body : Yields (inside .parenthesis (enclosed rules) >>= enclosedEnd rules plus)
      [.group .parenthesis written] (some found) Ends :=
    group.after (fun _ _ => trivial) tail
  refine Yields.upcoming (parenthesized rules plus) (body.captured.map rfl) ?_
  intro input joins rest _
  cases joins with
  | group inside more => rfl

/-- What follows the first of the types in parentheses. -/
def enclosedTail (rules : Rules) (first : Ty) : Reader Enclosed := do
  if ← mark? "," then
    let (rest, trailing) ← commaList (rules.type true)
    return .tuple (first :: rest) (rest.isEmpty || trailing)
  else
    return .single first

theorem yields_enclosed {elem : Ty} {enclosing : Enclosed} (yields : YieldsPlain rules bound)
    (plain : Ty.IsPlain elem) (low : sizes elem.tokens ≤ bound)
    (tail : Yields (enclosedTail rules elem) written enclosing (· = [])) (apart : Ends written) :
    Yields (enclosed rules) (elem.tokens ++ written) enclosing (· = []) := by
  have whole : Yields (rules.type true >>= enclosedTail rules) (elem.tokens ++ written) enclosing
      (· = []) :=
    (yields.type elem plain low true).bind (fun _ joins _ => ends_of_joins apart joins) tail
  refine Yields.upcoming (rules.type true >>= enclosedTail rules) whole ?_
  intro input joins rest _
  have begins : Begins (input ++ rest) := (plain.begins.append written).joins joins
  have filled : (input ++ rest).isEmpty = false := by
    rw [List.isEmpty_eq_false_iff]
    exact begins.ne_nil
  have relaxed : atMark "?" (input ++ rest) = false := begins.not_atMark (by decide)
  rw [begins.not_atLifetime, filled, relaxed]
  rfl

theorem yields_ty_paren {elem : Ty} (yields : YieldsPlain rules bound) (plain : Ty.IsPlain elem)
    (low : sizes elem.tokens ≤ bound) (plus : Bool) :
    Yields (ty rules plus) (Ty.paren elem).tokens (.paren elem) Ends := by
  have single : Yields (enclosedTail rules elem) [] (.single elem) (· = []) := by
    refine (yields_noMark ",").after ?_ (.pure _)
    rintro rest rfl
    rfl
  have inner := yields_enclosed yields plain low single .ended
  rw [List.append_nil] at inner
  refine yields_parenthesized inner (Yields.upcoming _ (.pure (some (Ty.paren elem))) ?_)
  intro input joins rest ends
  cases joins
  have sum : atMark "+" rest = false := ends.not_atMark (by decide)
  rw [List.nil_append, sum, Bool.and_false]
  rfl

/-- Types with commas between them, to the end of a group. -/
theorem yields_commaList {elems : List Ty} (yields : YieldsPlain rules bound)
    (each : ∀ elem ∈ elems, Ty.IsPlain elem) (low : ∀ elem ∈ elems, sizes elem.tokens ≤ bound) :
    Yields (commaList (rules.type true)) (commaSeparated trailing (elems.map Ty.tokens))
      (elems, !elems.isEmpty && trailing) (· = []) := by
  refine yields_separated (fun elem member =>
    yields.type elem (each elem member) (low elem member) true) ?_ ?_ ?_ ?_
  · exact fun elem member => (each elem member).begins.ne_nil
  · intro elem member input joins rest
    rw [List.isEmpty_eq_false_iff]
    exact ((each elem member).begins.joins joins).ne_nil
  · exact fun spacing rest => ⟨.mark (by decide), rfl⟩
  · rintro rest rfl
    exact ⟨rfl, .ended⟩

theorem yields_ty_tuple {elems : List Ty} (yields : YieldsPlain rules bound)
    (each : ∀ elem ∈ elems, Ty.IsPlain elem) (low : ∀ elem ∈ elems, sizes elem.tokens ≤ bound)
    (single : elems.length = 1 → trailing = true) (empty : elems = [] → trailing = false)
    (plus : Bool) :
    Yields (ty rules plus) (Ty.tuple elems trailing).tokens (.tuple elems trailing) Ends := by
  have inner : Yields (enclosed rules) (commaSeparated trailing (elems.map Ty.tokens))
      (.tuple elems trailing) (· = []) := by
    cases elems with
    | nil =>
      obtain rfl := empty rfl
      refine Yields.upcoming (pure (.tuple [] false)) (.pure _) ?_
      rintro input joins rest rfl
      cases joins
      rfl
    | cons first more =>
      rw [List.forall_mem_cons] at each low
      have separator : Yields (mark? ",") [Token.comma] true anywhere := yields_mark? rfl
      have closes : (more.isEmpty || (!more.isEmpty && trailing)) = trailing := by
        cases more with
        | nil => rw [single rfl]; rfl
        | cons => rfl
      have written : commaSeparated trailing ((first :: more).map Ty.tokens) =
          first.tokens ++ ([Token.comma] ++ commaSeparated trailing (more.map Ty.tokens)) := by
        cases more with
        | nil => rw [List.map_cons, List.map_nil, commaSeparated_single, single rfl]; rfl
        | cons => exact commaSeparated_cons ..
      have tail : Yields (enclosedTail rules first)
          ([Token.comma] ++ commaSeparated trailing (more.map Ty.tokens))
          (.tuple (first :: more) trailing) (· = []) :=
        separator.before ((yields_commaList yields each.2 low.2).map (by simp [closes]))
      rw [written]
      exact yields_enclosed yields each.1 low.1 tail (.mark (by decide))
  rw [Ty.tokens, tokensOf_types]
  exact yields_parenthesized inner (.pure _)

theorem yields_ty_inferred (plus : Bool) :
    Yields (ty rules plus) [.ident "_"] (.verbatim [.ident "_"]) Ends := by
  have read : Yields (verbatim (word "_")) [.ident "_"] (.verbatim [.ident "_"]) Ends :=
    (yields_word "_").free.captured.map rfl
  refine Yields.upcoming (verbatim (word "_")) read ?_
  intro input joins rest _
  cases joins with
  | ident more => rfl

theorem yields_ty_never (plus : Bool) :
    Yields (ty rules plus) [.punct '!' .alone] (.verbatim [.punct '!' .alone]) Ends := by
  have marked : Yields (mark "!") [.punct '!' .alone] () Ends := (yields_mark rfl).free
  refine Yields.upcoming (verbatim (mark "!")) (marked.captured.map rfl) ?_
  intro input joins rest ends
  cases joins with
  | @punct _ spacing _ _ _ _ more =>
    cases more
    cases spacing <;> rfl

theorem yields_ty_unqualified (yields : YieldsPlain rules bound)
    (head : segments.head?.any (·.name != "try") = true)
    (each : ∀ segment ∈ segments, Segment.IsPlain segment)
    (small : ∀ segment ∈ segments, sizes segment.tokens ≤ bound + 1) (plus : Bool) :
    Yields (ty rules plus) (Ty.path rooted segments).tokens (.path rooted segments) Ends := by
  have begins : Begins (Ty.path rooted segments).tokens := (Ty.IsPlain.path head each).begins
  have filled : segments ≠ [] := by
    rintro rfl
    cases head
  have read := yields_unqualified yields filled each small rooted
  rw [Ty.tokens, tokensOf_segments] at begins ⊢
  refine yields_ty_path read begins ?_ plus
  intro input joins rest
  cases rooted with
  | true =>
    cases joins with
    | punct kept more =>
      obtain rfl := kept rfl
      cases more with
      | punct _ more => exact ⟨rfl, rfl⟩
  | false =>
    obtain ⟨first, later, rfl⟩ := List.exists_cons_of_ne_nil filled
    have named : first.name ≠ "try" := by simpa using head
    have stands := atNameOrPathWord_of_plain (each first List.mem_cons_self) named
    rw [joinSteps_segments, Segment.tokens_eq] at joins
    cases joins with
    | @ident _ input _ more =>
      refine ⟨?_, rfl⟩
      rw [List.cons_append, atPath, stands]
      rfl

theorem yields_ty_qualified (yields : YieldsPlain rules bound) (plain : Ty.IsPlain self)
    (low : sizes self.tokens ≤ bound) (into : position < segments.length)
    (root : position = 0 → rooted = true)
    (each : ∀ segment ∈ segments, Segment.IsPlain segment)
    (small : ∀ segment ∈ segments, sizes segment.tokens ≤ bound + 1) (plus : Bool) :
    Yields (ty rules plus) (Ty.qualified self position rooted segments).tokens
      (.qualified self position rooted segments) Ends := by
  have begins := (Ty.IsPlain.qualified plain into root each).begins
  have leads {more : List Token} (input : List Token)
      (joins : Joins (.punct '<' .alone :: more) input) (rest : List Token) :
      atPath (input ++ rest) = true ∧ atGroup .parenthesis (input ++ rest) = false := by
    cases joins with
    | @punct _ spacing => cases spacing <;> exact ⟨rfl, rfl⟩
  have outside : segments.drop position ≠ [] := by
    rw [Ne, List.drop_eq_nil_iff]
    omega
  rw [Ty.tokens_qualified into root] at begins ⊢
  split at begins
  · rename_i first
    subst first
    obtain rfl := root rfl
    rw [if_pos rfl]
    exact yields_ty_path (yields_qualified yields plain low outside each small) begins leads plus
  · rename_i later
    have inside : segments.take position ≠ [] := by
      rw [Ne, List.take_eq_nil_iff]
      rintro (none | none)
      · exact later none
      · rw [none] at into
        exact Nat.not_lt_zero _ into
    have split : segments.take position ++ segments.drop position = segments :=
      List.take_append_drop position segments
    have read := yields_seen yields plain low inside outside (by rwa [split]) (by rwa [split])
      rooted
    have whole := yields_ty_path read begins leads plus
    rw [if_neg later]
    rwa [QualifiedPath.ty, split, List.length_take_of_le (Nat.le_of_lt into)] at whole

/-! The grammar yields every plain type. -/

theorem sizes_qualified (self : Ty) (into : position < segments.length)
    (root : position = 0 → rooted = true) :
    sizes self.tokens < sizes (Ty.qualified self position rooted segments).tokens ∧
      sizes (joinSteps ((segments.take position).map Segment.tokens)) ≤
        sizes (Ty.qualified self position rooted segments).tokens ∧
      sizes (joinSteps ((segments.drop position).map Segment.tokens)) ≤
        sizes (Ty.qualified self position rooted segments).tokens := by
  rw [Ty.tokens_qualified into root]
  split
  · rename_i first
    subst first
    simp only [sizes, sizes_append, Token.size, List.take_zero, List.map_nil, joinSteps]
    omega
  · simp only [sizes, sizes_append, Token.size]
    omega

theorem yields_ty (yields : YieldsPlain rules bound) (plain : Ty.IsPlain found)
    (small : sizes found.tokens ≤ bound + 1) (plus : Bool) :
    Yields (ty rules plus) found.tokens found Ends := by
  have steps {segments : List Segment} {tokens : List Token}
      (part : sizes (joinSteps (segments.map Segment.tokens)) ≤ sizes tokens)
      (small : sizes tokens ≤ bound + 1) :
      ∀ segment ∈ segments, sizes segment.tokens ≤ bound + 1 := fun segment member =>
    Nat.le_trans (sizes_le_joinSteps (List.mem_map_of_mem member)) (Nat.le_trans part small)
  cases plain with
  | path head each =>
    refine yields_ty_unqualified yields head each (steps ?_ small) plus
    rw [Ty.tokens, tokensOf_segments, sizes_append]
    exact Nat.le_add_left _ _
  | @qualified found position _ segments self into root each =>
    have parts := sizes_qualified found into root
    refine yields_ty_qualified yields self (by omega) into root each ?_ plus
    intro segment member
    rw [← List.take_append_drop position segments] at member
    rcases List.mem_append.mp member with early | late
    · exact steps (by omega) small segment early
    · exact steps (by omega) small segment late
  | @reference lifetime? found mutable lifetime elem =>
    refine yields_ty_reference yields elem ?_ plus
    cases lifetime? <;> rw [Ty.tokens] at small <;>
      simp only [sizes_append, sizes, Token.size] at small <;> omega
  | pointer elem =>
    refine yields_ty_pointer yields elem ?_ plus
    rw [Ty.tokens] at small
    simp only [sizes_append, sizes, Token.size] at small
    omega
  | slice elem =>
    refine yields_ty_slice yields elem ?_ plus
    rw [Ty.tokens] at small
    simp only [sizes, Token.size] at small
    omega
  | array elem length =>
    refine yields_ty_array yields elem ?_ length plus
    rw [Ty.tokens] at small
    simp only [sizes_append, sizes, Token.size] at small
    omega
  | tuple each single empty =>
    refine yields_ty_tuple yields each (fun elem member => ?_) single empty plus
    rename_i elems trailing
    have listed : elem.tokens ∈ elems.map Ty.tokens := List.mem_map_of_mem member
    have part := sizes_le_commaSeparated trailing listed
    rw [Ty.tokens, tokensOf_types] at small
    simp only [sizes, Token.size] at small
    omega
  | paren elem =>
    refine yields_ty_paren yields elem ?_ plus
    rw [Ty.tokens] at small
    simp only [sizes, Token.size] at small
    omega
  | inferred => exact yields_ty_inferred plus
  | never => exact yields_ty_never plus

/-! How often a list is repeated. -/

/-- A name is a path. -/
theorem yields_pathOperand (free : name ∉ reserved) :
    Yields (pathOperand rules true) [.ident name] .plain (· = []) := by
  have step : Yields (segment rules true) [.ident name] (.plain name) StepEnds :=
    yields_step (.inr free) yields_noArguments
  have path : Yields (path rules true) [.ident name] ⟨none, false, [.plain name]⟩ (· = []) := by
    refine (yields_root false).bind ?_ (step.after ?_ ((yields_collectNone _ _).after ?_ (.pure _)))
    · rintro input joins rest rfl
      cases joins with
      | ident more => rfl
    · rintro rest rfl
      exact .last .ended
    · rintro rest rfl
      rfl
  have qualified : Yields (qualifiedPath rules true) [.ident name]
      ⟨none, false, [.plain name]⟩ (· = []) := by
    refine (yields_noMark "<").bind ?_ path
    rintro input joins rest rfl
    cases joins with
    | ident more => rfl
  refine qualified.after (fun _ => id) (Yields.upcoming (pure .plain) (.pure _) ?_)
  rintro input joins rest rfl
  cases joins
  rfl

/-- A name is an operand. -/
theorem yields_operand (free : name ∉ reserved) :
    Yields (operand rules true) [.ident name] .plain (· = []) := by
  refine Yields.upcoming (pathOperand rules true) (yields_pathOperand free) ?_
  rintro input joins rest rfl
  cases joins with
  | ident more =>
    cases more
    have word (text : String) (member : text ∈ reserved) : atWord text [.ident name] = false := by
      refine beq_eq_false_iff_ne.mpr ?_
      rintro rfl
      exact free member
    have named : atName [.ident name] = true := by simpa [atName] using free
    have literal : atLiteral [.ident name] = false := by
      have first := word "true" (by decide)
      have second := word "false" (by decide)
      exact Bool.or_eq_false_iff.mpr ⟨first, second⟩
    have path : atPath [.ident name] = true := by rw [atPath, atNameOrPathWord, named]; rfl
    have block : atAsyncBlock [.ident name] = false := by
      rw [atAsyncBlock, word "async" (by decide), Bool.false_and]
    have letter : avoids "|" [] = true := by decide
    have bar : atMark "|" [.ident name] = false := atMark_of_noMark letter rfl
    have other : atClosure [.ident name] = false := by
      rw [atClosure, atForLifetimes, bar, word "move" (by decide), word "for" (by decide),
        word "const" (by decide), word "static" (by decide), word "async" (by decide)]
      rfl
    have form : (atWord "builtin" [.ident name] && atMark "#" (skip [.ident name])) = false :=
      Bool.and_false _
    dsimp only
    rw [List.append_nil, literal, block, word "try" (by decide), other, form, path]
    rfl

theorem yields_unary (free : name ∉ reserved) :
    Yields (unary rules true) [.ident name] .plain (· = []) := by
  have trailing : Yields (trailers rules .plain) [] .plain (· = []) := by
    rintro input joins rest rfl done
    cases joins
    rfl
  have whole : Yields (operand rules true >>= fun first => trailers rules first >>= pure)
      [.ident name] .plain (· = []) :=
    (yields_operand free).after (fun _ => id) (trailing.map rfl)
  refine (yields_collectNone (atMark "#") _).bind ?_ (Yields.upcoming _ whole ?_)
  · rintro input joins rest rfl
    cases joins with
    | ident more => rfl
  · rintro input joins rest rfl
    cases joins with
    | ident more => rfl

/-- How often a list is repeated is an expression. -/
theorem yields_length (length : IsLength written) (depth : Nat) :
    ∃ found, Yields ((Grammar.rules (depth + 2)).expr true) written found (· = []) := by
  cases length with
  | @numeral text numeral =>
    refine ⟨⟨.other, false, some text⟩, ?_⟩
    rintro input joins rest rfl done
    cases joins with
    | literal more =>
      cases more
      rfl
  | @name name free =>
    have rest : Yields (climb (Grammar.rules depth) .plain true .lowest) [] .plain (· = []) := by
      rintro input joins rest rfl done
      cases joins
      rfl
    exact ⟨.plain, (yields_unary free.free).after (fun _ => id) rest⟩

theorem yieldsPlain (depth : Nat) : YieldsPlain (Grammar.rules (depth + 2)) depth := by
  induction depth with
  | zero =>
    refine ⟨fun found plain none => ?_, fun written length => yields_length length 0⟩
    exact (Nat.not_lt.mpr none plain.begins.sizes_pos).elim
  | succ depth ih =>
    exact ⟨fun found plain small plus => yields_ty ih plain small plus,
      fun written length => yields_length length (depth + 1)⟩

/-- The tokens of a plain type are read back, however they are joined. -/
theorem read_of_joins (plain : Ty.IsPlain found) (joins : Joins found.tokens input) :
    read (fun rules => rules.type true) input = some found := by
  have enough : 16 * (sizes input + 4) = sizes input + (15 * sizes input + 62) + 2 := by omega
  have taken := (yieldsPlain (sizes input + (15 * sizes input + 62))).type found plain
    (by rw [joins.sizes_eq]; omega) true input joins [] .ended []
  rw [List.append_nil, ← enough] at taken
  rw [read, complete, rulesFor, taken]

end Grammar

/-- The canonical text of a plain type is read as its canonical form. -/
theorem Ty.IsPlain.type?_display {ty : Ty} (plain : Ty.IsPlain ty) :
    Grammar.type? ty.display = some ty.canonical := by
  rw [Ty.display, Grammar.type?, readText, plain.canonical.tight.tokens?_compact, Option.bind_some]
  exact read_of_joins plain.canonical plain.canonical.tight.joins

end ValueObjects
