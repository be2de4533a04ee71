import ValueObjects.Proofs.TypeReaders

namespace ValueObjects.Grammar

open Std.Do

set_option mvcgen.warning false

variable {rules : Rules} [rules.Keep]

/-! Patterns. -/

@[spec]
theorem alternatives_spec : Keeps (alternatives rules) := by
  mvcgen [alternatives]

@[spec]
theorem rangeDots_spec : Keeps (rangeDots obsolete) := by
  mvcgen [rangeDots]

@[spec]
theorem constBlock_spec : Keeps (constBlock rules) := by
  mvcgen [constBlock]

@[spec]
theorem rangeEnd_spec : Keeps (rangeEnd rules) := by
  mvcgen [rangeEnd]

@[spec]
theorem rangeTail_spec : Keeps (rangeTail rules) := by
  mvcgen [rangeTail]

@[spec]
theorem halfOpenRange_spec : Keeps (halfOpenRange rules) := by
  mvcgen [halfOpenRange]

@[spec]
theorem member_spec : Keeps member := by
  mvcgen [member]

@[spec]
theorem fieldPattern_spec : Keeps (fieldPattern rules) := by
  mvcgen [fieldPattern]

@[spec]
theorem fieldPatterns_spec : Keeps (fieldPatterns rules fuel) := by
  induction fuel with
  | zero => mvcgen [fieldPatterns]
  | succ fuel ih => mvcgen [fieldPatterns, ih]

@[spec]
theorem pathPattern_spec : Keeps (pathPattern rules) := by
  mvcgen [pathPattern]

@[spec]
theorem bindingPattern_spec : Keeps (bindingPattern rules) := by
  mvcgen [bindingPattern]

@[spec]
theorem valuePattern_spec : Keeps (valuePattern rules) := by
  mvcgen [valuePattern]

@[spec]
theorem slicePattern_spec : Keeps (slicePattern rules) := by
  mvcgen [slicePattern]

@[spec]
theorem pattern_spec : Keeps (pattern rules) := by
  mvcgen [pattern]

/-! Expressions. -/

@[spec]
theorem rangeFrom_spec {rhs : Reader Expr} (keeps : Keeps rhs) : Keeps (rangeFrom rhs structs) := by
  mvcgen [rangeFrom, keeps]

theorem extend_spec : Keeps (rightOperand.extend rules structs precedence first fuel) := by
  induction fuel generalizing first with
  | zero => mvcgen [rightOperand.extend]
  | succ fuel ih => mvcgen [rightOperand.extend, ih]

@[spec]
theorem rightOperand_spec : Keeps (rightOperand rules structs precedence) := by
  mvcgen [rightOperand, extend_spec]

/-- No operator between operands has an apostrophe. -/
theorem operator?_plain (found : operator? tokens = some (operator, precedence)) :
    operator.toList.contains '\'' = false := by
  have plain : ∀ entry ∈ binaryOperators, entry.1.toList.contains '\'' = false := by decide
  exact plain _ (List.mem_of_find?_eq_some found)

@[spec]
theorem climbStep_spec : Keeps (climbStep rules left structs base) := by
  mvcgen [climbStep]
  rename_i found _ _ _ _
  exact operator?_plain found

theorem climbOn_spec : Keeps (climb.go rules structs base left fuel) := by
  induction fuel generalizing left with
  | zero => mvcgen [climb.go]
  | succ fuel ih => mvcgen [climb.go, ih]

@[spec]
theorem climb_spec : Keeps (climb rules left structs base) := by
  mvcgen [climb, climbOn_spec]

@[spec]
theorem callList_spec : Keeps (callList rules) := by
  mvcgen [callList]

@[spec]
theorem nestedPositions_spec : Keeps (nestedPositions text) := by
  mvcgen [nestedPositions]

@[spec]
theorem memberAccess_spec : Keeps (memberAccess rules) := by
  mvcgen [memberAccess]

theorem trailersOn_spec : Keeps (trailers.go rules first fuel) := by
  induction fuel generalizing first with
  | zero => mvcgen [trailers.go]
  | succ fuel ih => mvcgen [trailers.go, ih]

@[spec]
theorem trailers_spec : Keeps (trailers rules first) := by
  mvcgen [trailers, trailersOn_spec]

@[spec]
theorem fieldValue_spec : Keeps (fieldValue rules) := by
  mvcgen [fieldValue]

@[spec]
theorem fieldValues_spec : Keeps (fieldValues rules fuel) := by
  induction fuel with
  | zero => mvcgen [fieldValues]
  | succ fuel ih => mvcgen [fieldValues, ih]

@[spec]
theorem pathOperand_spec : Keeps (pathOperand rules structs) := by
  mvcgen [pathOperand]

@[spec]
theorem closureParameter_spec : Keeps (closureParameter rules) := by
  mvcgen [closureParameter]

@[spec]
theorem closure_spec : Keeps (closure rules structs) := by
  mvcgen [closure]

@[spec]
theorem letOperand_spec : Keeps (letOperand rules structs) := by
  mvcgen [letOperand]

@[spec]
theorem branches_spec : Keeps (branches rules fuel) := by
  induction fuel with
  | zero => mvcgen [branches]
  | succ fuel ih => mvcgen [branches, ih]

@[spec]
theorem ifOperand_spec : Keeps (ifOperand rules) := by
  mvcgen [ifOperand]

@[spec]
theorem forOperand_spec : Keeps (forOperand rules) := by
  mvcgen [forOperand]

@[spec]
theorem loopOperand_spec : Keeps (loopOperand rules) := by
  mvcgen [loopOperand]

@[spec]
theorem whileOperand_spec : Keeps (whileOperand rules) := by
  mvcgen [whileOperand]

@[spec]
theorem blockOperand_spec : Keeps (blockOperand rules) := by
  mvcgen [blockOperand]

@[spec]
theorem tryOperand_spec : Keeps (tryOperand rules) := by
  mvcgen [tryOperand]

@[spec]
theorem unsafeOperand_spec : Keeps (unsafeOperand rules) := by
  mvcgen [unsafeOperand]

@[spec]
theorem constOperand_spec : Keeps (constOperand rules) := by
  mvcgen [constOperand]

@[spec]
theorem labeledOperand_spec : Keeps (labeledOperand rules) := by
  mvcgen [labeledOperand]

@[spec]
theorem arm_spec : Keeps (arm rules) := by
  mvcgen [arm] with exact fun _ _ => rfl

@[spec]
theorem matchOperand_spec : Keeps (matchOperand rules) := by
  mvcgen [matchOperand]

/-- The readers of blocks. -/
theorem blockStart?_keeps (found : blockStart? rules tokens = some reader) : Keeps reader := by
  unfold blockStart? at found
  extract_lets at found
  repeat' split at found
  all_goals cases found
  · exact ifOperand_spec
  · exact whileOperand_spec
  · exact forOperand_spec
  · exact loopOperand_spec
  · exact matchOperand_spec
  · exact tryOperand_spec
  · exact unsafeOperand_spec
  · exact constOperand_spec
  · exact blockOperand_spec
  · exact labeledOperand_spec

@[spec]
theorem boundaryExpr_spec : Keeps (boundaryExpr rules) := by
  mvcgen [boundaryExpr]
  rename_i found _ _
  have keeps := blockStart?_keeps found
  mvcgen [keeps]

@[spec]
theorem parenthesizedOperand_spec : Keeps (parenthesizedOperand rules) := by
  mvcgen [parenthesizedOperand]

@[spec]
theorem arrayOperand_spec : Keeps (arrayOperand rules) := by
  mvcgen [arrayOperand]

@[spec]
theorem optionalExpr_spec : Keeps (optionalExpr rules present) := by
  mvcgen [optionalExpr]

@[spec]
theorem breakOperand_spec : Keeps (breakOperand rules structs) := by
  mvcgen [breakOperand]

@[spec]
theorem continueOperand_spec : Keeps continueOperand := by
  mvcgen [continueOperand]

@[spec]
theorem yieldOperand_spec : Keeps (yieldOperand rules) := by
  mvcgen [yieldOperand]

@[spec]
theorem asyncOperand_spec : Keeps (asyncOperand rules) := by
  mvcgen [asyncOperand]

@[spec]
theorem builtinOperand_spec : Keeps builtinOperand := by
  mvcgen [builtinOperand]

@[spec]
theorem operand_spec : Keeps (operand rules structs) := by
  mvcgen [operand]
  rename_i found
  intro _ _
  have keeps := blockStart?_keeps found
  mvcgen [keeps]

@[spec]
theorem unary_spec : Keeps (unary rules structs) := by
  mvcgen [unary]
  rename_i found _ _
  have plain : ∀ operator ∈ ["*", "!", "-"], operator.toList.contains '\'' = false := by decide
  exact plain _ (List.mem_of_find?_eq_some found)

@[spec]
theorem expr_spec : Keeps (expr rules structs) := by
  mvcgen [expr]

/-! Functions. -/

@[spec]
theorem visibility_spec : Keeps visibility := by
  mvcgen [visibility]

@[spec]
theorem receiver_spec : Keeps (receiver rules) := by
  mvcgen [receiver]

@[spec]
theorem functionArgument_spec : Keeps (functionArgument rules) := by
  mvcgen [functionArgument]

@[spec]
theorem functionArguments_spec : Keeps (functionArguments rules first fuel) := by
  induction fuel generalizing first with
  | zero => mvcgen [functionArguments]
  | succ fuel ih => mvcgen [functionArguments, ih]

@[spec]
theorem functionWords_spec : Keeps (functionWords foreign) := by
  mvcgen [functionWords]

@[spec]
theorem atFunctionWords_spec : Keeps (atFunctionWords foreign) := by
  mvcgen [atFunctionWords]

@[spec]
theorem signature_spec : Keeps (signature rules foreign) := by
  mvcgen [signature]

@[spec]
theorem function_spec : Keeps (function rules foreign) := by
  mvcgen [function]

/-! Statements. -/

@[spec]
theorem binding_spec : Keeps (binding rules) := by
  mvcgen [binding] with exact fun _ _ => rfl

@[spec]
theorem statement_spec : Keeps (statement rules) := by
  mvcgen [statement]

@[spec]
theorem statements_spec : Keeps (statements rules) := by
  mvcgen [statements] with exact fun _ _ => rfl

/-! Declarations. -/

@[spec]
theorem macroItem_spec : Keeps (macroItem named) := by
  mvcgen [macroItem] with exact fun _ _ => rfl

@[spec]
theorem namedField_spec : Keeps (namedField rules) := by
  mvcgen [namedField]

@[spec]
theorem positionalField_spec : Keeps (positionalField rules) := by
  mvcgen [positionalField]

@[spec]
theorem namedFields_spec : Keeps (namedFields rules) := by
  mvcgen [namedFields]

@[spec]
theorem positionalFields_spec : Keeps (positionalFields rules) := by
  mvcgen [positionalFields]

@[spec]
theorem conditions_spec : Keeps (conditions rules) := by
  mvcgen [conditions]

@[spec]
theorem structBody_spec : Keeps (structBody rules) := by
  mvcgen [structBody]

@[spec]
theorem variant_spec : Keeps (variant rules) := by
  mvcgen [variant]

@[spec]
theorem enumBody_spec : Keeps (enumBody rules) := by
  mvcgen [enumBody]

@[spec]
theorem unionBody_spec : Keeps (unionBody rules) := by
  mvcgen [unionBody]

@[spec]
theorem typeBounds_spec : Keeps (typeItem.typeBounds rules) := by
  mvcgen [typeItem.typeBounds]

@[spec]
theorem typeItem_spec : Keeps (typeItem rules mayDefault place) := by
  mvcgen [typeItem]

@[spec]
theorem constItem_spec : Keeps (constItem rules) := by
  mvcgen [constItem] with exact fun _ _ => rfl

@[spec]
theorem traitItem_spec : Keeps (traitItem rules) := by
  mvcgen [traitItem]

@[spec]
theorem implItem_spec : Keeps (implItem rules) := by
  mvcgen [implItem]

@[spec]
theorem implDecl_spec : Keeps (implDecl rules attrs) := by
  mvcgen -trivial [implDecl]
  all_goals first | assumption | rfl

@[spec]
theorem traitBody_spec : Keeps (traitBody rules) := by
  mvcgen [traitBody]

@[spec]
theorem traitDecl_spec : Keeps (traitDecl rules) := by
  mvcgen [traitDecl] with exact fun _ _ => rfl

@[spec]
theorem useTree_spec : Keeps (useTree rules fromRoot) := by
  mvcgen [useTree]

@[spec]
theorem useDecl_spec : Keeps (useDecl rules) := by
  mvcgen [useDecl] with exact fun _ _ => rfl

@[spec]
theorem externCrate_spec : Keeps externCrate := by
  mvcgen [externCrate] with exact fun _ _ => rfl

@[spec]
theorem foreignItem_spec : Keeps (foreignItem rules) := by
  mvcgen [foreignItem] with exact fun _ _ => rfl

@[spec]
theorem foreignModule_spec : Keeps (foreignModule rules) := by
  mvcgen [foreignModule]

@[spec]
theorem moduleDecl_spec : Keeps (moduleDecl rules attrs) := by
  mvcgen [moduleDecl]

@[spec]
theorem staticDecl_spec : Keeps (staticDecl rules) := by
  mvcgen [staticDecl] with exact fun _ _ => rfl

@[spec]
theorem structDecl_spec : Keeps (structDecl rules attrs) := by
  mvcgen [structDecl]

@[spec]
theorem enumDecl_spec : Keeps (enumDecl rules) := by
  mvcgen [enumDecl]

@[spec]
theorem unionDecl_spec : Keeps (unionDecl rules) := by
  mvcgen [unionDecl]

@[spec]
theorem macroDecl_spec : Keeps macroDecl := by
  mvcgen [macroDecl]

@[spec]
theorem unnoticed_spec {reader : Reader Unit} (keeps : Keeps reader) : Keeps (unnoticed reader) := by
  mvcgen [unnoticed, keeps]

@[spec]
theorem externDecl_spec : Keeps (externDecl rules after) := by
  mvcgen [externDecl]

@[spec]
theorem unsafeDecl_spec : Keeps (unsafeDecl rules attrs after) := by
  mvcgen [unsafeDecl]

@[spec]
theorem item_spec : Keeps (item rules attrs) := by
  mvcgen [item]

/-- The grammar keeps the cursor between legible tokens to every depth. -/
instance rules_keep (depth : Nat) : (Grammar.rules depth).Keep := by
  induction depth with
  | zero =>
    have fails {α : Type} : Keeps (fail : Reader α) := by mvcgen
    have noType : Gives (fail : Reader Ty) fun ty => Legible ty.tokens := by mvcgen
    exact {
      type := fun _ => noType
      bound := fun _ => fails
      expr := fun _ => fails
      unary := fun _ => fails
      climb := fun _ _ _ => fails
      boundary := fails
      pattern := fails
      statements := fails
      item := fun _ => fails
      useTree := fun _ => fails }
  | succ depth ih =>
    exact {
      type := fun _ => ty_gives
      bound := fun _ => bound_spec
      expr := fun _ => expr_spec
      unary := fun _ => unary_spec
      climb := fun _ _ _ => climb_spec
      boundary := boundaryExpr_spec
      pattern := pattern_spec
      statements := statements_spec
      item := fun _ => item_spec
      useTree := fun _ => useTree_spec }

/-- A type that is read from a text is legible. -/
theorem legible_of_type? {found : Ty} (read : type? text = some found) : Legible found.tokens := by
  obtain ⟨tokens, lexed, whole⟩ := Option.bind_eq_some_iff.mp read
  have legible := Cursor.isLegible_start (legible_of_tokens? lexed)
  unfold Grammar.read complete at whole
  split at whole
  · rename_i ran
    cases whole
    exact (gives_iff.mp ((rules_keep _).type true) _ legible _ _ ran).2
  · cases whole

/-- An identifier that is read from a text is legible. -/
theorem legible_of_name? (read : name? text = some found) : Legible [.ident found] := by
  obtain ⟨tokens, lexed, whole⟩ := Option.bind_eq_some_iff.mp read
  rw [read_name whole] at lexed
  exact legible_of_tokens? lexed

end ValueObjects.Grammar
