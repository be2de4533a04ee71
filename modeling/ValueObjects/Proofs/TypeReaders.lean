import ValueObjects.Proofs.LegibleReaders
import ValueObjects.Proofs.LegibleTypes

namespace ValueObjects.Grammar

open Std.Do

set_option mvcgen.warning false

/-- Recursive readers that keep the cursor between legible tokens, and give legible types. -/
class Rules.Keep (rules : Rules) : Prop where
  type : ∀ plus, Gives (rules.type plus) fun ty => Legible ty.tokens
  bound : ∀ capturing, Keeps (rules.bound capturing)
  expr : ∀ structs, Keeps (rules.expr structs)
  unary : ∀ structs, Keeps (rules.unary structs)
  climb : ∀ left structs base, Keeps (rules.climb left structs base)
  boundary : Keeps rules.boundary
  pattern : Keeps rules.pattern
  statements : Keeps rules.statements
  item : ∀ attrs, Keeps (rules.item attrs)
  useTree : ∀ fromRoot, Keeps (rules.useTree fromRoot)

attribute [spec] Rules.Keep.bound Rules.Keep.expr Rules.Keep.unary Rules.Keep.climb
  Rules.Keep.boundary Rules.Keep.pattern Rules.Keep.statements Rules.Keep.item Rules.Keep.useTree

variable {rules : Rules} [rules.Keep]

theorem type_gives : Gives (rules.type plus) fun ty => Legible ty.tokens :=
  Rules.Keep.type plus

@[spec]
theorem type_spec : Keeps (rules.type plus) :=
  type_gives.keeps

/-! Attributes. -/

@[spec]
theorem namePath_spec : Keeps namePath := by
  mvcgen [namePath, namePath.step]

@[spec]
theorem attributeValue_spec : Keeps (attributeValue rules) := by
  mvcgen [attributeValue]

@[spec]
theorem attributeBody_spec : Keeps (attributeBody rules) := by
  mvcgen [attributeBody]

@[spec]
theorem outerAttributes_spec : Keeps (outerAttributes rules) := by
  mvcgen [outerAttributes]

@[spec]
theorem innerAttributes_spec : Keeps (innerAttributes rules) := by
  mvcgen [innerAttributes]

@[spec]
theorem block_spec : Keeps (block rules) := by
  mvcgen [block]

@[spec]
theorem attributedBlock_spec : Keeps (attributedBlock rules) := by
  mvcgen [attributedBlock]

/-! Paths. -/

@[spec]
theorem constArgument_spec : Keeps (constArgument rules) := by
  mvcgen [constArgument]

@[spec]
theorem argumentTail_spec : Keeps (argumentTail rules) := by
  mvcgen [argumentTail]

theorem argument_gives : Gives (argument rules) fun argument => Legible argument.tokens.2 := by
  have constant : Gives (captured (constArgument rules)) fun found => True ∧ Legible found.2 :=
    captured_gives constArgument_spec.gives
  have typed : Gives (do
      let ty ← rules.type true
      let bound ← if singleStep? ty then argumentTail rules else pure false
      return (ty, bound)) fun found => Legible found.1.tokens := by
    mvcgen [type_gives, -type_spec] with grind
  have written := captured_gives typed
  unfold argument
  extract_lets
  mvcgen [lifetime_gives, -lifetime_spec, constant, written, -captured_spec]
  · rename_i found
    exact ⟨found.1, found.2.2⟩
  · rename_i found
    refine ⟨found.1, ?_⟩
    split
    · exact found.2.2
    · exact found.2.1

theorem angleArguments_gives :
    Gives (angleArguments rules fish) fun arguments => Legible arguments.tokens := by
  have elems : Gives (separated "," (atMark ">") (argument rules)) fun found =>
      ∀ one ∈ found.1, Legible one.tokens.2 :=
    separated_gives rfl argument_gives
  mvcgen [angleArguments, elems, -separated_spec]
  · rename_i found
    exact found.1
  · rename_i found _ _ legible
    exact ⟨legible, .arguments _ _ found.2⟩

theorem turbofish_gives : Gives (turbofish rules) fun arguments => Legible arguments.tokens := by
  have arguments : Gives (angleArguments rules true) _ := angleArguments_gives
  mvcgen [turbofish, arguments]

@[spec]
theorem turbofish_spec : Keeps (turbofish rules) :=
  turbofish_gives.keeps

theorem segment_gives : Gives (segment rules inExpr) fun segment => Legible segment.tokens := by
  have arguments : Gives (angleArguments rules false) _ := angleArguments_gives
  mvcgen [segment, anyName_gives, name_gives, -anyName_spec, -name_spec, arguments,
    turbofish_gives, -turbofish_spec] with grind [Legible.segment, Legible.plain]

theorem steps_gives (continues : List Token → Bool) :
    Gives (collectWhile continues do
      mark "::"
      segment rules inExpr) fun segments => ∀ segment ∈ segments, Legible segment.tokens := by
  apply collectWhile_gives
  mvcgen [segment_gives]

theorem path_gives : Gives (path rules inExpr) QualifiedPath.IsLegible := by
  mvcgen [path, segment_gives, steps_gives, -collectWhile_spec]
  · rename_i first
    exact first.1
  · rename_i first _ _ rest
    exact ⟨rest.1, by simp, List.forall_mem_cons.mpr ⟨first.2, rest.2⟩⟩

theorem qualifiedPath_gives : Gives (qualifiedPath rules inExpr) QualifiedPath.IsLegible := by
  mvcgen [qualifiedPath, type_gives, -type_spec, segment_gives, path_gives, steps_gives,
    -collectWhile_spec] with grind [QualifiedPath.IsLegible.segments, QualifiedPath.isLegible_into]

@[spec]
theorem path_spec : Keeps (path rules inExpr) :=
  path_gives.keeps

@[spec]
theorem qualifiedPath_spec : Keeps (qualifiedPath rules inExpr) :=
  qualifiedPath_gives.keeps

@[spec]
theorem returnType_spec : Keeps (returnType rules plus) := by
  mvcgen [returnType]

@[spec]
theorem callArguments_spec : Keeps (callArguments rules after) := by
  mvcgen [callArguments]

/-! Bounds. -/

@[spec]
theorem forLifetimes_spec : Keeps (forLifetimes rules) := by
  mvcgen [forLifetimes]
  exact fun _ _ => rfl

@[spec]
theorem forLifetimes?_spec : Keeps (forLifetimes? rules) := by
  mvcgen [forLifetimes?]

@[spec]
theorem captures_spec : Keeps captures := by
  mvcgen [captures]
  exact fun _ _ => rfl

@[spec]
theorem traitBound_spec : Keeps (traitBound rules) := by
  mvcgen [traitBound]

@[spec]
theorem bound_spec : Keeps (bound rules capturing) := by
  mvcgen [bound]

@[spec]
theorem moreBounds_spec : Keeps (moreBounds rules capturing) := by
  mvcgen [moreBounds]
  exact fun _ _ => rfl

@[spec]
theorem bounds_spec : Keeps (bounds rules plus capturing) := by
  mvcgen [bounds]

@[spec]
theorem optionalBounds_spec : Keeps (optionalBounds rules stop) := by
  mvcgen [optionalBounds]

@[spec]
theorem lifetimeBounds_spec : Keeps (lifetimeBounds stop) := by
  mvcgen [lifetimeBounds]

@[spec]
theorem parameter_spec : Keeps (parameter rules) := by
  mvcgen [parameter]

@[spec]
theorem parameters_spec : Keeps (parameters rules) := by
  mvcgen [parameters]

@[spec]
theorem isGeneric_spec : Keeps (isGeneric rules) := by
  mvcgen [isGeneric]

@[spec]
theorem predicate_spec : Keeps (predicate rules) := by
  mvcgen [predicate]

@[spec]
theorem whereClause_spec : Keeps (whereClause rules) := by
  mvcgen [whereClause]

@[spec]
theorem whereClause?_spec : Keeps (whereClause? rules) := by
  mvcgen [whereClause?]

/-! Types. -/

theorem verbatim_gives {reader : Reader Unit} (keeps : Keeps reader) :
    Gives (verbatim reader) fun ty => Legible ty.tokens := by
  have written := captured_gives keeps.gives
  mvcgen [verbatim, written, -captured_spec]
  rename_i found
  exact ⟨found.1, found.2.2⟩

@[spec]
theorem functionParameter_spec : Keeps (functionParameter rules first) := by
  mvcgen [functionParameter]

@[spec]
theorem variadic_spec : Keeps variadic := by
  mvcgen [variadic]

@[spec]
theorem functionParameters_spec : Keeps (functionParameters rules first fuel) := by
  induction fuel generalizing first with
  | zero => mvcgen [functionParameters]
  | succ fuel ih => mvcgen [functionParameters, ih]

@[spec]
theorem abi?_spec : Keeps abi? := by
  mvcgen [abi?]

@[spec]
theorem functionType_spec : Keeps (functionType rules) := by
  mvcgen [functionType]

@[spec]
theorem macroArguments_spec : Keeps macroArguments := by
  mvcgen [macroArguments]

theorem pathType_gives : Gives (pathType rules plus lifetimes) fun ty => Legible ty.tokens := by
  have body : Gives (do
      let path ← qualifiedPath rules false
      if path.self?.isSome then
        return (path, true)
      else if atMacro path (← upcoming) then
        let _ ← macroArguments
        return (path, false)
      else if lifetimes || (plus && atMark "+" (← upcoming)) then
        if plus then
          let _ ← moreBounds rules false
        return (path, false)
      else
        return (path, true)) fun found => found.1.IsLegible := by
    mvcgen [qualifiedPath_gives, -qualifiedPath_spec] with grind
  have written := captured_gives body
  unfold pathType
  extract_lets
  mvcgen [written, -captured_spec] with grind [QualifiedPath.IsLegible.ty, Legible.verbatim]

@[spec]
theorem pathType_spec : Keeps (pathType rules plus lifetimes) :=
  pathType_gives.keeps

/-- What parentheses enclose, if its types are legible. -/
def Enclosed.IsLegible : Enclosed → Prop
  | .tuple elems _ => ∀ elem ∈ elems, Legible elem.tokens
  | .single ty => Legible ty.tokens
  | .bound => True

theorem enclosed_gives : Gives (enclosed rules) Enclosed.IsLegible := by
  have written : Gives (captured (bounds rules true false)) _ := captured_gives bounds_spec.gives
  have rest : Gives (commaList (rules.type true)) fun found =>
      ∀ elem ∈ found.1, Legible elem.tokens :=
    separated_gives rfl type_gives
  mvcgen [enclosed, type_gives, -type_spec, written, -captured_spec, rest, -commaList_spec]
    with grind [Enclosed.IsLegible, Legible.verbatim]

theorem parenthesized_gives : Gives (parenthesized rules plus) fun ty => Legible ty.tokens := by
  have within : Gives (inside .parenthesis (enclosed rules)) _ := inside_gives enclosed_gives
  let holds := fun found? : Option Ty => ∀ ty ∈ found?, Legible ty.tokens
  refine Gives.bind (captured_gives (?_ : Gives _ holds)) fun result found => gives_pure ?_
  · mvcgen [within, -inside_spec] with grind [Enclosed.IsLegible, Legible.tuple, Legible.paren]
  · cases made : result.1 with
    | none => exact found.2
    | some ty => exact found.1 ty made

theorem bracketed_gives : Gives (bracketed rules) fun ty => Legible ty.tokens := by
  have length : Gives (captured (rules.expr true)) _ :=
    captured_gives (Rules.Keep.expr true).gives
  unfold bracketed
  apply inside_gives
  mvcgen [type_gives, -type_spec, length, -captured_spec]
    with grind [Legible.array, Legible.slice]

theorem pointer_gives : Gives (pointer rules) fun ty => Legible ty.tokens := by
  mvcgen [pointer, type_gives, -type_spec] with grind [Legible.pointer]

theorem reference_gives : Gives (reference rules) fun ty => Legible ty.tokens := by
  mvcgen [reference, type_gives, -type_spec, lifetime?_gives, -lifetime?_spec]
    with grind [Legible.reference]

theorem lifetimeType_gives : Gives (lifetimeType rules plus) fun ty => Legible ty.tokens := by
  mvcgen [lifetimeType, verbatim_gives]

theorem ty_gives : Gives (ty rules plus) fun ty => Legible ty.tokens := by
  mvcgen [ty, lifetimeType_gives, parenthesized_gives, pathType_gives, -pathType_spec,
    bracketed_gives, pointer_gives, reference_gives, verbatim_gives]
  exact fun _ _ => rfl

end ValueObjects.Grammar
