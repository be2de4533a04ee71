import ValueObjects.Emit.Document
import ValueObjects.Emit.Extension
import ValueObjects.Emit.Operators
import ValueObjects.Emit.Parsing
import ValueObjects.Emit.Relational
import ValueObjects.Proofs.BodyReaders
import ValueObjects.Proofs.Pass
/-!
Legible code. Fixed text is checked by computing its tokens; the names and types that go between
the pieces of fixed text were read from text, and what is read from text is legible.
-/
namespace ValueObjects

open Token

/-- Behind legible tokens, tokens are legible if they are so by themselves. -/
theorem Legible.append_iff (first : Legible before) : Legible (before ++ after) ↔ Legible after := by
  refine ⟨fun legible => ?_, first.append⟩
  induction before with
  | nil => exact legible
  | cons token rest ih => exact ih first.tail legible.tail

namespace Emit

/-! Pieces of code. The rules below take code apart; what is left to check of a piece of fixed text
is closed. -/

/-- Fixed text is checked by its characters, which saves decoding it. -/
theorem isFixed_phrase (fixed : isFixed (cut (chars.length + 1) chars) = true) :
    isFixed (phrase (String.ofList chars)) = true := by
  simpa [phrase] using fixed

theorem legible_phrase (fixed : isFixed (phrase text) = true) : Legible (phrase text) :=
  legible_of_isFixed fixed

@[simp]
theorem legible_code_nil : Legible (code []) :=
  .nil

@[simp]
theorem legible_code_text (fixed : isFixed (phrase text) = true) :
    Legible (code (.text text :: pieces)) ↔ Legible (code pieces) :=
  (legible_phrase fixed).append_iff

@[simp]
theorem legible_code_tokens (made : Legible tokens) :
    Legible (code (.tokens tokens :: pieces)) ↔ Legible (code pieces) :=
  made.append_iff

@[simp]
theorem code_code (inside pieces : List Piece) :
    code (.tokens (code inside) :: pieces) = code (inside ++ pieces) := by
  rw [code, code, code, List.flatMap_append]
  rfl

@[simp]
theorem legible_code_phrase (fixed : isFixed (phrase text) = true) :
    Legible (code (.tokens (phrase text) :: pieces)) ↔ Legible (code pieces) :=
  legible_code_text fixed

theorem legible_code_group : Legible (code (.tokens [.group delimiter tokens] :: pieces)) ↔
    Legible tokens ∧ Legible (code pieces) :=
  ⟨fun legible => ⟨legible.inside, legible.tail⟩, fun ⟨inside, more⟩ => .group inside more⟩

@[simp]
theorem legible_code_parens {inside : List Piece} :
    Legible (code (.tokens (parens inside) :: pieces)) ↔
      Legible (code inside) ∧ Legible (code pieces) :=
  legible_code_group

@[simp]
theorem legible_code_braces {inside : List Piece} :
    Legible (code (.tokens (braces inside) :: pieces)) ↔
      Legible (code inside) ∧ Legible (code pieces) :=
  legible_code_group

@[simp]
theorem legible_code_brackets {inside : List Piece} :
    Legible (code (.tokens (brackets inside) :: pieces)) ↔
      Legible (code inside) ∧ Legible (code pieces) :=
  legible_code_group

@[simp]
theorem legible_code_flatMap {elems : List α} {made : α → List Token}
    (each : ∀ elem ∈ elems, Legible (made elem)) :
    Legible (code (.tokens (elems.flatMap made) :: pieces)) ↔ Legible (code pieces) :=
  legible_code_tokens (.flatMap each)

@[simp]
theorem legible_code_stringLiteral : Legible (code (.tokens (stringLiteral text) :: pieces)) ↔
    Legible (code pieces) :=
  legible_code_tokens (.leaf rfl (Lexer.stands_quoteLiteral text) .nil)

@[simp]
theorem legible_code_documented : Legible (code (.tokens (documented text) :: pieces)) ↔
    Legible (code pieces) := by
  simp (disch := (apply isFixed_phrase; decide)) [documented]

@[simp]
theorem legible_code_inlined : Legible (code (.tokens inlined :: pieces)) ↔
    Legible (code pieces) := by
  simp (disch := (apply isFixed_phrase; decide)) [inlined]

/-- A literal that is scanned as a whole can be read back. -/
theorem legible_literal (scanned : Literal.scan? chars = some []) :
    Legible [.literal (String.ofList chars)] := by
  obtain ⟨used, whole, -, read⟩ := Literal.scan?_local scanned
  rw [List.append_nil] at whole
  subst whole
  exact .leaf rfl (Lexer.stands_of_scan? read) .nil

/-! Names. -/

theorem legible_of_identifier (named : identifier name use = .ok spelled) :
    Legible [.ident spelled] :=
  Grammar.legible_of_name? (identifier_eq_ok.mp named)

theorem legible_of_methodIdentifier (named : methodIdentifier name = .ok spelled) :
    Legible [.ident spelled] := by
  unfold methodIdentifier at named
  split at named
  · rename_i read
    cases named
    exact Grammar.legible_of_name? read
  · split at named
    · rename_i read
      cases named
      exact Grammar.legible_of_name? read
    · exact legible_of_identifier named

theorem legible_of_isWord (word : isWord name = true) : Legible [.ident name] :=
  .leaf rfl (isName_of_isWord word).stands .nil

theorem CratePath.legible_of (made : CratePath.of scope? name = .ok path) :
    Legible path.tokens := by
  obtain ⟨steps, leading, later⟩ := bind_eq_ok.mp made
  obtain ⟨last, named, whole⟩ := bind_eq_ok.mp later
  cases whole
  have each : ∀ step ∈ steps ++ [last], Legible [.ident step] := by
    intro step member
    rcases List.mem_append.mp member with inner | final
    · obtain ⟨_, _, spelled⟩ := item_of_mem leading inner
      exact legible_of_identifier spelled
    · cases List.mem_singleton.mp final
      exact legible_of_identifier named
  have root : Legible [.ident "crate"] := legible_of_isFixed (by decide)
  exact root.append (.flatMap fun step member => legible_pathSeparator.append (each step member))

/-! Payload types. -/

theorem TypeName.legible_option {inner : TypeName} (legible : Legible inner.tokens) :
    Legible (TypeName.option inner).tokens := by
  simp +decide [TypeName.tokens, legible]

theorem TypeName.legible_declared (path : Legible wrapper.tokens) :
    Legible (TypeName.declared wrapper).tokens := by
  simp +decide [TypeName.tokens, path]

theorem legible_of_otherPayload (path : Legible wrapper.tokens)
    (made : otherPayload wrapper display = .ok found) : Legible found.tokens := by
  unfold otherPayload at made
  split at made
  · split at made
    · rename_i read
      cases made
      exact Grammar.legible_of_type? read
    · cases made
  · cases made
    exact TypeName.legible_declared path

theorem legible_of_payloadType (path : Legible wrapper.tokens)
    (made : payloadType kind wrapper display = .ok found) : Legible found.tokens := by
  cases kind with
  | other => exact legible_of_otherPayload path made
  | numeric type =>
    cases type
    all_goals
      cases made
      exact legible_of_isFixed (by decide)
  | _ =>
    cases made
    exact legible_of_isFixed (by decide)

namespace Subject

/-- The wrapper's path and its payload's type can be read back. -/
structure IsLegible (subject : Subject) : Prop where
  wrapper : Legible subject.wrapper.tokens
  inner : Legible subject.inner.tokens

theorem isLegible_of {descriptor : Descriptor} {classification : Classification}
    (made : Subject.of descriptor classification = .ok subject) : subject.IsLegible := by
  have checked := Generation.checked_of_subject made
  have legible := CratePath.legible_of checked.path
  exact ⟨legible, legible_of_payloadType legible checked.typed⟩

theorem IsLegible.payload {subject : Subject} (legible : subject.IsLegible) :
    Legible subject.payload.tokens := by
  unfold Subject.payload
  split
  · exact TypeName.legible_option legible.inner
  · exact legible.inner

end Subject

/-! The units of a wrapper. -/

section

variable {wrapper payload : List Token} (legible : Legible wrapper) (held : Legible payload)

include legible held

namespace Operators

theorem legible_conversions : Legible (conversions wrapper payload) := by
  simp (disch := first | assumption | (apply isFixed_phrase; decide)) [conversions]

theorem legible_equality : Legible (equality wrapper payload) := by
  simp (disch := first | assumption | (apply isFixed_phrase; decide)) [equality]

omit held in
theorem legible_display (nullable : Bool) : Legible (display wrapper nullable) := by
  cases nullable
  all_goals simp (disch := first | assumption | (apply isFixed_phrase; decide)) [display, displayBody]

theorem legible_ordering : Legible (ordering wrapper payload) := by
  simp (disch := first | assumption | (apply isFixed_phrase; decide))
    [ordering, orderingResult]

theorem legible_binary (operator : Legible op) (named : Legible method)
    (combined : Legible combine) : Legible (binary wrapper payload op method combine) := by
  simp (disch := first | assumption | (apply isFixed_phrase; decide)) [binary]

theorem legible_addition : Legible (addition wrapper payload) := by
  apply legible_binary legible held
  all_goals exact legible_phrase (isFixed_phrase (by decide))

theorem legible_subtraction : Legible (subtraction wrapper payload) := by
  apply legible_binary legible held
  all_goals exact legible_phrase (isFixed_phrase (by decide))

end Operators

namespace Parsing

omit legible in
/-- Every way to read a payload. -/
theorem legible_strategy (kind : Kind) : Legible (strategy kind payload) := by
  cases kind
  all_goals simp (disch := first | assumption | (apply isFixed_phrase; decide)) [strategy]

end Parsing

namespace Relational

theorem legible_plainConverter (named : Legible [.ident name]) :
    Legible (plainConverter name path wrapper payload) := by
  simp (disch := first | assumption | (apply isFixed_phrase; decide)) [plainConverter]

theorem legible_nullableConverter (named : Legible [.ident name]) :
    Legible (nullableConverter name path wrapper payload) := by
  simp (disch := first | assumption | (apply isFixed_phrase; decide)) [nullableConverter]

theorem legible_column : Legible (column wrapper payload) := by
  simp (disch := first | assumption | (apply isFixed_phrase; decide)) [column]

end Relational

end

section

variable {subject : Subject} (legible : subject.IsLegible)

include legible

theorem legible_operators : Legible (operators subject) := by
  have path := legible.wrapper
  have held := legible.payload
  have optional (supported : Bool) {tokens : List Token} (made : Legible tokens) :
      Legible (if supported then tokens else []) := by
    cases supported with
    | false => exact .nil
    | true => exact made
  unfold operators
  exact (((((Operators.legible_conversions path held).append
    (Operators.legible_equality path held)).append
    (Operators.legible_display path _)).append
    (optional _ (Operators.legible_ordering path held))).append
    (optional _ (Operators.legible_addition path held))).append
    (optional _ (Operators.legible_subtraction path held))

theorem legible_parsing : Legible (parsing subject) := by
  have path := legible.wrapper
  have read := Parsing.legible_strategy legible.inner subject.classification.kind
  cases nullable : subject.classification.nullable
  all_goals simp (disch := first | assumption | (apply isFixed_phrase; decide)) [parsing, nullable]

theorem legible_relational (plain : Legible [.ident converters.plain])
    (nullable : Legible [.ident converters.nullable]) :
    Legible (relational subject converters) :=
  have held := legible.payload
  ((Relational.legible_plainConverter legible.wrapper held plain).append
    (Relational.legible_nullableConverter legible.wrapper held nullable)).append
    (Relational.legible_column legible.wrapper held)

theorem legible_document : Legible (document subject) := by
  have path := legible.wrapper
  have held := legible.payload
  simp (disch := first | assumption | (apply isFixed_phrase; decide)) [document]

end

/-! The units of several wrappers. -/

theorem legible_registration {wrappers : List CratePath}
    (each : ∀ wrapper ∈ wrappers, Legible wrapper.tokens) : Legible (registration wrappers) := by
  have registers : ∀ wrapper ∈ wrappers,
      Legible (code ["registry.register::<", wrapper.tokens, ">", parens [], ";"]) := by
    intro wrapper member
    have path := each wrapper member
    simp (disch := first | assumption | (apply isFixed_phrase; decide))
  unfold registration
  extract_lets body doc
  have described : Legible [.literal doc] := by
    apply legible_literal
    decide
  have made : Legible body := by
    simp only [body]
    split
    · exact legible_phrase (isFixed_phrase (by decide))
    · exact .flatMap registers
  simp (disch := first | assumption | (apply isFixed_phrase; decide))

namespace Extension

theorem legible_accessorTokens {accessor : Accessor} {payload : List Token} (held : Legible payload)
    (method : Legible [.ident accessor.method]) (wrapper : Legible accessor.wrapper.tokens) :
    Legible (accessorTokens payload accessor) := by
  simp (disch := first | assumption | (apply isFixed_phrase; decide)) [accessorTokens]

/-- The extension's names and paths can be read back. -/
structure IsLegible (ext : Extension) : Prop where
  holder : Legible [.ident ext.holder]
  trait : Legible [.ident ext.trait]
  payload : Legible ext.payload.tokens
  accessors : ∀ accessor ∈ ext.accessors,
    Legible [.ident accessor.method] ∧ Legible accessor.wrapper.tokens

theorem isLegible_of {group : Group} {ext : Extension}
    (checked : ∀ subject ∈ subjects, Subject.IsLegible subject)
    (made : Extension.of group subjects = .ok (some ext)) : ext.IsLegible := by
  obtain ⟨holder, named, later⟩ := bind_eq_ok.mp made
  simp only at later
  split at later
  · cases later
  · rename_i word
    split at later
    · cases later
    · rename_i first rest
      obtain ⟨accessors, each, whole⟩ := bind_eq_ok.mp later
      cases whole
      refine ⟨legible_of_identifier (Generation.lift_eq_ok.mp named),
        legible_of_isWord (by simpa using word), (checked first List.mem_cons_self).payload, ?_⟩
      intro accessor member
      obtain ⟨subject, present, written⟩ := item_of_mem (Generation.lift_eq_ok.mp each) member
      obtain ⟨method, called, same⟩ := bind_eq_ok.mp written
      cases same
      exact ⟨legible_of_methodIdentifier called, (checked subject present).wrapper⟩

theorem IsLegible.tokens {ext : Extension} (legible : ext.IsLegible) : Legible ext.tokens := by
  obtain ⟨holder, trait, payload, accessors⟩ := legible
  have each : ∀ accessor ∈ ext.accessors, Legible (accessorTokens ext.payload.tokens accessor) :=
    fun accessor member =>
      legible_accessorTokens payload (accessors accessor member).1 (accessors accessor member).2
  simp (disch := first | assumption | (apply isFixed_phrase; decide)) [Extension.tokens]

end Extension

namespace EntityConverters

theorem legible_rowTokens {row : ConverterRow} (named : Legible [.ident row.converter]) :
    Legible (rowTokens row) := by
  simp (disch := first | assumption | (apply isFixed_phrase; decide)) [rowTokens]

theorem legible_of {found : EntityConverters}
    (made : EntityConverters.of stemOf properties = .ok (some found)) : Legible found.tokens := by
  unfold EntityConverters.of at made
  split at made
  · cases made
  · obtain ⟨entity, path, later⟩ := bind_eq_ok.mp made
    obtain ⟨rows, listed, whole⟩ := bind_eq_ok.mp later
    cases whole
    have located := CratePath.legible_of path
    have each : ∀ row ∈ rows, Legible (rowTokens row) := by
      intro row member
      obtain ⟨property, -, written⟩ := item_of_mem listed member
      obtain ⟨converter, named, later⟩ := bind_eq_ok.mp written
      obtain ⟨_, _, same⟩ := bind_eq_ok.mp later
      cases same
      exact legible_rowTokens (legible_of_identifier named)
    simp (disch := first | assumption | (apply isFixed_phrase; decide))
      [EntityConverters.tokens]

end EntityConverters

end Emit

end ValueObjects
