import ValueObjects.Generation.Pass
import ValueObjects.Proofs.ConverterNames

namespace ValueObjects

namespace Text

/-- What follows the double quote that ends a quoted text. -/
def pastQuoted : List Char → List Char
  | '\\' :: _ :: rest => pastQuoted rest
  | '"' :: rest => rest
  | _ :: rest => pastQuoted rest
  | [] => []

theorem pastQuoted_escape : pastQuoted ('\\' :: c :: rest) = pastQuoted rest := by
  rw [pastQuoted]

theorem pastQuoted_plain (noEscape : c ≠ '\\') (noEnd : c ≠ '"') :
    pastQuoted (c :: rest) = pastQuoted rest := by
  rw [pastQuoted]
  · intro d more same
    exact (noEscape same).elim
  · exact noEnd

theorem pastQuoted_plains (plain : ∀ c ∈ text, c ≠ '\\' ∧ c ≠ '"') :
    pastQuoted (text ++ rest) = pastQuoted rest := by
  induction text with
  | nil => rfl
  | cons c text ih =>
    have head := plain c List.mem_cons_self
    rw [List.cons_append, pastQuoted_plain head.1 head.2]
    exact ih fun d member => plain d (List.mem_cons_of_mem _ member)

theorem hex_plain (n : Nat) : ∀ c ∈ hex n, c ≠ '\\' ∧ c ≠ '"' := by
  have digits : ∀ digit < 16, Nat.digitChar digit ≠ '\\' ∧ Nat.digitChar digit ≠ '"' := by decide
  induction n using Nat.strongRecOn with
  | ind n ih =>
    intro c member
    rw [hex, Nat.toDigits_eq_if (by decide)] at member
    split at member
    · rename_i small
      rw [List.mem_singleton.mp member]
      exact digits n small
    · rcases List.mem_append.mp member with leading | last
      · exact ih (n / 16) (by omega) c leading
      · rw [List.mem_singleton.mp last]
        exact digits (n % 16) (Nat.mod_lt n (by decide))

/-- An escaped character ends no quoted text. -/
theorem pastQuoted_escaped (c : Char) (rest : List Char) :
    pastQuoted (escaped c ++ rest) = pastQuoted rest := by
  unfold escaped
  split
  any_goals exact pastQuoted_escape
  rename_i noEscape noEnd
  split
  · exact pastQuoted_plain (by assumption) (by assumption)
  · calc
      pastQuoted (codeEscape c ++ rest) =
          pastQuoted ('\x7b' :: (hex c.toNat ++ '\x7d' :: rest)) := by
        simp [codeEscape, pastQuoted_escape]
      _ = pastQuoted (hex c.toNat ++ '\x7d' :: rest) := pastQuoted_plain (by decide) (by decide)
      _ = pastQuoted ('\x7d' :: rest) := pastQuoted_plains (hex_plain c.toNat)
      _ = pastQuoted rest := pastQuoted_plain (by decide) (by decide)

theorem pastQuoted_literalBody (text rest : List Char) :
    pastQuoted (literalBody text ++ '"' :: rest) = rest := by
  induction text using literalBody.induct with
  | case1 => rfl
  | case2 next more ih =>
    rw [literalBody, List.append_assoc]
    split
    · simpa [pastQuoted_escape, pastQuoted_plain] using ih
    · simpa [pastQuoted_escape] using ih
  | case3 c more other ih =>
    rw [literalBody, List.append_assoc, pastQuoted_escaped]
    · exact ih
    · exact other

end Text

namespace Token

theorem spellAll_append (first second : List Token) :
    ∃ rest, spell.spellAll (first ++ second) = spell.spellAll first ++ rest := by
  induction first with
  | nil => exact ⟨_, rfl⟩
  | cons token tokens ih =>
    obtain ⟨rest, split⟩ := ih
    rw [List.cons_append, spell.spellAll, split, spell.spellAll]
    cases tokens with
    | nil => exact ⟨gap token second ++ rest, by simp [gap, spell.spellAll]⟩
    | cons next more => exact ⟨rest, by simp [gap]⟩

theorem spellAll_infix (before middle after : List Token) :
    ∃ first last, spell.spellAll (before ++ middle ++ after) =
      first ++ spell.spellAll middle ++ last := by
  induction before with
  | nil =>
    obtain ⟨last, split⟩ := spellAll_append middle after
    exact ⟨[], last, split⟩
  | cons token tokens ih =>
    obtain ⟨first, last, split⟩ := ih
    refine ⟨spell token ++ gap token (tokens ++ middle ++ after) ++ first, last, ?_⟩
    rw [List.cons_append, List.cons_append, spell.spellAll, split]
    simp only [List.append_assoc]

end Token

theorem unit_eq_of_render (made : GeneratedUnit.render start kind tokens = .ok unit) :
    unit = ⟨GeneratedUnit.nameOf start kind, kind,
      header ++ "\n" ++ Token.render tokens ++ "\n"⟩ := by
  unfold GeneratedUnit.render at made
  split at made
  · cases made
    rfl
  · cases made

namespace Emit

open Text

/-- The declaration of a converter. -/
def declaration (name : String) : List Token :=
  [.ident "pub", .ident "struct", .ident name, .punct ';' .alone]

private theorem phrase_struct : phrase "pub struct" = [.ident "pub", .ident "struct"] := by
  rfl

private theorem phrase_end : phrase ";" = [.punct ';' .alone] := by
  rfl

theorem plainConverter_declares (name path : String) (wrapper payload : List Token) :
    ∃ rest, Relational.plainConverter name path wrapper payload =
      documented ("Column converter for `" ++ path ++ "`.") ++ declaration name ++ rest := by
  simp only [Relational.plainConverter, code, List.flatMap_cons, Piece.code, phrase_struct,
    phrase_end, List.append_assoc, List.cons_append, List.nil_append, declaration,
    List.append_cancel_left_eq, List.cons.injEq, true_and, exists_eq']

theorem nullableConverter_declares (name path : String) (wrapper payload : List Token) :
    ∃ rest, Relational.nullableConverter name path wrapper payload =
      documented ("Column converter for `Option<" ++ path ++ ">`.") ++ declaration name ++ rest := by
  simp only [Relational.nullableConverter, code, List.flatMap_cons, Piece.code, phrase_struct,
    phrase_end, List.append_assoc, List.cons_append, List.nil_append, declaration,
    List.append_cancel_left_eq, List.cons.injEq, true_and, exists_eq']

theorem relational_begins (subject : Subject) (converters : Converters) :
    ∃ text rest, relational subject converters =
      documented text ++ declaration converters.plain ++ rest := by
  obtain ⟨rest, first⟩ := plainConverter_declares converters.plain subject.typeName
    subject.wrapper.tokens subject.payload.tokens
  simp only [relational, first, List.append_assoc]
  exact ⟨_, _, rfl⟩

theorem relational_declares (subject : Subject)
    (given : name = converters.plain ∨ name = converters.nullable) :
    ∃ before after, relational subject converters = before ++ declaration name ++ after := by
  rcases given with rfl | rfl
  · obtain ⟨text, rest, begins⟩ := relational_begins subject converters
    exact ⟨_, _, begins⟩
  · obtain ⟨rest, second⟩ := nullableConverter_declares converters.nullable subject.typeName
      subject.wrapper.tokens subject.payload.tokens
    simp only [relational, second, List.append_assoc]
    exact ⟨_ ++ _, _, (List.append_assoc _ _ _).symm⟩

theorem spell_declaration (name : String) :
    Token.spell.spellAll (declaration name) = ("pub struct " ++ name ++ " ;").toList := by
  simp [declaration, Token.spell.spellAll, Token.spell, Token.gap, Token.isJoint]

/-- The text of a relational unit holds the declarations of both converters. -/
theorem contents_declares
    (made : GeneratedUnit.render start .relational (relational subject converters) = .ok unit)
    (given : name = converters.plain ∨ name = converters.nullable) :
    ∃ before after, unit.contents = before ++ ("pub struct " ++ name ++ " ;") ++ after := by
  obtain ⟨before, after, whole⟩ := relational_declares subject given
  obtain ⟨first, last, spelled⟩ := Token.spellAll_infix before (declaration name) after
  refine ⟨header ++ "\n" ++ String.ofList first, String.ofList last ++ "\n", ?_⟩
  rw [unit_eq_of_render made, whole, Token.render, spelled, spell_declaration]
  simp only [String.ofList_append, String.ofList_toList, String.append_assoc]

/-- What stands before the documentation of the first converter. -/
def opening : List Char :=
  (header ++ "\n# [doc = \"").toList

/-- The name of the structure that a unit declares first, after its documentation. -/
def firstStruct (contents : List Char) : List Char :=
  ((pastQuoted (contents.drop opening.length)).drop "] pub struct ".length).takeWhile (· != ' ')

theorem spell_documented (text name : String) :
    Token.spell.spellAll (documented text ++ declaration name) =
      "# [doc = \"".toList ++ (literalBody text.toList ++
        '"' :: ("] pub struct ".toList ++ (name.toList ++ [' ', ';']))) := by
  have literal : (quoteLiteral text).toList = '"' :: (literalBody text.toList ++ ['"']) := by
    rw [quoteLiteral, String.toList_ofList]
    rfl
  have marked : documented text = [.punct '#' .alone, .group .bracket
      [.ident "doc", .punct '=' .alone, .literal (quoteLiteral text)]] := rfl
  rw [marked]
  simp [declaration, Token.spell.spellAll, Token.spell, Token.gap, Token.isJoint, Delimiter.opening,
    Delimiter.closing, literal]

/-- The name of the plain converter is read off the text of its unit. -/
theorem firstStruct_of_render (solid : Solid converters.plain.toList)
    (made : GeneratedUnit.render start .relational (relational subject converters) = .ok unit) :
    firstStruct unit.contents.toList = converters.plain.toList := by
  obtain ⟨text, rest, whole⟩ := relational_begins subject converters
  obtain ⟨more, spelled⟩ :=
    Token.spellAll_append (documented text ++ declaration converters.plain) rest
  have contents : unit.contents.toList = opening ++ (literalBody text.toList ++
      '"' :: ("] pub struct ".toList ++ (converters.plain.toList ++ ' ' :: ';' :: (more ++ ['\n'])))) := by
    rw [unit_eq_of_render made, whole, Token.render, spelled, spell_documented]
    simp [opening]
  have word : ∀ c ∈ converters.plain.toList, (c != ' ') = true := by
    intro c member
    rw [bne_iff_ne]
    rintro rfl
    cases solid ' ' member
  rw [firstStruct, contents, List.drop_left, pastQuoted_literalBody, ← String.length_toList,
    List.drop_left, List.takeWhile_append_of_pos word]
  simp

end Emit

end ValueObjects
