import Mathlib.Data.Nat.Digits.Defs
import ValueObjects.Text.Quoted
import ValueObjects.Token.Literal

namespace ValueObjects

theorem length_le_flatMap {written : α → List β} {elems : List α}
    (filled : ∀ elem ∈ elems, written elem ≠ []) :
    elems.length ≤ (elems.flatMap written).length := by
  induction elems with
  | nil => exact Nat.le_refl 0
  | cons elem rest ih =>
    rw [List.forall_mem_cons] at filled
    have one := List.length_pos_iff.mpr filled.1
    have more := ih filled.2
    rw [List.flatMap_cons, List.length_append, List.length_cons]
    omega

namespace Literal

open Text

theorem exists_of_mem_hex (member : c ∈ hex n) : ∃ digit < 16, c = Nat.digitChar digit := by
  induction n using Nat.strongRecOn with
  | ind n ih =>
    rw [hex, Nat.toDigits_eq_if (by decide)] at member
    split at member
    · exact ⟨n, by assumption, List.mem_singleton.mp member⟩
    · rcases List.mem_append.mp member with leading | last
      · exact ih (n / 16) (by omega) leading
      · exact ⟨n % 16, Nat.mod_lt n (by decide), List.mem_singleton.mp last⟩

theorem hexDigit?_digitChar {digit : Nat} (small : digit < 16) :
    hexDigit? (Nat.digitChar digit) = some digit := by
  have all : ∀ digit < 16, hexDigit? (Nat.digitChar digit) = some digit := by decide
  exact all digit small

theorem codeDigits?_digit {digit : Nat} (small : digit < 16) (few : count < 6) :
    codeDigits? code count (Nat.digitChar digit :: rest) =
      codeDigits? (16 * code + digit) (count + 1) rest := by
  have read := hexDigit?_digitChar small
  have isDigit : isHexDigit (Nat.digitChar digit) = true := by simp [isHexDigit, read]
  have value : hexValue (Nat.digitChar digit) = digit := by simp [hexValue, read]
  rw [codeDigits?, if_pos isDigit, if_neg (by omega), value]

/-- The digits of a number are read as the number, up to six of them. -/
theorem codeDigits?_hex (n : Nat) (few : (hex n).length ≤ 6) :
    codeDigits? 0 0 (hex n ++ rest) = codeDigits? n (hex n).length rest := by
  induction n using Nat.strongRecOn generalizing rest with
  | ind n ih =>
    rw [hex, Nat.toDigits_eq_if (by decide)] at few ⊢
    split
    · rename_i small
      rw [List.singleton_append, codeDigits?_digit small (by decide)]
      simp
    · rename_i large
      rw [if_neg large, List.length_append, List.length_singleton] at few
      change (hex (n / 16)).length < 6 at few
      rw [← hex, List.append_assoc, ih (n / 16) (by omega) (Nat.le_of_lt few),
        List.singleton_append,
        codeDigits?_digit (Nat.mod_lt n (by decide)) few, Nat.div_add_mod, List.length_append,
        List.length_singleton]

/-- A character escaped by its code point is read back. -/
theorem quotedChar?_codeEscape (c : Char) (rest : List Char) :
    quotedChar? .unicode (codeEscape c ++ rest) = some (some c, rest) := by
  have bound : c.toNat < 16 ^ 6 := by
    have valid := c.valid
    simp only [UInt32.isValidChar, Nat.isValidChar] at valid
    change c.val.toNat < 16 ^ 6
    omega
  have few : (hex c.toNat).length ≤ 6 := Nat.toDigits_length 16 c.toNat 6 (by decide) bound
  have filled : 0 < (hex c.toNat).length := List.length_pos_iff.mpr Nat.toDigits_ne_nil
  have code : codeEscape? ('\x7b' :: (hex c.toNat ++ '\x7d' :: rest)) = some (c.toNat, rest) := by
    have valid : c.toNat.isValidChar := c.valid
    have noDigit : isHexDigit '\x7d' = false := by decide
    rw [codeEscape?, codeDigits?_hex c.toNat few, codeDigits?, noDigit]
    simp [filled, valid]
  have whole : codeEscape c ++ rest =
      '\\' :: 'u' :: '\x7b' :: (hex c.toNat ++ '\x7d' :: rest) := by
    simp [codeEscape]
  rw [whole, quotedChar?, code]
  simp

theorem quotedChar?_plain (alphabet : Alphabet) (noReturn : c ≠ '\r') (noEscape : c ≠ '\\')
    (rest : List Char) :
    quotedChar? alphabet (c :: rest) = if alphabet.admits c then some (some c, rest) else none := by
  unfold quotedChar?
  split <;> simp_all

/-- An escaped character is read back. -/
theorem quotedChar?_escaped (c : Char) (rest : List Char) :
    quotedChar? .unicode (escaped c ++ rest) = some (some c, rest) := by
  unfold escaped
  split
  any_goals rfl
  split
  · exact quotedChar?_plain .unicode (by assumption) (by assumption) rest
  · exact quotedChar?_codeEscape c rest

/-- An escaped character does not begin with a double quote. -/
theorem escaped_cons (c : Char) : ∃ first more, escaped c = first :: more ∧ first ≠ '"' := by
  unfold escaped
  split
  any_goals exact ⟨_, _, rfl, by decide⟩
  split
  · exact ⟨c, [], rfl, by assumption⟩
  · exact ⟨_, _, rfl, by decide⟩

/-- One character that is read goes before those that follow it. -/
theorem quoted?_step {text rest : List Char} (unclosed : text.head? ≠ some '"')
    (read : quotedChar? alphabet text = some (some c, rest)) (fuel : Nat) :
    quoted? alphabet (fuel + 1) text =
      (quoted? alphabet fuel rest).map fun (cs, rest) => (c :: cs, rest) := by
  rw [quoted?, read]
  rintro more rfl
  exact unclosed rfl

theorem quoted?_escaped (c : Char) (fuel : Nat) (rest : List Char) :
    quoted? .unicode (fuel + 1) (escaped c ++ rest) =
      (quoted? .unicode fuel rest).map fun (cs, rest) => (c :: cs, rest) := by
  apply quoted?_step _ (quotedChar?_escaped c rest)
  obtain ⟨first, more, split, other⟩ := escaped_cons c
  simp [split, other]

/-- Escaped characters are read up to the closing double quote. -/
theorem quoted?_flatMap (text rest : List Char) (spare : Nat) :
    quoted? .unicode (text.length + 1 + spare) (text.flatMap escaped ++ '"' :: rest) =
      some (text, rest) := by
  induction text with
  | nil => rw [Nat.add_right_comm]; rfl
  | cons c text ih =>
    have more : (c :: text).length + 1 + spare = (text.length + 1 + spare) + 1 := by
      simp only [List.length_cons]
      omega
    rw [List.flatMap_cons, List.append_assoc, more, quoted?_escaped, ih]
    rfl

/-- A null before a digit is read back from either form. -/
theorem quotedChar?_null (octal : Bool) (rest : List Char) :
    quotedChar? .unicode
      ((if octal then ['\\', 'x', '0', '0'] else ['\\', '0']) ++ rest) =
        some (some '\x00', rest) := by
  cases octal <;> rfl

theorem quoted?_literalBody (text rest : List Char) (spare : Nat) :
    quoted? .unicode (text.length + 1 + spare) (literalBody text ++ '"' :: rest) =
      some (text, rest) := by
  induction text using literalBody.induct with
  | case1 => rw [Nat.add_right_comm]; rfl
  | case2 next more ih =>
    have further : ('\x00' :: next :: more).length + 1 + spare =
        ((next :: more).length + 1 + spare) + 1 := by
      simp only [List.length_cons]
      omega
    rw [literalBody, List.append_assoc, further, quoted?_step _ (quotedChar?_null _ _), ih]
    · rfl
    · split <;> exact nofun
  | case3 c more other ih =>
    have further : (c :: more).length + 1 + spare = (more.length + 1 + spare) + 1 := by
      simp only [List.length_cons]
      omega
    rw [literalBody, List.append_assoc, further, quoted?_escaped, ih]
    · rfl
    · exact other

theorem length_le_literalBody (text : List Char) : text.length ≤ (literalBody text).length := by
  induction text using literalBody.induct with
  | case1 => exact Nat.le_refl 0
  | case2 next more ih =>
    rw [literalBody, List.length_append]
    split <;> simp only [List.length_cons, List.length_nil] at ih ⊢ <;> omega
  | case3 c more other ih =>
    obtain ⟨first, others, split, _⟩ := escaped_cons c
    rw [literalBody, List.length_append, split]
    · simp only [List.length_cons]
      omega
    · exact other

/-- Quoted text is read as the text. -/
theorem textual?_quote (text : String) (rest : List Char) :
    textual? ((quote text).toList ++ rest) = some (text.toList, rest) := by
  have spelled : (quote text).toList ++ rest =
      '"' :: (text.toList.flatMap escaped ++ '"' :: rest) := by
    simp [quote]
  have fuel : (text.toList.flatMap escaped ++ '"' :: rest).length + 1 =
      text.toList.length + 1 + ((text.toList.flatMap escaped).length - text.toList.length +
        rest.length + 1) := by
    have filled : ∀ c ∈ text.toList, escaped c ≠ [] := by
      intro c _ none
      obtain ⟨first, more, split, _⟩ := escaped_cons c
      cases none.symm.trans split
    have shorter := length_le_flatMap filled
    simp only [List.length_append, List.length_cons]
    omega
  rw [spelled, textual?, fuel, quoted?_flatMap]

/-- A string literal is read as its text. -/
theorem textual?_quoteLiteral (text : String) (rest : List Char) :
    textual? ((quoteLiteral text).toList ++ rest) = some (text.toList, rest) := by
  have spelled : (quoteLiteral text).toList ++ rest =
      '"' :: (literalBody text.toList ++ '"' :: rest) := by
    simp [quoteLiteral]
  have fuel : (literalBody text.toList ++ '"' :: rest).length + 1 =
      text.toList.length + 1 + ((literalBody text.toList).length - text.toList.length +
        rest.length + 1) := by
    have shorter := length_le_literalBody text.toList
    simp only [List.length_append, List.length_cons]
    omega
  rw [spelled, textual?, fuel, quoted?_literalBody]

/-- Whether a text is the string literal of another, on a line of its own. -/
structure Denotes (literal text : String) : Prop where
  kind : Literal.kind literal.toList = .string
  value : textual? literal.toList = some (text.toList, [])
  line : '\n' ∉ literal.toList

theorem line_escaped (c : Char) : '\n' ∉ escaped c := by
  unfold escaped
  split
  any_goals decide
  rename_i noLine _ _
  split
  · simpa [eq_comm] using noLine
  · intro member
    have inside : '\n' ∈ hex c.toNat := by simpa [codeEscape] using member
    obtain ⟨digit, small, same⟩ := exists_of_mem_hex inside
    have all : ∀ digit < 16, '\n' ≠ Nat.digitChar digit := by decide
    exact all digit small same

theorem denotes_quote (text : String) : Denotes (quote text) text where
  kind := by
    simp [quote, kind]
  value := by
    simpa using textual?_quote text []
  line := by
    intro member
    simp only [quote, String.toList_ofList, List.cons_append, List.mem_cons, List.mem_append,
      List.mem_flatMap, List.not_mem_nil, or_false] at member
    rcases member with same | ⟨c, _, inside⟩ | same
    · cases same
    · exact line_escaped c inside
    · cases same

end Literal

end ValueObjects
