import Mathlib.Data.List.TakeWhile
import Mathlib.Tactic.Ring
import ValueObjects.Proofs.Documents

namespace ValueObjects

namespace Text

/-- White space is all that is taken off a text. -/
theorem exists_around_trimmed (text : List Char) :
    ∃ before after, text = before ++ trimmed text ++ after ∧
      IsBlankText before ∧ IsBlankText after := by
  let rest := text.dropWhile isBlank
  refine ⟨text.takeWhile isBlank, (rest.reverse.takeWhile isBlank).reverse, ?_, ?_, ?_⟩
  · have turned : rest = trimmed text ++ (rest.reverse.takeWhile isBlank).reverse := by
      rw [trimmed, ← List.reverse_append, List.takeWhile_append_dropWhile, List.reverse_reverse]
    rw [List.append_assoc, ← turned, List.takeWhile_append_dropWhile]
  · exact fun _ => List.mem_takeWhile_imp
  · intro c member
    exact List.mem_takeWhile_imp (List.mem_reverse.mp member)

end Text

namespace Number

/-- The number that digits stand for by their places. -/
def placeValue : List Char → Nat
  | [] => 0
  | c :: rest => (c.toNat - '0'.toNat) * 10 ^ rest.length + placeValue rest

theorem ofDigits_eq_placeValue (digits : List Char) : ofDigits digits = placeValue digits := by
  have run (digits : List Char) (start : Nat) :
      digits.foldl (fun n c => 10 * n + (c.toNat - '0'.toNat)) start =
        start * 10 ^ digits.length + placeValue digits := by
    induction digits generalizing start with
    | nil => simp [placeValue]
    | cons c rest ih =>
      rw [List.foldl_cons, ih, placeValue, List.length_cons, Nat.pow_succ]
      ring
  rw [ofDigits, run, Nat.zero_mul, Nat.zero_add]

/-- Whether a text is digits, at least one. -/
structure IsDigits (text : List Char) : Prop where
  filled : text ≠ []
  all : ∀ c ∈ text, c.isDigit = true

theorem isDigits_iff : IsDigits text ↔ (text.isEmpty || !text.all Char.isDigit) = false := by
  rw [Bool.or_eq_false_iff, Bool.not_eq_false', List.isEmpty_eq_false_iff, List.all_eq_true]
  exact ⟨fun digits => ⟨digits.filled, digits.all⟩, fun ⟨filled, all⟩ => ⟨filled, all⟩⟩

/-- The texts that stand for whole numbers: digits, which may have a sign before them, and a minus
only where there are negative numbers. -/
inductive WholeText (negatives : Prop) : List Char → Int → Prop where
  | plain (digits : IsDigits text) : WholeText negatives text (placeValue text)
  | plus (digits : IsDigits text) : WholeText negatives ('+' :: text) (placeValue text)
  | minus (signed : negatives) (digits : IsDigits text) :
    WholeText negatives ('-' :: text) (-(placeValue text : Int))

namespace WholeText

variable {negatives : Prop} {text : List Char} {n : Int}

theorem ne_nil (whole : WholeText negatives text n) : text ≠ [] := by
  cases whole with
  | plain digits => exact digits.filled
  | plus => exact List.cons_ne_nil _ _
  | minus => exact List.cons_ne_nil _ _

theorem unbroken (whole : WholeText negatives text n) : Text.IsUnbroken text := by
  have solid {text : List Char} (digits : IsDigits text) : Text.IsUnbroken text :=
    fun c member => Text.isBlank_of_isDigit (digits.all c member)
  cases whole with
  | plain digits => exact solid digits
  | plus digits => exact List.forall_mem_cons.mpr ⟨by decide, solid digits⟩
  | minus _ digits => exact List.forall_mem_cons.mpr ⟨by decide, solid digits⟩

end WholeText

namespace Integer

variable {form : IntegerForm} {text : List Char}

theorem unsigned_of_ne (noMinus : c ≠ '-') (noPlus : c ≠ '+') (rest : List Char) :
    unsigned form (c :: rest) = (false, c :: rest) := by
  rw [unsigned, signed_of_ne noMinus noPlus]

/-- The text of a whole number is read as the number, if that is in range. -/
theorem read?_of_wholeText (whole : WholeText (form.signed = true) text n) :
    read? form text = ofInt? form n := by
  cases whole with
  | plain digits =>
    obtain ⟨c, rest, rfl⟩ := List.exists_cons_of_ne_nil digits.filled
    obtain ⟨noMinus, noPlus⟩ := ne_sign_of_isDigit (digits.all c List.mem_cons_self)
    have bare : unsigned form (c :: rest) = (false, c :: rest) := unsigned_of_ne noMinus noPlus rest
    rw [read?, bare]
    simp only [isDigits_iff.mp digits, ofDigits_eq_placeValue, Bool.false_eq_true, ↓reduceIte]
  | plus digits =>
    have bare : ∀ rest, unsigned form ('+' :: rest) = (false, rest) := fun _ => rfl
    rw [read?, bare]
    simp only [isDigits_iff.mp digits, ofDigits_eq_placeValue, Bool.false_eq_true, ↓reduceIte]
  | minus negatives digits =>
    have bare : ∀ rest, unsigned form ('-' :: rest) = (true, rest) := fun _ => if_pos negatives
    rw [read?, bare]
    simp only [isDigits_iff.mp digits, ofDigits_eq_placeValue, Bool.false_eq_true, ↓reduceIte]

/-- What a text is taken apart into is a text of a whole number again. -/
theorem exists_wholeText (digits : IsDigits (unsigned form text).2) :
    ∃ n, WholeText (form.signed = true) text n := by
  cases text with
  | nil => exact (digits.filled rfl).elim
  | cons c rest =>
    by_cases minus : c = '-'
    · subst minus
      by_cases negatives : form.signed = true
      · rw [show unsigned form ('-' :: rest) = (true, rest) from if_pos negatives] at digits
        exact ⟨_, .minus negatives digits⟩
      · rw [show unsigned form ('-' :: rest) = (false, '-' :: rest) from if_neg negatives]
          at digits
        cases digits.all '-' List.mem_cons_self
    · by_cases plus : c = '+'
      · subst plus
        exact ⟨_, .plus digits⟩
      · rw [unsigned_of_ne minus plus] at digits
        exact ⟨_, .plain digits⟩

/-- Exactly the texts of whole numbers in range are read, each as its number. -/
theorem read?_eq_some_iff {value : Integer form} :
    read? form text = some value ↔ WholeText (form.signed = true) text value.val := by
  constructor
  · intro found
    have digits : IsDigits (unsigned form text).2 := by
      rw [isDigits_iff]
      by_contra other
      rw [read?] at found
      simp only [Bool.eq_true_of_not_eq_false other, ↓reduceIte, reduceCtorEq] at found
    obtain ⟨n, whole⟩ := exists_wholeText digits
    rw [read?_of_wholeText whole] at found
    obtain ⟨inRange, same⟩ := Option.dite_none_right_eq_some.mp found
    rw [← Option.some.inj same]
    exact whole
  · intro whole
    rw [read?_of_wholeText whole]
    exact ofInt?_eq_some value.property

end Integer

/-- Whether a text writes a number of the range: but for white space around it, it is the text of
the number, without the separator. -/
def IsWritten (range : Int × Int) (separator : Char) (text : List Char) (n : Int) : Prop :=
  ∃ before whole after, text = before ++ whole ++ after ∧
    Text.IsBlankText before ∧ Text.IsBlankText after ∧ separator ∉ whole ∧
      WholeText (range.1 < 0) whole n ∧ range.1 ≤ n ∧ n ≤ range.2

theorem isWritten_iff {range : Int × Int} :
    IsWritten range separator text n ↔
      separator ∉ Text.trimmed text ∧ WholeText (range.1 < 0) (Text.trimmed text) n ∧
        range.1 ≤ n ∧ n ≤ range.2 := by
  constructor
  · rintro ⟨before, whole, after, rfl, leading, trailing, clear, own, inRange⟩
    rw [Text.trimmed_between leading trailing own.unbroken own.ne_nil]
    exact ⟨clear, own, inRange⟩
  · rintro ⟨clear, own, inRange⟩
    obtain ⟨before, after, split, leading, trailing⟩ := Text.exists_around_trimmed text
    exact ⟨before, Text.trimmed text, after, split, leading, trailing, clear, own, inRange⟩

/-- The whole number that a number is, if its form has whole numbers only. -/
def Form.whole? : (form : Form) → form.Value → Option Int
  | .integer _, n => some n.val
  | .binary _, _ => none
  | .decimal, _ => none

theorem Form.exists_whole {form : Form} (own : form = .integer whole) (value : form.Value) :
    ∃ n, form.whole? value = some n := by
  subst own
  exact ⟨_, rfl⟩

/-- A form of whole numbers reads the numbers in range, from their texts. -/
theorem Form.exists_read_iff {form : Form} (own : form = .integer whole) :
    (∃ value, form.readNormalized? text = some value ∧ form.whole? value = some n) ↔
      WholeText (whole.signed = true) text n ∧ whole.low ≤ n ∧ n ≤ whole.high := by
  subst own
  constructor
  · rintro ⟨value, found, same⟩
    cases same
    exact ⟨Integer.read?_eq_some_iff.mp found, Subtype.property value⟩
  · rintro ⟨own, inRange⟩
    exact ⟨(⟨n, inRange⟩ : Integer whole), Integer.read?_eq_some_iff.mpr own, rfl⟩

end Number

namespace NumericType

open Number

/-- The least and the greatest number of a type of whole numbers. -/
def range? : NumericType → Option (Int × Int)
  | i8 => some (-2 ^ 7, 2 ^ 7 - 1)
  | i16 => some (-2 ^ 15, 2 ^ 15 - 1)
  | i32 => some (-2 ^ 31, 2 ^ 31 - 1)
  | i64 | isize => some (-2 ^ 63, 2 ^ 63 - 1)
  | i128 => some (-2 ^ 127, 2 ^ 127 - 1)
  | u8 => some (0, 2 ^ 8 - 1)
  | u16 => some (0, 2 ^ 16 - 1)
  | u32 => some (0, 2 ^ 32 - 1)
  | u64 | usize => some (0, 2 ^ 64 - 1)
  | u128 => some (0, 2 ^ 128 - 1)
  | f32 | f64 | decimal => none

variable {type : NumericType} {range : Int × Int}

/-- The form of a type of whole numbers has the numbers in the type's range. -/
theorem form_of_range (whole : type.range? = some range) :
    type.isFloating = false ∧ ∃ form, type.form = .integer form ∧
      range = (form.low, form.high) ∧ (range.1 < 0 ↔ form.signed = true) := by
  cases type <;> cases whole <;> exact ⟨rfl, _, rfl, rfl, by decide⟩

/-- Numbers without decimals are read from the text without white space around it. -/
theorem read?_of_whole (floating : type.isFloating = false) (culture? : Option Culture)
    (text : List Char)
    (clear : (culture?.getD Culture.invariant).groupSeparator ∉ Text.trimmed text)
    (filled : Text.trimmed text ≠ []) :
    type.read? culture? text = type.form.readNormalized? (Text.trimmed text) := by
  rw [read?, if_neg (by simpa using ⟨filled, clear⟩), floating, if_neg Bool.false_ne_true]

theorem clear_of_read? (found : type.read? culture? text = some value) :
    (culture?.getD Culture.invariant).groupSeparator ∉ Text.trimmed text ∧
      Text.trimmed text ≠ [] := by
  rw [read?, Option.ite_none_left_eq_some] at found
  simpa [and_comm] using found.1

/-- The texts that a number is read from are those that write it. -/
theorem exists_read?_iff (whole : type.range? = some range) (culture? : Option Culture)
    (text : List Char) (n : Int) :
    (∃ value, type.read? culture? text = some value ∧ type.form.whole? value = some n) ↔
      IsWritten range (culture?.getD Culture.invariant).groupSeparator text n := by
  obtain ⟨floating, form, own, rfl, negatives⟩ := form_of_range whole
  rw [isWritten_iff, negatives, ← Form.exists_read_iff own]
  constructor
  · rintro ⟨value, found, same⟩
    obtain ⟨clear, filled⟩ := clear_of_read? found
    rw [read?_of_whole floating culture? text clear filled] at found
    exact ⟨clear, value, found, same⟩
  · rintro ⟨clear, value, found, same⟩
    have filled := ((Form.exists_read_iff own).mp ⟨value, found, same⟩).1.ne_nil
    rw [← read?_of_whole floating culture? text clear filled] at found
    exact ⟨value, found, same⟩

/-- A type of whole numbers reads exactly the texts that write a number in its range, as that
number, and nothing from other texts. -/
theorem reads_whole_numbers (whole : type.range? = some range) (culture? : Option Culture)
    (text : List Char) :
    (∀ n, (∃ value, type.read? culture? text = some value ∧ type.form.whole? value = some n) ↔
      IsWritten range (culture?.getD Culture.invariant).groupSeparator text n) ∧
    (type.read? culture? text = none ↔
      ∀ n, ¬IsWritten range (culture?.getD Culture.invariant).groupSeparator text n) := by
  have exact := exists_read?_iff whole culture? text
  refine ⟨exact, ?_⟩
  constructor
  · intro missing n written
    obtain ⟨value, found, _⟩ := (exact n).mpr written
    cases missing.symm.trans found
  · intro unwritten
    obtain ⟨_, form, own, _⟩ := form_of_range whole
    cases found : type.read? culture? text with
    | none => rfl
    | some value =>
      obtain ⟨n, same⟩ := Form.exists_whole own value
      exact (unwritten n ((exact n).mp ⟨value, found, same⟩)).elim

/-- The least number of a byte is read among blanks, and the one past the greatest is not. -/
theorem reads_whole_numbers_byte :
    i8.range? = some (-128, 127) ∧
    (∃ value, i8.read? (some Culture.german) "\u00a0-0128\n".toList = some value ∧
      i8.form.whole? value = some (-128)) ∧
    ∀ n, ¬IsWritten (-128, 127) '.' "+128".toList n := by
  have range : i8.range? = some (-128, 127) := rfl
  have digits : IsDigits "0128".toList := ⟨by decide, List.all_eq_true.mp (by decide)⟩
  refine ⟨range, ((reads_whole_numbers range _ _).1 (-128)).mpr ?_, ?_⟩
  · refine ⟨['\u00a0'], "-0128".toList, ['\n'], by decide, ?_, ?_, by decide, ?_, by decide⟩
    · exact List.forall_mem_singleton.mpr (by decide)
    · exact List.forall_mem_singleton.mpr (by decide)
    · exact .minus (by decide) digits
  · exact (reads_whole_numbers range (some Culture.german) _).2.mp (by decide)

end NumericType

end ValueObjects
