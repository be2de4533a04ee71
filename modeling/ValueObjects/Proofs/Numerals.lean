import ValueObjects.Number

namespace ValueObjects

/-- The plain layout leaves a text as it is. -/
theorem Layout.place_plain (given : Alignment) (text : List Char) :
    ({} : Layout).place given text = text := by
  cases given <;> simp [Layout.place]

theorem Layout.showNumber_plain (sign digits : List Char) :
    ({} : Layout).showNumber sign digits = sign ++ digits := by
  rw [showNumber, if_neg Bool.false_ne_true, place_plain]

namespace Number

theorem isDigit_of_mem_digits (member : c ∈ digits n) : c.isDigit = true :=
  Nat.isDigit_of_mem_toDigits (by decide) (by decide) member

/-- A numeral begins with a digit. -/
theorem digits_eq_cons (n : Nat) : ∃ c rest, digits n = c :: rest ∧ c.isDigit = true := by
  obtain ⟨c, rest, split⟩ := List.exists_cons_of_ne_nil (Nat.toDigits_ne_nil (n := n) (b := 10))
  refine ⟨c, rest, split, ?_⟩
  apply isDigit_of_mem_digits (n := n)
  rw [digits, split]
  exact List.mem_cons_self

theorem signed_of_ne (noMinus : c ≠ '-') (noPlus : c ≠ '+') (rest : List Char) :
    signed (c :: rest) = (false, c :: rest) := by
  unfold signed
  split
  · rename_i same
    exact (noMinus (List.cons.inj same).1).elim
  · rename_i same
    exact (noPlus (List.cons.inj same).1).elim
  · rfl

theorem ne_sign_of_isDigit (digit : c.isDigit = true) : c ≠ '-' ∧ c ≠ '+' := by
  constructor <;> rintro rfl <;> cases digit

/-- The sign of a numeral is told from its digits. -/
theorem signed_signOf (negative : Bool) (digit : c.isDigit = true) (rest : List Char) :
    signed (({} : Layout).signOf negative ++ c :: rest) = (negative, c :: rest) := by
  cases negative with
  | true => rfl
  | false => exact signed_of_ne (ne_sign_of_isDigit digit).1 (ne_sign_of_isDigit digit).2 rest

namespace Integer

variable {form : IntegerForm}

theorem signed_of_neg (n : Integer form) (negative : n.val < 0) : form.signed = true := by
  cases signed : form.signed with
  | true => rfl
  | false =>
    have least : (0 : Int) ≤ n.val := by simpa [IntegerForm.low, signed] using n.property.1
    omega

theorem display_plain (n : Integer form) :
    Form.display {} (.integer form) n =
      ({} : Layout).signOf (n.val < 0) ++ digits n.val.natAbs :=
  Layout.showNumber_plain _ _

/-- The sign of a whole number is one that its form has. -/
theorem unsigned_display (n : Integer form) :
    unsigned form (Form.display {} (.integer form) n) =
      (decide (n.val < 0), digits n.val.natAbs) := by
  obtain ⟨c, rest, split, digit⟩ := digits_eq_cons n.val.natAbs
  have sign := signed_signOf (decide (n.val < 0)) digit rest
  rw [display_plain, unsigned, split, sign]
  cases negative : decide (n.val < 0) with
  | false => rfl
  | true => exact if_pos (signed_of_neg n (of_decide_eq_true negative))

/-- The text of a whole number is read as the number. -/
theorem read?_display (n : Integer form) :
    read? form (Form.display {} (.integer form) n) = some n := by
  have filled : (digits n.val.natAbs).isEmpty = false := by
    obtain ⟨c, rest, split, _⟩ := digits_eq_cons n.val.natAbs
    rw [split]
    rfl
  have all : (digits n.val.natAbs).all Char.isDigit = true :=
    List.all_eq_true.mpr fun _ => isDigit_of_mem_digits
  have back : ofDigits (digits n.val.natAbs) = n.val.natAbs := Nat.ofDigitChars_ten_toDigits
  have value : (if decide (n.val < 0) = true then -(n.val.natAbs : Int) else n.val.natAbs) =
      n.val := by
    split <;> rename_i sign <;> simp only [decide_eq_true_eq] at sign <;> omega
  rw [read?, unsigned_display]
  simp only [filled, all, back, value, ofInt?, Bool.not_true, Bool.or_self, Bool.false_eq_true,
    ↓reduceIte, dif_pos n.property]

end Integer

namespace Decimal

open Progress

theorem le_ofDigitChars (text : List Char) (start : Nat) :
    start ≤ Nat.ofDigitChars 10 text start := by
  rw [Nat.ofDigitChars_eq_ofDigitChars_zero]
  have unit : 1 ≤ 10 ^ text.length := Nat.one_le_pow _ _ (by decide)
  have grown := Nat.mul_le_mul_right start unit
  omega

/-- Digits before the point are read on, as long as there is room. -/
theorem readDigits?_whole {text : List Char} (all : ∀ c ∈ text, c.isDigit = true)
    (room : Nat.ofDigitChars 10 text start < mantissaLimit) :
    readDigits? ⟨start, 0, false, seen⟩ (text ++ rest) =
      readDigits? ⟨Nat.ofDigitChars 10 text start, 0, false, seen || !text.isEmpty⟩ rest := by
  induction text generalizing start seen with
  | nil => simp
  | cons c others ih =>
    have digit := all c List.mem_cons_self
    have later : ∀ other ∈ others, other.isDigit = true :=
      fun other member => all other (List.mem_cons_of_mem _ member)
    rw [Nat.ofDigitChars_cons] at room
    have fits : ¬mantissaLimit ≤ 10 * start + (c.toNat - '0'.toNat) :=
      Nat.not_le_of_lt (Nat.lt_of_le_of_lt (le_ofDigitChars others _) room)
    rw [List.cons_append, readDigits?]
    simp only [digit, ↓reduceIte, isFull, Bool.false_and, Bool.false_eq_true, push, if_neg fits]
    rw [ih later room]
    simp [Nat.ofDigitChars_cons]

/-- Digits after the point are read on, as long as there is room. -/
theorem readDigits?_decimals {text : List Char} (all : ∀ c ∈ text, c.isDigit = true)
    (room : Nat.ofDigitChars 10 text start < mantissaLimit)
    (places : shown + text.length ≤ maxScale) :
    readDigits? ⟨start, shown, true, true⟩ text =
      some (Nat.ofDigitChars 10 text start, shown + text.length) := by
  induction text generalizing start shown with
  | nil => simp [readDigits?]
  | cons c others ih =>
    have digit := all c List.mem_cons_self
    have later : ∀ other ∈ others, other.isDigit = true :=
      fun other member => all other (List.mem_cons_of_mem _ member)
    rw [Nat.ofDigitChars_cons] at room ⊢
    rw [List.length_cons] at places ⊢
    have fits : ¬mantissaLimit ≤ 10 * start + (c.toNat - '0'.toNat) :=
      Nat.not_le_of_lt (Nat.lt_of_le_of_lt (le_ofDigitChars others _) room)
    have further : ¬maxScale ≤ shown := by omega
    rw [readDigits?]
    simp only [digit, ↓reduceIte, isFull, Bool.true_and, decide_eq_true_eq, if_neg further, push,
      if_neg fits]
    rw [ih later room (by omega), Nat.add_right_comm shown 1, Nat.add_assoc]

theorem pointed_eq (n places : Nat) : pointed n places =
    digits (n / Nat.pow 10 places) ++
      if places = 0 then [] else '.' :: padZeros places (digits (n % Nat.pow 10 places)) := by
  unfold pointed
  split <;> simp

/-- The decimals of a numeral are as many as asked for. -/
theorem length_decimals (n : Nat) (shown : places ≠ 0) :
    (padZeros places (digits (n % Nat.pow 10 places))).length = places := by
  have short : (digits (n % Nat.pow 10 places)).length ≤ places := by
    apply (Nat.length_toDigits_le_iff (by decide) (Nat.pos_of_ne_zero shown)).mpr
    exact Nat.mod_lt _ (Nat.pow_pos (by decide))
  rw [padZeros, List.length_append, List.length_replicate]
  omega

theorem ofDigitChars_decimals (n : Nat) (shown : places ≠ 0) :
    Nat.ofDigitChars 10 (padZeros places (digits (n % Nat.pow 10 places)))
      (n / Nat.pow 10 places) = n := by
  rw [Nat.ofDigitChars_eq_ofDigitChars_zero, length_decimals n shown, padZeros,
    Nat.ofDigitChars_append, Nat.ofDigitChars_replicate_zero, Nat.mul_zero, digits,
    Nat.ofDigitChars_ten_toDigits]
  exact Nat.div_add_mod n (Nat.pow 10 places)

theorem isDigit_of_mem_decimals (member : c ∈ padZeros places (digits n)) : c.isDigit = true := by
  rcases List.mem_append.mp member with zero | digit
  · rw [List.eq_of_mem_replicate zero]
    rfl
  · exact isDigit_of_mem_digits digit

theorem readDigits?_digits (n : Nat) (room : n < mantissaLimit) (rest : List Char) :
    readDigits? {} (digits n ++ rest) = readDigits? ⟨n, 0, false, true⟩ rest := by
  have value : Nat.ofDigitChars 10 (digits n) 0 = n := Nat.ofDigitChars_ten_toDigits
  have read : readDigits? ⟨0, 0, false, false⟩ (digits n ++ rest) =
      readDigits? ⟨_, 0, false, _⟩ rest :=
    readDigits?_whole (fun _ => isDigit_of_mem_digits) (value.symm ▸ room)
  obtain ⟨c, others, split, _⟩ := digits_eq_cons n
  rw [value] at read
  simpa [split] using read

/-- The numeral of a number with decimals is read digit by digit. -/
theorem readDigits?_pointed (room : n < mantissaLimit) (few : places ≤ maxScale) :
    readDigits? {} (pointed n places) = some (n, places) := by
  have less : n / Nat.pow 10 places < mantissaLimit := Nat.lt_of_le_of_lt (Nat.div_le_self _ _) room
  rw [pointed_eq, readDigits?_digits _ less]
  by_cases whole : places = 0
  · subst whole
    simp [readDigits?]
  · have value := ofDigitChars_decimals n whole
    have length := length_decimals n whole
    have fits : 0 + (padZeros places (digits (n % Nat.pow 10 places))).length ≤ maxScale := by
      rw [length, Nat.zero_add]
      exact few
    have read := readDigits?_decimals (fun _ => isDigit_of_mem_decimals) (value.symm ▸ room) fits
    rw [value, length, Nat.zero_add] at read
    rw [if_neg whole, readDigits?]
    exact read

/-- The number with the sign left out if it is zero. -/
def settled (a : Decimal) : Decimal :=
  { a with negative := a.negative && a.mantissa != 0 }

theorem text_scale (a : Decimal) : a.text a.scale = pointed a.mantissa a.scale := by
  have unit : a.mantissa * Nat.pow 10 (a.scale - a.scale) = a.mantissa := by
    rw [Nat.sub_self]
    exact Nat.mul_one _
  rw [text, if_pos (Nat.le_refl _), unit]

theorem display_plain (a : Decimal) :
    Form.display {} .decimal a =
      ({} : Layout).signOf a.negative ++ pointed a.mantissa a.scale := by
  rw [← text_scale]
  exact Layout.showNumber_plain _ _

/-- The text of a decimal number is read as the number, where zero has no sign. -/
theorem read?_display (a : Decimal) : read? (Form.display {} .decimal a) = some a.settled := by
  have plain : plain? (Form.display {} .decimal a) = some a.settled := by
    obtain ⟨c, rest, split, digit⟩ := digits_eq_cons (a.mantissa / Nat.pow 10 a.scale)
    have sign : signed (({} : Layout).signOf a.negative ++ pointed a.mantissa a.scale) =
        (a.negative, pointed a.mantissa a.scale) := by
      rw [pointed_eq, split, List.cons_append]
      exact signed_signOf a.negative digit _
    rw [plain?, display_plain, sign]
    change (readDigits? {} (pointed a.mantissa a.scale)).bind _ = _
    rw [readDigits?_pointed a.mantissa_lt a.scale_le]
    exact dif_pos ⟨a.mantissa_lt, a.scale_le⟩
  rw [read?, plain]
  rfl

example : read? "-0.0".toList = ofParts? false 0 1 := by decide

theorem settled_eq (a : Decimal) (signed : ¬(a.negative = true ∧ a.mantissa = 0)) :
    a.settled = a := by
  have kept : (a.negative && a.mantissa != 0) = a.negative := by
    cases sign : a.negative with
    | false => rfl
    | true => simpa [sign] using signed
  rw [settled, kept]

theorem compare_settled (a : Decimal) : Decimal.compare a.settled a = .eq := by
  have same : a.settled.aligned (max a.scale a.scale) = a.aligned (max a.scale a.scale) := by
    by_cases signed : a.negative = true ∧ a.mantissa = 0
    · simp [aligned, settled, signed]
    · rw [settled_eq a signed]
  change Ord.compare (a.settled.aligned (max a.scale a.scale)) _ = .eq
  rw [same]
  exact Std.ReflCmp.compare_self

end Decimal

end Number

end ValueObjects
