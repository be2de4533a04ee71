import ValueObjects.Proofs.WholeNumbers

namespace ValueObjects.Number

/-- The sign that a number may begin with. -/
inductive IsSign : List Char → Prop where
  | none : IsSign []
  | plus : IsSign ['+']
  | minus : IsSign ['-']

/-- Digits, at least one, and at most one point among them. -/
structure IsMantissa (text : List Char) : Prop where
  chars : ∀ c ∈ text, c.isDigit = true ∨ c = '.'
  point : text.count '.' ≤ 1
  digit : ∃ c ∈ text, c.isDigit = true

/-- The exponent that a number may end with: its mark, a sign and digits. -/
inductive IsExponent : List Char → Prop where
  | none : IsExponent []
  | some {mark : Char} {sign power : List Char} (known : mark = 'e' ∨ mark = 'E')
    (signed : IsSign sign) (digits : IsDigits power) : IsExponent (mark :: (sign ++ power))

/-- The texts that write a number in digits. -/
inductive IsNumeralText : List Char → Prop where
  | of {sign mantissa exponent : List Char} (signed : IsSign sign) (digits : IsMantissa mantissa)
    (raised : IsExponent exponent) : IsNumeralText (sign ++ mantissa ++ exponent)

/-- The words for the numbers that are not finite. -/
def words : List (List Char) := ["inf".toList, "infinity".toList, "nan".toList]

/-- The texts that name a number, in any case and after a sign. -/
inductive IsWordText : List Char → Prop where
  | of {sign word : List Char} (signed : IsSign sign) (known : word.map Char.toLower ∈ words) :
    IsWordText (sign ++ word)

theorem exists_sign (text : List Char) : ∃ sign, IsSign sign ∧ text = sign ++ (signed text).2 := by
  unfold signed
  split
  · exact ⟨_, .minus, rfl⟩
  · exact ⟨_, .plus, rfl⟩
  · exact ⟨_, .none, rfl⟩

theorem signed_of_sign {sign : List Char} (isSign : IsSign sign)
    (bare : ∀ c ∈ text.head?, c ≠ '-' ∧ c ≠ '+') :
    signed (sign ++ text) = ((signed sign).1, text) := by
  cases isSign with
  | plus => rfl
  | minus => rfl
  | none =>
    cases text with
    | nil => rfl
    | cons c rest =>
      obtain ⟨noMinus, noPlus⟩ := bare c rfl
      rw [List.nil_append, signed_of_ne noMinus noPlus]
      rfl

theorem head_ne_sign (filled : text ≠ []) (unsigned : ∀ c ∈ text, c ≠ '-' ∧ c ≠ '+')
    (rest : List Char) : ∀ c ∈ (text ++ rest).head?, c ≠ '-' ∧ c ≠ '+' := by
  obtain ⟨first, others, rfl⟩ := List.exists_cons_of_ne_nil filled
  intro c head
  cases Option.some.inj head
  exact unsigned first List.mem_cons_self

theorem IsDigits.bare (digits : IsDigits text) : ∀ c ∈ text.head?, c ≠ '-' ∧ c ≠ '+' :=
  fun c first => ne_sign_of_isDigit (digits.all c (List.mem_of_mem_head? first))

namespace IsMantissa

theorem of_digits (digits : IsDigits text) : IsMantissa text where
  chars c member := .inl (digits.all c member)
  point := by
    have absent : '.' ∉ text := fun member => Bool.false_ne_true (digits.all '.' member)
    rw [List.count_eq_zero.mpr absent]
    exact Nat.zero_le 1
  digit := by
    obtain ⟨c, member⟩ := List.exists_mem_of_ne_nil text digits.filled
    exact ⟨c, member, digits.all c member⟩

theorem of_parts (whole : ∀ c ∈ before, c.isDigit = true) (decimals : ∀ c ∈ after, c.isDigit = true)
    (filled : before ++ after ≠ []) : IsMantissa (before ++ '.' :: after) where
  chars c member := by
    rw [List.mem_append, List.mem_cons] at member
    rcases member with first | point | last
    · exact .inl (whole c first)
    · exact .inr point
    · exact .inl (decimals c last)
  point := by
    have first : '.' ∉ before := fun member => Bool.false_ne_true (whole '.' member)
    have last : '.' ∉ after := fun member => Bool.false_ne_true (decimals '.' member)
    rw [List.count_append, List.count_cons_self, List.count_eq_zero.mpr first,
      List.count_eq_zero.mpr last]
  digit := by
    obtain ⟨c, member⟩ := List.exists_mem_of_ne_nil _ filled
    rcases List.mem_append.mp member with first | last
    · exact ⟨c, List.mem_append_left _ first, whole c first⟩
    · exact ⟨c, List.mem_append_right _ (List.mem_cons_of_mem _ last), decimals c last⟩

theorem cases (mantissa : IsMantissa text) :
    IsDigits text ∨ ∃ before after, text = before ++ '.' :: after ∧
      (∀ c ∈ before, c.isDigit = true) ∧ (∀ c ∈ after, c.isDigit = true) ∧
      before ++ after ≠ [] := by
  obtain ⟨digit, member, isDigit⟩ := mantissa.digit
  by_cases pointed : '.' ∈ text
  · right
    obtain ⟨before, after, rfl⟩ := List.append_of_mem pointed
    have once := mantissa.point
    rw [List.count_append, List.count_cons_self] at once
    have first : '.' ∉ before := List.count_eq_zero.mp (by omega)
    have last : '.' ∉ after := List.count_eq_zero.mp (by omega)
    refine ⟨before, after, rfl, ?_, ?_, ?_⟩
    · intro c own
      have whole := mantissa.chars c (List.mem_append_left _ own)
      exact whole.resolve_right fun point => first (point ▸ own)
    · intro c own
      have decimal := mantissa.chars c (List.mem_append_right _ (List.mem_cons_of_mem _ own))
      exact decimal.resolve_right fun point => last (point ▸ own)
    · intro empty
      obtain ⟨rfl, rfl⟩ := List.append_eq_nil_iff.mp empty
      cases List.mem_singleton.mp member
      cases isDigit
  · left
    refine ⟨List.ne_nil_of_mem member, fun c own => ?_⟩
    exact (mantissa.chars c own).resolve_right fun point => pointed (point ▸ own)

theorem bare (mantissa : IsMantissa text) (rest : List Char) :
    ∀ c ∈ (text ++ rest).head?, c ≠ '-' ∧ c ≠ '+' := by
  obtain ⟨digit, member, _⟩ := mantissa.digit
  apply head_ne_sign (List.ne_nil_of_mem member)
  intro c own
  rcases mantissa.chars c own with digit | rfl
  · exact ne_sign_of_isDigit digit
  · decide

end IsMantissa

theorem leadingDigits_append (all : ∀ c ∈ text, c.isDigit = true)
    (ends : ∀ c ∈ rest.head?, c.isDigit = false) : leadingDigits (text ++ rest) = (text, rest) := by
  have rest_eq : rest.takeWhile Char.isDigit = [] ∧ rest.dropWhile Char.isDigit = rest := by
    cases rest with
    | nil => exact ⟨rfl, rfl⟩
    | cons c others =>
      have other := ends c rfl
      exact ⟨List.takeWhile_cons_of_neg (by simp [other]),
        List.dropWhile_cons_of_neg (by simp [other])⟩
  rw [leadingDigits, List.takeWhile_append_of_pos all, List.dropWhile_append_of_pos all,
    rest_eq.1, rest_eq.2, List.append_nil]

theorem all_leadingDigits (text : List Char) : ∀ c ∈ (leadingDigits text).1, c.isDigit = true :=
  fun _ => List.mem_takeWhile_imp

theorem leadingDigits_split (text : List Char) :
    text = (leadingDigits text).1 ++ (leadingDigits text).2 :=
  List.takeWhile_append_dropWhile.symm

namespace Numeral

theorem exponent?_cons (mark : Char) (rest : List Char) :
    (exponent? (mark :: rest)).isSome = true ↔
      (mark = 'e' ∨ mark = 'E') ∧ IsDigits (signed rest).2 := by
  have digits : IsDigits (signed rest).2 ↔
      (!(signed rest).2.isEmpty && (signed rest).2.all Char.isDigit) = true := by
    rw [isDigits_iff, ← Bool.not_eq_true', Bool.not_or, Bool.not_not]
  rw [digits, exponent?]
  simp only [Bool.and_assoc, apply_ite Option.isSome]
  simp

theorem exponent?_isSome_iff : (exponent? text).isSome = true ↔ IsExponent text := by
  cases text with
  | nil => exact ⟨fun _ => .none, fun _ => rfl⟩
  | cons mark rest =>
    rw [exponent?_cons]
    constructor
    · rintro ⟨known, digits⟩
      obtain ⟨sign, isSign, split⟩ := exists_sign rest
      rw [split]
      exact .some known isSign digits
    · intro exponent
      cases exponent with
      | some known isSign digits =>
        rw [signed_of_sign isSign digits.bare]
        exact ⟨known, digits⟩

/-- Digits without a point after them are a numeral if an exponent follows. -/
theorem read?_of_whole {whole rest : List Char} (start : leadingDigits text = (whole, rest))
    (noPoint : ∀ more, rest ≠ '.' :: more) :
    (read? text).isSome = true ↔ whole ≠ [] ∧ (exponent? rest).isSome = true := by
  rw [read?, start]
  simp only
  cases whole <;> cases exponent? rest <;> simp

/-- Digits on either side of a point are a numeral if an exponent follows. -/
theorem read?_of_pointed {whole more decimals rest : List Char}
    (start : leadingDigits text = (whole, '.' :: more))
    (further : leadingDigits more = (decimals, rest)) :
    (read? text).isSome = true ↔ whole ++ decimals ≠ [] ∧ (exponent? rest).isSome = true := by
  rw [read?, start]
  simp only [further]
  cases whole <;> cases decimals <;> cases exponent? rest <;> simp

/-- What is read is a mantissa and an exponent. -/
theorem exists_parts (found : (read? text).isSome = true) :
    ∃ mantissa exponent, text = mantissa ++ exponent ∧ IsMantissa mantissa ∧
      IsExponent exponent := by
  have split := leadingDigits_split text
  have all := all_leadingDigits text
  by_cases pointed : ∃ more, (leadingDigits text).2 = '.' :: more
  · obtain ⟨more, pointed⟩ := pointed
    obtain ⟨filled, raised⟩ :=
      (read?_of_pointed (Prod.ext rfl pointed) Prod.mk.eta.symm).mp found
    refine ⟨_, _, ?_, .of_parts all (all_leadingDigits more) filled, exponent?_isSome_iff.mp raised⟩
    rw [List.append_assoc, List.cons_append, ← leadingDigits_split, ← pointed]
    exact split
  · obtain ⟨filled, raised⟩ :=
      (read?_of_whole Prod.mk.eta.symm (not_exists.mp pointed)).mp found
    exact ⟨_, _, split, .of_digits ⟨filled, all⟩, exponent?_isSome_iff.mp raised⟩

theorem read?_append {mantissa exponent : List Char} (digits : IsMantissa mantissa)
    (raised : IsExponent exponent) : (read? (mantissa ++ exponent)).isSome = true := by
  have ends : ∀ c ∈ exponent.head?, c.isDigit = false ∧ c ≠ '.' := by
    cases raised with
    | none => nofun
    | some known =>
      intro c first
      cases Option.some.inj first
      rcases known with rfl | rfl <;> decide
  have further := exponent?_isSome_iff.mpr raised
  rcases digits.cases with whole | ⟨before, after, rfl, whole, decimals, filled⟩
  · apply (read?_of_whole (leadingDigits_append whole.all fun c first => (ends c first).1) ?_).mpr
    · exact ⟨whole.filled, further⟩
    · rintro more rfl
      exact (ends '.' rfl).2 rfl
  · rw [List.append_assoc, List.cons_append]
    apply (read?_of_pointed (leadingDigits_append whole ?_)
      (leadingDigits_append decimals fun c first => (ends c first).1)).mpr
    · exact ⟨filled, further⟩
    · intro c first
      cases Option.some.inj first
      rfl

end Numeral

namespace Binary

/-- The words are what is read as a number that is not finite. -/
theorem ofWord?_isSome_iff (precision : Precision) (negative : Bool) (text : List Char) :
    (ofWord? negative text : Option (Binary precision)).isSome = true ↔
      text.map Char.toLower ∈ words := by
  rw [ofWord?, words]
  generalize "inf".toList = short, "infinity".toList = long, "nan".toList = other
  simp [apply_ite Option.isSome, or_assoc]

end Binary

theorem bare_of_word {text : List Char} (known : text.map Char.toLower ∈ words) :
    ∀ c ∈ text.head?, c ≠ '-' ∧ c ≠ '+' := by
  intro c first
  have lower : c.toLower ∈ (text.map Char.toLower).head? := by
    rw [List.head?_map]
    exact Option.mem_map_of_mem _ first
  have letters : ∀ word ∈ words, ∀ d ∈ word.head?, d ≠ '-' ∧ d ≠ '+' := by simp [words]
  obtain ⟨noMinus, noPlus⟩ := letters _ known _ lower
  constructor <;> rintro rfl
  · exact noMinus (by decide)
  · exact noPlus (by decide)

/-- Numerals are told by reading on after the sign. -/
theorem isNumeralText_iff : IsNumeralText text ↔ (Numeral.read? (signed text).2).isSome = true := by
  constructor
  · rintro ⟨isSign, digits, raised⟩
    rw [List.append_assoc, signed_of_sign isSign (digits.bare _)]
    exact Numeral.read?_append digits raised
  · intro found
    obtain ⟨sign, isSign, split⟩ := exists_sign text
    obtain ⟨mantissa, exponent, parts, digits, raised⟩ := Numeral.exists_parts found
    rw [split, parts, ← List.append_assoc]
    exact .of isSign digits raised

theorem isWordText_iff : IsWordText text ↔ (signed text).2.map Char.toLower ∈ words := by
  constructor
  · rintro ⟨isSign, known⟩
    rw [signed_of_sign isSign (bare_of_word known)]
    exact known
  · intro known
    obtain ⟨sign, isSign, split⟩ := exists_sign text
    rw [split]
    exact .of isSign known

instance : Decidable (IsNumeralText text) := decidable_of_iff _ isNumeralText_iff.symm

instance : Decidable (IsWordText text) := decidable_of_iff _ isWordText_iff.symm

/-- Numerals and words are read as binary numbers, and nothing else. -/
theorem Binary.read?_isSome_iff {precision : Precision} :
    (read? precision text).isSome = true ↔ IsNumeralText text ∨ IsWordText text := by
  rw [isNumeralText_iff, isWordText_iff, ← ofWord?_isSome_iff precision (signed text).1, read?]
  cases numeral : Numeral.read? (signed text).2 <;> simp [numeral]

end ValueObjects.Number
