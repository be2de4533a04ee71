import ValueObjects.Proofs.Characters
import ValueObjects.Proofs.Numerals
import ValueObjects.Wrapper

namespace ValueObjects

namespace Text

/-- Whether a text is white space only. -/
def IsBlankText (text : List Char) : Prop :=
  ∀ c ∈ text, isBlank c = true

/-- Whether a text has no white space in it. -/
def IsUnbroken (text : List Char) : Prop :=
  ∀ c ∈ text, isBlank c = false

theorem isBlank_of_isDigit (digit : c.isDigit = true) : isBlank c = false := by
  have solid := isSolid_of_isAlphanum (c := c) (by simp [Char.isAlphanum, digit])
  simp only [isSolid, Lexer.isGap, Bool.and_eq_true, Bool.not_eq_true', Bool.or_eq_false_iff]
    at solid
  exact solid.1.1.1.1

theorem dropWhile_blank (blank : IsBlankText before) (unbroken : IsUnbroken text)
    (filled : text ≠ []) (after : List Char) :
    (before ++ (text ++ after)).dropWhile isBlank = text ++ after := by
  obtain ⟨c, rest, rfl⟩ := List.exists_cons_of_ne_nil filled
  have solid := unbroken c List.mem_cons_self
  rw [List.dropWhile_append_of_pos blank, List.cons_append, List.dropWhile_cons_of_neg]
  simp [solid]

theorem trimmed_between (leading : IsBlankText before) (trailing : IsBlankText after)
    (unbroken : IsUnbroken text) (filled : text ≠ []) :
    trimmed (before ++ text ++ after) = text := by
  have blank : IsBlankText after.reverse :=
    fun c member => trailing c (List.mem_reverse.mp member)
  have turned : IsUnbroken text.reverse :=
    fun c member => unbroken c (List.mem_reverse.mp member)
  have rest := dropWhile_blank blank turned (mt List.reverse_eq_nil_iff.mp filled) []
  rw [List.append_nil] at rest
  rw [trimmed, List.append_assoc, dropWhile_blank leading unbroken filled, List.reverse_append,
    rest, List.reverse_reverse]

end Text

namespace HexCode

variable {count : Nat}

theorem digit?_digitChar (digit : Fin 16) : digit? (Nat.digitChar digit.val) = some digit := by
  revert digit
  decide

theorem read?_text (code : HexCode count) : read? count code.text = some code := by
  have read (digits : List (Fin 16)) :
      (digits.map fun digit => Nat.digitChar digit.val).mapM digit? = some digits := by
    induction digits with
    | nil => rfl
    | cons digit rest ih => simp [List.mapM_cons, digit?_digitChar, ih]
  rw [read?, text, read]
  exact dif_pos code.length_eq

theorem length_text (code : HexCode count) : code.text.length = count := by
  rw [text, List.length_map, code.length_eq]

/-- A digit of a code is a letter or digit, and none of the characters that other forms of an
identifier begin with. -/
theorem digitChar_plain (digit : Fin 16) :
    Text.isBlank (Nat.digitChar digit.val) = false ∧ Nat.digitChar digit.val ≠ '{' ∧
      (Nat.digitChar digit.val).toLower ≠ 'u' := by
  revert digit
  decide

theorem mem_text {code : HexCode count} (member : c ∈ code.text) :
    ∃ digit : Fin 16, c = Nat.digitChar digit.val := by
  obtain ⟨digit, _, rfl⟩ := List.mem_map.mp member
  exact ⟨digit, rfl⟩

end HexCode

namespace Uuid

/-- A text that is laid out in groups falls into groups that make it up. -/
theorem groups?_layOut {content : List Char} (total : content.length = lengths.foldr Nat.add 0)
    (grouped : lengths ≠ []) :
    ∃ groups, groups? lengths (layOut lengths content) = some groups ∧
      groups.flatten = content := by
  induction lengths generalizing content with
  | nil => exact (grouped rfl).elim
  | cons length rest ih =>
    cases rest with
    | nil =>
      have whole : content.length = length := by simpa using total
      exact ⟨[content], by rw [layOut, groups?, if_pos whole], by simp⟩
    | cons next others =>
      change content.length = length + (next :: others).foldr Nat.add 0 at total
      have start : (content.take length).length = length := by
        rw [List.length_take_of_le]
        omega
      have left : (content.drop length).length = (next :: others).foldr Nat.add 0 := by
        rw [List.length_drop]
        omega
      obtain ⟨groups, found, whole⟩ := ih left (List.cons_ne_nil _ _)
      refine ⟨content.take length :: groups, ?_, ?_⟩
      · rw [layOut, groups?, List.drop_left' start, List.take_left' start]
        simp only [found, Option.map_some]
        all_goals exact List.cons_ne_nil _ _
      · rw [List.flatten_cons, whole, List.take_append_drop]

/-- The form with hyphens is longer than the digits and begins with one of them. -/
theorem text_shape (uuid : Uuid) :
    uuid.text.length = 36 ∧ ∃ (digit : Fin 16) (rest : List Char),
      uuid.text = Nat.digitChar digit.val :: rest := by
  have total := HexCode.length_text uuid
  constructor
  · simp [text, layOut, groupLengths, total]
  · have filled : 0 < (HexCode.text uuid).length := by
      rw [total]
      decide
    obtain ⟨c, rest, split⟩ := List.exists_cons_of_length_pos filled
    have first : c ∈ HexCode.text uuid := by
      rw [split]
      exact List.mem_cons_self
    obtain ⟨digit, rfl⟩ := HexCode.mem_text first
    have shown : uuid.text = layOut groupLengths (Nat.digitChar digit.val :: rest) := by
      rw [text, split]
    exact ⟨digit, _, shown⟩

theorem read?_text (uuid : Uuid) : read? uuid.text = some uuid := by
  obtain ⟨long, digit, rest, split⟩ := text_shape uuid
  obtain ⟨_, brace, name⟩ := HexCode.digitChar_plain digit
  have total : (HexCode.text uuid).length = groupLengths.foldr Nat.add 0 := HexCode.length_text uuid
  obtain ⟨groups, found, whole⟩ := groups?_layOut total (List.cons_ne_nil _ _)
  have hyphenated : readHyphenated? uuid.text = some uuid := by
    rw [readHyphenated?, text, found, Option.bind_some, whole, HexCode.read?_text]
  have unnamed : ((uuid.text.take namePrefix.length).map Char.toLower == namePrefix) = false := by
    rw [split, beq_eq_false_iff_ne]
    intro same
    exact name (List.cons.inj same).1
  unfold read?
  split
  · rename_i braced
    exact (brace (List.cons.inj (split.symm.trans braced)).1).elim
  · simp only [unnamed, long, hyphenated, Bool.false_eq_true, Nat.reduceEqDiff, ↓reduceIte]

end Uuid

namespace Number

/-- Whether numbers of a form have binary digits behind their point. -/
def Form.IsBinary : Form → Prop
  | .binary _ => True
  | _ => False

/-- A character of a numeral: a digit, a sign, or the point of a number with decimals. -/
inductive NumeralChar (form : Form) : Char → Prop where
  | digit : c.isDigit = true → NumeralChar form c
  | sign : NumeralChar form '-'
  | point : form = .decimal → NumeralChar form '.'

theorem numeralChar_of_mem {form : Form} (exact : ¬form.IsBinary) {n : form.Value}
    (member : c ∈ form.display {} n) : NumeralChar form c := by
  have signed {negative : Bool} (member : c ∈ ({} : Layout).signOf negative) :
      NumeralChar form c := by
    cases negative with
    | true =>
      cases List.mem_singleton.mp member
      exact .sign
    | false => cases member
  cases form with
  | binary precision => exact (exact trivial).elim
  | integer form =>
    rw [Integer.display_plain n, List.mem_append] at member
    rcases member with sign | digit
    · exact signed sign
    · exact .digit (isDigit_of_mem_digits digit)
  | decimal =>
    rw [Decimal.display_plain n, Decimal.pointed_eq, List.mem_append, List.mem_append] at member
    rcases member with sign | digit | decimals
    · exact signed sign
    · exact .digit (isDigit_of_mem_digits digit)
    · split at decimals
      · cases decimals
      · rcases List.mem_cons.mp decimals with rfl | digit
        · exact .point rfl
        · exact .digit (Decimal.isDigit_of_mem_decimals digit)

theorem display_ne_nil {form : Form} (exact : ¬form.IsBinary) (n : form.Value) :
    form.display {} n ≠ [] := by
  cases form with
  | binary precision => exact (exact trivial).elim
  | integer form =>
    rw [Integer.display_plain n]
    exact List.append_ne_nil_of_right_ne_nil _ Nat.toDigits_ne_nil
  | decimal =>
    rw [Decimal.display_plain n, Decimal.pointed_eq]
    exact List.append_ne_nil_of_right_ne_nil _
      (List.append_ne_nil_of_left_ne_nil Nat.toDigits_ne_nil _)

/-- Whether a number is a decimal zero with a sign. -/
def Form.IsSignedZero : (form : Form) → form.Value → Prop
  | .decimal, a => Decimal.negative a = true ∧ Decimal.mantissa a = 0
  | _, _ => False

/-- The text of a number is read as the number, where a decimal zero has no sign. -/
theorem readNormalized?_display {form : Form} (exact : ¬form.IsBinary) (n : form.Value) :
    ∃ found, form.readNormalized? (form.display {} n) = some found ∧
      form.compare? found n = some .eq ∧ (found = n ∨ form.IsSignedZero n) := by
  cases form with
  | binary precision => exact (exact trivial).elim
  | integer form =>
    exact ⟨n, Integer.read?_display n, congrArg some Std.ReflCmp.compare_self, .inl rfl⟩
  | decimal =>
    refine ⟨Decimal.settled n, Decimal.read?_display n,
      congrArg some (Decimal.compare_settled n), ?_⟩
    by_cases signed : Decimal.negative n = true ∧ Decimal.mantissa n = 0
    · exact .inr signed
    · exact .inl (Decimal.settled_eq n signed)

end Number

/-- A culture that is found by a name is a listed one or the one without a name. -/
theorem Culture.mem_of_ofName? {spelled : String} {culture : Culture}
    (known : Culture.ofName? spelled = some culture) :
    culture ∈ Culture.invariant :: Culture.known := by
  unfold ofName? at known
  split at known
  · cases known
    exact List.mem_cons_self
  · exact List.mem_cons_of_mem _ (List.mem_of_find?_eq_some known)

/-- The group separator of a known culture stands in no whole number. -/
theorem Culture.groupSeparator_of_ofName? {spelled : String} {culture : Culture}
    (known : Culture.ofName? spelled = some culture) :
    culture.groupSeparator.isDigit = false ∧ culture.groupSeparator ≠ '-' := by
  have listed : ∀ culture ∈ Culture.invariant :: Culture.known,
      culture.groupSeparator.isDigit = false ∧ culture.groupSeparator ≠ '-' := by
    decide
  exact listed culture (mem_of_ofName? known)

/-- A culture that the numbers of a type are read by as they are shown: none, or, if they have no
decimals, a known one. -/
def NumericType.Suits (type : NumericType) (culture? : Option Culture) : Prop :=
  ∀ culture, culture? = some culture →
    type ≠ .decimal ∧ ∃ name, Culture.ofName? name = some culture

namespace NumericType

open Number

variable {type : NumericType}

theorem decimal_of_form (form : type.form = .decimal) : type = .decimal := by
  cases type <;> first | rfl | cases form

theorem decimal_of_isFloating (exact : ¬type.form.IsBinary) (floating : type.isFloating = true) :
    type = .decimal := by
  cases type <;> first | rfl | exact (exact trivial).elim | cases floating

theorem unbroken_numeral (exact : ¬type.form.IsBinary) (n : type.form.Value) :
    Text.IsUnbroken (type.form.display {} n) := by
  intro c member
  cases numeralChar_of_mem exact member with
  | digit digit => exact Text.isBlank_of_isDigit digit
  | sign => decide
  | point _ => decide

/-- A culture that suits the type leaves its numerals as they are. -/
theorem normalize_numeral (suits : type.Suits culture?) (exact : ¬type.form.IsBinary)
    (text : List Char) :
    (if type.isFloating then (culture?.getD Culture.invariant).normalize text else text) =
      text := by
  split
  · rename_i floating
    have absent : culture? = none := by
      cases given : culture? with
      | none => rfl
      | some culture =>
        exact ((suits culture given).1 (decimal_of_isFloating exact floating)).elim
    have kept (c : Char) : (if c == '.' then '.' else c) = c := by
      split <;> simp_all
    rw [absent, Option.getD_none, Culture.normalize]
    exact (List.map_congr_left fun c _ => kept c).trans (List.map_id text)
  · rfl

theorem separator_numeral (suits : type.Suits culture?) (exact : ¬type.form.IsBinary)
    (n : type.form.Value) :
    (type.form.display {} n).contains (culture?.getD Culture.invariant).groupSeparator =
      false := by
  apply Bool.eq_false_iff.mpr
  intro present
  have numeral := numeralChar_of_mem exact (List.contains_iff_mem.mp present)
  generalize separator : (culture?.getD Culture.invariant).groupSeparator = mark at numeral
  cases given : culture? with
  | none =>
    rw [given] at separator
    cases separator
    cases numeral with
    | digit digit => cases digit
  | some culture =>
    rw [given, Option.getD_some] at separator
    obtain ⟨whole, name, known⟩ := suits culture given
    obtain ⟨digitless, unsigned⟩ := Culture.groupSeparator_of_ofName? known
    rw [separator] at digitless unsigned
    cases numeral with
    | digit digit => cases digit.symm.trans digitless
    | sign => exact unsigned rfl
    | point form => exact whole (decimal_of_form form)

/-- A number is read from its text, with white space around it. -/
theorem read?_display (suits : type.Suits culture?) (exact : ¬type.form.IsBinary)
    (n : type.form.Value) (leading : Text.IsBlankText before) (trailing : Text.IsBlankText after) :
    ∃ found, type.read? culture? (before ++ type.form.display {} n ++ after) = some found ∧
      type.form.compare? found n = some .eq ∧ (found = n ∨ type.form.IsSignedZero n) := by
  have filled := display_ne_nil exact n
  obtain ⟨found, read, equal, same⟩ := readNormalized?_display exact n
  refine ⟨found, ?_, equal, same⟩
  rw [NumericType.read?, Text.trimmed_between leading trailing (unbroken_numeral exact n) filled]
  simp only [separator_numeral suits exact, normalize_numeral suits exact, read, Bool.or_false,
    List.isEmpty_iff, filled, ↓reduceIte]

end NumericType

namespace Scalar

variable {scalar : Scalar}

/-- Whether every value is read back from its text: of all types but binary numbers and custom texts. -/
def IsExact : Scalar → Prop
  | .number type => ¬type.form.IsBinary
  | .custom _ => False
  | _ => True

/-- The kind that the generator gives a payload of the type. -/
def kind : Scalar → Kind
  | .number type => .numeric type
  | .text => .string
  | .uuid => .identifier
  | .documentId => .documentId
  | .boolean | .character | .custom _ => .other

/-- Whether a value is a decimal zero with a sign. -/
def IsSignedZero : (scalar : Scalar) → scalar.Value → Prop
  | .number type, n => type.form.IsSignedZero n
  | _, _ => False

end Scalar

namespace PayloadType

/-- The scalar type that a payload type is, or is an option of. -/
def held : PayloadType → Scalar
  | .scalar type => type
  | .option payload => payload.held

/-- Whether every value that is shown is read back: of exact scalars, and of options of those that
an option is told by. -/
def IsExact : PayloadType → Prop
  | .scalar type => type.IsExact
  | .option (.scalar type) => type.IsExact ∧ type ≠ .boolean ∧ type ≠ .character
  | .option (.option _) => False

def isOption : PayloadType → Bool
  | .scalar _ => false
  | .option _ => true

/-- The generator takes such a payload for what it holds, and for nullable if it is an option; by
that it chooses how wrappers of it are shown and read. -/
theorem classify_display {payload : PayloadType} (exact : payload.IsExact) :
    classify payload.display = ⟨payload.held.kind, payload.isOption, payload.held.display⟩ := by
  cases payload with
  | scalar type =>
    cases type with
    | number type => cases type <;> rfl
    | custom type => exact exact.elim
    | _ => rfl
  | option payload =>
    cases payload with
    | option _ => exact exact.elim
    | scalar type =>
      obtain ⟨exact, boolean, character⟩ := exact
      cases type with
      | number type => cases type <;> rfl
      | boolean => exact (boolean rfl).elim
      | character => exact (character rfl).elim
      | custom type => exact exact.elim
      | _ => rfl

/-- Whether a value holds a decimal zero with a sign. -/
def IsSignedZero : (payload : PayloadType) → payload.Value → Prop
  | .scalar type, value => type.IsSignedZero value
  | .option _, none => False
  | .option payload, some value => payload.IsSignedZero value

end PayloadType

namespace Wrapped

variable {wrapper : Wrapper}

end Wrapped

end ValueObjects
