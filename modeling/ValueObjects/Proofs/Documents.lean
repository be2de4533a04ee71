import ValueObjects.Serializer
import ValueObjects.Proofs.ReadBack

namespace ValueObjects

namespace Number

variable {form : IntegerForm}

theorem IntegerForm.low_le (few : form.bits ≤ width) : low ⟨true, width⟩ ≤ form.low := by
  have powers : Nat.pow 2 (form.bits - 1) ≤ Nat.pow 2 (width - 1) :=
    Nat.pow_le_pow_right Nat.two_pos (by omega)
  simp only [low, if_true]
  split <;> omega

theorem IntegerForm.high_le (few : form.bits ≤ width)
    (spare : form.signed = true ∨ form.bits < width) : form.high ≤ high ⟨true, width⟩ := by
  have powers : Nat.pow 2 (if form.signed then form.bits - 1 else form.bits) ≤
      Nat.pow 2 (width - 1) := by
    apply Nat.pow_le_pow_right Nat.two_pos
    split
    · omega
    · rename_i unsigned
      have fewer := spare.resolve_left unsigned
      omega
  simp only [high, if_true]
  omega

theorem Integer.ofInt?_eq_some (inRange : form.low ≤ n ∧ n ≤ form.high) :
    ofInt? form n = some ⟨n, inRange⟩ :=
  dif_pos inRange

/-- Whether a document store has room for a number: whole numbers are kept in 64 signed bits, and
those of more bits are refused. -/
def Form.HasRoom : (form : Form) → form.Value → Prop
  | .integer form, n => form.bits ≤ 64 ∧ n.val ≤ IntegerForm.high ⟨true, 64⟩
  | _, _ => True

end Number

def Scalar.HasRoom : (scalar : Scalar) → scalar.Value → Prop
  | .number type, n => type.form.HasRoom n
  | _, _ => True

/-- Whether every value that is written is read back: of exact scalars and of options of those. An
empty option in an option is written as the empty option is. -/
def PayloadType.IsStorable : PayloadType → Prop
  | .scalar type => type.IsExact
  | .option (.scalar type) => type.IsExact
  | .option (.option _) => False

def PayloadType.HasRoom : (payload : PayloadType) → payload.Value → Prop
  | .scalar type, value => type.HasRoom value
  | .option _, none => True
  | .option payload, some value => payload.HasRoom value

namespace Bson

open Number

theorem bits_le_of_isNarrow {form : IntegerForm} (narrow : isNarrow form = true) :
    form.bits ≤ 32 ∧ (form.signed = true ∨ form.bits < 32) := by
  simp only [isNarrow, Bool.or_eq_true, Bool.and_eq_true, decide_eq_true_eq] at narrow
  rcases narrow with fewer | ⟨signed, same⟩
  · exact ⟨Nat.le_of_lt fewer, .inr fewer⟩
  · exact ⟨Nat.le_of_eq same, .inl signed⟩

theorem string_ne_null (text : String) : string text ≠ null :=
  nofun

theorem ofInteger?_of_room {form : IntegerForm} (n : Integer form)
    (room : Form.HasRoom (.integer form) n) :
    ∃ bson, ofInteger? form n = some bson ∧ bson.integer? = some n.val := by
  obtain ⟨few, top⟩ := room
  obtain ⟨above, below⟩ := n.property
  unfold ofInteger?
  rw [if_neg (Nat.not_lt.mpr few)]
  cases narrow : isNarrow form with
  | true =>
    obtain ⟨fits, spare⟩ := bits_le_of_isNarrow narrow
    have inRange := And.intro (Int.le_trans (IntegerForm.low_le fits) above)
      (Int.le_trans below (IntegerForm.high_le fits spare))
    rw [if_pos rfl, Integer.ofInt?_eq_some inRange]
    exact ⟨_, rfl, rfl⟩
  | false =>
    rw [if_neg Bool.false_ne_true,
      Integer.ofInt?_eq_some ⟨Int.le_trans (IntegerForm.low_le few) above, top⟩]
    exact ⟨_, rfl, rfl⟩

theorem ofInteger?_eq_none {form : IntegerForm} (n : Integer form)
    (full : ¬Form.HasRoom (.integer form) n) : ofInteger? form n = none := by
  unfold ofInteger?
  by_cases wide : 64 < form.bits
  · exact if_pos wide
  · rw [if_neg wide]
    have beyond : ¬n.val ≤ IntegerForm.high ⟨true, 64⟩ := fun top =>
      full ⟨Nat.not_lt.mp wide, top⟩
    have wideForm : isNarrow form = false := by
      apply Bool.eq_false_iff.mpr
      intro narrow
      obtain ⟨fits, spare⟩ := bits_le_of_isNarrow narrow
      have top : n.val ≤ IntegerForm.high ⟨true, 32⟩ :=
        Int.le_trans n.property.2 (IntegerForm.high_le fits spare)
      have bound : IntegerForm.high ⟨true, 32⟩ ≤ IntegerForm.high ⟨true, 64⟩ := by decide
      exact beyond (Int.le_trans top bound)
    rw [wideForm, if_neg Bool.false_ne_true, Integer.ofInt?, dif_neg fun inRange => beyond inRange.2]
    rfl

/-- A decimal is written as its text, and a text is read as the decimal it shows. -/
theorem ofNumber?_decimal (a : Decimal) :
    ofNumber? .decimal a = some (.string (String.ofList (Form.decimal.display {} a))) :=
  rfl

theorem toNumber?_string (text : List Char) :
    toNumber? (.string (String.ofList text)) .decimal = Decimal.read? text :=
  congrArg Decimal.read? String.toList_ofList

/-- A number that there is room for is written as a value that is read as the number, where a
decimal zero has no sign. -/
theorem toNumber?_ofNumber? {form : Form} (exact : ¬form.IsBinary) (n : form.Value)
    (room : form.HasRoom n) :
    ∃ bson found, ofNumber? form n = some bson ∧ bson ≠ .null ∧
      toNumber? bson form = some found ∧ form.compare? found n = some .eq ∧
      (found = n ∨ form.IsSignedZero n) := by
  cases form with
  | binary precision => exact (exact trivial).elim
  | integer form =>
    obtain ⟨bson, written, number⟩ := ofInteger?_of_room n room
    have back : toInteger? form bson = some n := by
      rw [toInteger?, if_neg (Nat.not_lt.mpr room.1), number, Option.bind_some]
      exact Integer.ofInt?_eq_some n.property
    refine ⟨bson, n, written, ?_, back, congrArg some Std.ReflCmp.compare_self, .inl rfl⟩
    rintro rfl
    cases number
  | decimal =>
    obtain ⟨found, read, equal, same⟩ := readNormalized?_display exact n
    have back := (toNumber?_string (Form.decimal.display {} n)).trans read
    exact ⟨_, found, ofNumber?_decimal n, string_ne_null _, back, equal, same⟩

theorem ofNumber?_eq_none {form : Form} (n : form.Value) (full : ¬form.HasRoom n) :
    ofNumber? form n = none := by
  cases form with
  | integer form => exact ofInteger?_eq_none n full
  | _ => exact (full trivial).elim

/-- An identifier is written as its text, and a text is read as the identifier it shows. -/
theorem ofScalar?_uuid (id : Uuid) :
    ofScalar? .uuid id = some (.string (String.ofList (Uuid.text id))) :=
  rfl

theorem toScalar?_string (text : List Char) :
    toScalar? (.string (String.ofList text)) .uuid = Uuid.read? text :=
  congrArg Uuid.read? String.toList_ofList

/-- The character of a text of one. -/
def character? : Option (List Char) → Option Char
  | some [c] => some c
  | _ => none

theorem toScalar?_singleton (c : Char) :
    toScalar? (.string (String.singleton c)) .character = some c := by
  change character? (some (String.singleton c).toList) = some c
  rw [String.toList_singleton, character?]

/-- A scalar that there is room for is written as a value that is read as the scalar. -/
theorem toScalar?_ofScalar? {scalar : Scalar} (exact : scalar.IsExact) (value : scalar.Value)
    (room : scalar.HasRoom value) :
    ∃ bson found, ofScalar? scalar value = some bson ∧ bson ≠ .null ∧
      toScalar? bson scalar = some found ∧ scalar.equal found value = true ∧
      (found = value ∨ scalar.IsSignedZero value) := by
  cases scalar with
  | number type =>
    obtain ⟨bson, found, written, filled, read, equal, same⟩ :=
      toNumber?_ofNumber? exact value room
    exact ⟨bson, found, written, filled, read, beq_iff_eq.mpr equal, same⟩
  | boolean => exact ⟨_, value, rfl, nofun, rfl, decide_eq_true rfl, .inl rfl⟩
  | character =>
    exact ⟨_, value, rfl, string_ne_null _, toScalar?_singleton value, decide_eq_true rfl, .inl rfl⟩
  | text => exact ⟨_, value, rfl, string_ne_null _, rfl, decide_eq_true rfl, .inl rfl⟩
  | uuid =>
    have back := (toScalar?_string (Uuid.text value)).trans (Uuid.read?_text value)
    exact ⟨_, value, ofScalar?_uuid value, string_ne_null _, back, decide_eq_true rfl, .inl rfl⟩
  | documentId => exact ⟨_, value, rfl, nofun, rfl, decide_eq_true rfl, .inl rfl⟩
  | custom type => exact exact.elim

theorem ofScalar?_eq_none {scalar : Scalar} (value : scalar.Value) (full : ¬scalar.HasRoom value) :
    ofScalar? scalar value = none := by
  cases scalar with
  | number type => exact ofNumber?_eq_none value full
  | _ => exact (full trivial).elim

/-- A value that is not null is read as an option of what it is read as. -/
theorem toPayload?_option {payload : PayloadType} {bson : Bson} (filled : bson ≠ .null) :
    toPayload? bson (.option payload) = (toPayload? bson payload).map some := by
  cases bson with
  | null => exact (filled rfl).elim
  | _ => rfl

/-- A payload that there is room for is written as a value that is read as the payload. -/
theorem toPayload?_ofPayload? {payload : PayloadType} (storable : payload.IsStorable)
    (value : payload.Value) (room : payload.HasRoom value) :
    ∃ bson found, ofPayload? payload value = some bson ∧ toPayload? bson payload = some found ∧
      payload.equal found value = true ∧ (found = value ∨ payload.IsSignedZero value) := by
  cases payload with
  | scalar type =>
    obtain ⟨bson, found, written, _, read, equal, same⟩ := toScalar?_ofScalar? storable value room
    exact ⟨bson, found, written, read, equal, same⟩
  | option payload =>
    cases payload with
    | option _ => exact storable.elim
    | scalar type =>
      cases value with
      | none => exact ⟨.null, none, rfl, rfl, rfl, .inl rfl⟩
      | some value =>
        obtain ⟨bson, found, written, filled, read, equal, same⟩ :=
          toScalar?_ofScalar? storable value room
        refine ⟨bson, some found, written, ?_, equal, same.imp_left (congrArg some)⟩
        rw [toPayload?_option filled]
        exact congrArg (Option.map some) read

theorem ofPayload?_eq_none {payload : PayloadType} (value : payload.Value)
    (full : ¬payload.HasRoom value) : ofPayload? payload value = none := by
  induction payload with
  | scalar type => exact ofScalar?_eq_none value full
  | option payload ih =>
    cases value with
    | none => exact (full trivial).elim
    | some value => exact ih value full

end Bson

namespace Wrapped

variable {wrapper : Wrapper}

/-- A value is written just if there is room for its payload, and what is written is read back as
the value, with the sign of a decimal zero left out. -/
theorem ofBson_toBson (value : Wrapped wrapper) (storable : wrapper.payload.IsStorable) :
    (wrapper.payload.HasRoom value.payload →
      ∃ bson found, value.toBson = .ok bson ∧ ofBson wrapper bson = .ok found ∧
        found.equal value = true ∧
        (found = value ∨ wrapper.payload.IsSignedZero value.payload)) ∧
    (¬wrapper.payload.HasRoom value.payload →
      value.toBson = .error (.unwritable wrapper.path)) := by
  constructor
  · intro room
    obtain ⟨bson, found, written, read, equal, same⟩ :=
      Bson.toPayload?_ofPayload? storable value.payload room
    refine ⟨bson, ⟨found⟩, ?_, ?_, equal, same.imp_left (congrArg Wrapped.mk)⟩
    · rw [toBson, written]
    · rw [ofBson, read]
  · intro full
    rw [toBson, Bson.ofPayload?_eq_none value.payload full]

/-- A wrapper of whole numbers without a sign, or of none. -/
def mileage : Wrapper :=
  ⟨"fleet", "vehicle", "Mileage", .option (.scalar (.number .u64))⟩

def miles (n : Number.Integer ⟨false, 64⟩) : Wrapped mileage :=
  ⟨some n⟩

/-- The greatest number that there is room for, and the least that there is none for. -/
theorem ofBson_toBson_miles :
    mileage.payload.IsStorable ∧
    (∃ bson found, (miles ⟨9223372036854775807, by decide⟩).toBson = .ok bson ∧
      ofBson mileage bson = .ok found ∧ found.equal (miles ⟨9223372036854775807, by decide⟩) = true ∧
      (found = miles ⟨9223372036854775807, by decide⟩ ∨
        mileage.payload.IsSignedZero (miles ⟨9223372036854775807, by decide⟩).payload)) ∧
    (miles ⟨9223372036854775808, by decide⟩).toBson = .error (.unwritable mileage.path) := by
  have storable : mileage.payload.IsStorable := not_false
  refine ⟨storable, (ofBson_toBson (miles ⟨9223372036854775807, by decide⟩) storable).1 ?_,
    (ofBson_toBson (miles ⟨9223372036854775808, by decide⟩) storable).2 ?_⟩
  · exact ⟨Nat.le_refl 64, by decide⟩
  · rintro ⟨_, top⟩
    exact absurd top (by decide)

end Wrapped

end ValueObjects
