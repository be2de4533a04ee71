import ValueObjects.Proofs.NumeralTexts
import ValueObjects.Proofs.Separators

namespace ValueObjects

namespace Number

namespace Decimal

open Progress

variable {text front rest : List Char} {c next : Char}

/-- How many digits stand behind the point. -/
def places (text : List Char) : Nat :=
  ((text.dropWhile (· != '.')).filter Char.isDigit).length

/-- The digits of a text, as a number. -/
def digitsValue (text : List Char) : Nat :=
  ofDigits (text.filter Char.isDigit)

/-- What has been read of a number after the beginning of its text. -/
def Progress.after (text : List Char) : Progress where
  mantissa := digitsValue text
  scale := places text
  point := text.contains '.'
  hasDigit := text.any Char.isDigit

/-- A mantissa as far as it goes: digits, a point, and underscores after a digit. -/
structure IsLoose (text : List Char) : Prop where
  chars : ∀ c ∈ text, c.isDigit = true ∨ c = '.' ∨ c = '_'
  point : text.count '.' ≤ 1
  led : ∀ before, before ++ ['_'] <+: text → ∃ c ∈ before, c.isDigit = true

/-- Whether a number that has been read up to a character has no room for what follows. It is then
rounded by a digit, and ends at another point. At an underscore it ends if it is short; else what
follows that is looked at. -/
structure IsFull (text : List Char) (next : Char) : Prop where
  point : '.' ∈ text
  char : next.isDigit = true ∨ next = '.' ∨ next = '_' ∧ digitsValue text < wordLimit
  room : maxScale ≤ places text ∨
    next.isDigit = true ∧ mantissaLimit ≤ digitsValue (text ++ [next])

theorem digitsValue_concat (digit : c.isDigit = true) (text : List Char) :
    digitsValue (text ++ [c]) = 10 * digitsValue text + (c.toNat - '0'.toNat) := by
  simp [digitsValue, ofDigits, digit]

theorem places_append (pointed : '.' ∈ text) (rest : List Char) :
    places (text ++ rest) = places text + (rest.filter Char.isDigit).length := by
  have kept : text.dropWhile (· != '.') ≠ [] := by
    intro none
    simpa using List.dropWhile_eq_nil_iff.mp none '.' pointed
  rw [places, List.dropWhile_append, if_neg (by simpa using kept), List.filter_append,
    List.length_append, places]

theorem places_of_notMem (absent : '.' ∉ text) : places text = 0 := by
  have none : text.dropWhile (· != '.') = [] :=
    List.dropWhile_eq_nil_iff.mpr fun c member =>
      bne_iff_ne.mpr fun point => absent (point ▸ member)
  rw [places, none]
  rfl

theorem places_concat (digit : c.isDigit = true) (text : List Char) :
    places (text ++ [c]) = if text.contains '.' then places text + 1 else 0 := by
  split
  · rename_i pointed
    rw [places_append (List.contains_iff_mem.mp pointed), List.filter_cons_of_pos digit]
    rfl
  · rename_i absent
    have other : '.' ≠ c := by
      rintro rfl
      cases digit
    apply places_of_notMem
    simp_all

theorem places_concat_of_other (other : c.isDigit = false) (text : List Char) :
    places (text ++ [c]) = places text := by
  have last : (List.dropWhile (· != '.') [c]).filter Char.isDigit = [] := by
    cases point : c != '.' <;> simp [point, other]
  rw [places, places, List.dropWhile_append]
  split
  · rename_i none
    rw [List.isEmpty_iff.mp none, last]
    rfl
  · simp [other]

theorem after_digit (digit : c.isDigit = true) (text : List Char) :
    (after text).push (c.toNat - '0'.toNat) = after (text ++ [c]) := by
  have other : '.' ≠ c := by
    rintro rfl
    cases digit
  simp [push, after, digitsValue_concat digit, places_concat digit, digit, other]

theorem after_point (text : List Char) :
    { after text with point := true } = after (text ++ ['.']) := by
  have other : '.'.isDigit = false := rfl
  simp [after, digitsValue, places_concat_of_other other, other]

theorem after_underscore (text : List Char) : after (text ++ ['_']) = after text := by
  have other : '_'.isDigit = false := rfl
  simp [after, digitsValue, places_concat_of_other other, other]

theorem isFull_after : (after text).isFull = true ↔ '.' ∈ text ∧ maxScale ≤ places text := by
  simp [isFull, after]

theorem trails_iff : trails c = true ↔ c.isDigit = true ∨ c = '.' ∨ c = '_' := by
  simp [trails, or_assoc]

/-- A number is rounded at a digit, a point or an underscore. -/
theorem char_of_round? {progress : Progress} (found : progress.round? c rest ≠ none) :
    c.isDigit = true ∨ c = '.' ∨ c = '_' := by
  by_contra other
  have refused : trails c = false := by rwa [← trails_iff, Bool.not_eq_true] at other
  apply found
  simp [round?, refused]

/-- Where a number is rounded, what follows counts for nothing if it may stand there at all. -/
theorem round?_eq (progress : Progress) (c : Char) (rest : List Char) :
    progress.round? c rest = if rest.all trails then progress.round? c [] else none := by
  cases trailing : rest.all trails <;> simp [round?, trailing]

namespace IsLoose

theorem nil : IsLoose [] where
  chars := nofun
  point := by decide
  led before start := by simp at start

theorem concat (loose : IsLoose text) (char : c.isDigit = true ∨ c = '.' ∨ c = '_')
    (once : c = '.' → '.' ∉ text) (digit : c = '_' → ∃ d ∈ text, d.isDigit = true) :
    IsLoose (text ++ [c]) where
  chars d member := by
    rcases List.mem_append.mp member with own | last
    · exact loose.chars d own
    · exact List.mem_singleton.mp last ▸ char
  point := by
    rw [List.count_append]
    by_cases point : c = '.'
    · rw [List.count_eq_zero.mpr (once point), point]
      decide
    · rw [List.count_eq_zero.mpr fun member => point (List.mem_singleton.mp member).symm]
      exact loose.point
  led before start := by
    rcases List.prefix_concat_iff.mp start with whole | earlier
    · obtain ⟨rfl, same⟩ := List.append_inj' whole rfl
      exact digit (List.singleton_inj.mp same).symm
    · exact loose.led before earlier

end IsLoose

/-- Without room for decimals a number ends at the next character. A number of more than one word
may go on after an underscore. -/
theorem readDigits?_of_isFull {progress : Progress} (full : progress.isFull = true)
    (ends : c.isDigit = true ∨ ¬(wordLimit ≤ progress.mantissa ∧ c = '_')) (rest : List Char) :
    readDigits? progress (c :: rest) = progress.round? c rest := by
  cases digit : c.isDigit with
  | true => simp only [readDigits?, digit, full, ↓reduceIte]
  | false =>
    have settled : (progress.isFull &&
        !(decide (wordLimit ≤ progress.mantissa) && c == '_')) = true := by
      simpa [full, digit, Decidable.imp_iff_not_or] using ends
    simp only [readDigits?, digit, settled, Bool.false_eq_true, ↓reduceIte]

/-- A number ends at a digit that is too much for its mantissa. -/
theorem readDigits?_of_overflow (digit : c.isDigit = true)
    (limit : mantissaLimit ≤ digitsValue (text ++ [c])) (rest : List Char) :
    readDigits? (after text) (c :: rest) =
      if (after text).point then (after text).round? c rest else none := by
  by_cases full : (after text).isFull = true
  · have point : (after text).point = true := (Bool.and_eq_true_iff.mp full).1
    rw [readDigits?_of_isFull full (.inl digit), if_pos point]
  · simp only [readDigits?, digit, full, after_digit digit, ↓reduceIte]
    exact if_pos limit

theorem readDigits?_of_room (digit : c.isDigit = true) (room : (after text).isFull ≠ true)
    (fits : ¬mantissaLimit ≤ digitsValue (text ++ [c])) (rest : List Char) :
    readDigits? (after text) (c :: rest) = readDigits? (after (text ++ [c])) rest := by
  simp only [readDigits?, digit, room, after_digit digit, ↓reduceIte]
  exact if_neg fits

theorem readDigits?_point (absent : '.' ∉ text) (rest : List Char) :
    readDigits? (after text) ('.' :: rest) = readDigits? (after (text ++ ['.'])) rest := by
  have other : '.'.isDigit = false := rfl
  have room : (after text).isFull = false := by simp [isFull, after, absent]
  have first : ('.' == '.' && !(after text).point) = true := by simpa [after] using absent
  simp only [readDigits?, other, room, first, after_point, Bool.false_and, Bool.false_eq_true,
    ↓reduceIte]

/-- Whether a character is read on to. -/
def ReadsOn (text : List Char) (next : Char) : Prop :=
  IsLoose (text ++ [next]) ∧
    ∀ rest, readDigits? (after text) (next :: rest) = readDigits? (after (text ++ [next])) rest

/-- Whether a number ends at a character or is refused there, whatever follows of what may stand in
a number. -/
def Settles (text : List Char) (next : Char) : Prop :=
  ∃ result, (result ≠ none → IsFull text next) ∧
    ∀ rest, readDigits? (after text) (next :: rest) = if rest.all trails then result else none

theorem Settles.rounded (full : (after text).round? c [] ≠ none → IsFull text c)
    (rounds : ∀ rest, readDigits? (after text) (c :: rest) = (after text).round? c rest) :
    Settles text c :=
  ⟨_, full, fun rest => (rounds rest).trans (round?_eq ..)⟩

theorem Settles.refused (refused : ∀ rest, readDigits? (after text) (c :: rest) = none) :
    Settles text c :=
  ⟨none, fun found => (found rfl).elim, fun rest => (refused rest).trans (ite_self none).symm⟩

theorem settles_of_isFull (full : IsFull text c) : Settles text c := by
  rcases full.room with many | ⟨digit, limit⟩
  · apply Settles.rounded fun _ => full
    apply readDigits?_of_isFull (isFull_after.mpr ⟨full.point, many⟩)
    rcases full.char with digit | rfl | ⟨rfl, short⟩
    · exact .inl digit
    · exact .inr (by simp)
    · exact .inr fun long => Nat.not_le_of_lt short long.1
  · apply Settles.rounded fun _ => full
    intro rest
    have point : (after text).point = true := List.contains_iff_mem.mpr full.point
    rw [readDigits?_of_overflow digit limit, if_pos point]

theorem step_of_digit (loose : IsLoose text) (digit : c.isDigit = true) :
    ReadsOn text c ∨ Settles text c := by
  by_cases full : (after text).isFull = true
  · obtain ⟨point, room⟩ := isFull_after.mp full
    exact .inr (settles_of_isFull ⟨point, .inl digit, .inl room⟩)
  · by_cases limit : mantissaLimit ≤ digitsValue (text ++ [c])
    · by_cases point : '.' ∈ text
      · exact .inr (settles_of_isFull ⟨point, .inl digit, .inr ⟨digit, limit⟩⟩)
      · refine .inr (.refused fun rest => ?_)
        rw [readDigits?_of_overflow digit limit]
        exact if_neg (mt List.contains_iff_mem.mp point)
    · have further : IsLoose (text ++ [c]) := by
        apply loose.concat (.inl digit) <;> rintro rfl <;> cases digit
      exact .inl ⟨further, readDigits?_of_room digit full limit⟩

/-- A first point and an underscore after a digit are read on to if there is room for decimals. -/
theorem step_of_other (loose : IsLoose text) (other : c.isDigit = false) :
    ReadsOn text c ∨ Settles text c := by
  by_cases full : (after text).isFull = true ∧ ¬(wordLimit ≤ digitsValue text ∧ c = '_')
  · obtain ⟨point, room⟩ := isFull_after.mp full.1
    refine .inr (.rounded (fun found => ⟨point, ?_, .inl room⟩)
      (readDigits?_of_isFull full.1 (.inr full.2)))
    refine (char_of_round? found).imp_right (Or.imp_right fun underscore => ⟨underscore, ?_⟩)
    exact Nat.lt_of_not_le fun long => full.2 ⟨long, underscore⟩
  · have goesOn : ((after text).isFull &&
        !(decide (wordLimit ≤ (after text).mantissa) && c == '_')) = false := by
      simpa [after] using full
    by_cases point : c = '.' ∧ '.' ∉ text
    · obtain ⟨rfl, absent⟩ := point
      have further : IsLoose (text ++ ['.']) := by
        apply loose.concat (.inr (.inl rfl)) (fun _ => absent)
        simp
      exact .inl ⟨further, readDigits?_point absent⟩
    · have noPoint : (c == '.' && !(after text).point) = false := by
        simpa [after] using point
      by_cases underscore : c = '_' ∧ (after text).hasDigit = true
      · obtain ⟨rfl, seen⟩ := underscore
        have led := List.any_eq_true.mp seen
        have further : IsLoose (text ++ ['_']) := by
          apply loose.concat (.inr (.inr rfl)) _ (fun _ => led)
          simp
        refine .inl ⟨further, fun rest => ?_⟩
        have later : ('_' == '_' && (after text).hasDigit) = true := by simpa using seen
        simp only [readDigits?, other, goesOn, noPoint, later, after_underscore, Bool.false_eq_true,
          ↓reduceIte]
      · have refused : (c == '_' && (after text).hasDigit) = false := by simpa using underscore
        refine .inr (.refused fun rest => ?_)
        simp only [readDigits?, other, goesOn, noPoint, refused, Bool.false_eq_true, ↓reduceIte]

/-- Each character of a mantissa is read on to, or settles the number. -/
theorem step (loose : IsLoose text) (c : Char) : ReadsOn text c ∨ Settles text c := by
  cases digit : c.isDigit with
  | true => exact step_of_digit loose digit
  | false => exact step_of_other loose digit

/-- A mantissa with underscores after its first digit. From where the number has no room on, it may
go on with points and underscores too. -/
inductive IsLooseMantissa : List Char → Prop where
  | short {text : List Char} (loose : IsLoose text) (digit : ∃ c ∈ text, c.isDigit = true) :
    IsLooseMantissa text
  | long {front : List Char} {next : Char} {rest : List Char} (loose : IsLoose front)
    (full : IsFull front next) (trailing : ∀ c ∈ rest, trails c = true) : IsLooseMantissa (front ++ next :: rest)

/-- An exponent, which a plus may stand in between its minus and the digits. -/
inductive IsLooseExponent : List Char → Prop where
  | strict {exponent : List Char} (raised : IsExponent exponent) : IsLooseExponent exponent
  | doubled {mark : Char} {power : List Char} (known : mark = 'e' ∨ mark = 'E')
    (digits : IsDigits power) : IsLooseExponent (mark :: '-' :: '+' :: power)

/-- The numerals of decimal numbers. -/
inductive IsLooseNumeral : List Char → Prop where
  | of {sign mantissa exponent : List Char} (signed : IsSign sign)
    (digits : IsLooseMantissa mantissa) (raised : IsLooseExponent exponent) :
    IsLooseNumeral (sign ++ mantissa ++ exponent)

/-- A number that has no room for a character has a digit by then. -/
theorem IsFull.exists_digit (full : IsFull front next) (rest : List Char) :
    ∃ c ∈ front ++ next :: rest, c.isDigit = true := by
  rcases full.room with many | ⟨digit, _⟩
  · have some : 0 < ((front.dropWhile (· != '.')).filter Char.isDigit).length :=
      Nat.lt_of_lt_of_le (by decide) many
    obtain ⟨c, member⟩ := List.exists_mem_of_length_pos some
    obtain ⟨own, digit⟩ := List.mem_filter.mp member
    exact ⟨c, List.mem_append_left _ ((List.dropWhile_sublist _).mem own), digit⟩
  · exact ⟨next, List.mem_append_right _ List.mem_cons_self, digit⟩

namespace IsLooseMantissa

theorem chars (mantissa : IsLooseMantissa text) :
    ∀ c ∈ text, c.isDigit = true ∨ c = '.' ∨ c = '_' := by
  cases mantissa with
  | short loose => exact loose.chars
  | @long front next rest loose full trailing =>
    intro c member
    rcases List.mem_append.mp member with own | later
    · exact loose.chars c own
    · rcases List.mem_cons.mp later with rfl | behind
      · exact full.char.imp_right (Or.imp_right And.left)
      · exact trails_iff.mp (trailing c behind)

theorem exists_digit (mantissa : IsLooseMantissa text) : ∃ c ∈ text, c.isDigit = true := by
  cases mantissa with
  | short loose digit => exact digit
  | @long front next rest loose full trailing => exact full.exists_digit rest

theorem strict (mantissa : IsLooseMantissa text) (absent : '_' ∉ text)
    (once : text.count '.' ≤ 1) : IsMantissa text where
  chars c member :=
    (mantissa.chars c member).imp_right fun mark =>
      mark.resolve_right fun underscore => absent (underscore ▸ member)
  point := once
  digit := mantissa.exists_digit

end IsLooseMantissa

/-- A numeral of a decimal number is a numeral, or has underscores, an exponent with two signs or
two points. -/
theorem IsLooseNumeral.cases (numeral : IsLooseNumeral text) :
    IsNumeralText text ∨ '_' ∈ text ∨ ['-', '+'] <:+: text ∨ 1 < text.count '.' := by
  obtain @⟨sign, mantissa, exponent, isSign, digits, raised⟩ := numeral
  cases raised with
  | @doubled mark power known =>
    exact .inr (.inr (.inl ⟨sign ++ mantissa ++ [mark], power, by simp⟩))
  | strict raised =>
    by_cases underscore : '_' ∈ mantissa
    · exact .inr (.inl (List.mem_append_left _ (List.mem_append_right _ underscore)))
    · by_cases once : mantissa.count '.' ≤ 1
      · exact .inl (.of isSign (digits.strict underscore once) raised)
      · refine .inr (.inr (.inr ?_))
        rw [List.count_append, List.count_append]
        omega

/-- What is read on from the beginning of a mantissa makes it a mantissa. -/
theorem readDigits?_mantissa (loose : IsLoose front)
    (found : readDigits? (after front) text = some value) : IsLooseMantissa (front ++ text) := by
  induction text generalizing front with
  | nil =>
    have seen : (after front).hasDigit = true := by
      by_contra unseen
      simp [readDigits?, unseen] at found
    rw [List.append_nil]
    exact .short loose (List.any_eq_true.mp seen)
  | cons c rest ih =>
    rcases step loose c with ⟨further, same⟩ | ⟨result, full, same⟩
    · rw [same] at found
      rw [List.append_cons]
      exact ih further found
    · rw [same] at found
      split at found
      · rename_i trailing
        exact .long loose (full (found ▸ Option.some_ne_none value)) (List.all_eq_true.mp trailing)
      · cases found

/-- A number without an exponent is a mantissa after a sign. -/
theorem plain?_mantissa (found : (plain? text).isSome = true) :
    ∃ sign mantissa, text = sign ++ mantissa ∧ IsSign sign ∧ IsLooseMantissa mantissa := by
  obtain ⟨sign, isSign, split⟩ := exists_sign text
  obtain ⟨number, found⟩ := Option.isSome_iff_exists.mp found
  obtain ⟨value, read, _⟩ := Option.bind_eq_some_iff.mp found
  exact ⟨sign, _, split, isSign, readDigits?_mantissa .nil read⟩

/-! Numerals that are read. -/

def wholePart (text : List Char) : Nat :=
  digitsValue (text.takeWhile (· != '.'))

theorem digitsValue_le_append (text rest : List Char) :
    digitsValue text ≤ digitsValue (text ++ rest) := by
  induction rest generalizing text with
  | nil => rw [List.append_nil]
  | cons c rest ih =>
    rw [List.append_cons]
    refine Nat.le_trans ?_ (ih (text ++ [c]))
    cases digit : c.isDigit with
    | true =>
      rw [digitsValue_concat digit]
      omega
    | false => simp [digitsValue, digit]

theorem wholePart_append (pointed : '.' ∈ text) (rest : List Char) :
    wholePart (text ++ rest) = wholePart text := by
  have stops : (text.takeWhile (· != '.')).length ≠ text.length := by
    intro all
    have whole := (List.takeWhile_sublist _).eq_of_length all
    simpa using List.takeWhile_eq_self_iff.mp whole '.' pointed
  rw [wholePart, List.takeWhile_append, if_neg stops, wholePart]

/-- All digits before the point belong to the whole part. -/
theorem digitsValue_le_wholePart (absent : '.' ∉ text) (rest : List Char) :
    digitsValue text ≤ wholePart (text ++ rest) := by
  have all : ∀ c ∈ text, (c != '.') = true :=
    fun c member => bne_iff_ne.mpr fun point => absent (point ▸ member)
  rw [wholePart, List.takeWhile_append_of_pos all]
  exact digitsValue_le_append ..

theorem digitsValue_of_places (none : places text = 0) : digitsValue text = wholePart text := by
  conv_lhs => rw [← List.takeWhile_append_dropWhile (p := (· != '.')) (l := text)]
  rw [digitsValue, List.filter_append, List.length_eq_zero_iff.mp none, List.append_nil]
  rfl

/-- A number in range is rounded to one in range. One without decimals has to leave room for one
more. -/
theorem exists_round? (progress : Progress) (char : trails c = true)
    (trailing : ∀ c ∈ rest, trails c = true) (room : progress.mantissa < mantissaLimit)
    (few : progress.scale ≤ maxScale) (whole : progress.scale = 0 → progress.mantissa + 1 < mantissaLimit) :
    ∃ mantissa scale, progress.round? c rest = some (mantissa, scale) ∧
      mantissa < mantissaLimit ∧ scale ≤ maxScale := by
  have all : (!(c :: rest).all trails) = false := by simpa [char] using trailing
  rw [round?, all, if_neg Bool.false_ne_true]
  split
  · unfold up?
    by_cases fits : progress.mantissa + 1 < mantissaLimit
    · exact ⟨_, _, if_pos fits, fits, few⟩
    · rw [if_neg fits]
      cases same : progress.scale with
      | zero => exact (fits (whole same)).elim
      | succ scale => exact ⟨_, scale, rfl, by omega, by omega⟩
  · exact ⟨_, _, rfl, room, few⟩

/-- A mantissa is read if there is room for its whole part. -/
theorem exists_readDigits? (mantissa : IsMantissa (front ++ text))
    (whole : wholePart (front ++ text) + 1 < mantissaLimit)
    (room : digitsValue front < mantissaLimit) (few : places front ≤ maxScale) :
    ∃ value scale, readDigits? (after front) text = some (value, scale) ∧
      value < mantissaLimit ∧ scale ≤ maxScale := by
  induction text generalizing front with
  | nil =>
    rw [List.append_nil] at mantissa
    have seen : (after front).hasDigit = true := List.any_eq_true.mpr mantissa.digit
    exact ⟨_, _, if_pos seen, room, few⟩
  | cons c rest ih =>
    have own := mantissa.chars c (List.mem_append_right _ List.mem_cons_self)
    have behind : ∀ d ∈ rest, trails d = true := fun d member =>
      have later := List.mem_append_right front (List.mem_cons_of_mem c member)
      trails_iff.mpr ((mantissa.chars d later).imp_right .inl)
    rw [List.append_cons] at mantissa whole
    -- a number is rounded only behind its point
    have rounds (pointed : '.' ∈ front) := by
      refine exists_round? (after front) (trails_iff.mpr (own.imp_right .inl)) behind room few
        fun none => ?_
      rw [List.append_assoc, wholePart_append pointed, ← digitsValue_of_places none] at whole
      exact whole
    rcases own with digit | rfl
    · by_cases full : (after front).isFull = true
      · rw [readDigits?_of_isFull full (.inl digit)]
        exact rounds (isFull_after.mp full).1
      · by_cases limit : mantissaLimit ≤ digitsValue (front ++ [c])
        · have pointed : '.' ∈ front := by
            by_contra absent
            have other : '.' ∉ front ++ [c] := by
              rintro member
              rcases List.mem_append.mp member with own | last
              · exact absent own
              · cases List.mem_singleton.mp last
                cases digit
            have := digitsValue_le_wholePart other rest
            omega
          have point : (after front).point = true := List.contains_iff_mem.mpr pointed
          rw [readDigits?_of_overflow digit limit, if_pos point]
          exact rounds pointed
        · rw [readDigits?_of_room digit full limit]
          apply ih mantissa whole (Nat.lt_of_not_le limit)
          rw [places_concat digit]
          split
          · rename_i pointed
            exact Nat.lt_of_not_le fun many =>
              full (isFull_after.mpr ⟨List.contains_iff_mem.mp pointed, many⟩)
          · exact Nat.zero_le _
    · have absent : '.' ∉ front := by
        have once := mantissa.point
        rw [List.append_assoc, List.count_append, List.count_append, List.count_singleton_self]
          at once
        exact List.count_eq_zero.mp (by omega)
      have other : '.'.isDigit = false := rfl
      rw [readDigits?_point absent]
      apply ih mantissa whole
      · simpa [digitsValue, other] using room
      · rwa [places_concat_of_other other]

/-- A sign and a mantissa are read if there is room for the whole part. -/
theorem plain?_isSome {sign mantissa : List Char} (isSign : IsSign sign)
    (digits : IsMantissa mantissa) (whole : wholePart mantissa + 1 < mantissaLimit) :
    (plain? (sign ++ mantissa)).isSome = true := by
  obtain ⟨value, scale, read, room, few⟩ : ∃ value scale,
      readDigits? (after []) mantissa = some (value, scale) ∧ value < mantissaLimit ∧
        scale ≤ maxScale :=
    exists_readDigits? digits whole (by decide) (by decide)
  have bare := digits.bare []
  rw [List.append_nil] at bare
  rw [plain?, signed_of_sign isSign bare]
  change ((readDigits? (after []) mantissa).bind _).isSome = true
  rw [read]
  simp [unsignedZero?, ofParts?, room, few]

theorem cutExponent?_split {before after : List Char}
    (found : cutExponent? text = some (before, after)) :
    ∃ mark, (mark = 'e' ∨ mark = 'E') ∧ text = before ++ mark :: after := by
  induction text generalizing before with
  | nil => cases found
  | cons c rest ih =>
    rw [cutExponent?] at found
    split at found
    · rename_i mark
      cases found
      exact ⟨c, by simpa using mark, rfl⟩
    · obtain ⟨⟨start, last⟩, further, same⟩ := Option.map_eq_some_iff.mp found
      cases same
      obtain ⟨mark, known, split⟩ := ih further
      exact ⟨mark, known, congrArg (c :: ·) split⟩

/-- The digits of an exponent may have a plus before them. -/
theorem digits_of_exponentValue? (found : exponentValue? text = some n) :
    IsDigits text ∨ ∃ power, text = '+' :: power ∧ IsDigits power := by
  obtain ⟨value, read, _⟩ := Option.map_eq_some_iff.mp found
  have whole := Integer.read?_eq_some_iff.mp read
  generalize value.val = n at whole
  cases whole with
  | plain digits => exact .inl digits
  | plus digits => exact .inr ⟨_, rfl, digits⟩
  | minus negatives => cases negatives

/-- A number with an exponent is read from a number without one and the exponent. -/
theorem scientific?_cases (found : scientific? text = some a) :
    ∃ before exponent, text = before ++ exponent ∧ (plain? before).isSome = true ∧
      IsLooseExponent exponent := by
  obtain ⟨⟨before, after⟩, cut, found⟩ := Option.bind_eq_some_iff.mp found
  obtain ⟨base, plain, found⟩ := Option.bind_eq_some_iff.mp found
  obtain ⟨mark, known, split⟩ := cutExponent?_split cut
  refine ⟨before, mark :: after, split, Option.isSome_of_eq_some plain, ?_⟩
  split at found
  · obtain ⟨exponent, value, _⟩ := Option.bind_eq_some_iff.mp found
    rcases digits_of_exponentValue? value with digits | ⟨power, rfl, digits⟩
    · exact .strict (.some known .minus digits)
    · exact .doubled known digits
  · obtain ⟨exponent, value, _⟩ := Option.bind_eq_some_iff.mp found
    rcases digits_of_exponentValue? value with digits | ⟨power, rfl, digits⟩
    · exact .strict (.some known .none digits)
    · exact .strict (.some known .plus digits)

/-- A decimal number is read from nothing but its numerals. -/
theorem numeral_of_read? (found : read? text = some a) : IsLooseNumeral text := by
  rcases (Option.orElse_eq_some ..).mp found with plain | ⟨_, scientific⟩
  · obtain ⟨sign, mantissa, rfl, isSign, digits⟩ := plain?_mantissa (Option.isSome_of_eq_some plain)
    rw [← List.append_nil (sign ++ mantissa)]
    exact .of isSign digits (.strict .none)
  · obtain ⟨before, exponent, rfl, plain, raised⟩ := scientific?_cases scientific
    obtain ⟨sign, mantissa, rfl, isSign, digits⟩ := plain?_mantissa plain
    exact .of isSign digits raised

theorem read?_of_plain? (found : (plain? text).isSome = true) : (read? text).isSome = true := by
  obtain ⟨value, found⟩ := Option.isSome_iff_exists.mp found
  rw [read?, found]
  rfl

end Decimal

end Number

namespace NumericType

open Number

variable {type : NumericType}

/-- A number with decimals is read from a text without group separators if its form reads the text
with points for the decimal separators. -/
theorem read?_isSome_iff (floating : type.isFloating = true) (culture? : Option Culture)
    (text : List Char) :
    (type.read? culture? text).isSome = true ↔
      (culture?.getD Culture.invariant).groupSeparator ∉ Text.trimmed text ∧
        (type.form.readNormalized?
          ((culture?.getD Culture.invariant).normalize (Text.trimmed text))).isSome = true := by
  have empty : (type.form.readNormalized? []).isSome = false :=
    match type, floating with
    | .f32, _ | .f64, _ | .decimal, _ => rfl
  rw [read?_of_floating floating]
  by_cases filled : Text.trimmed text = []
  · simp [filled, Culture.normalize, empty]
  · simp [filled, apply_ite Option.isSome]

/-- A binary number is read from the numerals and the words, as long as no group separator stands in
them. -/
theorem binary_reads_iff (floating : type.isFloating = true) (binary : type ≠ .decimal)
    (culture? : Option Culture) (text : List Char) :
    (type.read? culture? text).isSome = true ↔
      (culture?.getD Culture.invariant).groupSeparator ∉ Text.trimmed text ∧
        (IsNumeralText ((culture?.getD Culture.invariant).normalize (Text.trimmed text)) ∨
          IsWordText ((culture?.getD Culture.invariant).normalize (Text.trimmed text))) := by
  rw [read?_isSome_iff floating]
  match type, floating with
  | .f32, _ | .f64, _ => exact and_congr_right' Binary.read?_isSome_iff
  | .decimal, _ => exact (binary rfl).elim

/-- Under every culture, a binary number is read from the numerals and the words for the numbers
that are not finite. A decimal number is read from numerals without an exponent, if there is room
for the whole part, and from nothing but numerals, of which some have underscores, two signs in
their exponent, or a second point where there is no room for further digits. -/
theorem reads_numerals (floating : type.isFloating = true) (culture? : Option Culture)
    (text : List Char) :
    let culture := culture?.getD Culture.invariant
    let spelled := culture.normalize (Text.trimmed text)
    (type ≠ .decimal → ((type.read? culture? text).isSome = true ↔
      culture.groupSeparator ∉ Text.trimmed text ∧ (IsNumeralText spelled ∨ IsWordText spelled))) ∧
    (type = .decimal →
      ((type.read? culture? text).isSome = true →
        culture.groupSeparator ∉ Text.trimmed text ∧
          (IsNumeralText spelled ∨ Decimal.IsLooseNumeral spelled ∧
            ('_' ∈ spelled ∨ ['-', '+'] <:+: spelled ∨ 1 < spelled.count '.'))) ∧
      (culture.groupSeparator ∉ Text.trimmed text →
        ∀ sign mantissa, spelled = sign ++ mantissa → IsSign sign → IsMantissa mantissa →
          Decimal.wholePart mantissa + 1 < Decimal.mantissaLimit →
          (type.read? culture? text).isSome = true)) := by
  intro culture spelled
  refine ⟨fun binary => binary_reads_iff floating binary culture? text, ?_⟩
  rintro rfl
  rw [read?_isSome_iff floating]
  constructor
  · rintro ⟨clear, found⟩
    obtain ⟨value, found⟩ := Option.isSome_iff_exists.mp found
    have numeral := Decimal.numeral_of_read? found
    exact ⟨clear, numeral.cases.imp_right fun stray => ⟨numeral, stray⟩⟩
  · intro clear sign mantissa split isSign digits whole
    refine ⟨clear, Decimal.read?_of_plain? ?_⟩
    change (Decimal.plain? spelled).isSome = true
    rw [split]
    exact Decimal.plain?_isSome isSign digits whole

/-- A German number with white space around it. -/
theorem reads_numerals_german :
    f64.isFloating = true ∧
      (f64.read? (some Culture.german) "\t-1,5E+3 ".toList).isSome = true := by
  have clear : Culture.german.groupSeparator ∉ Text.trimmed "\t-1,5E+3 ".toList := by decide
  have numeral : IsNumeralText (Culture.german.normalize (Text.trimmed "\t-1,5E+3 ".toList)) := by
    decide
  exact ⟨rfl, ((reads_numerals rfl (some Culture.german) "\t-1,5E+3 ".toList).1 (by decide)).mpr
    ⟨clear, .inl numeral⟩⟩

/-- English texts that are read although they are no numerals: words, an underscore, two signs. -/
theorem stray_texts_read :
    let english : Culture := ⟨"en", '.', ','⟩
    Culture.ofName? "en" = some english ∧
      ∀ stray ∈ [(f32, "inf"), (f64, "NaN"), (decimal, "1_000"), (decimal, "1e-+5")],
        (stray.1.read? (some english) stray.2.toList).isSome = true ∧
          ¬IsNumeralText (english.normalize (Text.trimmed stray.2.toList)) := by
  decide

end NumericType

end ValueObjects
