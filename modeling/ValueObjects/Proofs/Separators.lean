import ValueObjects.Proofs.WholeNumbers

namespace ValueObjects

namespace Text

theorem mem_trimmed (solid : isBlank c = false) : c ∈ trimmed text ↔ c ∈ text := by
  obtain ⟨before, after, split, leading, trailing⟩ := exists_around_trimmed text
  have absent {around : List Char} (blank : IsBlankText around) : c ∉ around :=
    fun member => Bool.false_ne_true (solid.symm.trans (blank c member))
  constructor
  · intro member
    rw [split]
    exact List.mem_append_left _ (List.mem_append_right _ member)
  · intro member
    rw [split, List.mem_append, List.mem_append] at member
    rcases member with (first | kept) | last
    · exact (absent leading first).elim
    · exact kept
    · exact (absent trailing last).elim

theorem mem_of_mem_trimmed (member : c ∈ trimmed text) : c ∈ text := by
  obtain ⟨before, after, split, _, _⟩ := exists_around_trimmed text
  rw [split]
  exact List.mem_append_left _ (List.mem_append_right _ member)

/-- Trimming does not depend on which solid characters a text is made of. -/
theorem trimmed_map (kept : ∀ c, isBlank (f c) = isBlank c) (text : List Char) :
    trimmed (text.map f) = (trimmed text).map f := by
  have same : isBlank ∘ f = isBlank := funext kept
  simp only [trimmed, List.dropWhile_map, ← List.map_reverse, same]

end Text

namespace Culture

variable {culture : Culture}

/-- The text with the culture's decimal separator for each point. -/
def localize (culture : Culture) (text : List Char) : List Char :=
  text.map fun c => if c == '.' then culture.decimalSeparator else c

theorem normalize_eq_self
    (absent : culture.decimalSeparator ≠ '.' → culture.decimalSeparator ∉ text) :
    culture.normalize text = text := by
  apply (List.map_congr_left _).trans (List.map_id text)
  intro c member
  by_cases separator : c = culture.decimalSeparator
  · have point : culture.decimalSeparator = '.' := by
      by_contra other
      exact absent other (separator ▸ member)
    simp [separator, point]
  · simp [separator]

/-- A separator that was put for a point is made a point again. -/
theorem normalize_localize (culture : Culture) (text : List Char) :
    culture.normalize (culture.localize text) = culture.normalize text := by
  rw [normalize, localize, List.map_map]
  apply List.map_congr_left
  intro c _
  by_cases point : c = '.' <;> simp [point]

theorem localize_eq_nil : culture.localize text = [] ↔ text = [] :=
  List.map_eq_nil_iff

theorem mem_localize (noPoint : mark ≠ '.') (other : culture.decimalSeparator ≠ mark) :
    mark ∈ culture.localize text ↔ mark ∈ text := by
  rw [localize, List.mem_map]
  constructor
  · rintro ⟨c, member, same⟩
    split at same
    · exact (other same).elim
    · exact same ▸ member
  · intro member
    exact ⟨mark, member, by simp [noPoint]⟩

theorem point_notMem_localize (other : culture.decimalSeparator ≠ '.') :
    '.' ∉ culture.localize text := by
  rw [localize, List.mem_map]
  rintro ⟨c, _, same⟩
  split at same
  · exact other same
  · simp_all

theorem trimmed_localize (solid : Text.isBlank culture.decimalSeparator = false)
    (text : List Char) :
    Text.trimmed (culture.localize text) = culture.localize (Text.trimmed text) := by
  apply Text.trimmed_map
  intro c
  split
  · rename_i point
    rw [solid, beq_iff_eq.mp point]
    decide
  · rfl

/-- The separators of a known culture are two characters, and the decimal one is no white space. -/
theorem separators_of_ofName? {spelled : String} (known : Culture.ofName? spelled = some culture) :
    Text.isBlank culture.decimalSeparator = false ∧
      culture.decimalSeparator ≠ culture.groupSeparator := by
  have listed : ∀ culture ∈ Culture.invariant :: Culture.known,
      Text.isBlank culture.decimalSeparator = false ∧
        culture.decimalSeparator ≠ culture.groupSeparator := by
    decide
  exact listed culture (mem_of_ofName? known)

end Culture

namespace NumericType

open Number

variable {type : NumericType} {culture : Culture}

/-- Numbers with decimals are read from the text without white space around it, with points for the
decimal separators. -/
theorem read?_of_floating (floating : type.isFloating = true) (culture? : Option Culture)
    (text : List Char) :
    type.read? culture? text =
      if Text.trimmed text = [] ∨
          (culture?.getD Culture.invariant).groupSeparator ∈ Text.trimmed text then none
      else type.form.readNormalized?
        ((culture?.getD Culture.invariant).normalize (Text.trimmed text)) := by
  simp [read?, floating]

/-- With the culture's separators for its points, a text is refused for these separators at most,
and else read as it is. -/
theorem read?_of_localized (floating : type.isFloating = true)
    (solid : Text.isBlank culture.decimalSeparator = false) (text : List Char) :
    type.read? (some culture) (culture.localize text) =
      if Text.trimmed text = [] ∨
          culture.groupSeparator ∈ culture.localize (Text.trimmed text) then none
      else type.form.readNormalized? (culture.normalize (Text.trimmed text)) := by
  simp only [read?_of_floating floating, Option.getD_some, Culture.trimmed_localize solid,
    Culture.localize_eq_nil, Culture.normalize_localize]

/-- Under a culture that tells its separators apart, a text with the culture's decimal separators
for its points is read as the text itself is read without a culture. The text may be any in which
none of the separators stands, but for points. -/
theorem read?_localize (floating : type.isFloating = true)
    (solid : Text.isBlank culture.decimalSeparator = false)
    (apart : culture.decimalSeparator ≠ culture.groupSeparator) (noComma : ',' ∉ text)
    (noDecimal : culture.decimalSeparator ≠ '.' → culture.decimalSeparator ∉ text)
    (noGroup : culture.groupSeparator ≠ '.' → culture.groupSeparator ∉ text) :
    type.read? (some culture) (culture.localize text) = type.read? none text := by
  have clear : culture.groupSeparator ∉ culture.localize (Text.trimmed text) := by
    by_cases point : culture.groupSeparator = '.'
    · rw [point] at apart ⊢
      exact Culture.point_notMem_localize apart
    · rw [Culture.mem_localize point apart]
      exact fun member => noGroup point (Text.mem_of_mem_trimmed member)
  have noComma : Culture.invariant.groupSeparator ∉ Text.trimmed text :=
    fun member => noComma (Text.mem_of_mem_trimmed member)
  have same : culture.normalize (Text.trimmed text) = Text.trimmed text :=
    Culture.normalize_eq_self fun other member => noDecimal other (Text.mem_of_mem_trimmed member)
  have plain : Culture.invariant.normalize (Text.trimmed text) = Text.trimmed text :=
    Culture.normalize_eq_self fun other => (other rfl).elim
  rw [read?_of_localized floating solid, read?_of_floating floating, same, Option.getD_none, plain]
  simp only [clear, noComma, or_false]

/-- A number with white space around it, under separators of two bytes. -/
theorem read?_localize_arabic :
    let arabic : Culture := ⟨"ar-EG", '٫', '٬'⟩
    let text := "\u00a0-1.5e1\n".toList
    f64.isFloating = true ∧ Text.isBlank arabic.decimalSeparator = false ∧
      arabic.decimalSeparator ≠ arabic.groupSeparator ∧ ',' ∉ text ∧
      (arabic.decimalSeparator ≠ '.' → arabic.decimalSeparator ∉ text) ∧
      (arabic.groupSeparator ≠ '.' → arabic.groupSeparator ∉ text) ∧
      f64.read? (some arabic) (arabic.localize text) = f64.read? none text ∧
      (f64.read? none text).isSome = true := by
  intro arabic text
  have solid : Text.isBlank arabic.decimalSeparator = false := by decide
  have apart : arabic.decimalSeparator ≠ arabic.groupSeparator := by decide
  have noComma : ',' ∉ text := by decide
  have noDecimal : arabic.decimalSeparator ≠ '.' → arabic.decimalSeparator ∉ text := by decide
  have noGroup : arabic.groupSeparator ≠ '.' → arabic.groupSeparator ∉ text := by decide
  exact ⟨rfl, solid, apart, noComma, noDecimal, noGroup,
    read?_localize rfl solid apart noComma noDecimal noGroup, by decide⟩

/-- Where points separate groups, no text with a point is read. -/
theorem read?_eq_none_of_point (floating : type.isFloating = true)
    (grouping : culture.groupSeparator = '.') (point : '.' ∈ text) :
    type.read? (some culture) text = none := by
  have kept : '.' ∈ Text.trimmed text := (Text.mem_trimmed (by decide)).mpr point
  rw [read?_of_floating floating, Option.getD_some, grouping]
  exact if_pos (.inr kept)

/-- Where points do not separate groups, they are read as decimal separators. -/
theorem read?_of_point (floating : type.isFloating = true)
    (solid : Text.isBlank culture.decimalSeparator = false)
    (apart : culture.decimalSeparator ≠ culture.groupSeparator)
    (other : culture.groupSeparator ≠ '.') (text : List Char) :
    type.read? (some culture) text = type.read? (some culture) (culture.localize text) := by
  rw [read?_of_localized floating solid, read?_of_floating floating]
  simp only [Option.getD_some, Culture.mem_localize other apart]

theorem reads_point (floating : type.isFloating = true)
    (known : Culture.ofName? name = some culture) (ungrouped : culture.groupSeparator ≠ '.') :
    (type.read? (some culture) "1.5".toList).isSome = true := by
  have listed : ∀ culture ∈ Culture.invariant :: Culture.known, culture.groupSeparator ≠ '.' →
      culture.groupSeparator ∉ "1.5".toList ∧ culture.normalize "1.5".toList = "1.5".toList := by
    decide
  obtain ⟨clear, same⟩ := listed culture (Culture.mem_of_ofName? known) ungrouped
  have solid : Text.trimmed "1.5".toList = "1.5".toList := by decide
  have refused : ¬("1.5".toList = [] ∨ culture.groupSeparator ∈ "1.5".toList) :=
    not_or.mpr ⟨by decide, clear⟩
  rw [read?_of_floating floating, Option.getD_some, solid, if_neg refused, same]
  match type, floating with
  | .f32, _ | .f64, _ | .decimal, _ => decide

/-- Under a known culture, whatever its decimal separator is, the texts with a point are all refused
exactly if points separate groups. Otherwise points are read as decimal separators. -/
theorem points_refused_iff (floating : type.isFloating = true)
    (known : Culture.ofName? name = some culture) :
    ((∀ text, '.' ∈ text → type.read? (some culture) text = none) ↔
      culture.groupSeparator = '.') ∧
    (culture.groupSeparator ≠ '.' → ∀ text,
      type.read? (some culture) text = type.read? (some culture) (culture.localize text)) := by
  obtain ⟨solid, apart⟩ := Culture.separators_of_ofName? known
  refine ⟨⟨?_, ?_⟩, fun ungrouped => read?_of_point floating solid apart ungrouped⟩
  · intro refused
    by_contra ungrouped
    have read := reads_point floating known ungrouped
    rw [refused _ (by decide)] at read
    cases read
  · exact fun grouping _ => read?_eq_none_of_point floating grouping

/-- In German texts points separate groups, so that every text with a point is refused. -/
theorem points_refused_iff_german :
    f64.isFloating = true ∧ Culture.ofName? "DE-de" = some Culture.german ∧
      ∀ text, '.' ∈ text → f64.read? (some Culture.german) text = none := by
  have known : Culture.ofName? "DE-de" = some Culture.german := by decide
  exact ⟨rfl, known, (points_refused_iff rfl known).1.mpr rfl⟩

/-- French numbers have decimal commas and thin spaces between groups; a number with a decimal point
is read all the same. -/
theorem french_reads_point :
    let french : Culture := ⟨"fr", ',', '\u202f'⟩
    Culture.ofName? "fr" = some french ∧ french.decimalSeparator ≠ '.' ∧ '.' ∈ "1.234".toList ∧
      (f32.read? (some french) "1.234".toList).isSome = true ∧
      (f64.read? (some french) "1.234".toList).isSome = true ∧
      (decimal.read? (some french) "1.234".toList).map (decimal.form.display {}) =
        some "1.234".toList := by
  decide

end NumericType

end ValueObjects
