import ValueObjects.Proofs.Characters

namespace ValueObjects.Text

namespace CharSet

/-- On which side the code points from `first` to `last` are, if all are on one. -/
def sideOf? (first last : Nat) : List Nat → Bool → Option Bool
  | [], inside => some inside
  | bound :: rest, inside =>
    bif bound.ble first then sideOf? first last rest (!inside)
    else bif last.blt bound then some inside
    else none

/-- The bounds without the spans at their head that end at or below `code`. -/
def spansFrom (code : Nat) : List Nat → List Nat
  | first :: past :: rest =>
    bif first.ble code && past.ble code then spansFrom code rest else first :: past :: rest
  | limits => limits

/-- Whether each span of the first bounds lies in one of the others. -/
def spansWithin : List Nat → List Nat → Bool
  | first :: past :: rest, limits =>
    match spansFrom first limits with
    | low :: high :: later =>
      low.ble first && past.ble high && spansWithin rest (low :: high :: later)
    | _ => false
  | [], _ => true
  | [_], _ => false

theorem side_of_sideOf? (found : sideOf? first last limits inside = some answer)
    (low : first ≤ code) (high : code ≤ last) : side code limits inside = answer := by
  induction limits generalizing inside with
  | nil =>
    cases found
    rfl
  | cons bound rest ih =>
    rw [sideOf?] at found
    rw [side]
    cases below : bound.ble first with
    | true =>
      rw [below] at found
      have passed := Nat.le_of_ble_eq_true below
      rw [if_neg (by omega)]
      exact ih found
    | false =>
      cases above : last.blt bound with
      | true =>
        rw [below, above] at found
        cases found
        have ahead := Nat.le_of_ble_eq_true above
        rw [if_pos (by omega)]
      | false =>
        rw [below, above] at found
        cases found

/-- The first span, or else the other ones, contain what bounds contain. -/
theorem side_span (first past : Nat) (rest : List Nat) :
    side code (first :: past :: rest) false = true ↔
      first ≤ code ∧ (code < past ∨ side code rest false = true) := by
  rw [side, side]
  by_cases below : code < first
  · simp [below, Nat.not_le_of_lt below]
  · by_cases within : code < past
    · simp [below, within, Nat.le_of_not_lt below]
    · simp [below, within, Nat.le_of_not_lt below]

/-- The spans that end at or below a code point do not count for it. -/
theorem side_spansFrom (low : first ≤ code) :
    side code (spansFrom first limits) false = side code limits false := by
  fun_induction spansFrom first limits with
  | case1 start past rest skipped ih =>
    simp only [Bool.and_eq_true, Nat.ble_eq] at skipped
    rw [ih, side, side, if_neg (by omega), if_neg (by omega)]
    rfl
  | case2 => rfl
  | case3 => rfl

theorem side_of_spansWithin (within : spansWithin limits others = true)
    (inside : side code limits false = true) : side code others false = true := by
  fun_induction spansWithin limits others with
  | case1 first past rest others low high later found ih =>
    simp only [Bool.and_eq_true, Nat.ble_eq] at within
    obtain ⟨begins, span⟩ := (side_span first past rest).mp inside
    rw [← side_spansFrom begins, found]
    rcases span with own | other
    · exact (side_span low high later).mpr ⟨by omega, .inl (by omega)⟩
    · exact ih within.2 other
  | case2 => cases within
  | case3 => cases inside
  | case4 => cases within

end CharSet

/-- Whether a run maps to code points of characters only. -/
def CaseRun.Lands (run : CaseRun) : Prop :=
  run.target + (run.last - run.first) < 0xd800 ∨
    0xdfff < run.target ∧ run.target + (run.last - run.first) < 0x110000

/-- Whether a run maps the code points of one set into another: it maps to nothing else, or it
covers none of the set, or else each of its images is in the other. -/
def CaseRun.Carries (run : CaseRun) (source target : CharSet) : Prop :=
  CharSet.sideOf? run.target (run.target + (run.last - run.first)) target.bounds false = some true ∨
  CharSet.sideOf? run.first run.last source.bounds false = some false ∨
  ∀ n < run.last - run.first + 1, n % run.step = 0 →
    CharSet.side (run.target + n) target.bounds false = true

instance (run : CaseRun) : Decidable run.Lands :=
  inferInstanceAs (Decidable (_ ∨ _ ∧ _))

instance (run : CaseRun) (source target : CharSet) : Decidable (run.Carries source target) :=
  inferInstanceAs (Decidable (_ ∨ _ ∨ _))

variable {run : CaseRun} {source target : CharSet} {runs : List CaseRun}
  {expansions : List (Nat × List Nat)} {c d : Char} {code mapped : Nat}

theorem CaseRun.Lands.isValidChar (lands : run.Lands) (covered : run.image? code = some mapped) :
    mapped.isValidChar := by
  obtain ⟨low, high, -, rfl⟩ := CaseRun.image?_eq_some covered
  rcases lands with below | above
  · exact .inl (by omega)
  · exact .inr (by omega)

theorem CaseRun.Carries.inside (carries : run.Carries source target)
    (covered : run.image? code = some mapped)
    (inside : CharSet.side code source.bounds false = true) :
    CharSet.side mapped target.bounds false = true := by
  obtain ⟨low, high, even, rfl⟩ := CaseRun.image?_eq_some covered
  rcases carries with whole | apart | each
  · exact CharSet.side_of_sideOf? whole (by omega) (by omega)
  · cases inside.symm.trans (CharSet.side_of_sideOf? apart low high)
  · exact each _ (by omega) even

theorem contains_ofNat (valid : code.isValidChar)
    (inside : CharSet.side code target.bounds false = true) :
    target.contains (Char.ofNat code) = true := by
  rw [Char.ofNat, dif_pos valid]
  exact inside

/-- Under runs that carry one set into another a character of the first stays the same or gets
into the second, unless it is expanded. -/
theorem contains_of_mapCase (expansions : List (Nat × List Nat))
    (kept : ∀ run ∈ runs, run.Lands ∧ run.Carries source target)
    (inside : source.contains c = true) :
    (∀ d ∈ mapCase runs expansions c, d = c ∨ target.contains d = true) ∨
    ∃ codes, (c.toNat, codes) ∈ expansions ∧
      mapCase runs expansions c = codes.map Char.ofNat := by
  rcases mapCase_cases runs expansions c with expanded | ⟨run, member, code, covered, same⟩ | same
  · exact .inr expanded
  · obtain ⟨lands, carries⟩ := kept run member
    left
    intro d own
    rw [same, List.mem_singleton] at own
    exact .inr (own ▸ contains_ofNat (lands.isValidChar covered) (carries.inside covered inside))
  · left
    intro d own
    rw [same, List.mem_singleton] at own
    exact .inl own

/-- The characters that begin words are among those of words, and the table of upper case keeps
both. -/
private theorem words_kept :
    CharSet.spansWithin xidStart.bounds xidContinue.bounds = true ∧
    (∀ code < 128,
      (isIdentContinue (Char.ofNat code) = true →
        isIdentContinue (Char.ofNat code).toUpper = true) ∧
      (isIdentStart (Char.ofNat code) = true → isIdentStart (Char.ofNat code).toUpper = true)) ∧
    (∀ entry ∈ upperExpansions, ∀ code ∈ entry.2,
      code < 0xd800 ∧ CharSet.sideOf? code code xidContinue.bounds false = some true) ∧
    (∀ entry ∈ upperExpansions, ∀ code ∈ entry.2.head?,
      CharSet.sideOf? code code xidStart.bounds false = some true) ∧
    (∀ run ∈ upperRuns, run.Lands ∧ run.Carries xidContinue xidStart) := by
  decide +kernel

theorem isIdentContinue_of_isIdentStart (start : isIdentStart c = true) :
    isIdentContinue c = true := by
  rw [isIdentStart, Bool.or_eq_true, beq_iff_eq] at start
  rcases start with rfl | letter
  · decide
  · exact CharSet.side_of_spansWithin words_kept.1 letter

theorem isIdentContinue_of_mem_upper (word : isIdentContinue c = true) (member : d ∈ upper c) :
    isIdentContinue d = true := by
  rw [upper] at member
  split at member
  · rename_i ascii
    have kept := (words_kept.2.1 c.toNat ascii).1
    rw [Char.ofNat_toNat] at kept
    rw [List.mem_singleton] at member
    exact member ▸ kept word
  · rcases contains_of_mapCase upperExpansions words_kept.2.2.2.2 word with
      whole | ⟨codes, present, same⟩
    · rcases whole d member with rfl | letter
      · exact word
      · exact CharSet.side_of_spansWithin words_kept.1 letter
    · rw [same] at member
      obtain ⟨code, own, rfl⟩ := List.mem_map.mp member
      obtain ⟨low, inside⟩ := words_kept.2.2.1 _ present code own
      have letter := CharSet.side_of_sideOf? inside (Nat.le_refl code) (Nat.le_refl code)
      exact contains_ofNat (.inl low) letter

/-- The first character in upper case begins a word if the character does. -/
theorem isIdentStart_of_head_upper (start : isIdentStart c = true) (head : d ∈ (upper c).head?) :
    isIdentStart d = true := by
  rw [upper] at head
  split at head
  · rename_i ascii
    have kept := (words_kept.2.1 c.toNat ascii).2
    rw [Char.ofNat_toNat] at kept
    cases head
    exact kept start
  · have word := isIdentContinue_of_isIdentStart start
    rcases contains_of_mapCase upperExpansions words_kept.2.2.2.2 word with
      whole | ⟨codes, present, same⟩
    · rcases whole d (List.mem_of_mem_head? head) with rfl | letter
      · exact start
      · exact Bool.or_eq_true_iff.mpr (.inr letter)
    · rw [same, List.head?_map] at head
      obtain ⟨code, first, rfl⟩ := Option.map_eq_some_iff.mp head
      have low := (words_kept.2.2.1 _ present code (List.mem_of_mem_head? first)).1
      have inside := words_kept.2.2.2.1 _ present code first
      have letter := CharSet.side_of_sideOf? inside (Nat.le_refl code) (Nat.le_refl code)
      exact Bool.or_eq_true_iff.mpr (.inr (contains_ofNat (.inl low) letter))

end ValueObjects.Text
