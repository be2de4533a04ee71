import ValueObjects.Naming

namespace ValueObjects.Text

/-- Whether `c` is no gap between tokens, begins no comment and is no order mark. -/
def isSolid (c : Char) : Bool :=
  !Lexer.isGap c && c != '/' && c != '\ufeff'

/-- Whether all characters of a text are solid. -/
def Solid (text : List Char) : Prop :=
  ∀ c ∈ text, isSolid c = true

/-- The code points between each two bounds. -/
def CharSet.codes : List Nat → List Nat
  | first :: past :: rest => List.range' first (past - first) ++ codes rest
  | _ => []

/-- The code points of the characters that are not solid. -/
def gapCodes : List Nat :=
  CharSet.codes whiteSpace.bounds ++ ['\u200e', '\u200f', '/', '\ufeff'].map Char.toNat

/-- Of a set that ends, every code point lies between two of its bounds. -/
theorem CharSet.mem_codes (inside : side code limits false = true) (even : limits.length % 2 = 0) :
    code ∈ codes limits := by
  induction limits using codes.induct with
  | case1 first past rest ih =>
    simp only [side, Bool.not_false, Bool.not_true] at inside
    split at inside
    · cases inside
    · rw [codes, List.mem_append, List.mem_range'_1]
      split at inside
      · exact .inl (by omega)
      · exact .inr (ih inside (by simpa [Nat.add_assoc] using even))
  | case2 limits single =>
    match limits, single with
    | [], _ => cases inside
    | [_], _ => cases even
    | _ :: _ :: _, single => exact (single _ _ _ rfl).elim

theorem mem_gapCodes_of_not_isSolid (gap : isSolid c = false) : c.toNat ∈ gapCodes := by
  rw [gapCodes, List.mem_append]
  cases blank : isBlank c with
  | true => exact .inl (CharSet.mem_codes blank (by decide))
  | false =>
    right
    apply List.mem_map_of_mem
    simpa [isSolid, Lexer.isGap, blank, Decidable.or_iff_not_imp_left] using gap

theorem solid_of_all (all : text.all isSolid = true) : Solid text :=
  List.all_eq_true.mp all

theorem Solid.append (first : Solid before) (second : Solid after) : Solid (before ++ after) := by
  intro c member
  rcases List.mem_append.mp member with early | late
  · exact first c early
  · exact second c late

/-- A set without the codes of gaps consists of solid characters. -/
theorem isSolid_of_contains {set : CharSet}
    (apart : ∀ code ∈ gapCodes, CharSet.side code set.bounds false = false)
    (member : set.contains c = true) : isSolid c = true := by
  cases solid : isSolid c with
  | true => rfl
  | false =>
    have outside := apart _ (mem_gapCodes_of_not_isSolid solid)
    cases outside.symm.trans member

/-- No code of a gap is one of a word's. -/
private theorem words_apart : ∀ code ∈ gapCodes,
    CharSet.side code xidContinue.bounds false = false ∧
    CharSet.side code xidStart.bounds false = false ∧
    (Char.ofNat code).isAlphanum = false := by
  decide +kernel

theorem isSolid_of_isIdentContinue (word : isIdentContinue c = true) : isSolid c = true :=
  isSolid_of_contains (fun code gap => (words_apart code gap).1) word

theorem isSolid_of_isIdentStart (word : isIdentStart c = true) : isSolid c = true := by
  rw [isIdentStart, Bool.or_eq_true, beq_iff_eq] at word
  rcases word with rfl | start
  · decide
  · exact isSolid_of_contains (fun code gap => (words_apart code gap).2.1) start

theorem isSolid_of_isAlphanum (word : c.isAlphanum = true) : isSolid c = true := by
  cases solid : isSolid c with
  | true => rfl
  | false =>
    have outside := (words_apart _ (mem_gapCodes_of_not_isSolid solid)).2.2
    rw [Char.ofNat_toNat] at outside
    cases outside.symm.trans word

theorem isSolid_ofNat (apart : code ∉ gapCodes) : isSolid (Char.ofNat code) = true := by
  cases solid : isSolid (Char.ofNat code) with
  | true => rfl
  | false =>
    have present := mem_gapCodes_of_not_isSolid solid
    by_cases valid : code.isValidChar
    · rw [Char.ofNat, dif_pos valid] at present
      exact (apart present).elim
    · rw [Char.ofNat, dif_neg valid] at present
      exact absurd present (by decide)

/-- A number that stands for a character other than the first one is its code point. -/
theorem eq_toNat_of_ofNat (same : Char.ofNat code = c) (other : c ≠ '\x00') : code = c.toNat := by
  by_cases valid : code.isValidChar
  · rw [← same, Char.ofNat, dif_pos valid]
    rfl
  · rw [Char.ofNat, dif_neg valid] at same
    exact (other same.symm).elim

/-- What a change of case can make of a character: its expansion, its image under a run, or the
character itself. -/
theorem mapCase_cases (runs : List CaseRun) (expansions : List (Nat × List Nat)) (c : Char) :
    (∃ codes, (c.toNat, codes) ∈ expansions ∧
      mapCase runs expansions c = codes.map Char.ofNat) ∨
    (∃ run ∈ runs, ∃ code, run.image? c.toNat = some code ∧
      mapCase runs expansions c = [Char.ofNat code]) ∨
    mapCase runs expansions c = [c] := by
  rw [mapCase]
  cases expansion : expansions.lookup c.toNat with
  | some codes =>
    obtain ⟨before, after, split, _⟩ := List.lookup_eq_some_iff.mp expansion
    exact .inl ⟨codes, by simp [split], rfl⟩
  | none =>
    cases covered : runs.findSome? (·.image? c.toNat) with
    | none => exact .inr (.inr rfl)
    | some code =>
      obtain ⟨run, present, found⟩ := List.exists_of_findSome?_eq_some covered
      exact .inr (.inl ⟨run, present, code, found, rfl⟩)

theorem CaseRun.image?_eq_some {run : CaseRun} (covered : run.image? code = some image) :
    run.first ≤ code ∧ code ≤ run.last ∧ (code - run.first) % run.step = 0 ∧
      image = run.target + (code - run.first) := by
  rw [CaseRun.image?] at covered
  split at covered
  · rename_i within
    cases covered
    exact ⟨within.1, within.2.1, within.2.2, rfl⟩
  · cases covered

/-- What a change of case makes of solid characters is solid: of ASCII, of the characters with more
than one character in the other case, and of the runs. No number sign is made either. -/
private theorem cases_apart :
    (∀ code < 128, isSolid (Char.ofNat code) = true →
      isSolid (Char.ofNat code).toUpper = true ∧ isSolid (Char.ofNat code).toLower = true) ∧
    (∀ code < 128, (Char.ofNat code).toLower = '#' → Char.ofNat code = '#') ∧
    (∀ entry ∈ upperExpansions ++ lowerExpansions, ∀ code ∈ entry.2,
      code ∉ gapCodes ∧ Char.ofNat code ≠ '#') ∧
    ∀ run ∈ upperRuns ++ lowerRuns, ∀ code ∈ '#'.toNat :: gapCodes,
      code < run.target ∨ run.target + (run.last - run.first) < code := by
  decide +kernel

/-- A table of a case makes no gap and no number sign if none of its parts does. -/
theorem isSolid_of_mem_mapCase {runs : List CaseRun} {expansions : List (Nat × List Nat)}
    (part : ∀ run ∈ runs, run ∈ upperRuns ++ lowerRuns)
    (expanded : ∀ entry ∈ expansions, entry ∈ upperExpansions ++ lowerExpansions)
    (member : d ∈ mapCase runs expansions c) :
    d = c ∨ isSolid d = true ∧ d ≠ '#' := by
  rcases mapCase_cases runs expansions c with ⟨codes, expansion, same⟩ |
    ⟨run, present, code, covered, same⟩ | same
  · rw [same] at member
    obtain ⟨code, own, rfl⟩ := List.mem_map.mp member
    obtain ⟨apart, other⟩ := cases_apart.2.2.1 _ (expanded _ expansion) code own
    exact .inr ⟨isSolid_ofNat apart, other⟩
  · obtain ⟨low, high, -, rfl⟩ := CaseRun.image?_eq_some covered
    have beside := cases_apart.2.2.2 run (part run present)
    rw [same, List.mem_singleton] at member
    refine .inr ⟨member ▸ isSolid_ofNat ?_, ?_⟩
    · intro gap
      have apart := beside _ (List.mem_cons_of_mem _ gap)
      omega
    · intro hash
      have code := eq_toNat_of_ofNat (member.symm.trans hash) (by decide)
      have apart := beside _ List.mem_cons_self
      omega
  · rw [same, List.mem_singleton] at member
    exact .inl member

theorem isSolid_of_mem_upper (solid : isSolid c = true) (member : d ∈ upper c) :
    isSolid d = true := by
  rw [upper] at member
  split at member
  · rename_i ascii
    have kept := cases_apart.1 c.toNat ascii
    rw [Char.ofNat_toNat] at kept
    rw [List.mem_singleton] at member
    exact member ▸ (kept solid).1
  · rcases isSolid_of_mem_mapCase (fun _ => List.mem_append_left _)
      (fun _ => List.mem_append_left _) member with rfl | ⟨kept, -⟩
    · exact solid
    · exact kept

theorem isSolid_of_mem_lower (solid : isSolid c = true) (member : d ∈ lower c) :
    isSolid d = true := by
  rw [lower] at member
  split at member
  · rename_i ascii
    have kept := cases_apart.1 c.toNat ascii
    rw [Char.ofNat_toNat] at kept
    rw [List.mem_singleton] at member
    exact member ▸ (kept solid).2
  · rcases isSolid_of_mem_mapCase (fun _ => List.mem_append_right _)
      (fun _ => List.mem_append_right _) member with rfl | ⟨kept, -⟩
    · exact solid
    · exact kept

/-- No other character has the number sign in lower case. -/
theorem eq_of_hash_mem_lower (member : '#' ∈ lower c) : c = '#' := by
  rw [lower] at member
  split at member
  · rename_i ascii
    have kept := cases_apart.2.1 c.toNat ascii
    rw [Char.ofNat_toNat] at kept
    rw [List.mem_singleton] at member
    exact kept member.symm
  · rcases isSolid_of_mem_mapCase (fun _ => List.mem_append_right _)
      (fun _ => List.mem_append_right _) member with same | ⟨-, other⟩
    · exact same.symm
    · exact (other rfl).elim

end ValueObjects.Text
