import ValueObjects.Source
import ValueObjects.Ty.Canonical

namespace ValueObjects

namespace Naming

theorem cutSteps_append (clean : ':' ∉ step) (rest : List Char) :
    cutSteps (step ++ ':' :: ':' :: rest) = step :: cutSteps rest := by
  induction step with
  | nil => rfl
  | cons c step ih =>
    rw [List.mem_cons, not_or] at clean
    rw [List.cons_append, cutSteps, ih clean.2]
    intro more colon _
    exact clean.1 colon.symm

theorem cutSteps_of_clean (clean : ':' ∉ step) : cutSteps step = [step] := by
  induction step with
  | nil => rfl
  | cons c step ih =>
    rw [List.mem_cons, not_or] at clean
    rw [cutSteps, ih clean.2]
    intro more colon _
    exact clean.1 colon.symm

theorem joinSteps_cons (name next : String) (rest : List String) :
    joinSteps (name :: next :: rest) = name ++ "::" ++ joinSteps (next :: rest) := by
  rw [joinSteps, String.intercalate_cons_cons, joinSteps]

/-- The steps of a path are the names that it was joined of. -/
theorem steps_joinSteps (nonempty : names ≠ []) (clean : ∀ name ∈ names, ':' ∉ name.toList) :
    steps (joinSteps names) = names := by
  induction names with
  | nil => exact (nonempty rfl).elim
  | cons name rest ih =>
    have head := clean name List.mem_cons_self
    cases rest with
    | nil => simp [steps, joinSteps, cutSteps_of_clean head]
    | cons next more =>
      have tail := ih (by simp) fun name member => clean name (List.mem_cons_of_mem _ member)
      have spelled : (joinSteps (name :: next :: more)).toList =
          name.toList ++ ':' :: ':' :: (joinSteps (next :: more)).toList := by
        simp [joinSteps_cons]
      rw [steps, spelled, cutSteps_append head, List.map_cons, String.ofList_toList]
      exact congrArg (name :: ·) tail

theorem cutSteps_ne_nil (text : List Char) : cutSteps text ≠ [] := by
  unfold cutSteps
  split
  · simp
  · simp
  · split <;> simp

theorem joinSteps_spelled (rest : List String) :
    ∃ tail, ∀ name, (joinSteps (name :: rest)).toList = name.toList ++ tail := by
  cases rest with
  | nil => exact ⟨[], fun name => by simp [joinSteps]⟩
  | cons next more =>
    refine ⟨("::" ++ joinSteps (next :: more)).toList, ?_⟩
    intro name
    rw [joinSteps_cons, String.append_assoc, String.toList_append]

/-- A path is joined of its steps. -/
theorem joinSteps_steps (path : String) : joinSteps (steps path) = path := by
  have spelled (text : List Char) :
      (joinSteps ((cutSteps text).map String.ofList)).toList = text := by
    induction text using cutSteps.induct with
    | case1 => rfl
    | case2 rest ih =>
      rw [cutSteps]
      cases cut : cutSteps rest with
      | nil => exact (cutSteps_ne_nil rest cut).elim
      | cons step more =>
        rw [cut, List.map_cons] at ih
        rw [List.map_cons, List.map_cons, joinSteps_cons]
        simp [ih]
    | case3 c rest other cut ih => exact (cutSteps_ne_nil rest cut).elim
    | case4 c rest other step more cut ih =>
      obtain ⟨tail, joined⟩ := joinSteps_spelled (more.map String.ofList)
      rw [cut, List.map_cons, joined, String.toList_ofList] at ih
      rw [cutSteps, cut, List.map_cons, joined, String.toList_ofList, List.cons_append, ih]
      exact other
  exact String.toList_inj.mp (spelled path.toList)

theorem steps_ne_nil (path : String) : steps path ≠ [] := by
  simp [steps, cutSteps_ne_nil]

end Naming

namespace Discovery

open Naming

/-- The steps of the module at a path. -/
def baseOf (scope? : Option String) : List String :=
  (scope?.map steps).getD []

theorem pathOf_steps (path : String) : SourceModule.pathOf (steps path) = some path := by
  simp [SourceModule.pathOf, steps_ne_nil, joinSteps_steps]

theorem pathOf_below (path : String) (nonempty : rest ≠ []) :
    SourceModule.pathOf (steps path ++ rest) = some (path ++ "::" ++ Naming.joinSteps rest) := by
  have joined : Naming.joinSteps (steps path ++ rest) =
      Naming.joinSteps (steps path) ++ "::" ++ Naming.joinSteps rest :=
    String.intercalate_append_of_ne_nil (steps_ne_nil path) nonempty
  simp [SourceModule.pathOf, steps_ne_nil, joined, joinSteps_steps]

/-- No module below another one, by the same steps, is one below the root. -/
private theorem pathOf_below_ne (path : String) (rest : List String) :
    SourceModule.pathOf (steps path ++ rest) ≠ SourceModule.pathOf rest := by
  intro same
  by_cases nonempty : rest = []
  · subst nonempty
    rw [List.append_nil, pathOf_steps] at same
    cases same
  · rw [pathOf_below path nonempty] at same
    simp only [SourceModule.pathOf, List.isEmpty_iff, nonempty, ↓reduceIte, Option.some.injEq] at same
    have lengths := congrArg String.length same
    simp at lengths

/-- Modules below two modules, by the same steps, are the same only if the modules are. -/
theorem module_of_below
    (same : SourceModule.pathOf (baseOf scope? ++ rest) = SourceModule.pathOf (baseOf other? ++ rest)) :
    scope? = other? := by
  cases scope? with
  | none =>
    cases other? with
    | none => rfl
    | some other => exact (pathOf_below_ne other rest same.symm).elim
  | some path =>
    cases other? with
    | none => exact (pathOf_below_ne path rest same).elim
    | some other =>
      by_cases nonempty : rest = []
      · subst nonempty
        simpa [baseOf, pathOf_steps] using same
      · have texts : path ++ "::" ++ Naming.joinSteps rest = other ++ "::" ++ Naming.joinSteps rest := by
          simpa [baseOf, pathOf_below _ nonempty] using same
        simpa using texts

end Discovery

open Text Naming

/-- A path of names without arguments. -/
def plainPath (names : List String) : Ty :=
  .path false (names.map Segment.plain)

/-- Whether the names make up a path that is its own canonical form: none of them holds a blank or a
colon, and the path neither is well-known nor leads into a standard library. -/
structure Ordinary (names : List String) : Prop where
  nonempty : names ≠ []
  words : ∀ name ∈ names, ∀ c ∈ name.toList, isBlank c = false ∧ c ≠ ':'
  unknown : wellKnown? names = none
  foreign : ∀ name ∈ names.getLast?, (isStandard names && isPrelude name) = false

theorem canonicalAll_plain (names : List String) :
    Segment.canonicalAll (names.map Segment.plain) = names.map Segment.plain := by
  induction names with
  | nil => rfl
  | cons name rest ih =>
    rw [List.map_cons, Segment.canonicalAll, ih]
    rfl

theorem canonical_plainPath (ordinary : Ordinary names) :
    (plainPath names).canonical = plainPath names := by
  have named : (names.map Segment.plain).map Segment.name = names := by
    rw [List.map_map]
    exact List.map_id names
  obtain ⟨last, found⟩ := Option.ne_none_iff_exists'.mp (mt List.getLast?_eq_none_iff.mp ordinary.nonempty)
  have segment : (names.map Segment.plain).getLast? = some (Segment.plain last) := by
    rw [List.getLast?_map, found]
    rfl
  have plain := ordinary.foreign last found
  rw [plainPath, Ty.canonical, canonicalAll_plain]
  simp only [canonicalPath, segment, named, ordinary.unknown]
  simp [Segment.plain, Segment.name, plain]

theorem tokensOf_plain (names : List String) :
    Segment.tokensOf (names.map Segment.plain) = names.map fun name => [Token.ident name] := by
  induction names with
  | nil => rfl
  | cons name rest ih =>
    rw [List.map_cons, Segment.tokensOf, ih]
    rfl

/-- The tokens of a path of names. -/
def pathTokens (names : List String) : List Token :=
  joinSteps (names.map fun name => [Token.ident name])

theorem tokens_plainPath (names : List String) : (plainPath names).tokens = pathTokens names := by
  simp [plainPath, Ty.tokens, tokensOf_plain, pathTokens]

theorem pathTokens_cons (name next : String) (rest : List String) :
    pathTokens (name :: next :: rest) =
      [.ident name, .punct ':' .joint, .punct ':' .alone] ++ pathTokens (next :: rest) :=
  rfl

theorem pathTokens_ne_nil (name : String) (rest : List String) : pathTokens (name :: rest) ≠ [] := by
  cases rest <;> simp [pathTokens, joinSteps]

theorem spell_pathTokens (names : List String) :
    Token.spell.spellAll (pathTokens names) = (" :: ".intercalate names).toList := by
  induction names with
  | nil => rfl
  | cons name rest ih =>
    cases rest with
    | nil => simp [pathTokens, joinSteps, Token.spell.spellAll, Token.spell, Token.gap]
    | cons next more =>
      rw [pathTokens_cons, String.intercalate_cons_cons]
      simp only [List.cons_append, List.nil_append, Token.spell.spellAll, Token.spell, ih,
        String.toList_append]
      simp [Token.gap, Token.isJoint, pathTokens_ne_nil]

private theorem colon_apart : (some ':').any isWordChar = false := by
  decide

/-- Blanks around two colons are left out, whatever stood before. -/
theorem compact_separator (before : Option Char) (space : Bool) (rest : List Char) :
    compactAfter before space (" :: ".toList ++ rest) =
      ':' :: ':' :: compactAfter (some ':') true rest := by
  have blank : isBlank ' ' = true := by decide
  have colon : isBlank ':' = false := by decide
  have mark : isWordChar ':' = false := colon_apart
  have text : " :: ".toList ++ rest = ' ' :: ':' :: ':' :: ' ' :: rest := rfl
  rw [text]
  simp [compactAfter, blank, colon, mark]

/-- A word stands as it is if it goes on no word before it. -/
theorem compact_word (clean : ∀ c ∈ word, isBlank c = false)
    (apart : space = true → before.any isWordChar = false)
    (tail : ∀ before space, compactAfter before space rest = result) :
    compactAfter before space (word ++ rest) = word ++ result := by
  induction word generalizing before space with
  | nil => exact tail before space
  | cons c word ih =>
    have later : compactAfter (some c) false (word ++ rest) = word ++ result :=
      ih (fun d member => clean d (List.mem_cons_of_mem _ member)) (by simp)
    have free : (space && before.any isWordChar && isWordChar c) = false := by
      cases space with
      | false => rfl
      | true => rw [apart rfl, Bool.and_false, Bool.false_and]
    rw [List.cons_append, compactAfter, clean c List.mem_cons_self, free]
    simp [later]

theorem compact_path (clean : ∀ name ∈ names, ∀ c ∈ name.toList, isBlank c = false)
    (apart : space = true → before.any isWordChar = false) :
    compactAfter before space (" :: ".intercalate names).toList = (Naming.joinSteps names).toList := by
  induction names generalizing before space with
  | nil => rfl
  | cons name rest ih =>
    have word := clean name List.mem_cons_self
    cases rest with
    | nil =>
      have whole : compactAfter before space (name.toList ++ []) = name.toList ++ [] :=
        compact_word word apart fun _ _ => rfl
      simpa [Naming.joinSteps] using whole
    | cons next more =>
      have later (before : Option Char) (space : Bool) :
          compactAfter before space (" :: ".toList ++ (" :: ".intercalate (next :: more)).toList) =
            ':' :: ':' :: (Naming.joinSteps (next :: more)).toList := by
        rw [compact_separator, ih (fun other member => clean other (List.mem_cons_of_mem _ member))]
        exact fun _ => colon_apart
      have whole := compact_word word apart later
      simpa [String.intercalate_cons_cons, Naming.joinSteps_cons] using whole

/-- The canonical text of an ordinary path is the path. -/
theorem display_plainPath (ordinary : Ordinary names) :
    (plainPath names).display = Naming.joinSteps names := by
  rw [Ty.display, canonical_plainPath ordinary, tokens_plainPath, spell_pathTokens, compact,
    compact_path (fun name member c inner => (ordinary.words name member c inner).1) (by simp),
    String.ofList_toList]

end ValueObjects
