import Mathlib.Data.List.DropRight
import Mathlib.Data.String.Basic
import ValueObjects.Path

namespace ValueObjects

namespace Naming

theorem cutAt_ne_nil (test : Char → Bool) (text : List Char) : cutAt test text ≠ [] := by
  cases text with
  | nil => simp [cutAt]
  | cons c rest =>
    rw [cutAt]
    split
    · simp
    · split <;> simp

theorem cutAt_cons_of_clean (clean : test c = false) (cut : cutAt test rest = piece :: others) :
    cutAt test (c :: rest) = (c :: piece) :: others := by
  simp [cutAt, clean, cut]

theorem cutAt_append (cut : test c = true) (before rest : List Char) :
    cutAt test (before ++ c :: rest) = cutAt test before ++ cutAt test rest := by
  induction before with
  | nil => simp [cutAt, cut]
  | cons d before ih =>
    cases held : test d with
    | true => simp [cutAt, held, ih]
    | false =>
      obtain ⟨piece, others, split⟩ := List.exists_cons_of_ne_nil (cutAt_ne_nil test before)
      rw [split, List.cons_append] at ih
      rw [List.cons_append, cutAt_cons_of_clean held ih, cutAt_cons_of_clean held split,
        List.cons_append]

theorem cutAt_of_clean (clean : ∀ c ∈ text, test c = false) : cutAt test text = [text] := by
  induction text with
  | nil => rfl
  | cons c rest ih =>
    have later := ih fun d member => clean d (List.mem_cons_of_mem _ member)
    exact cutAt_cons_of_clean (clean c List.mem_cons_self) later

/-- A text that does not end with a cut ends with a piece that is not empty. -/
theorem cutAt_concat (clean : test c = false) (text : List Char) :
    ∃ before last, cutAt test (text ++ [c]) = before ++ [last ++ [c]] := by
  induction text with
  | nil => exact ⟨[], [], by simp [cutAt, clean]⟩
  | cons d rest ih =>
    obtain ⟨before, last, split⟩ := ih
    cases held : test d with
    | true => exact ⟨[] :: before, last, by simp [cutAt, held, split]⟩
    | false =>
      cases before with
      | nil => exact ⟨[], d :: last, cutAt_cons_of_clean held split⟩
      | cons piece before => exact ⟨(d :: piece) :: before, last, cutAt_cons_of_clean held split⟩

/-- What is put after a text without a cut lengthens its last piece. -/
theorem cutAt_append_clean (clean : ∀ c ∈ extra, test c = false)
    (split : cutAt test text = before ++ [last]) :
    cutAt test (text ++ extra) = before ++ [last ++ extra] := by
  induction text generalizing before last with
  | nil =>
    cases before with
    | nil =>
      cases split
      exact cutAt_of_clean clean
    | cons piece before => simp [cutAt] at split
  | cons c rest ih =>
    obtain ⟨first, others, cut⟩ := List.exists_cons_of_ne_nil (cutAt_ne_nil test rest)
    cases held : test c with
    | true =>
      simp only [cutAt, held, if_true] at split
      cases before with
      | nil =>
        have none := (List.cons.inj split).2
        rw [cut] at none
        cases none
      | cons piece before =>
        rw [List.cons_append, List.cons.injEq] at split
        simp [cutAt, held, ih split.2, ← split.1]
    | false =>
      rw [cutAt_cons_of_clean held cut] at split
      cases before with
      | nil =>
        cases split
        have alone : cutAt test rest = [] ++ [first] := cut
        exact cutAt_cons_of_clean held (ih alone)
      | cons piece before =>
        rw [List.cons_append, List.cons.injEq] at split
        rw [split.2, ← List.cons_append] at cut
        rw [← split.1]
        exact cutAt_cons_of_clean held (ih cut)

theorem clean_of_mem_cutAt (present : piece ∈ cutAt test text) (member : c ∈ piece) :
    test c = false := by
  induction text generalizing piece with
  | nil =>
    rw [cutAt, List.mem_singleton] at present
    rw [present] at member
    cases member
  | cons d rest ih =>
    obtain ⟨first, others, split⟩ := List.exists_cons_of_ne_nil (cutAt_ne_nil test rest)
    rw [split] at ih
    cases held : test d with
    | true =>
      simp only [cutAt, held, if_true, split, List.mem_cons] at present
      rcases present with rfl | inner
      · cases member
      · exact ih (List.mem_cons.mpr inner) member
    | false =>
      rw [cutAt_cons_of_clean held split, List.mem_cons] at present
      rcases present with rfl | inner
      · rcases List.mem_cons.mp member with rfl | later
        · exact held
        · exact ih List.mem_cons_self later
      · exact ih (List.mem_cons_of_mem _ inner) member

end Naming

namespace Path

open Naming

theorem pieces_ne_nil (path : Path) : path.pieces ≠ [] := by
  simp [pieces, cutAt_ne_nil]

theorem pieces_slash (before rest : Path) :
    pieces (before ++ "/" ++ rest) = before.pieces ++ rest.pieces := by
  have spelled : (before ++ "/" ++ rest).toList = before.toList ++ '/' :: rest.toList := by simp
  rw [pieces, spelled, cutAt_append rfl, List.map_append, pieces, pieces]

private theorem clean_of_plain {text : List Char} (plain : '/' ∉ text) :
    ∀ c ∈ text, (c == '/') = false := by
  intro c member
  exact beq_eq_false_iff_ne.mpr fun slash => plain (slash ▸ member)

theorem pieces_of_plain (plain : '/' ∉ name.toList) : pieces name = [name] := by
  rw [pieces, cutAt_of_clean (clean_of_plain plain), List.map_singleton, String.ofList_toList]

/-- What is put after a path without a slash lengthens its last piece. -/
theorem pieces_append_plain (plain : '/' ∉ String.toList extra)
    (split : pieces name = before ++ [last]) :
    pieces (name ++ extra) = before ++ [last ++ extra] := by
  obtain ⟨cuts, others, cut, rfl, single⟩ := List.map_eq_append_iff.mp split
  obtain ⟨piece, rfl, rfl⟩ := List.map_eq_singleton_iff.mp single
  rw [pieces, String.toList_append, cutAt_append_clean (clean_of_plain plain) cut, List.map_append,
    List.map_singleton, String.ofList_append, String.ofList_toList]

/-- A path of one piece is that piece. -/
theorem eq_of_pieces_singleton (single : pieces path = [piece]) : path = piece := by
  have plain : '/' ∉ path.toList := by
    intro slash
    obtain ⟨before, rest, split⟩ := List.append_of_mem slash
    have first := List.length_pos_iff.mpr (cutAt_ne_nil (· == '/') before)
    have second := List.length_pos_iff.mpr (cutAt_ne_nil (· == '/') rest)
    have one := congrArg List.length single
    have parts : cutAt (· == '/') (before ++ '/' :: rest) =
        cutAt (· == '/') before ++ cutAt (· == '/') rest :=
      @cutAt_append (· == '/') '/' rfl before rest
    rw [pieces, split, parts, List.length_map, List.length_append, List.length_singleton] at one
    omega
  exact List.singleton_inj.mp ((pieces_of_plain plain).symm.trans single)

/-- The first piece of a path begins as the path does. -/
theorem pieces_of_cons (spelled : String.toList path = c :: rest) (relative : c ≠ '/') :
    ∃ tail more, pieces path = String.ofList (c :: tail) :: more := by
  obtain ⟨first, others, split⟩ := List.exists_cons_of_ne_nil (cutAt_ne_nil (· == '/') rest)
  have clean : (c == '/') = false := beq_eq_false_iff_ne.mpr relative
  have whole : cutAt (· == '/') (c :: rest) = (c :: first) :: others :=
    cutAt_cons_of_clean clean split
  refine ⟨first, others.map String.ofList, ?_⟩
  rw [pieces, spelled, whole, List.map_cons]

theorem plain_of_mem_pieces (member : piece ∈ pieces path) : '/' ∉ piece.toList := by
  obtain ⟨cut, present, rfl⟩ := List.mem_map.mp member
  intro slash
  rw [String.toList_ofList] at slash
  simpa using clean_of_mem_cutAt present slash

/-- The pieces of a path that another one is put after: without the empty one that a slash at the
end leaves. -/
def leading (path : Path) : List String :=
  if path.pieces.getLast? = some "" then path.pieces.dropLast else path.pieces

theorem leading_of_concat (split : pieces path = before ++ [last]) :
    leading path = if last = "" then before else before ++ [last] := by
  simp [leading, split]

theorem prefix_leading (split : pieces path = before ++ [last]) : before <+: path.leading := by
  rw [leading_of_concat split]
  split
  · exact List.prefix_rfl
  · exact List.prefix_append _ _

/-- Putting a path after another puts its pieces after the leading ones. -/
theorem pieces_join (relative : isRooted path = false) :
    (join base path).pieces = base.leading ++ path.pieces := by
  rw [join, relative, Bool.false_or]
  rcases List.eq_nil_or_concat base.toList with empty | ⟨chars, c, ends⟩
  · rw [String.toList_eq_nil_iff.mp empty]
    rfl
  · have nonempty : base.isEmpty = false := by
      rw [String.isEmpty_eq_false_iff]
      rintro rfl
      simp at ends
    rw [List.concat_eq_append] at ends
    rw [if_neg (by simp [nonempty]), ends, List.getLast?_concat]
    by_cases slash : c = '/'
    · subst slash
      have spelled : base = String.ofList chars ++ "/" := by
        rw [← String.toList_inj, ends]
        simp
      have cut : base.pieces = pieces (String.ofList chars) ++ [""] := by
        rw [spelled, ← String.append_empty (s := String.ofList chars ++ "/"), pieces_slash]
        rfl
      rw [if_pos (by simp), leading_of_concat cut, if_pos rfl, spelled, pieces_slash]
    · have clean : (c == '/') = false := beq_eq_false_iff_ne.mpr slash
      obtain ⟨before, last, split⟩ :
          ∃ before last, cutAt (· == '/') (chars ++ [c]) = before ++ [last ++ [c]] :=
        @cutAt_concat (· == '/') c clean chars
      have cut : base.pieces = before.map String.ofList ++ [String.ofList (last ++ [c])] := by
        rw [pieces, ends, split, List.map_append, List.map_singleton]
      have solid : String.ofList (last ++ [c]) ≠ "" := by
        rw [ne_eq, ← String.toList_inj]
        simp
      rw [if_neg (by simp [slash]), pieces_slash, leading_of_concat cut, if_neg solid, cut]

theorem leading_join (relative : isRooted path = false) :
    (join base path).leading = base.leading ++ path.leading := by
  obtain ⟨before, last, split⟩ :=
    (List.eq_nil_or_concat path.pieces).resolve_left path.pieces_ne_nil
  rw [List.concat_eq_append] at split
  have joined : (join base path).pieces = base.leading ++ before ++ [last] := by
    rw [pieces_join relative, split, List.append_assoc]
  rw [leading_of_concat joined, leading_of_concat split]
  split <;> simp

theorem isRooted_join : (join base path).isRooted = (base.isRooted || path.isRooted) := by
  unfold join
  cases rooted : path.isRooted with
  | true => simp [rooted]
  | false =>
    cases start : base.toList with
    | nil =>
      rw [String.toList_eq_nil_iff.mp start]
      exact rooted
    | cons c rest =>
      have nonempty : base.isEmpty = false := by
        rw [String.isEmpty_eq_false_iff]
        rintro rfl
        simp at start
      simp only [nonempty, Bool.or_false, Bool.false_eq_true, if_false]
      split <;> simp [isRooted, start]

theorem isRooted_of_append (relative : isRooted (path ++ rest) = false) :
    isRooted path = false := by
  cases spelled : path.toList with
  | nil => simp [isRooted, spelled]
  | cons c more => simpa [isRooted, spelled] using relative

theorem isRooted_of_plain (plain : '/' ∉ name.toList) : isRooted name = false := by
  cases spelled : name.toList with
  | nil => simp [isRooted, spelled]
  | cons c rest =>
    have other : c ≠ '/' := by
      rintro rfl
      exact plain (by simp [spelled])
    simp [isRooted, spelled, other]

/-- A path that is joined of pieces is cut into them again. -/
theorem pieces_intercalate (nonempty : names ≠ []) (plain : ∀ name ∈ names, '/' ∉ name.toList) :
    pieces (String.intercalate "/" names) = names := by
  induction names with
  | nil => exact (nonempty rfl).elim
  | cons name rest ih =>
    have head := pieces_of_plain (plain name List.mem_cons_self)
    cases rest with
    | nil => simpa using head
    | cons next more =>
      have tail := ih (by simp) fun other member => plain other (List.mem_cons_of_mem _ member)
      rw [String.intercalate_cons_cons, pieces_slash, head, tail, List.singleton_append]

/-- The pieces without those at the end that lead nowhere. -/
def trimmed (names : List String) : List String :=
  names.rdropWhile isIdle

theorem trimmed_starts (names : List String) : trimmed names <+: names :=
  List.rdropWhile_prefix isIdle names

theorem trimmed_concat (moves : isIdle piece = false) (before : List String) :
    trimmed (before ++ [piece]) = before ++ [piece] :=
  List.rdropWhile_concat_neg _ _ _ (by simp [moves])

theorem trimmed_trimmed (names : List String) : trimmed (trimmed names) = trimmed names :=
  List.rdropWhile_idempotent isIdle names

/-- Pieces at the end that lead nowhere do not reach into a start that has none of them. -/
theorem prefix_trimmed (start : kept <+: names) (solid : trimmed kept = kept) :
    kept <+: trimmed names := by
  obtain ⟨rest, rfl⟩ := start
  induction rest using List.reverseRecOn with
  | nil => simp [solid]
  | append_singleton rest piece ih =>
    rw [← List.append_assoc]
    cases idle : isIdle piece with
    | true =>
      rw [trimmed, List.rdropWhile_concat_pos _ _ _ idle]
      exact ih
    | false =>
      rw [trimmed_concat idle, List.append_assoc]
      exact List.prefix_append _ _

theorem filter_trimmed (names : List String) :
    (trimmed names).filter (!isIdle ·) = names.filter (!isIdle ·) := by
  induction names using List.reverseRecOn with
  | nil => rfl
  | append_singleton before piece ih =>
    cases idle : isIdle piece with
    | true =>
      rw [trimmed, List.rdropWhile_concat_pos _ _ _ idle, ← trimmed, ih]
      simp [idle]
    | false => rw [trimmed_concat idle]

/-- The path without its last step is that of the pieces before, without those at its end that
lead nowhere. -/
theorem leading_parent (relative : isRooted path = false) (split : pieces path = before ++ [last])
    (moves : isIdle last = false) : path.parent.leading = trimmed before := by
  have kept : (dropIdle (dropIdle path.pieces.reverse).tail).reverse = trimmed before := by
    simp [dropIdle, split, moves, trimmed, List.rdropWhile]
  rw [parent, relative, kept]
  simp only [Bool.false_and, Bool.false_eq_true, if_false]
  rcases List.eq_nil_or_concat (trimmed before) with empty | ⟨front, piece, ends⟩
  · rw [empty]
    rfl
  · rw [List.concat_eq_append] at ends
    have plain : ∀ name ∈ trimmed before, '/' ∉ name.toList := by
      intro name member
      have inner : name ∈ path.pieces := by
        rw [split]
        exact List.mem_append_left _ ((trimmed_starts before).subset member)
      exact plain_of_mem_pieces inner
    have cut := pieces_intercalate (by simp [ends]) plain
    have solid : isIdle piece = false := by
      have settled := trimmed_trimmed before
      rw [ends] at settled
      cases idle : isIdle piece with
      | false => rfl
      | true =>
        rw [trimmed, List.rdropWhile_concat_pos _ _ _ idle] at settled
        have short := (List.rdropWhile_prefix isIdle front).length_le
        rw [settled, List.length_append, List.length_singleton] at short
        omega
    have nonempty : piece ≠ "" := by
      rintro rfl
      cases solid
    rw [leading_of_concat (cut.trans ends), if_neg nonempty, ends]

theorem steps_of_relative (relative : isRooted path = false) :
    path.steps = path.pieces.filter (!isIdle ·) := by
  simp [steps, relative]

theorem intercalate_cutAt (text : List Char) :
    ['/'].intercalate (cutAt (· == '/') text) = text := by
  induction text with
  | nil => rfl
  | cons c rest ih =>
    obtain ⟨first, others, split⟩ := List.exists_cons_of_ne_nil (cutAt_ne_nil (· == '/') rest)
    rw [split] at ih
    cases held : c == '/' with
    | true =>
      rw [cutAt, if_pos held, split, List.intercalate_cons_cons, ih, eq_of_beq held]
      rfl
    | false =>
      have cut : cutAt (· == '/') (c :: rest) = (c :: first) :: others :=
        cutAt_cons_of_clean held split
      rw [cut]
      cases others with
      | nil => simpa using ih
      | cons second more => simpa [List.intercalate_cons_cons] using ih

/-- A path is its pieces joined again. -/
theorem intercalate_pieces (path : Path) : String.intercalate "/" path.pieces = path := by
  rw [← String.toList_inj, String.toList_intercalate, pieces, List.map_map]
  simpa [Function.comp_def] using intercalate_cutAt path.toList

theorem filter_leading (path : Path) :
    path.leading.filter (!isIdle ·) = path.pieces.filter (!isIdle ·) := by
  unfold leading
  split
  · rename_i ends
    obtain ⟨before, split⟩ := List.getLast?_eq_some_iff.mp ends
    simp [split, isIdle]
  · rfl

/-- Putting a path after another puts its steps after the other's. -/
theorem steps_join (relative : isRooted path = false) :
    (join base path).steps = base.steps ++ path.steps := by
  rw [steps, steps, steps_of_relative relative, isRooted_join, relative, Bool.or_false,
    pieces_join relative, List.filter_append, filter_leading, List.append_assoc]

theorem steps_of_plain (plain : '/' ∉ name.toList) (moves : isIdle name = false) :
    steps name = [name] := by
  rw [steps_of_relative (isRooted_of_plain plain), pieces_of_plain plain]
  simp [moves]

/-- The name of a source file leads somewhere. -/
theorem moves_file (name : String) : isIdle (name ++ ".rs") = false := by
  have letters := String.toList_append (s := name) (t := ".rs")
  simp only [isIdle, Bool.or_eq_false_iff, beq_eq_false_iff_ne]
  constructor
  · intro same
    simp [same] at letters
  · intro same
    have count := congrArg List.length letters
    simp [same] at count

theorem steps_join_name (plain : '/' ∉ name.toList) (moves : isIdle name = false) :
    (join base name).steps = base.steps ++ [name] := by
  rw [steps_join (isRooted_of_plain plain), steps_of_plain plain moves]

/-- A directory is the one that its files lie in. -/
theorem parent_join (plain : '/' ∉ name.toList) (moves : isIdle name = false)
    (plainFile : '/' ∉ file.toList) (movesFile : isIdle file = false) :
    parent (join (join base name) file) = join base name := by
  have relative := isRooted_of_plain plain
  have folder : (join base name).pieces = base.leading ++ [name] := by
    rw [pieces_join relative, pieces_of_plain plain]
  have ends : (join base name).leading = base.leading ++ [name] := by
    rw [leading_of_concat folder, if_neg]
    rintro rfl
    cases moves
  have split : (join (join base name) file).pieces = base.leading ++ [name] ++ [file] := by
    rw [pieces_join (isRooted_of_plain plainFile), pieces_of_plain plainFile, ends]
  have kept : (dropIdle (dropIdle (join (join base name) file).pieces.reverse).tail).reverse =
      base.leading ++ [name] := by
    simp [dropIdle, split, moves, movesFile]
  rw [parent, kept, if_neg (by simp), ← folder, intercalate_pieces]

theorem length_pieces_le (path : Path) : path.pieces.length ≤ path.utf8ByteSize + 1 := by
  have bound (text : List Char) : (cutAt (· == '/') text).length ≤ text.length + 1 := by
    induction text with
    | nil => simp [cutAt]
    | cons c rest ih =>
      obtain ⟨first, others, split⟩ := List.exists_cons_of_ne_nil (cutAt_ne_nil (· == '/') rest)
      rw [split] at ih
      rw [cutAt, split]
      split <;> simp only [List.length_cons] at ih ⊢ <;> omega
  have short := bound path.toList
  have bytes : path.toList.length ≤ path.utf8ByteSize := by
    rw [← String.ofList_toList (s := path), String.utf8ByteSize_ofList, String.toList_ofList]
    induction path.toList with
    | nil => simp
    | cons c rest ih =>
      have wide := c.utf8Size_pos
      simp only [List.length_cons, String.utf8Len_cons]
      omega
  simp only [pieces, List.length_map]
  omega

end Path

end ValueObjects
