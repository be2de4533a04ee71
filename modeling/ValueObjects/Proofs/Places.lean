import ValueObjects.Disk
import ValueObjects.Proofs.Paths
import ValueObjects.Proofs.Results

namespace ValueObjects.Disk

/-- Whether a piece of a path leads to an entry of a directory. -/
def IsName (piece : String) : Prop :=
  Path.isIdle piece = false ∧ piece ≠ ".." ∧ piece.utf8ByteSize ≤ longestName

theorem step_of_idle (idle : Path.isIdle piece = true) (place : Place) :
    step place piece = .ok place := by
  simp [step, idle]

theorem step_of_name (named : IsName piece) (place : Place) :
    step place piece = .ok (place ++ [piece]) := by
  simp [step, named.1, named.2.1, named.2.2]

/-- A piece leads to the same place, up to the place above or down to an entry. -/
theorem step_cases (moved : step place piece = .ok next) :
    (Path.isIdle piece = true ∧ next = place) ∨
      (piece = ".." ∧ next = place.dropLast) ∨
      (IsName piece ∧ next = place ++ [piece]) := by
  unfold step at moved
  split at moved
  · exact .inl ⟨‹_›, by simpa using moved.symm⟩
  · rename_i idle
    split at moved
    · rename_i up
      split at moved
      · cases moved
      · exact .inr (.inl ⟨by simpa using up, by simpa using moved.symm⟩)
    · rename_i other
      split at moved
      · rename_i short
        refine .inr (.inr ⟨⟨by simpa using idle, by simpa using other, short⟩, ?_⟩)
        simpa using moved.symm
      · cases moved

/-- The directory that pieces lead to through directories. -/
def enter (disk : Disk) : Place → List String → Except Problem Place
  | place, [] => .ok place
  | place, piece :: rest => do
    let next ← step place piece
    match disk.at? next with
    | some .directory => disk.enter next rest
    | some (.file _) => .error .unusable
    | none => .error .absent

theorem enter_cons_eq_ok :
    enter disk place (piece :: rest) = .ok final ↔
      ∃ next, step place piece = .ok next ∧ disk.at? next = some .directory ∧
        enter disk next rest = .ok final := by
  rw [enter, bind_eq_ok]
  constructor
  · rintro ⟨next, moved, later⟩
    refine ⟨next, moved, ?_⟩
    split at later
    · exact ⟨‹_›, later⟩
    · cases later
    · cases later
  · rintro ⟨next, moved, here, later⟩
    exact ⟨next, moved, by simp [here, later]⟩

theorem enter_append (disk : Disk) (place : Place) (before after : List String) :
    disk.enter place (before ++ after) = disk.enter place before >>= (disk.enter · after) := by
  induction before generalizing place with
  | nil => rfl
  | cons piece before ih =>
    rw [List.cons_append, enter, enter]
    cases step place piece with
    | error problem => rfl
    | ok next =>
      simp only [ok_bind]
      match disk.at? next with
      | some .directory => exact ih next
      | some (.file _) => rfl
      | none => rfl

/-- The places that pieces lead through. -/
def passed : Place → List String → List Place
  | _, [] => []
  | place, piece :: rest =>
    match step place piece with
    | .ok next => next :: passed next rest
    | .error _ => []

/-- Where pieces lead depends on the places on the way only. -/
theorem enter_congr {before after : Disk}
    (same : ∀ next ∈ passed place pieces, after.at? next = before.at? next) :
    after.enter place pieces = before.enter place pieces := by
  induction pieces generalizing place with
  | nil => rfl
  | cons piece rest ih =>
    rw [enter, enter]
    cases moved : step place piece with
    | error problem => rfl
    | ok next =>
      simp only [passed, moved] at same
      have later := ih fun further member => same further (List.mem_cons_of_mem _ member)
      simp only [ok_bind, same next List.mem_cons_self, later]

theorem at?_of_passed (entered : enter disk place pieces = .ok final)
    (onWay : next ∈ passed place pieces) : disk.at? next = some .directory := by
  induction pieces generalizing place with
  | nil => cases onWay
  | cons piece rest ih =>
    obtain ⟨first, moved, here, later⟩ := enter_cons_eq_ok.mp entered
    simp only [passed, moved, List.mem_cons] at onWay
    rcases onWay with rfl | further
    · exact here
    · exact ih later further

/-- All pieces but the last lead through directories. -/
theorem walk_concat (disk : Disk) (place : Place) (before : List String) (piece : String) :
    disk.walk place (before ++ [piece]) = disk.enter place before >>= (step · piece) := by
  induction before generalizing place with
  | nil => rfl
  | cons first before ih =>
    obtain ⟨second, more, split⟩ := List.exists_cons_of_ne_nil
      (List.append_ne_nil_of_right_ne_nil before (List.cons_ne_nil piece []))
    rw [List.cons_append, split, walk, ← split, enter]
    · cases step place first with
      | error problem => rfl
      | ok next =>
        simp only [ok_bind]
        match disk.at? next with
        | some .directory => exact ih next
        | some (.file _) => rfl
        | none => rfl
    · exact List.cons_ne_nil _ _

variable {disk : Disk} {path : Path}

theorem locate_of_concat (short : path.utf8ByteSize ≤ longestPath)
    (relative : path.isRooted = false) (split : path.pieces = before ++ [piece]) :
    disk.locate path = disk.enter [] before >>= (step · piece) := by
  rw [locate, if_neg (by omega), relative, split, walk_concat]
  rfl

theorem pieces_concat (path : Path) : ∃ before piece, path.pieces = before ++ [piece] := by
  obtain ⟨before, piece, split⟩ :=
    (List.eq_nil_or_concat path.pieces).resolve_left path.pieces_ne_nil
  exact ⟨before, piece, split.trans List.concat_eq_append⟩

theorem locate_eq_ok (split : path.pieces = before ++ [piece]) :
    disk.locate path = .ok place ↔
      path.utf8ByteSize ≤ longestPath ∧ path.isRooted = false ∧
        ∃ home, disk.enter [] before = .ok home ∧ step home piece = .ok place := by
  constructor
  · intro found
    have short : path.utf8ByteSize ≤ longestPath := by
      by_contra long
      rw [locate, if_pos (by omega)] at found
      cases found
    have relative : path.isRooted = false := by
      by_contra rooted
      rw [locate, if_neg (by omega), if_pos (by simpa using rooted)] at found
      cases found
    rw [locate_of_concat short relative split, bind_eq_ok] at found
    exact ⟨short, relative, found⟩
  · rintro ⟨short, relative, found⟩
    rw [locate_of_concat short relative split, bind_eq_ok]
    exact found

/-- Every place above is a directory. -/
def IsSettled (disk : Disk) (place : Place) : Prop :=
  ∀ above, above <+: place → disk.at? above = some .directory

theorem isSettled_nil (disk : Disk) : disk.IsSettled [] := by
  intro above start
  rw [List.prefix_nil.mp start]
  rfl

theorem IsSettled.here (settled : disk.IsSettled place) : disk.at? place = some .directory :=
  settled place (List.prefix_refl place)

theorem IsSettled.step (settled : disk.IsSettled place) (moved : Disk.step place piece = .ok next)
    (here : disk.at? next = some .directory) : disk.IsSettled next := by
  intro above start
  rcases step_cases moved with ⟨_, rfl⟩ | ⟨_, rfl⟩ | ⟨_, rfl⟩
  · exact settled above start
  · exact settled above (start.trans (List.dropLast_prefix _))
  · rcases List.prefix_concat_iff.mp start with whole | inner
    · rw [whole]
      exact here
    · exact settled above inner

theorem IsSettled.enter (settled : disk.IsSettled place)
    (entered : disk.enter place steps = .ok final) : disk.IsSettled final := by
  induction steps generalizing place with
  | nil =>
    cases entered
    exact settled
  | cons piece rest ih =>
    obtain ⟨next, moved, here, later⟩ := enter_cons_eq_ok.mp entered
    exact ih (settled.step moved here) later

/-- Pieces that lead nowhere can be left out. -/
theorem enter_filter (here : disk.at? place = some .directory) (names : List String) :
    disk.enter place (names.filter (!Path.isIdle ·)) = disk.enter place names := by
  induction names generalizing place with
  | nil => rfl
  | cons piece rest ih =>
    cases idle : Path.isIdle piece with
    | true =>
      rw [List.filter_cons_of_neg (by simp [idle]), ih here, Disk.enter, step_of_idle idle]
      simp only [ok_bind, here]
    | false =>
      rw [List.filter_cons_of_pos (by simp [idle]), Disk.enter, Disk.enter]
      cases Disk.step place piece with
      | error problem => rfl
      | ok next =>
        simp only [ok_bind]
        match there : disk.at? next with
        | some .directory => exact ih there
        | some (.file _) => rfl
        | none => rfl

/-- Whether every entry lies in a directory. -/
def IsSound (disk : Disk) : Prop :=
  ∀ entry ∈ disk.nodes, disk.at? entry.1.dropLast = some .directory

theorem mem_nodes_of_at? (present : disk.at? place ≠ none) (below : place ≠ []) :
    ∃ node, (place, node) ∈ disk.nodes := by
  have found : disk.nodes.lookup place ≠ none := by
    simpa [at?, below] using present
  rw [ne_eq, List.lookup_eq_none_iff, not_forall] at found
  obtain ⟨⟨key, node⟩, found⟩ := found
  rw [Classical.not_imp] at found
  obtain ⟨member, own⟩ := found
  have same : place = key := by simpa using own
  exact ⟨node, same ▸ member⟩

theorem IsSound.above (sound : disk.IsSound) (present : disk.at? place ≠ none) :
    disk.at? place.dropLast = some .directory := by
  by_cases root : place = []
  · rw [root]
    rfl
  · obtain ⟨node, member⟩ := mem_nodes_of_at? present root
    exact sound _ member

/-- Nothing lies below a place that is no directory. -/
theorem IsSound.below (sound : disk.IsSound) (other : disk.at? place ≠ some .directory)
    (rest : Place) (nonempty : rest ≠ []) : disk.at? (place ++ rest) = none := by
  induction rest using List.reverseRecOn with
  | nil => exact (nonempty rfl).elim
  | append_singleton rest name ih =>
    by_contra present
    have above := sound.above present
    rw [← List.append_assoc, List.dropLast_concat] at above
    by_cases last : rest = []
    · rw [last, List.append_nil] at above
      exact other above
    · cases (ih last).symm.trans above

theorem find?_eq_some : disk.find? path = some node ↔
    ∃ place, disk.locate path = .ok place ∧ disk.at? place = some node := by
  unfold find?
  cases disk.locate path with
  | error problem => simp
  | ok place => simp

/-- The path names an entry of a directory that the pieces before its name lead to. -/
structure IsEntry (disk : Disk) (path : Path) (before : List String) (home : Place)
    (name : String) : Prop where
  split : path.pieces = before ++ [name]
  short : path.utf8ByteSize ≤ longestPath
  relative : path.isRooted = false
  named : IsName name
  entered : disk.enter [] before = .ok home

theorem IsEntry.locate (entry : disk.IsEntry path before home name) :
    disk.locate path = .ok (home ++ [name]) :=
  (locate_eq_ok entry.split).mpr
    ⟨entry.short, entry.relative, home, entry.entered, step_of_name entry.named home⟩

theorem IsEntry.find? (entry : disk.IsEntry path before home name) :
    disk.find? path = disk.at? (home ++ [name]) := by
  simp [Disk.find?, entry.locate]

theorem IsEntry.steps (entry : disk.IsEntry path before home name) :
    path.steps = before.filter (!Path.isIdle ·) ++ [name] := by
  rw [Path.steps_of_relative entry.relative, entry.split, List.filter_append,
    List.filter_singleton, entry.named.1]
  rfl

theorem IsEntry.fileName (entry : disk.IsEntry path before home name) :
    path.fileName? = some name := by
  rw [Path.fileName?, entry.steps, List.getLast?_concat]

theorem IsEntry.leading_parent (entry : disk.IsEntry path before home name) :
    path.parent.leading = Path.trimmed before :=
  Path.leading_parent entry.relative entry.split entry.named.1

/-- A file is an entry of a directory. -/
theorem isEntry_of_file (found : disk.find? path = some (.file bytes)) :
    ∃ before home name, disk.IsEntry path before home name := by
  obtain ⟨place, located, here⟩ := find?_eq_some.mp found
  obtain ⟨before, name, split⟩ := pieces_concat path
  obtain ⟨short, relative, home, entered, moved⟩ := (locate_eq_ok split).mp located
  have settled := (isSettled_nil disk).enter entered
  rcases step_cases moved with ⟨_, rfl⟩ | ⟨_, rfl⟩ | ⟨named, rfl⟩
  · cases here.symm.trans settled.here
  · cases here.symm.trans (settled _ (List.dropLast_prefix home))
  · exact ⟨before, home, name, split, short, relative, named, entered⟩

theorem isFile_iff : disk.isFile path = true ↔ ∃ bytes, disk.find? path = some (.file bytes) := by
  unfold isFile
  split
  · rename_i bytes found
    simp [found]
  · rename_i other
    simpa using other

/-- Two paths of the same steps name the same. -/
theorem find?_of_steps (entry : disk.IsEntry other front home name)
    (split : path.pieces = folders ++ [last]) (short : path.utf8ByteSize ≤ longestPath)
    (relative : path.isRooted = false) (named : IsName last) (same : path.steps = other.steps) :
    disk.find? path = disk.find? other := by
  rw [entry.steps, Path.steps_of_relative relative, split, List.filter_append,
    List.filter_singleton, named.1] at same
  obtain ⟨fronts, lasts⟩ := List.append_inj' same rfl
  cases List.singleton_inj.mp lasts
  have entered : disk.enter [] folders = .ok home := by
    rw [← enter_filter rfl, fronts, enter_filter rfl]
    exact entry.entered
  rw [entry.find?, IsEntry.find? ⟨split, short, relative, named, entered⟩]

theorem readBytes_of_file (found : disk.find? path = some (.file bytes)) :
    disk.readBytes path = .ok bytes := by
  obtain ⟨place, located, here⟩ := find?_eq_some.mp found
  simp [readBytes, located, here, bind, Except.bind, pure, Except.pure]

theorem file_of_readText (read : disk.readText path = .ok text) :
    ∃ bytes, disk.find? path = some (.file bytes) := by
  obtain ⟨bytes, bytesRead, _⟩ := bind_eq_ok.mp read
  obtain ⟨place, located, contents⟩ := bind_eq_ok.mp bytesRead
  refine ⟨bytes, find?_eq_some.mpr ⟨place, located, ?_⟩⟩
  split at contents
  · rename_i here
    cases contents
    exact here
  · cases contents
  · cases contents

theorem readText_of_directory (found : disk.find? path = some .directory) :
    disk.readText path = .error .unusable := by
  obtain ⟨place, located, here⟩ := find?_eq_some.mp found
  simp [readText, readBytes, located, here, bind, Except.bind, throw, throwThe, MonadExceptOf.throw]

theorem readText_of_absent (located : disk.locate path = .ok place)
    (nothing : disk.at? place = none) : disk.readText path = .error .absent := by
  simp [readText, readBytes, located, nothing, bind, Except.bind, throw, throwThe,
    MonadExceptOf.throw]

theorem readText_of_long (long : longestPath < path.utf8ByteSize) :
    disk.readText path = .error .unusable := by
  simp [readText, readBytes, locate, long, bind, Except.bind]

end ValueObjects.Disk
