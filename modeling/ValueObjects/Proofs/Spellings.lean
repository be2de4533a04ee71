import Mathlib.Data.List.Perm.Subperm
import ValueObjects.Proofs.LoadedModules
/-!
Which places the files of a crate are at. A path is not read twice, but a place can have many paths,
through the directory above another; only without those is each place read once.
-/
namespace ValueObjects

/-- Whether the path of a file leads up again below a directory. -/
def Climbs (directory file : Path) : Prop :=
  ".." ∈ file.steps.drop directory.steps.length

instance : Decidable (Climbs directory file) :=
  inferInstanceAs (Decidable (_ ∈ _))

/-- Whether a path that begins with the pieces names a file. -/
def Disk.HasBelow (disk : Disk) (kept : List String) (file : Path) : Prop :=
  ∃ rest home name, disk.IsEntry file (kept ++ rest) home name ∧ disk.isFile file = true

/-- Names without one for the directory above lead down. -/
theorem Disk.enter_of_level {disk : Disk} {steps : List String}
    (entered : disk.enter place steps = .ok home) (level : ".." ∉ steps) :
    home = place ++ steps.filter (!Path.isIdle ·) := by
  induction steps generalizing place with
  | nil =>
    cases entered
    simp
  | cons piece rest ih =>
    obtain ⟨next, moved, _, later⟩ := enter_cons_eq_ok.mp entered
    rw [List.mem_cons, not_or] at level
    rw [ih later level.2]
    rcases step_cases moved with ⟨idle, rfl⟩ | ⟨up, _⟩ | ⟨named, rfl⟩
    · rw [List.filter_cons_of_neg (by simp [idle])]
    · exact (level.1 up.symm).elim
    · rw [List.filter_cons_of_pos (by simp [named.1]), List.append_assoc, List.singleton_append]

variable {disk : Disk} {directory file other : Path} {reading last : Reading}

/-- Files of one place have one path, up to steps that lead nowhere, if neither leads up again. -/
theorem Disk.IsEntry.steps_of_level (entry : disk.IsEntry file (kept ++ rest) home name)
    (otherEntry : disk.IsEntry other (kept ++ others) otherHome otherName)
    (level : ".." ∉ rest) (otherLevel : ".." ∉ others)
    (same : disk.locate file = disk.locate other) : file.steps = other.steps := by
  rw [entry.locate, otherEntry.locate, Except.ok.injEq] at same
  have split := entry.entered
  have otherSplit := otherEntry.entered
  rw [enter_append, bind_eq_ok] at split otherSplit
  obtain ⟨base, start, entered⟩ := split
  obtain ⟨otherBase, otherStart, otherEntered⟩ := otherSplit
  cases Except.ok.inj (start.symm.trans otherStart)
  rw [enter_of_level entered level, enter_of_level otherEntered otherLevel, List.append_assoc,
    List.append_assoc, List.append_cancel_left_eq] at same
  rw [entry.steps, otherEntry.steps, List.filter_append, List.filter_append, List.append_assoc,
    List.append_assoc, same]

theorem Site.IsBelow.of_prefix {deeper : List String} (below : Site.IsBelow deeper site)
    (start : kept <+: deeper) : Site.IsBelow kept site :=
  ⟨below.directory.imp_right start.trans, below.base.imp_right start.trans⟩

namespace Reading

/-- The files that were read are below a directory, and none was read twice. -/
structure IsTracked (disk : Disk) (kept : List String) (reading : Reading) : Prop where
  apart : (reading.files.map Path.steps).Nodup
  visited : ∀ file ∈ reading.files, file.steps ∈ reading.visited
  below : ∀ file ∈ reading.files, disk.HasBelow kept file

/-- Opening a file keeps track of it, and the modules in it are looked for below the directory. -/
theorem IsTracked.openFile {absent : Absent} (tracked : IsTracked disk kept reading)
    (solid : Path.trimmed kept = kept) (below : Site.IsBelow kept absent.site) :
    IsTracked disk kept (openFile disk reading absent).1 ∧
      AllBelow kept (openFile disk reading absent).2 := by
  have opened := opening disk reading absent
  generalize Reading.openFile disk reading absent = result at opened ⊢
  cases opened with
  | missing => exact ⟨tracked, nofun⟩
  | seen => exact ⟨tracked, nofun⟩
  | unreadable =>
    exact ⟨⟨tracked.apart, fun file member => List.mem_append_left _ (tracked.visited file member),
      tracked.below⟩, nofun⟩
  | @read file text found new _ =>
    have there := List.find?_some found
    obtain ⟨bytes, contents⟩ := Disk.isFile_iff.mp there
    obtain ⟨before, home, name, entry⟩ := Disk.isEntry_of_file contents
    obtain ⟨⟨rest, rfl⟩, inner⟩ := isBelow_siteAt below found entry
    have start := Path.prefix_trimmed (List.prefix_append kept rest) solid
    refine ⟨⟨?_, ?_, ?_⟩, allBelow_declared (inner.of_prefix start) text⟩
    · rw [List.map_append, List.map_singleton, ← List.concat_eq_append, List.nodup_concat]
      refine ⟨fun member => ?_, tracked.apart⟩
      obtain ⟨other, before, same⟩ := List.mem_map.mp member
      exact new (same ▸ tracked.visited other before)
    · intro other member
      rcases List.mem_append.mp member with before | own
      · exact List.mem_append_left _ (tracked.visited other before)
      · exact List.mem_append_right _ (List.mem_singleton.mp own ▸ List.mem_singleton_self _)
    · intro other member
      rcases List.mem_append.mp member with before | own
      · exact tracked.below other before
      · rw [List.mem_singleton.mp own]
        exact ⟨rest, home, name, entry, there⟩

theorem Reads.isTracked (run : Reads disk reading declared last)
    (tracked : IsTracked disk kept reading) (solid : Path.trimmed kept = kept)
    (below : AllBelow kept declared) : IsTracked disk kept last := by
  induction run with
  | done => exact tracked
  | present _ ih =>
    exact ih ⟨tracked.apart, tracked.visited, tracked.below⟩ fun absent member =>
      below absent (List.mem_cons_of_mem _ member)
  | absent _ _ ihInner ihLater =>
    obtain ⟨opened, inside⟩ := tracked.openFile solid (below _ List.mem_cons_self)
    exact ihLater (ihInner opened inside) fun absent member =>
      below absent (List.mem_cons_of_mem _ member)

/-- A file that is opened is either without modules or one more. -/
theorem openFile_cases (disk : Disk) (reading : Reading) (absent : Absent) :
    (openFile disk reading absent).2 = [] ∧
        (openFile disk reading absent).1.files.length = reading.files.length ∨
      (openFile disk reading absent).1.files.length = reading.files.length + 1 := by
  have opened := opening disk reading absent
  generalize openFile disk reading absent = result at opened ⊢
  cases opened with
  | missing => exact .inl ⟨rfl, rfl⟩
  | seen => exact .inl ⟨rfl, rfl⟩
  | unreadable => exact .inl ⟨rfl, rfl⟩
  | read => exact .inr List.length_append

theorem Reads.longer (run : Reads disk reading declared last) :
    reading.files.length ≤ last.files.length := by
  induction run with
  | done => exact Nat.le_refl _
  | present _ ih => exact ih
  | @absent reading absent _ _ _ _ _ ihInner ihLater =>
    have opened := openFile_cases disk reading absent
    omega

/-- A reading ends within as many files as it comes to read. -/
theorem Reads.follow_eq (run : Reads disk reading declared last)
    (enough : last.files.length < reading.files.length + depth) :
    follow disk depth reading declared = last := by
  induction run generalizing depth with
  | done => exact follow_nil depth
  | present later ih =>
    cases depth with
    | zero => exact (Nat.not_lt_of_le later.longer enough).elim
    | succ depth => exact ih enough
  | @absent reading absent between rest last inner later ihInner ihLater =>
    have least := inner.longer
    have most := later.longer
    have opened := openFile_cases disk reading absent
    cases depth with
    | zero => omega
    | succ depth =>
      have inside : follow disk depth (Reading.openFile disk reading absent).1
          (Reading.openFile disk reading absent).2 = between := by
        rcases opened with ⟨none, _⟩ | more
        · rw [none] at inner ⊢
          rw [follow_nil, inner.eq_of_nil]
        · exact ihInner (by omega)
      have after : follow disk (depth + 1) between rest = last := ihLater (by omega)
      rw [← inside] at after
      exact after

end Reading

/-- The path of a file below a directory leads up again if it does so after the directory's. -/
theorem Disk.IsEntry.level_of_not_climbs (relative : directory.isRooted = false)
    (entry : disk.IsEntry file (Path.trimmed directory.leading ++ rest) home name)
    (level : ¬Climbs directory file) : ".." ∉ rest := by
  have own : directory.steps = (Path.trimmed directory.leading).filter (!Path.isIdle ·) := by
    rw [Path.steps_of_relative relative, Path.filter_trimmed, Path.filter_leading]
  intro up
  apply level
  rw [Climbs, entry.steps, List.filter_append, List.append_assoc, own, List.drop_left]
  exact List.mem_append_left _ (List.mem_filter.mpr ⟨up, by decide⟩)

namespace SourceTree

variable {root : Path}

/-- A crate is read from its directory, which is not outside the disk. -/
theorem IsRead.isTracked (read : IsRead disk directory root text last) :
    directory.isRooted = false ∧
      Reading.IsTracked disk (Path.trimmed directory.leading) last := by
  have below : LiesBelow (Path.trimmed directory.leading) directory :=
    .inr (Path.trimmed_starts directory.leading)
  have there := List.find?_some read.found
  obtain ⟨bytes, contents⟩ := Disk.isFile_iff.mp there
  obtain ⟨before, home, name, entry⟩ := Disk.isEntry_of_file contents
  obtain ⟨base, _, rfl⟩ := List.mem_map.mp (List.mem_of_find?_eq_some read.found)
  obtain ⟨⟨rest, rfl⟩, _⟩ := prefix_of_entry below entry
  have relative := entry.relative
  rw [Path.isRooted_join, Bool.or_eq_false_iff] at relative
  have opened : Reading.IsTracked disk (Path.trimmed directory.leading)
      (opened (Path.join directory base)) := by
    refine ⟨List.nodup_singleton _, ?_, ?_⟩
    · intro file member
      rw [List.mem_singleton.mp member]
      exact List.mem_singleton_self _
    · intro file member
      rw [List.mem_singleton.mp member]
      exact ⟨rest, home, name, entry, there⟩
  have start (root : Path) : Site.IsBelow (Path.trimmed directory.leading)
      ⟨[], some root, directory, directory⟩ := ⟨below, below⟩
  exact ⟨relative.1, read.run.isTracked opened (Path.trimmed_trimmed _)
    (allBelow_declared (start _) text)⟩

end SourceTree

/-- What stands at the place of a file is on the disk. -/
theorem Disk.HasBelow.located (below : disk.HasBelow kept file) :
    ∃ entry ∈ disk.nodes, disk.locate file = .ok entry.1 := by
  obtain ⟨rest, home, name, entry, there⟩ := below
  obtain ⟨bytes, contents⟩ := isFile_iff.mp there
  have present : disk.at? (home ++ [name]) ≠ none := by
    rw [← entry.find?, contents]
    exact nofun
  obtain ⟨node, member⟩ := mem_nodes_of_at? present (by simp)
  exact ⟨_, member, entry.locate⟩

/-- No path is read twice. If two files of a crate are at the same place, the path of one leads up
again below the crate's directory; and if none does, each place is read once, and the crate is read
within as many files on each other as there are entries on the disk. -/
theorem load_places (loaded : SourceTree.load disk directory = .ok tree) :
    (tree.files.map Path.steps).Nodup ∧
      (∀ file ∈ tree.files, ∀ other ∈ tree.files, file ≠ other →
        disk.locate file = disk.locate other → Climbs directory file ∨ Climbs directory other) ∧
      ((∀ file ∈ tree.files, ¬Climbs directory file) →
        (tree.files.map disk.locate).Nodup ∧
          ∃ root text last, SourceTree.IsRead disk directory root text last ∧
            tree = ⟨last.modules, last.files⟩ ∧
            ∀ depth, disk.nodes.length ≤ depth →
              Reading.follow disk depth (SourceTree.opened root)
                ((SourceTree.start directory root).declared text) = last) := by
  obtain ⟨root, text, last, read, rfl⟩ := SourceTree.load_eq_ok.mp loaded
  obtain ⟨relative, tracked⟩ := read.isTracked
  have places : ∀ file ∈ last.files, ∀ other ∈ last.files, file ≠ other →
      disk.locate file = disk.locate other → Climbs directory file ∨ Climbs directory other := by
    intro file member other otherMember apart same
    by_contra level
    rw [not_or] at level
    obtain ⟨rest, home, name, entry, _⟩ := tracked.below file member
    obtain ⟨others, otherHome, otherName, otherEntry, _⟩ := tracked.below other otherMember
    have steps := entry.steps_of_level otherEntry (entry.level_of_not_climbs relative level.1)
      (otherEntry.level_of_not_climbs relative level.2) same
    exact apart (List.inj_on_of_nodup_map tracked.apart member otherMember steps)
  refine ⟨tracked.apart, places, fun level => ?_⟩
  have apart : (last.files.map disk.locate).Nodup := by
    refine List.Nodup.map_on ?_ (List.Nodup.of_map Path.steps tracked.apart)
    intro file member other otherMember same
    by_contra different
    rcases places file member other otherMember different same with climbs | climbs
    · exact level file member climbs
    · exact level other otherMember climbs
  have within : last.files.map disk.locate ⊆ disk.nodes.map (Except.ok ·.1) := by
    intro place member
    obtain ⟨file, own, rfl⟩ := List.mem_map.mp member
    obtain ⟨entry, present, located⟩ := (tracked.below file own).located
    exact List.mem_map.mpr ⟨entry, present, located.symm⟩
  have count := (apart.subperm within).length_le
  rw [List.length_map, List.length_map] at count
  refine ⟨apart, root, text, last, read, rfl, fun depth enough => read.run.follow_eq ?_⟩
  exact Nat.lt_of_le_of_lt (Nat.le_trans count enough) (Nat.lt_add_of_pos_left Nat.one_pos)

/-- A crate with a module in a directory below its root's. -/
def sidewaysDisk : Disk :=
  ⟨[(["src"], .directory), (["src", "lib.rs"], .file "#[path = \"parts/a.rs\"] mod a;".toUTF8),
    (["src", "parts"], .directory), (["src", "parts", "a.rs"], .file "".toUTF8)]⟩

theorem load_places_sideways :
    ∃ tree, SourceTree.load sidewaysDisk "src" = .ok tree ∧
      tree.files = ["src/lib.rs", "src/parts/a.rs"] ∧
      (∀ file ∈ tree.files, ¬Climbs "src" file) ∧
      (tree.files.map sidewaysDisk.locate).Nodup := by
  have ends : ((SourceTree.load sidewaysDisk "src").toOption.any fun tree =>
      tree.files == ["src/lib.rs", "src/parts/a.rs"]) = true := by decide +kernel
  obtain ⟨tree, loaded, files⟩ := (Option.any_eq_true _ _).mp ends
  rw [beq_iff_eq] at files
  have ended := toOption_eq_some.mp loaded
  have level : ∀ file ∈ tree.files, ¬Climbs "src" file := by
    rw [files]
    decide +kernel
  exact ⟨tree, ended, files, level, ((load_places ended).2.2 level).1⟩

/-- A crate with a module that is written in the file of one above it. -/
def climbingDisk : Disk :=
  ⟨[(["src"], .directory), (["src", "lib.rs"], .file "mod a;".toUTF8),
    (["src", "a.rs"], .file "mod i \x7b #[path = \"../../a.rs\"] mod b; \x7d".toUTF8),
    (["src", "a"], .directory), (["src", "a", "i"], .directory)]⟩

/-- A file is read again beneath itself, under another path. -/
theorem file_read_beneath_itself :
    ∃ tree, SourceTree.load climbingDisk "src" = .ok tree ∧
      tree.modules.map (fun module => (module.scope?, module.file?)) =
        [(none, some "src/lib.rs"), (some "a", some "src/a.rs"), (some "a::i", some "src/a.rs"),
          (some "a::i::b", some "src/a/i/../../a.rs"),
          (some "a::i::b::i", some "src/a/i/../../a.rs")] ∧
      climbingDisk.locate "src/a/i/../../a.rs" = climbingDisk.locate "src/a.rs" ∧
      climbingDisk.locate "src/a.rs" = .ok ["src", "a.rs"] := by
  obtain ⟨ends, same, located⟩ :
      ((SourceTree.load climbingDisk "src").toOption.any fun tree =>
        tree.modules.map (fun module => (module.scope?, module.file?)) ==
          [(none, some "src/lib.rs"), (some "a", some "src/a.rs"), (some "a::i", some "src/a.rs"),
            (some "a::i::b", some "src/a/i/../../a.rs"),
            (some "a::i::b::i", some "src/a/i/../../a.rs")]) = true ∧
      climbingDisk.locate "src/a/i/../../a.rs" = climbingDisk.locate "src/a.rs" ∧
      climbingDisk.locate "src/a.rs" = .ok ["src", "a.rs"] := by decide +kernel
  obtain ⟨tree, loaded, modules⟩ := (Option.any_eq_true _ _).mp ends
  exact ⟨tree, toOption_eq_some.mp loaded, beq_iff_eq.mp modules, same, located⟩

/-- A crate whose only file is that of its root and, through the directory above, of a module. -/
def loopingDisk : Disk :=
  ⟨[(["src"], .directory), (["src", "lib.rs"], .file "#[path = \"../src/lib.rs\"] mod a;".toUTF8)]⟩

namespace Looping

/-- The paths of the root's directory. -/
def folder : Nat → Path
  | 0 => "src"
  | count + 1 => Path.join (Path.join (folder count) "..") "src"

/-- The paths of the root's file. -/
def spelling (count : Nat) : Path :=
  Path.join (folder count) "lib.rs"

theorem isRooted_folder (count : Nat) : (folder count).isRooted = false := by
  induction count with
  | zero => decide
  | succ count ih =>
    rw [folder, Path.isRooted_join, Path.isRooted_join, ih]
    decide

theorem leading_folder (count : Nat) :
    (folder (count + 1)).leading = (folder count).leading ++ ["..", "src"] := by
  rw [folder, Path.leading_join (by decide), Path.leading_join (by decide), List.append_assoc]
  rfl

theorem entry (count : Nat) (short : (spelling count).utf8ByteSize ≤ Disk.longestPath) :
    loopingDisk.IsEntry (spelling count) (folder count).leading ["src"] "lib.rs" := by
  have file : Path.pieces "lib.rs" = ["lib.rs"] := Path.pieces_of_plain (by decide)
  refine ⟨?_, short, ?_, ⟨by decide, by decide, by decide⟩, ?_⟩
  · rw [spelling, Path.pieces_join (by decide), file]
  · rw [spelling, Path.isRooted_join, isRooted_folder]
    decide
  · clear short
    induction count with
    | zero => rfl
    | succ count ih =>
      rw [leading_folder, Disk.enter_append, ih]
      rfl

theorem parent_spelling (count : Nat) : (spelling count).parent = folder count := by
  cases count with
  | zero => decide
  | succ count =>
    exact Path.parent_join (by decide) (by decide) (by decide) (by decide)

theorem join_folder (count : Nat) :
    Path.join (folder count) "../src/lib.rs" = spelling (count + 1) := by
  have pieces : (Path.join (folder count) "../src/lib.rs").pieces =
      (spelling (count + 1)).pieces := by
    rw [spelling, Path.pieces_join (by decide), Path.pieces_join (by decide), leading_folder,
      List.append_assoc]
    rfl
  rw [← Path.intercalate_pieces (spelling (count + 1)), ← pieces, Path.intercalate_pieces]

theorem length_steps (count : Nat) : (spelling count).steps.length = 2 * count + 2 := by
  have folders : (folder count).steps.length = 2 * count + 1 := by
    induction count with
    | zero => decide
    | succ count ih =>
      rw [folder, Path.steps_join_name (by decide) (by decide),
        Path.steps_join_name (by decide) (by decide), List.length_append, List.length_append, ih]
      rfl
  rw [spelling, Path.steps_join_name (by decide) (by decide), List.length_append, folders]
  rfl

theorem size_join_le (base path : Path) :
    (Path.join base path).utf8ByteSize ≤ base.utf8ByteSize + 1 + path.utf8ByteSize := by
  have slash : "/".utf8ByteSize = 1 := by decide
  unfold Path.join
  split
  · omega
  · split
    · rw [String.utf8ByteSize_append]
      omega
    · rw [String.utf8ByteSize_append, String.utf8ByteSize_append, slash]

theorem size_spelling (count : Nat) : (spelling count).utf8ByteSize ≤ 7 * count + 10 := by
  have folders : (folder count).utf8ByteSize ≤ 7 * count + 3 := by
    induction count with
    | zero => decide
    | succ count ih =>
      have up := size_join_le (folder count) ".."
      have down := size_join_le (Path.join (folder count) "..") "src"
      have upSize : "..".utf8ByteSize = 2 := by decide
      have downSize : "src".utf8ByteSize = 3 := by decide
      rw [folder]
      omega
  have whole := size_join_le (folder count) "lib.rs"
  have fileSize : "lib.rs".utf8ByteSize = 6 := by decide
  rw [spelling]
  omega

theorem isFile_spelling (count : Nat)
    (short : (spelling count).utf8ByteSize ≤ Disk.longestPath) :
    loopingDisk.isFile (spelling count) = true := by
  rw [Disk.isFile_iff]
  exact ⟨_, (entry count short).find?⟩

/-- The root's declarations, from whichever path they are read. -/
theorem items_spelling (count : Nat)
    (short : (spelling count).utf8ByteSize ≤ Disk.longestPath) :
    ∃ attrs, loopingDisk.items? (spelling count) = some [.module attrs "a" none] ∧
      isTestOnly attrs = false ∧ pathAttribute? attrs = some "../src/lib.rs" := by
  obtain ⟨attrs, read, built, placed⟩ := Disk.items_of_declaresFile
    (by decide +kernel : (loopingDisk.items? "src/lib.rs").any
      (declaresFiles [("a", some "../src/lib.rs")]) = true)
  refine ⟨attrs, ?_, built, placed⟩
  have same : loopingDisk.locate (spelling count) = loopingDisk.locate "src/lib.rs" :=
    (entry count short).locate
  rw [← read, Disk.items?, Disk.items?, Disk.readText, Disk.readText, Disk.readBytes,
    Disk.readBytes, same]

/-- Whether a reading goes on from a path of the root's file before it comes to longer ones. -/
def Reaches (last : Reading) (count : Nat) : Prop :=
  ∃ (reading : Reading) (site : Site) (items : List Item), site.base = folder count ∧
    loopingDisk.items? (spelling count) = some items ∧
    spelling count ∈ reading.files ∧
    (∀ later, count < later → (spelling later).steps ∉ reading.visited) ∧
    Reading.Reads loopingDisk reading (Item.declaredIn site items) last

/-- From each path of the root's file the next longer one is read, unless it is too long. -/
theorem Reaches.next (reached : Reaches last count)
    (short : 7 * (count + 1) + 10 ≤ Disk.longestPath) : Reaches last (count + 1) := by
  obtain ⟨reading, site, items, based, read, _, new, run⟩ := reached
  have size := size_spelling count
  have sizeNext := size_spelling (count + 1)
  obtain ⟨attrs, readHere, built, placed⟩ := items_spelling count (by omega)
  obtain ⟨others, readNext, _⟩ := items_spelling (count + 1) (by omega)
  cases Option.some.inj (read.symm.trans readHere)
  rw [Item.declaredIn, Item.declared_of_absent built, Item.declaredIn, List.append_nil,
    placed] at run
  have found : (Absent.candidates ⟨site, "a", some "../src/lib.rs"⟩).find? loopingDisk.isFile =
      some (spelling (count + 1)) := by
    have only : Absent.candidates ⟨site, "a", some "../src/lib.rs"⟩ = [spelling (count + 1)] := by
      rw [← join_folder, ← based]
      rfl
    rw [only]
    exact List.find?_cons_of_pos (isFile_spelling _ (by omega))
  cases run with
  | absent inner rest =>
    cases rest
    rw [Reading.openFile_new found (new _ (Nat.lt_succ_self count)) readNext] at inner
    cases inner with
    | present inner =>
      have basedNext : (Absent.siteAt ⟨site, "a", some "../src/lib.rs"⟩
          (spelling (count + 1))).base = folder (count + 1) := by
        rw [Absent.siteAt, parent_spelling]
      have opened : spelling (count + 1) ∈ reading.files ++ [spelling (count + 1)] :=
        List.mem_append_right _ (List.mem_singleton_self _)
      have newNext : ∀ later, count + 1 < later →
          (spelling later).steps ∉ reading.visited ++ [(spelling (count + 1)).steps] := by
        intro later longer visited
        rcases List.mem_append.mp visited with before | own
        · exact new later (Nat.lt_of_succ_lt longer) before
        · have same := congrArg List.length (List.mem_singleton.mp own)
          rw [length_steps, length_steps] at same
          omega
      exact ⟨_, _, _, basedNext, readNext, opened, newNext, inner⟩

end Looping

/-- The file of the root is read again beneath itself under every path that is not too long. -/
theorem load_looping :
    ∃ tree, SourceTree.load loopingDisk "src" = .ok tree ∧
      ∀ count, 7 * count + 10 ≤ Disk.longestPath →
        Looping.spelling count ∈ tree.files ∧
          loopingDisk.locate (Looping.spelling count) = .ok ["src", "lib.rs"] := by
  obtain ⟨attrs, read, _⟩ := Looping.items_spelling 0 (by decide)
  have crate : IsCrate loopingDisk "src" (Looping.spelling 0) [.module attrs "a" none] :=
    ⟨by decide +kernel, read⟩
  obtain ⟨text, tree, last, parsed, isRead, loaded, rfl⟩ := crate.loaded
  have run := isRead.run
  rw [Site.declared_of_items parsed] at run
  cases run with
  | present run =>
    refine ⟨_, loaded, fun count short => ?_⟩
    have reached : Looping.Reaches last count := by
      induction count with
      | zero =>
        have opened : Looping.spelling 0 ∈ [Looping.spelling 0] := List.mem_singleton_self _
        have new : ∀ later, 0 < later →
            (Looping.spelling later).steps ∉ [(Looping.spelling 0).steps] := by
          intro later longer visited
          have same := congrArg List.length (List.mem_singleton.mp visited)
          rw [Looping.length_steps, Looping.length_steps] at same
          omega
        exact ⟨_, _, _, rfl, read, opened, new, run⟩
      | succ count ih => exact (ih (by omega)).next short
    obtain ⟨reading, _, _, _, _, opened, _, further⟩ := reached
    have size := Looping.size_spelling count
    exact ⟨further.grows.files opened, (Looping.entry count (by omega)).locate⟩

end ValueObjects
