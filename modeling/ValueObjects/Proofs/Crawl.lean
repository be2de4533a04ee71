import ValueObjects.Proofs.Places
import ValueObjects.Source.Loading
/-!
Reading a crate goes on through every module that is declared. The bound on the depth is never
reached, as a file below another has a longer path or a new name in the same directory.
-/
namespace ValueObjects

namespace Site

theorem declared_of_items {text : String} (parsed : Grammar.sourceItems? text = some items)
    (site : Site) :
    site.declared text = .present (site.module items) :: Item.declaredIn site items := by
  unfold declared
  simp only [parsed]

theorem declared_of_none {text : String} (parsed : Grammar.sourceItems? text = none)
    (site : Site) : site.declared text = [] := by
  unfold declared
  simp only [parsed]

end Site

namespace Reading

/-- What opening the file of a module can come to. -/
inductive Opening (disk : Disk) (reading : Reading) (absent : Absent) :
    Reading × List Declared → Prop where
  | missing (none : absent.candidates.find? disk.isFile = none) :
      Opening disk reading absent (reading, [])
  | seen (found : absent.candidates.find? disk.isFile = some file)
      (before : file.steps ∈ reading.visited) : Opening disk reading absent (reading, [])
  | unreadable (found : absent.candidates.find? disk.isFile = some file)
      (new : file.steps ∉ reading.visited) (failed : disk.readText file = .error problem) :
      Opening disk reading absent ({ reading with visited := reading.visited ++ [file.steps] }, [])
  | read (found : absent.candidates.find? disk.isFile = some file)
      (new : file.steps ∉ reading.visited) (contents : disk.readText file = .ok text) :
      Opening disk reading absent
        ({ reading with
            visited := reading.visited ++ [file.steps], files := reading.files ++ [file] },
          (absent.siteAt file).declared text)

theorem opening (disk : Disk) (reading : Reading) (absent : Absent) :
    Opening disk reading absent (openFile disk reading absent) := by
  unfold openFile
  split
  · exact .missing ‹_›
  · rename_i file found
    split
    · rename_i before
      exact .seen found (List.contains_iff_mem.mp before)
    · rename_i new
      have fresh : file.steps ∉ reading.visited := fun member =>
        new (List.contains_iff_mem.mpr member)
      simp only
      split
      · exact .unreadable found fresh ‹_›
      · exact .read found fresh ‹_›

theorem Opening.eq (opened : Opening disk reading absent result) :
    openFile disk reading absent = result := by
  cases opened with
  | missing none => simp only [openFile, none]
  | seen found before =>
    simp only [openFile, found, List.contains_iff_mem.mpr before, if_true]
  | unreadable found new failed =>
    simp only [openFile, found, List.contains_iff_mem, new, if_false, failed]
  | read found new contents =>
    simp only [openFile, found, List.contains_iff_mem, new, if_false, contents]

/-- Reading on through modules that are declared, as deep as they go. -/
inductive Reads (disk : Disk) : Reading → List Declared → Reading → Prop where
  | done : Reads disk reading [] reading
  | present (later : Reads disk (reading.add module) rest last) :
      Reads disk reading (.present module :: rest) last
  | absent
      (inner : Reads disk (openFile disk reading absent).1 (openFile disk reading absent).2 between)
      (later : Reads disk between rest last) :
      Reads disk reading (.absent absent :: rest) last

variable {disk : Disk} {reading last : Reading} {declared : List Declared}

theorem Reads.unique (first : Reads disk reading declared last)
    (second : Reads disk reading declared other) : last = other := by
  induction first generalizing other with
  | done =>
    cases second
    rfl
  | present _ ih =>
    cases second with
    | present later => exact ih later
  | absent _ _ innerUnique laterUnique =>
    cases second with
    | absent inner later =>
      cases innerUnique inner
      exact laterUnique later

theorem Reads.eq_of_nil (run : Reads disk reading [] last) : last = reading := by
  cases run
  rfl

/-- What was read or visited before stays so. -/
structure Grows (first last : Reading) : Prop where
  files : first.files ⊆ last.files
  visited : first.visited ⊆ last.visited

theorem Grows.refl (reading : Reading) : Grows reading reading :=
  ⟨List.Subset.refl _, List.Subset.refl _⟩

theorem Grows.trans (one : Grows first middle) (two : Grows middle last) : Grows first last :=
  ⟨List.Subset.trans one.files two.files, List.Subset.trans one.visited two.visited⟩

theorem grows_openFile (disk : Disk) (reading : Reading) (absent : Absent) :
    Grows reading (openFile disk reading absent).1 := by
  have ended := opening disk reading absent
  generalize openFile disk reading absent = result at ended ⊢
  cases ended with
  | missing => exact .refl _
  | seen => exact .refl _
  | unreadable => exact ⟨List.Subset.refl _, List.subset_append_left _ _⟩
  | read => exact ⟨List.subset_append_left _ _, List.subset_append_left _ _⟩

theorem Reads.grows (run : Reads disk reading declared last) : Grows reading last := by
  induction run with
  | done => exact .refl _
  | present _ ih => exact ⟨ih.files, ih.visited⟩
  | absent _ _ inner later => exact ((grows_openFile disk _ _).trans inner).trans later

end Reading

/-- Whether a directory is below the one that the pieces spell, or outside of the disk. -/
def LiesBelow (kept : List String) (directory : Path) : Prop :=
  directory.isRooted = true ∨ kept <+: directory.leading

theorem LiesBelow.join (below : LiesBelow kept directory) (path : Path) :
    LiesBelow kept (Path.join directory path) := by
  cases rooted : Path.isRooted path with
  | true => exact .inl (by simp [Path.isRooted_join, rooted])
  | false =>
    rcases below with outside | inner
    · exact .inl (by simp [Path.isRooted_join, outside])
    · refine .inr ?_
      rw [Path.leading_join rooted]
      exact inner.trans (List.prefix_append _ _)

/-- Whether the modules at a site are looked for below the directory that the pieces spell. -/
structure Site.IsBelow (kept : List String) (site : Site) : Prop where
  directory : LiesBelow kept site.directory
  base : LiesBelow kept site.base

theorem Site.IsBelow.inside (below : Site.IsBelow kept site) (name : String)
    (path? : Option Path) : Site.IsBelow kept (site.inside name path?) := by
  have inner : LiesBelow kept (site.inside name path?).directory := by
    cases path? with
    | none => exact below.directory.join _
    | some path => exact below.directory.join path
  exact ⟨inner, inner⟩

/-- Whether all modules whose files are to be read are looked for below a directory. -/
def AllBelow (kept : List String) (declared : List Declared) : Prop :=
  ∀ absent, .absent absent ∈ declared → Site.IsBelow kept absent.site

mutual

theorem allBelow_item (below : Site.IsBelow kept site) (item : Item) :
    AllBelow kept (item.declared site) := by
  intro absent member
  cases item with
  | module attrs name content =>
    cases content with
    | some items =>
      rw [Item.declared] at member
      split at member
      · cases member
      · simp only [List.mem_cons, reduceCtorEq, false_or] at member
        exact allBelow_items (below.inside name (pathAttribute? attrs)) items absent member
    | none =>
      rw [Item.declared] at member
      split at member
      · cases member
      · simp only [List.mem_singleton, Declared.absent.injEq] at member
        rw [member]
        exact below
  | struct decl => simp [Item.declared] at member
  | impl decl => simp [Item.declared] at member
  | other => simp [Item.declared] at member

theorem allBelow_items (below : Site.IsBelow kept site) (items : List Item) :
    AllBelow kept (Item.declaredIn site items) := by
  intro absent member
  cases items with
  | nil => simp [Item.declaredIn] at member
  | cons item rest =>
    rw [Item.declaredIn, List.mem_append] at member
    rcases member with own | later
    · exact allBelow_item below item absent own
    · exact allBelow_items below rest absent later

end

theorem allBelow_declared (below : Site.IsBelow kept site) (text : String) :
    AllBelow kept (site.declared text) := by
  intro absent member
  unfold Site.declared at member
  split at member
  · simp only [List.mem_cons, reduceCtorEq, false_or] at member
    exact allBelow_items below _ absent member
  · cases member

/-- A file of a module lies in the module's directory or below it. -/
theorem prefix_of_entry {disk : Disk} (below : LiesBelow kept base)
    (entry : disk.IsEntry (Path.join base path) before home name) :
    kept <+: before ∧ path.isRooted = false ∧
      ∃ front last, path.pieces = front ++ [last] ∧ before = base.leading ++ front := by
  have relative := entry.relative
  rw [Path.isRooted_join, Bool.or_eq_false_iff] at relative
  obtain ⟨front, last, cut⟩ := Disk.pieces_concat path
  have split := entry.split
  rw [Path.pieces_join relative.2, cut, ← List.append_assoc] at split
  have same := (List.append_inj_left' split rfl).symm
  rcases below with outside | inner
  · cases relative.1.symm.trans outside
  · refine ⟨?_, relative.2, front, last, cut, same⟩
    rw [same]
    exact inner.trans (List.prefix_append _ _)

/-- The directory named after a module begins with all before the name of its file beside it. -/
theorem prefix_directoryOf (site : Site)
    (relative : Path.isRooted (Naming.unraw name ++ ".rs") = false)
    (cut : Path.pieces (Naming.unraw name ++ ".rs") = front ++ [last]) :
    site.directory.leading ++ front <+: (site.directoryOf name).leading := by
  obtain ⟨stem, own, spelled⟩ := Disk.pieces_concat (Naming.unraw name)
  have lengthened : Path.pieces (Naming.unraw name ++ ".rs") = stem ++ [own ++ ".rs"] :=
    Path.pieces_append_plain (by decide) spelled
  have same := List.append_inj_left' (cut.symm.trans lengthened) rfl
  rw [Site.directoryOf, Path.leading_join (Path.isRooted_of_append relative), same,
    List.prefix_append_right_inj]
  exact Path.prefix_leading spelled

variable {disk : Disk} {absent : Absent} {file : Path}

/-- The directory named after a module lies where its file beside it lies, or below. -/
theorem isBelow_beside {site : Site} (below : LiesBelow kept site.directory)
    (entry : disk.IsEntry (Path.join site.directory (Naming.unraw name ++ ".rs")) before home
      last) :
    kept <+: before ∧ LiesBelow (Path.trimmed before) (site.directoryOf name) := by
  obtain ⟨start, relative, front, last, cut, same⟩ := prefix_of_entry below entry
  refine ⟨start, .inr ((Path.trimmed_starts before).trans ?_)⟩
  rw [same]
  exact prefix_directoryOf site relative cut

/-- The modules in a file that was found are looked for where the file lies or below. -/
theorem isBelow_siteAt (below : Site.IsBelow kept absent.site)
    (found : absent.candidates.find? disk.isFile = some file)
    (entry : disk.IsEntry file before home name) :
    kept <+: before ∧ Site.IsBelow (Path.trimmed before) (absent.siteAt file) := by
  have parent : LiesBelow (Path.trimmed before) file.parent :=
    .inr (entry.leading_parent ▸ List.prefix_rfl)
  have owned (owns : absent.ownsDirectory file = true) :
      Site.IsBelow (Path.trimmed before) (absent.siteAt file) :=
    ⟨by simpa [Absent.siteAt, owns] using parent, parent⟩
  have member := List.mem_of_find?_eq_some found
  unfold Absent.candidates at member
  split at member
  · rename_i path given
    rw [List.mem_singleton] at member
    subst member
    exact ⟨(prefix_of_entry below.base entry).1, owned (by simp [Absent.ownsDirectory, given])⟩
  · simp only [List.mem_cons, List.not_mem_nil, or_false] at member
    rcases member with rfl | rfl
    · obtain ⟨start, named⟩ := isBelow_beside below.directory entry
      refine ⟨start, ?_, parent⟩
      unfold Absent.siteAt
      split
      · exact parent
      · exact named
    · obtain ⟨start, _⟩ := prefix_of_entry (below.directory.join _) entry
      have split := entry.split
      rw [Path.pieces_join (by decide)] at split
      have named : ["mod.rs"] = [name] := List.append_inj_right' split rfl
      refine ⟨start, owned ?_⟩
      simp [Absent.ownsDirectory, entry.fileName, ← List.singleton_inj.mp named]

namespace Reading

/-- The names on the disk that were not visited yet in the directory that the pieces spell. -/
def unvisited (disk : Disk) (kept : List String) (seen : List (List String)) : Nat :=
  disk.nodes.countP fun entry =>
    !seen.contains (kept.filter (!Path.isIdle ·) ++ [entry.1.getLast?.getD ""])

/-- How much deeper modules can be read below the directory that the pieces spell: each file there
has a longer path or a new name. -/
def depthLeft (disk : Disk) (kept : List String) (seen : List (List String)) : Nat :=
  (Disk.longestPath - kept.length) * (disk.nodes.length + 1) + unvisited disk kept seen

theorem unvisited_le (disk : Disk) (kept : List String) (seen : List (List String)) :
    unvisited disk kept seen ≤ disk.nodes.length :=
  List.countP_le_length

variable {seen later : List (List String)}

private theorem new_of_more (more : seen ⊆ later) (steps : List String)
    (new : (!later.contains steps) = true) : (!seen.contains steps) = true := by
  simp only [Bool.not_eq_true', List.contains_eq_mem, decide_eq_false_iff_not] at new ⊢
  exact fun member => new (more member)

theorem depthLeft_mono (more : seen ⊆ later) (kept : List String) :
    depthLeft disk kept later ≤ depthLeft disk kept seen :=
  Nat.add_le_add_left (List.countP_mono_left fun _ _ => new_of_more more _) _

theorem unvisited_lt (entry : disk.IsEntry file before home name)
    (present : disk.at? (home ++ [name]) ≠ none) (new : file.steps ∉ seen)
    (same : kept.filter (!Path.isIdle ·) = before.filter (!Path.isIdle ·)) :
    unvisited disk kept (seen ++ [file.steps]) < unvisited disk kept seen := by
  obtain ⟨node, member⟩ := Disk.mem_nodes_of_at? present (by simp)
  obtain ⟨front, back, split⟩ := List.append_of_mem member
  have fewer (nodes : List (Place × Node)) : nodes.countP (fun entry =>
      !(seen ++ [file.steps]).contains
        (kept.filter (!Path.isIdle ·) ++ [entry.1.getLast?.getD ""])) ≤
      nodes.countP (fun entry =>
        !seen.contains (kept.filter (!Path.isIdle ·) ++ [entry.1.getLast?.getD ""])) :=
    List.countP_mono_left fun _ _ => new_of_more (List.subset_append_left _ _) _
  have first := fewer front
  have second := fewer back
  have own : kept.filter (!Path.isIdle ·) ++ [((home ++ [name]).getLast?).getD ""] =
      file.steps := by
    rw [same, entry.steps, List.getLast?_concat]
    rfl
  have there : (seen ++ [file.steps]).contains file.steps = true := by simp
  have notThere : seen.contains file.steps = false := by simpa using new
  simp only [unvisited, split, List.countP_append, List.countP_cons, own, there, notThere]
  simp only [Bool.not_true, Bool.not_false, Bool.false_eq_true, if_false, if_true]
  omega

/-- Reading a file leaves less depth below it. -/
theorem depthLeft_lt (solid : Path.trimmed kept = kept) (start : kept <+: before)
    (entry : disk.IsEntry file before home name) (present : disk.at? (home ++ [name]) ≠ none)
    (new : file.steps ∉ seen) :
    depthLeft disk (Path.trimmed before) (seen ++ [file.steps]) < depthLeft disk kept seen := by
  have deeper := Path.prefix_trimmed start solid
  have short : (Path.trimmed before).length ≤ Disk.longestPath := by
    have pieces := file.length_pieces_le
    rw [entry.split, List.length_append, List.length_singleton] at pieces
    have inner := (Path.trimmed_starts before).length_le
    have bytes := entry.short
    omega
  -- One step more counts for as many names as a directory can hold.
  rcases Nat.lt_or_eq_of_le deeper.length_le with longer | same
  · have few := unvisited_le disk (Path.trimmed before) (seen ++ [file.steps])
    have less : (Disk.longestPath - (Path.trimmed before).length + 1) * (disk.nodes.length + 1) ≤
        (Disk.longestPath - kept.length) * (disk.nodes.length + 1) :=
      Nat.mul_le_mul_right _ (by omega)
    rw [Nat.add_mul] at less
    unfold depthLeft
    omega
  · have equal : kept = Path.trimmed before := deeper.eq_of_length same
    rw [← equal]
    refine Nat.add_lt_add_left (unvisited_lt entry present new ?_) _
    rw [equal, Path.filter_trimmed]

theorem follow_nil (fuel : Nat) : follow disk fuel reading [] = reading := by
  cases fuel <;> rfl

/-- Within its bound on the depth, reading goes on as deep as there are modules. -/
theorem reads_follow (fuel : Nat) (solid : Path.trimmed kept = kept)
    (below : AllBelow kept declared) (enough : depthLeft disk kept reading.visited < fuel) :
    Reads disk reading declared (follow disk fuel reading declared) := by
  -- Outside by the depth that is left, and on each level along the modules that are declared.
  induction fuel generalizing reading declared kept with
  | zero => exact (Nat.not_lt_zero _ enough).elim
  | succ fuel deeper =>
    induction declared generalizing reading with
    | nil => exact .done
    | cons next rest ih =>
      have others : AllBelow kept rest := fun absent member =>
        below absent (List.mem_cons_of_mem _ member)
      cases next with
      | present module => exact .present (ih others enough)
      | absent absent =>
        have inner : Reads disk (openFile disk reading absent).1 (openFile disk reading absent).2
            (follow disk fuel (openFile disk reading absent).1
              (openFile disk reading absent).2) := by
          have opened := opening disk reading absent
          generalize openFile disk reading absent = result at opened ⊢
          cases opened with
          | missing => simpa only [follow_nil] using .done
          | seen => simpa only [follow_nil] using .done
          | unreadable => simpa only [follow_nil] using .done
          | read found new _ =>
            obtain ⟨bytes, file⟩ := Disk.isFile_iff.mp (List.find?_some found)
            obtain ⟨before, home, name, entry⟩ := Disk.isEntry_of_file file
            obtain ⟨start, inner⟩ := isBelow_siteAt (below absent List.mem_cons_self) found entry
            have present : disk.at? (home ++ [name]) ≠ none := by
              rw [← entry.find?, file]
              exact nofun
            have less := depthLeft_lt solid start entry present new
            exact deeper (Path.trimmed_trimmed before) (allBelow_declared inner _)
              (Nat.lt_of_lt_of_le less (Nat.le_of_lt_succ enough))
        refine .absent inner (ih others (Nat.lt_of_le_of_lt (depthLeft_mono ?_ kept) enough))
        exact ((grows_openFile disk reading absent).trans inner.grows).visited

end Reading

namespace SourceTree

/-- The site of a crate's root. -/
def start (directory root : Path) : Site :=
  ⟨[], some root, directory, directory⟩

/-- How far a crate has been read when its root is found. -/
def opened (root : Path) : Reading :=
  ⟨[], [root], [root.steps]⟩

/-- A crate that is read from its root through all modules. -/
structure IsRead (disk : Disk) (directory root : Path) (text : String) (last : Reading) : Prop where
  found : (rootNames.map (Path.join directory)).find? disk.isFile = some root
  contents : disk.readText root = .ok text
  run : Reading.Reads disk (opened root) ((start directory root).declared text) last

/-- A crate is loaded exactly as far as its modules go. -/
theorem load_eq_ok {disk : Disk} {directory : Path} {tree : SourceTree} :
    load disk directory = .ok tree ↔
      ∃ root text last, IsRead disk directory root text last ∧
        tree = ⟨last.modules, last.files⟩ := by
  have run (root : Path) (text : String) :
      Reading.Reads disk (opened root) ((start directory root).declared text)
        (Reading.follow disk (depthOf disk) (opened root)
          ((start directory root).declared text)) := by
    have below : Site.IsBelow [] (start directory root) :=
      ⟨.inr List.nil_prefix, .inr List.nil_prefix⟩
    have solid : Path.trimmed [] = [] := rfl
    refine Reading.reads_follow _ solid (allBelow_declared below text) ?_
    have names := Reading.unvisited_le disk [] (opened root).visited
    simp only [Reading.depthLeft, depthOf, List.length_nil, Nat.sub_zero, Nat.mul_succ,
      Nat.mul_comm Disk.longestPath]
    omega
  unfold load
  constructor
  · intro loaded
    split at loaded
    · cases loaded
    · rename_i root found
      split at loaded
      · cases loaded
      · rename_i text contents
        cases loaded
        exact ⟨root, text, _, ⟨found, contents, run root text⟩, rfl⟩
  · rintro ⟨root, text, last, read, rfl⟩
    have whole := (run root text).unique read.run
    simp only [read.found, read.contents]
    rw [← whole]
    rfl

end SourceTree

end ValueObjects
