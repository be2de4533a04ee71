import ValueObjects.Proofs.ModuleFiles
import ValueObjects.Proofs.SourceOrder
/-!
Which modules of a crate are read. The language reads a module from its file whatever else was read
from that file, and a crate is read so exactly if no two of its modules share a file.
-/
namespace ValueObjects

/-- How the modules that were read compare with those of the language: all are kept but those whose
files were visited before, with what is beneath them. -/
inductive Kept (disk : Disk) : List (List String) → List (List String × List Item) → List Path →
    List (List String × List Item) → List (List String) → Prop where
  | done : Kept disk seen [] [] [] seen
  | broken (there : disk.isFile file = true) (unread : disk.items? file = none)
      (later : Kept disk (seen ++ [file.steps]) modules files kept last) :
      Kept disk seen modules files kept last
  | inside (inner : Kept disk seen innerModules innerFiles innerKept between)
      (later : Kept disk between modules files kept last) :
      Kept disk seen (module :: (innerModules ++ modules)) (innerFiles ++ files)
        (module :: (innerKept ++ kept)) last
  | file (new : file.steps ∉ seen)
      (inner : Kept disk (seen ++ [file.steps]) innerModules innerFiles innerKept between)
      (later : Kept disk between modules files kept last) :
      Kept disk seen (module :: (innerModules ++ modules)) (file :: (innerFiles ++ files))
        (module :: (innerKept ++ kept)) last
  | again (before : file.steps ∈ seen) (later : Kept disk seen modules files kept last) :
      Kept disk seen (module :: (innerModules ++ modules)) (file :: (innerFiles ++ files)) kept last

/-- Whether all files are source files, and none of them was visited. -/
def Fresh (disk : Disk) (seen : List (List String)) (files : List Path) : Prop :=
  ∀ file ∈ files, disk.isFile file = true ∧ disk.items? file ≠ none ∧ file.steps ∉ seen

/-- A module of the language as one that was read. -/
def shown (module : List String × List Item) : Option String × List Item :=
  (SourceModule.pathOf module.1, ownItems module.2)

/-- Whether the file of a module beside those of its siblings is called `mod.rs`. -/
def SharesName (name : String) : Prop :=
  Path.fileName? (Naming.unraw name ++ ".rs") = some "mod.rs"

instance : DecidablePred SharesName := fun _ => inferInstanceAs (Decidable (_ = _))

/-- Whether the files of modules are told apart from those called `mod.rs`. -/
def HaveOwnNames (modules : List (List String × List Item)) : Prop :=
  ∀ module ∈ modules, ∀ name ∈ module.1.getLast?, ¬SharesName name

theorem HaveOwnNames.of_steps (same : modules.map (·.1) = paths)
    (named : ∀ steps ∈ paths, ∀ name ∈ steps.getLast?, ¬SharesName name) :
    HaveOwnNames modules := by
  subst same
  exact List.forall_mem_map.mp named

variable {disk : Disk} {ground next : Ground} {name : String} {path? : Option Path} {file : Path}

namespace Item

theorem declaredIn_eq_flatMap (site : Site) (items : List Item) :
    declaredIn site items = items.flatMap (declared site) := by
  induction items with
  | nil => rfl
  | cons item rest ih => rw [declaredIn, ih, List.flatMap_cons]

theorem declared_of_own {item : Item} (plain : item.IsOwn) (site : Site) :
    declared site item = [] := by
  rw [declared]
  exact plain

theorem declared_of_test (guarded : isTestOnly attrs = true) (site : Site) :
    declared site (.module attrs name content) = [] := by
  cases content <;> rw [declared, if_pos guarded]

theorem declared_of_inside (built : isTestOnly attrs = false)
    (unplaced : pathAttribute? attrs = none) (site : Site) :
    declared site (.module attrs name (some items)) =
      .present ((site.inside name none).module items) ::
        declaredIn (site.inside name none) items := by
  rw [declared, if_neg (by simp [built]), unplaced]

theorem declared_of_absent (built : isTestOnly attrs = false) (site : Site) :
    declared site (.module attrs name none) = [.absent ⟨site, name, pathAttribute? attrs⟩] := by
  rw [declared, if_neg (by simp [built])]

end Item

namespace Ground

/-- The file of a module beside those of its siblings is called by its own name. -/
theorem fileName_beside (ground : Ground) (name : String) :
    (ground.beside name).fileName? = Path.fileName? (Naming.unraw name ++ ".rs") := by
  cases rooted : Path.isRooted (Naming.unraw name ++ ".rs") with
  | true => simp [beside, Path.join, rooted]
  | false =>
    obtain ⟨before, last, spelled⟩ := Disk.pieces_concat (Naming.unraw name)
    have cut : Path.pieces (Naming.unraw name ++ ".rs") = before ++ [last ++ ".rs"] :=
      Path.pieces_append_plain (by decide) spelled
    have steps : Path.steps (Naming.unraw name ++ ".rs") =
        before.filter (!Path.isIdle ·) ++ [last ++ ".rs"] := by
      rw [Path.steps_of_relative rooted, cut, List.filter_append, List.filter_singleton,
        Path.moves_file]
      rfl
    rw [beside, Path.fileName?, Path.fileName?, Path.steps_join rooted, steps, ← List.append_assoc,
      List.getLast?_concat, List.getLast?_concat]

theorem Leads.siteAt (leads : ground.Leads disk name path? file next) (own : ¬SharesName name)
    (file? : Option Path) :
    Absent.siteAt ⟨ground.site file?, name, path?⟩ file = next.site (some file) := by
  cases leads with
  | given there => simp [Absent.siteAt, Absent.ownsDirectory, site]
  | beside there =>
    have other : (ground.beside name).fileName? ≠ some "mod.rs" := by
      rw [fileName_beside]
      exact own
    simp [Absent.siteAt, Absent.ownsDirectory, site, other, Site.directoryOf]
  | within free there =>
    have called : (ground.within name).fileName? = some "mod.rs" := by
      rw [Ground.within, Path.fileName?, Path.steps_join_name (by decide) (by decide),
        List.getLast?_concat]
    simp [Absent.siteAt, Absent.ownsDirectory, site, called]

end Ground

/-- The files are source files, and none is read beneath itself. -/
theorem Loads.fresh (loads : Loads disk above ground items modules files) :
    Fresh disk above files := by
  induction loads with
  | done => exact nofun
  | own _ _ ih => exact ih
  | test _ _ ih => exact ih
  | inside _ _ _ _ ihInner ihLater =>
    intro file member
    rcases List.mem_append.mp member with inner | later
    · exact ihInner file inner
    · exact ihLater file later
  | missing _ _ _ ih => exact ih
  | broken _ _ _ _ _ ih => exact ih
  | circular _ _ _ _ ih => exact ih
  | file _ _ leads new read _ _ ihInner ihLater =>
    intro other member
    rcases List.mem_cons.mp member with rfl | member
    · exact ⟨leads.isFile, by simp [read], new⟩
    · rcases List.mem_append.mp member with inner | later
      · obtain ⟨there, parsed, apart⟩ := ihInner other inner
        exact ⟨there, parsed, fun below => apart (List.mem_cons_of_mem _ below)⟩
      · exact ihLater other later
namespace Fresh

variable {seen : List (List String)} {files later : List Path}

theorem append_iff : Fresh disk seen (files ++ later) ↔
    Fresh disk seen files ∧ Fresh disk seen later :=
  List.forall_mem_append

theorem cons_iff : Fresh disk seen (file :: files) ↔
    (disk.isFile file = true ∧ disk.items? file ≠ none ∧ file.steps ∉ seen) ∧
      Fresh disk seen files :=
  List.forall_mem_cons

/-- A visit to another file leaves files fresh. -/
theorem visit (fresh : Fresh disk seen files) (other : file.steps ∉ files.map Path.steps) :
    Fresh disk (seen ++ [file.steps]) files := by
  intro next member
  obtain ⟨there, parsed, new⟩ := fresh next member
  refine ⟨there, parsed, fun present => ?_⟩
  rcases List.mem_append.mp present with before | own
  · exact new before
  · exact other (List.mem_singleton.mp own ▸ List.mem_map_of_mem member)

/-- A file that is no source file is none of the fresh ones, under no path. -/
theorem steps_of_broken (fresh : Fresh disk seen files) (there : disk.isFile file = true)
    (unread : disk.items? file = none) : file.steps ∉ files.map Path.steps := by
  intro member
  obtain ⟨other, present, same⟩ := List.mem_map.mp member
  obtain ⟨otherThere, parsed, _⟩ := fresh other present
  exact parsed ((Disk.items?_of_steps otherThere there same).trans unread)

end Fresh

namespace Kept

theorem grows (compared : Kept disk seen modules files kept last) : seen ⊆ last := by
  induction compared with
  | done => exact List.Subset.refl _
  | broken _ _ _ ih => exact List.Subset.trans (List.subset_append_left _ _) ih
  | inside _ _ ihInner ihLater => exact List.Subset.trans ihInner ihLater
  | file _ _ _ ihInner ihLater =>
    exact List.Subset.trans (List.subset_append_left _ _) (List.Subset.trans ihInner ihLater)
  | again _ _ ih => exact ih

/-- Reading modules leaves the files of others fresh. -/
theorem fresh (compared : Kept disk seen modules files kept last) (fresh : Fresh disk seen later)
    (apart : ∀ file ∈ later, file.steps ∉ files.map Path.steps) : Fresh disk last later := by
  induction compared with
  | done => exact fresh
  | broken there unread _ ih => exact ih (fresh.visit (fresh.steps_of_broken there unread)) apart
  | inside _ _ ihInner ihLater =>
    simp only [List.map_append, List.mem_append, not_or] at apart
    have between := ihInner fresh fun file member => (apart file member).1
    exact ihLater between fun file member => (apart file member).2
  | file _ _ _ ihInner ihLater =>
    simp only [List.map_cons, List.map_append, List.mem_cons, List.mem_append, not_or] at apart
    have visited := fresh.visit fun member => by
      obtain ⟨other, present, same⟩ := List.mem_map.mp member
      exact (apart other present).1 same
    have between := ihInner visited fun file member => (apart file member).2.1
    exact ihLater between fun file member => (apart file member).2.2
  | again _ _ ih =>
    simp only [List.map_cons, List.map_append, List.mem_cons, List.mem_append, not_or] at apart
    exact ih fresh fun file member => (apart file member).2.2

/-- All modules are kept if each file is that of one of them only, and none was visited. -/
theorem whole (compared : Kept disk seen modules files kept last) (fresh : Fresh disk seen files)
    (apart : (files.map Path.steps).Nodup) : kept = modules := by
  induction compared with
  | done => rfl
  | broken there unread _ ih =>
    exact ih (fresh.visit (fresh.steps_of_broken there unread)) apart
  | inside inner _ ihInner ihLater =>
    rw [List.map_append, List.nodup_append] at apart
    obtain ⟨innerApart, laterApart, disjoint⟩ := apart
    obtain ⟨innerFresh, laterFresh⟩ := Fresh.append_iff.mp fresh
    have between := inner.fresh laterFresh fun file member before =>
      disjoint _ before _ (List.mem_map_of_mem member) rfl
    rw [ihInner innerFresh innerApart, ihLater between laterApart]
  | file _ inner _ ihInner ihLater =>
    rw [List.map_cons, List.map_append, List.nodup_cons, List.mem_append, not_or,
      List.nodup_append] at apart
    obtain ⟨⟨notInner, notLater⟩, innerApart, laterApart, disjoint⟩ := apart
    obtain ⟨innerFresh, laterFresh⟩ := Fresh.append_iff.mp (Fresh.cons_iff.mp fresh).2
    have between := inner.fresh (laterFresh.visit notLater) fun file member before =>
      disjoint _ before _ (List.mem_map_of_mem member) rfl
    rw [ihInner (innerFresh.visit notInner) innerApart, ihLater between laterApart]
  | again before _ _ => exact ((Fresh.cons_iff.mp fresh).1.2.2 before).elim

theorem sublist (compared : Kept disk seen modules files kept last) : kept.Sublist modules := by
  induction compared with
  | done => exact .slnil
  | broken _ _ _ ih => exact ih
  | inside _ _ ihInner ihLater => exact (ihInner.append ihLater).cons_cons _
  | file _ _ _ ihInner ihLater => exact (ihInner.append ihLater).cons_cons _
  | again _ _ ih => exact (ih.trans (List.sublist_append_right _ _)).cons _

/-- If all modules are kept, each file is that of one of them only, and none was visited. -/
theorem apart (compared : Kept disk seen modules files kept last)
    (count : kept.length = modules.length) :
    (files.map Path.steps).Nodup ∧
      (∀ steps ∈ files.map Path.steps, steps ∉ seen ∧ steps ∈ last) := by
  induction compared with
  | done => exact ⟨.nil, nofun⟩
  | broken _ _ _ ih =>
    obtain ⟨nodup, new⟩ := ih count
    refine ⟨nodup, fun steps member => ?_⟩
    obtain ⟨notSeen, visited⟩ := new steps member
    exact ⟨fun before => notSeen (List.mem_append_left _ before), visited⟩
  | inside inner later ihInner ihLater =>
    have innerLess := inner.sublist.length_le
    have laterLess := later.sublist.length_le
    simp only [List.length_cons, List.length_append] at count
    obtain ⟨innerNodup, innerNew⟩ := ihInner (by omega)
    obtain ⟨laterNodup, laterNew⟩ := ihLater (by omega)
    have grown := inner.grows
    have further := later.grows
    simp only [List.map_append, List.nodup_append, List.mem_append]
    grind
  | file new inner later ihInner ihLater =>
    have innerLess := inner.sublist.length_le
    have laterLess := later.sublist.length_le
    simp only [List.length_cons, List.length_append] at count
    obtain ⟨innerNodup, innerNew⟩ := ihInner (by omega)
    obtain ⟨laterNodup, laterNew⟩ := ihLater (by omega)
    have grown := inner.grows
    have further := later.grows
    simp only [List.map_cons, List.map_append, List.nodup_cons, List.nodup_append, List.mem_cons,
      List.mem_append]
    grind
  | again _ later _ =>
    have less := later.sublist.length_le
    simp only [List.length_cons, List.length_append] at count
    omega

end Kept

namespace Reading

variable {reading last : Reading} {absent : Absent}

theorem modules_add (reading : Reading) (module : SourceModule) :
    (reading.add module).modules = reading.modules ++ [module] :=
  rfl

theorem visited_add (reading : Reading) (module : SourceModule) :
    (reading.add module).visited = reading.visited :=
  rfl

/-- Reading on through declarations is reading through the first and then through the others. -/
theorem reads_append {declared others : List Declared} :
    Reads disk reading (declared ++ others) last ↔
      ∃ between, Reads disk reading declared between ∧ Reads disk between others last := by
  constructor
  · intro run
    induction declared generalizing reading with
    | nil => exact ⟨reading, .done, run⟩
    | cons next rest ih =>
      cases run with
      | present later =>
        obtain ⟨between, first, second⟩ := ih later
        exact ⟨between, .present first, second⟩
      | absent inner later =>
        obtain ⟨between, first, second⟩ := ih later
        exact ⟨between, .absent inner first, second⟩
  · rintro ⟨between, first, second⟩
    induction first with
    | done => exact second
    | present _ ih => exact .present (ih second)
    | absent inner _ _ ih => exact .absent inner (ih second)

theorem openFile_seen (found : absent.candidates.find? disk.isFile = some file)
    (before : file.steps ∈ reading.visited) : openFile disk reading absent = (reading, []) :=
  (Opening.seen found before).eq

/-- Opening a file that is no source file marks it as visited. -/
theorem openFile_broken (found : absent.candidates.find? disk.isFile = some file)
    (new : file.steps ∉ reading.visited) (unread : disk.items? file = none) :
    ∃ files, openFile disk reading absent =
      (⟨reading.modules, files, reading.visited ++ [file.steps]⟩, []) := by
  cases contents : disk.readText file with
  | error problem => exact ⟨reading.files, (Opening.unreadable found new contents).eq⟩
  | ok text =>
    have parsed := (Disk.items?_of_text contents).symm.trans unread
    have opened := (Opening.read found new contents).eq
    rw [Site.declared_of_none parsed] at opened
    exact ⟨reading.files ++ [file], opened⟩

/-- Opening a source file gives its module and those in it. -/
theorem openFile_new (found : absent.candidates.find? disk.isFile = some file)
    (new : file.steps ∉ reading.visited) (read : disk.items? file = some items) :
    openFile disk reading absent =
      (⟨reading.modules, reading.files ++ [file], reading.visited ++ [file.steps]⟩,
        .present ((absent.siteAt file).module items) ::
          Item.declaredIn (absent.siteAt file) items) := by
  obtain ⟨text, contents, parsed⟩ := Disk.items?_eq_some.mp read
  have opened := (Opening.read found new contents).eq
  rw [Site.declared_of_items parsed] at opened
  exact opened

/-- What opening a file gives no modules for is passed over. -/
theorem Reads.pass (run : Reads disk reading (.absent absent :: rest) last)
    (opened : openFile disk reading absent = (between, [])) : Reads disk between rest last := by
  cases run with
  | absent inner later =>
    rw [opened] at inner
    rwa [inner.eq_of_nil] at later

/-- The contents of a module, of those inside it and of those after it are put one after another. -/
theorem contents_nested {between : Reading} {module : SourceModule}
    {head : List String × List Item} (same : module.content = shown head)
    (added : between.modules.map SourceModule.content =
      (reading.add module).modules.map SourceModule.content ++ inside.map shown)
    (laterAdded : last.modules.map SourceModule.content =
      between.modules.map SourceModule.content ++ kept.map shown) :
    last.modules.map SourceModule.content =
      reading.modules.map SourceModule.content ++ (head :: (inside ++ kept)).map shown := by
  rw [laterAdded, added, modules_add, List.map_append, List.map_singleton, same, List.map_cons,
    List.map_append]
  simp only [List.append_assoc, List.cons_append, List.nil_append]

end Reading

theorem Ground.inside_site (ground : Ground) (file? : Option Path) (name : String) :
    (ground.site file?).inside name none = (ground.inside name).site file? :=
  rfl

/-- A module of a ground is shown as the language has it. -/
theorem Ground.content_module (ground : Ground) (file? : Option Path) (items : List Item) :
    ((ground.site file?).module items).content = shown (ground.steps, items) :=
  rfl

/-- Reading a crate keeps the modules of the language but those of files that were visited. -/
theorem Loads.kept {reading last : Reading}
    (loads : Loads disk above ground items modules files)
    (own : HaveOwnNames modules)
    (beneath : above ⊆ reading.visited)
    (run : Reading.Reads disk reading (Item.declaredIn (ground.site file?) items) last) :
    ∃ kept, Kept disk reading.visited modules files kept last.visited ∧
      last.modules.map SourceModule.content =
        reading.modules.map SourceModule.content ++ kept.map shown := by
  induction loads generalizing file? reading last with
  | done =>
    cases run
    exact ⟨[], .done, by simp⟩
  | own plain _ ih =>
    rw [Item.declaredIn, Item.declared_of_own plain, List.nil_append] at run
    exact ih own beneath run
  | test guarded _ ih =>
    rw [Item.declaredIn, Item.declared_of_test guarded, List.nil_append] at run
    exact ih own beneath run
  | inside built unplaced _ _ ihInner ihLater =>
    obtain ⟨-, own⟩ := List.forall_mem_cons.mp own
    obtain ⟨ownInner, ownLater⟩ := List.forall_mem_append.mp own
    rw [Item.declaredIn, Item.declared_of_inside built unplaced, Ground.inside_site] at run
    obtain ⟨between, first, second⟩ := Reading.reads_append.mp run
    cases first with
    | present inner =>
      obtain ⟨innerKept, compared, added⟩ :=
        ihInner ownInner (by rwa [Reading.visited_add]) inner
      rw [Reading.visited_add] at compared
      obtain ⟨kept, laterCompared, laterAdded⟩ :=
        ihLater ownLater (List.Subset.trans beneath compared.grows) second
      exact ⟨_, .inside compared laterCompared,
        Reading.contents_nested (Ground.content_module _ file? _) added laterAdded⟩
  | missing built nowhere _ ih =>
    rw [Item.declaredIn, Item.declared_of_absent built] at run
    exact ih own beneath (run.pass (Reading.Opening.missing (Ground.not_found nowhere file?)).eq)
  | broken file built leads unread _ ih =>
    rw [Item.declaredIn, Item.declared_of_absent built] at run
    by_cases before : file.steps ∈ reading.visited
    · exact ih own beneath (run.pass (Reading.openFile_seen (leads.found file?) before))
    · obtain ⟨files, opened⟩ := Reading.openFile_broken (leads.found file?) before unread
      obtain ⟨kept, compared, added⟩ :=
        ih own (List.Subset.trans beneath (List.subset_append_left _ _)) (run.pass opened)
      exact ⟨kept, .broken leads.isFile unread compared, added⟩
  | circular built leads again _ ih =>
    rw [Item.declaredIn, Item.declared_of_absent built] at run
    exact ih own beneath (run.pass (Reading.openFile_seen (leads.found file?) (beneath again)))
  | file file built leads new read _ _ ihInner ihLater =>
    obtain ⟨ownHere, own⟩ := List.forall_mem_cons.mp own
    obtain ⟨ownInner, ownLater⟩ := List.forall_mem_append.mp own
    rw [Item.declaredIn, Item.declared_of_absent built] at run
    by_cases before : file.steps ∈ reading.visited
    · obtain ⟨kept, compared, added⟩ := ihLater ownLater beneath
        (run.pass (Reading.openFile_seen (leads.found file?) before))
      exact ⟨kept, .again before compared, added⟩
    · cases run with
      | absent inner later =>
        have named := ownHere _ List.getLast?_concat
        rw [Reading.openFile_new (leads.found file?) before read, leads.siteAt named] at inner
        cases inner with
        | present inner =>
          have deeper := List.cons_subset.mpr ⟨List.mem_append_right reading.visited
            (List.mem_singleton_self file.steps),
            List.Subset.trans beneath (List.subset_append_left _ _)⟩
          obtain ⟨innerKept, compared, added⟩ :=
            ihInner ownInner (by rwa [Reading.visited_add]) inner
          rw [Reading.visited_add] at compared
          have further := List.Subset.trans (List.subset_append_left _ _) compared.grows
          obtain ⟨kept, laterCompared, laterAdded⟩ :=
            ihLater ownLater (List.Subset.trans beneath further) later
          refine ⟨_, .file before compared laterCompared,
            Reading.contents_nested ?_ added laterAdded⟩
          rw [← leads.steps]
          exact Ground.content_module _ (some file) _

/-- A crate whose root is a source file is loaded. -/
theorem IsCrate.loaded (crate : IsCrate disk directory root items) :
    ∃ text tree last, Grammar.sourceItems? text = some items ∧
      SourceTree.IsRead disk directory root text last ∧
      SourceTree.load disk directory = .ok tree ∧ tree = ⟨last.modules, last.files⟩ := by
  obtain ⟨text, contents, parsed⟩ := Disk.items?_eq_some.mp crate.read
  have ends : ∃ tree, SourceTree.load disk directory = .ok tree := by
    simp only [SourceTree.load, crate.found, contents]
    exact ⟨_, rfl⟩
  obtain ⟨tree, loaded⟩ := ends
  obtain ⟨other, otherText, last, read, same⟩ := SourceTree.load_eq_ok.mp loaded
  cases Option.some.inj (read.found.symm.trans crate.found)
  cases Except.ok.inj (read.contents.symm.trans contents)
  exact ⟨text, tree, last, parsed, read, loaded, same⟩

/-- A crate is read with its root, and of the modules below with all but those of files that were
visited. -/
theorem IsCrate.kept (crate : IsCrate disk directory root items)
    (loads : Loads disk [root.steps] (.ofRoot directory) items modules files)
    (own : HaveOwnNames modules)
    (loaded : SourceTree.load disk directory = .ok tree) :
    ∃ kept last, Kept disk [root.steps] modules files kept last ∧
      tree.contents = (([], items) :: kept).map shown := by
  obtain ⟨text, other, last, parsed, read, otherLoaded, rfl⟩ := crate.loaded
  cases Except.ok.inj (loaded.symm.trans otherLoaded)
  have run := read.run
  have start : SourceTree.start directory root = (Ground.ofRoot directory).site (some root) := rfl
  rw [start, Site.declared_of_items parsed] at run
  cases run with
  | present later =>
    have beneath : [root.steps] ⊆ (SourceTree.opened root).visited := List.Subset.refl _
    obtain ⟨kept, compared, added⟩ := loads.kept own (by rwa [Reading.visited_add]) later
    rw [Reading.visited_add] at compared
    refine ⟨kept, last.visited, compared, ?_⟩
    rw [SourceTree.contents, added, Reading.modules_add, List.map_append, List.map_singleton,
      Ground.content_module, List.map_cons]
    rfl

/-- A crate is read with the modules of the language, in their order, but for those of files that
are read for other modules, with what is beneath them. So it has them all exactly if each file is
that of one module only. -/
theorem load_modules (crate : IsCrate disk directory root items)
    (unplaced : disk.isUnplaced = true) :
    ∃ tree, SourceTree.load disk directory = .ok tree ∧
      (∃ modules files, Loads disk [root.steps] (.ofRoot directory) items modules files) ∧
      ∀ modules files, Loads disk [root.steps] (.ofRoot directory) items modules files →
        HaveOwnNames modules →
        tree.contents.Sublist ((([], items) :: modules).map shown) ∧
        (tree.contents = (([], items) :: modules).map shown ↔ (files.map Path.steps).Nodup) := by
  obtain ⟨_, tree, _, _, _, loaded, _⟩ := crate.loaded
  refine ⟨tree, loaded, crate.ends unplaced, fun modules files loads own => ?_⟩
  obtain ⟨kept, last, compared, contents⟩ := crate.kept loads own loaded
  constructor
  · rw [contents]
    exact (compared.sublist.cons_cons _).map shown
  · constructor
    · intro same
      have count := congrArg List.length (contents.symm.trans same)
      simp only [List.map_cons, List.length_cons, List.length_map] at count
      exact (compared.apart (by omega)).1
    · intro apart
      rw [contents, compared.whole loads.fresh apart]

/-- Whether declarations are those of modules in files of their own, with these names and paths. -/
def declaresFiles : List (String × Option Path) → List Item → Bool
  | [], [] => true
  | (name, path?) :: named, .module attrs own none :: rest =>
    own == name && !isTestOnly attrs && pathAttribute? attrs == path? && declaresFiles named rest
  | _, _ => false

theorem items_of_declaresFiles {named : List (String × Option Path)}
    (declared : declaresFiles ((own, given?) :: named) items = true) :
    ∃ attrs rest, items = .module attrs own none :: rest ∧ isTestOnly attrs = false ∧
      pathAttribute? attrs = given? ∧ declaresFiles named rest = true := by
  match items, declared with
  | .module attrs _ none :: rest, declared =>
    simp only [declaresFiles, Bool.and_eq_true, beq_iff_eq, Bool.not_eq_true'] at declared
    obtain ⟨⟨⟨rfl, built⟩, placed⟩, later⟩ := declared
    exact ⟨attrs, rest, rfl, built, placed, later⟩

theorem nil_of_declaresFiles (declared : declaresFiles [] items = true) : items = [] := by
  match items, declared with
  | [], _ => rfl

theorem Disk.items_of_declaresFile
    (declared : (disk.items? file).any (declaresFiles [(own, given?)]) = true) :
    ∃ attrs, disk.items? file = some [.module attrs own none] ∧ isTestOnly attrs = false ∧
      pathAttribute? attrs = given? := by
  obtain ⟨items, read, declared⟩ := (Option.any_eq_true _ _).mp declared
  obtain ⟨attrs, rest, rfl, built, placed, later⟩ := items_of_declaresFiles declared
  rw [nil_of_declaresFiles later] at read
  exact ⟨attrs, read, built, placed⟩

theorem Disk.items_of_declaresNone (declared : (disk.items? file).any (declaresFiles []) = true) :
    disk.items? file = some [] := by
  obtain ⟨items, read, declared⟩ := (Option.any_eq_true _ _).mp declared
  rw [read, nil_of_declaresFiles declared]

/-- A crate with a module beside its root, one from another directory, and one beside that. -/
def placedDisk : Disk :=
  ⟨[(["src"], .directory), (["src", "lib.rs"], .file "mod a;".toUTF8),
    (["src", "a.rs"], .file "#[path = \"odd/c.rs\"] mod b;".toUTF8), (["src", "odd"], .directory),
    (["src", "odd", "c.rs"], .file "mod d;".toUTF8), (["src", "odd", "d.rs"], .file "".toUTF8)]⟩

theorem load_modules_placed :
    ∃ items modules files tree, IsCrate placedDisk "src" "src/lib.rs" items ∧
      placedDisk.isUnplaced = true ∧
      Loads placedDisk [Path.steps "src/lib.rs"] (.ofRoot "src") items modules files ∧
      SourceTree.load placedDisk "src" = .ok tree ∧
      modules.map (·.1) = [["a"], ["a", "b"], ["a", "b", "d"]] ∧
      tree.contents = (([], items) :: modules).map shown := by
  obtain ⟨inRoot, inA, inB, inD⟩ :
      (placedDisk.items? "src/lib.rs").any (declaresFiles [("a", none)]) = true ∧
      (placedDisk.items? "src/a.rs").any (declaresFiles [("b", some "odd/c.rs")]) = true ∧
      (placedDisk.items? "src/odd/c.rs").any (declaresFiles [("d", none)]) = true ∧
      (placedDisk.items? "src/odd/d.rs").any (declaresFiles []) = true := by decide +kernel
  obtain ⟨a, readRoot, builtA, placedA⟩ := Disk.items_of_declaresFile inRoot
  obtain ⟨b, readA, builtB, placedB⟩ := Disk.items_of_declaresFile inA
  obtain ⟨d, readB, builtD, placedD⟩ := Disk.items_of_declaresFile inB
  have readD := Disk.items_of_declaresNone inD
  obtain ⟨root, fileA, fileB, fileD, newA, newB, newD, unplaced, apart⟩ :
      (SourceTree.rootNames.map (Path.join "src")).find? placedDisk.isFile = some "src/lib.rs" ∧
      placedDisk.isFile "src/a.rs" = true ∧ placedDisk.isFile "src/odd/c.rs" = true ∧
      placedDisk.isFile "src/odd/d.rs" = true ∧
      Path.steps "src/a.rs" ∉ [Path.steps "src/lib.rs"] ∧
      Path.steps "src/odd/c.rs" ∉ [Path.steps "src/a.rs", Path.steps "src/lib.rs"] ∧
      Path.steps "src/odd/d.rs" ∉
        [Path.steps "src/odd/c.rs", Path.steps "src/a.rs", Path.steps "src/lib.rs"] ∧
      placedDisk.isUnplaced = true ∧
      (["src/a.rs", "src/odd/c.rs", "src/odd/d.rs"].map Path.steps).Nodup := by decide +kernel
  have leadsA : (Ground.ofRoot "src").Leads placedDisk "a" none "src/a.rs"
      ⟨["a"], "src/a", "src"⟩ := .beside fileA
  have leadsB : Ground.Leads placedDisk ⟨["a"], "src/a", "src"⟩ "b" (some "odd/c.rs") "src/odd/c.rs"
      ⟨["a", "b"], "src/odd", "src/odd"⟩ := .given fileB
  have leadsD : Ground.Leads placedDisk ⟨["a", "b"], "src/odd", "src/odd"⟩ "d" none "src/odd/d.rs"
      ⟨["a", "b", "d"], "src/odd/d", "src/odd"⟩ := .beside fileD
  have loads : Loads placedDisk [Path.steps "src/lib.rs"] (.ofRoot "src") _ _ _ :=
    .file _ builtA (leadsA.attribute placedA) newA readA
      (.file _ builtB (leadsB.attribute placedB) newB readB
        (.file _ builtD (leadsD.attribute placedD) newD readD .done .done)
        .done)
      .done
  have crate : IsCrate placedDisk "src" "src/lib.rs" [.module a "a" none] := ⟨root, readRoot⟩
  obtain ⟨tree, loaded, _, same⟩ := load_modules crate unplaced
  have named : ∀ steps ∈ [["a"], ["a", "b"], ["a", "b", "d"]], ∀ name ∈ steps.getLast?,
      ¬SharesName name := by decide +kernel
  obtain ⟨_, whole⟩ := same _ _ loads (.of_steps rfl named)
  exact ⟨_, _, _, tree, crate, unplaced, loads, loaded, rfl, whole.mpr apart⟩

/-- A crate with two modules of one file. -/
def sharingDisk : Disk :=
  ⟨[(["src"], .directory),
    (["src", "lib.rs"], .file "#[path = \"m.rs\"] mod a; #[path = \"m.rs\"] mod b;".toUTF8),
    (["src", "m.rs"], .file "".toUTF8)]⟩

/-- A second module of the same file is left out. -/
theorem shared_file_read_once :
    ∃ items modules files tree, IsCrate sharingDisk "src" "src/lib.rs" items ∧
      sharingDisk.isUnplaced = true ∧
      Loads sharingDisk [Path.steps "src/lib.rs"] (.ofRoot "src") items modules files ∧
      SourceTree.load sharingDisk "src" = .ok tree ∧
      modules = [(["a"], []), (["b"], [])] ∧ tree.contents.map (·.1) = [none, some "a"] := by
  obtain ⟨inRoot, inBoth, loaded⟩ :
      (sharingDisk.items? "src/lib.rs").any
        (declaresFiles [("a", some "m.rs"), ("b", some "m.rs")]) = true ∧
      (sharingDisk.items? "src/m.rs").any (declaresFiles []) = true ∧
      ((SourceTree.load sharingDisk "src").toOption.any fun tree =>
        tree.contents.map (·.1) == [none, some "a"]) = true := by decide +kernel
  obtain ⟨items, read, declared⟩ := (Option.any_eq_true _ _).mp inRoot
  obtain ⟨a, _, rfl, builtA, placedA, rest⟩ := items_of_declaresFiles declared
  obtain ⟨b, _, rfl, builtB, placedB, rest⟩ := items_of_declaresFiles rest
  obtain rfl := nil_of_declaresFiles rest
  have inner := Disk.items_of_declaresNone inBoth
  obtain ⟨root, there, new, unplaced⟩ :
      (SourceTree.rootNames.map (Path.join "src")).find? sharingDisk.isFile = some "src/lib.rs" ∧
      sharingDisk.isFile "src/m.rs" = true ∧
      Path.steps "src/m.rs" ∉ [Path.steps "src/lib.rs"] ∧
      sharingDisk.isUnplaced = true := by decide +kernel
  have leads (name : String) : (Ground.ofRoot "src").Leads sharingDisk name (some "m.rs")
      "src/m.rs" ⟨[name], "src", "src"⟩ := .given there
  have loads : Loads sharingDisk [Path.steps "src/lib.rs"] (.ofRoot "src") _ _ _ :=
    .file _ builtA ((leads "a").attribute placedA) new inner .done
      (.file _ builtB ((leads "b").attribute placedB) new inner .done .done)
  obtain ⟨tree, ends, names⟩ := (Option.any_eq_true _ _).mp loaded
  exact ⟨_, _, _, tree, ⟨root, read⟩, unplaced, loads, toOption_eq_some.mp ends, rfl,
    beq_iff_eq.mp names⟩

/-- A crate with a module whose file beside the root is called `mod.rs`. -/
def rawDisk : Disk :=
  ⟨[(["src"], .directory), (["src", "lib.rs"], .file "mod r#mod;".toUTF8),
    (["src", "mod.rs"], .file "mod a;".toUTF8), (["src", "mod"], .directory),
    (["src", "mod", "a.rs"], .file "".toUTF8)]⟩

/-- The modules in a file called `mod.rs` after its own module are looked for in the wrong
directory. -/
theorem raw_mod_children_missed :
    ∃ items modules files tree, IsCrate rawDisk "src" "src/lib.rs" items ∧
      Loads rawDisk [Path.steps "src/lib.rs"] (.ofRoot "src") items modules files ∧
      SourceTree.load rawDisk "src" = .ok tree ∧
      modules.map (·.1) = [["r#mod"], ["r#mod", "a"]] ∧
      tree.contents.map (·.1) = [none, some "r#mod"] := by
  obtain ⟨inRoot, inMod, inA, loaded⟩ :
      (rawDisk.items? "src/lib.rs").any (declaresFiles [("r#mod", none)]) = true ∧
      (rawDisk.items? "src/mod.rs").any (declaresFiles [("a", none)]) = true ∧
      (rawDisk.items? "src/mod/a.rs").any (declaresFiles []) = true ∧
      ((SourceTree.load rawDisk "src").toOption.any fun tree =>
        tree.contents.map (·.1) == [none, some "r#mod"]) = true := by decide +kernel
  obtain ⟨mod, readRoot, builtMod, placedMod⟩ := Disk.items_of_declaresFile inRoot
  obtain ⟨a, readMod, builtA, placedA⟩ := Disk.items_of_declaresFile inMod
  have readA := Disk.items_of_declaresNone inA
  obtain ⟨root, fileMod, fileA, newMod, newA⟩ :
      (SourceTree.rootNames.map (Path.join "src")).find? rawDisk.isFile = some "src/lib.rs" ∧
      rawDisk.isFile "src/mod.rs" = true ∧ rawDisk.isFile "src/mod/a.rs" = true ∧
      Path.steps "src/mod.rs" ∉ [Path.steps "src/lib.rs"] ∧
      Path.steps "src/mod/a.rs" ∉ [Path.steps "src/mod.rs", Path.steps "src/lib.rs"] := by
    decide +kernel
  have leadsMod : (Ground.ofRoot "src").Leads rawDisk "r#mod" none "src/mod.rs"
      ⟨["r#mod"], "src/mod", "src"⟩ := .beside fileMod
  have leadsA : Ground.Leads rawDisk ⟨["r#mod"], "src/mod", "src"⟩ "a" none "src/mod/a.rs"
      ⟨["r#mod", "a"], "src/mod/a", "src/mod"⟩ := .beside fileA
  have loads : Loads rawDisk [Path.steps "src/lib.rs"] (.ofRoot "src") _ _ _ :=
    .file _ builtMod (leadsMod.attribute placedMod) newMod readMod
      (.file _ builtA (leadsA.attribute placedA) newA readA .done .done) .done
  obtain ⟨tree, ends, names⟩ := (Option.any_eq_true _ _).mp loaded
  exact ⟨_, _, _, tree, ⟨root, readRoot⟩, loads, toOption_eq_some.mp ends, rfl,
    beq_iff_eq.mp names⟩

end ValueObjects
