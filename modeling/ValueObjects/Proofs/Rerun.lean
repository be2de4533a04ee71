import ValueObjects.Build
import ValueObjects.Proofs.Crawl
import ValueObjects.Proofs.Storing

namespace ValueObjects

namespace Disk

variable {before after disk : Disk} {path other : Path}

/-- The same node stands at the path on both disks, or nothing on both. -/
def Agrees (before after : Disk) (path : Path) : Prop :=
  after.find? path = before.find? path

theorem Agrees.isFile (agrees : Agrees before after path) :
    after.isFile path = before.isFile path := by
  unfold Disk.isFile
  rw [agrees]

theorem Agrees.readText (agrees : Agrees before after path) (file : before.isFile path = true) :
    after.readText path = before.readText path := by
  obtain ⟨bytes, found⟩ := isFile_iff.mp file
  rw [Disk.readText, Disk.readText, readBytes_of_file found, readBytes_of_file (agrees.trans found)]

theorem Agrees.of_steps (agrees : Agrees before after other) (file : before.isFile path = true)
    (otherFile : before.isFile other = true) (same : path.steps = other.steps) :
    Agrees before after path := by
  obtain ⟨_, found⟩ := isFile_iff.mp file
  obtain ⟨front, home, name, entry⟩ := isEntry_of_file found
  obtain ⟨bytes, otherFound⟩ := isFile_iff.mp otherFile
  obtain ⟨_, _, _, otherEntry⟩ := isEntry_of_file otherFound
  obtain ⟨_, _, _, later⟩ := isEntry_of_file (agrees.trans otherFound)
  rw [Agrees, find?_of_steps later entry.split entry.short entry.relative entry.named same,
    find?_of_steps otherEntry entry.split entry.short entry.relative entry.named same]
  exact agrees

end Disk

private theorem find?_congr_until {test other : α → Bool} {items : List α}
    (passed : ∀ item ∈ items.takeWhile (!test ·), other item = test item)
    (found : ∀ item, items.find? test = some item → other item = test item) :
    items.find? other = items.find? test := by
  induction items with
  | nil => rfl
  | cons item rest ih =>
    cases held : test item with
    | true =>
      have here := found item (by simp [held])
      simp [held, here]
    | false =>
      have here := passed item (by simp [held])
      rw [List.find?_cons_of_neg (by simp [here, held]), List.find?_cons_of_neg (by simp [held])]
      refine ih (fun later member => passed later ?_) fun later result => found later ?_
      · simp [held, member]
      · simpa [held] using result

namespace Reading

/-- The paths that a module's file is looked for at in vain: those before the file that is found,
and that one if it cannot be read. -/
def soughtAt (disk : Disk) (reading : Reading) (absent : Absent) : List Path :=
  absent.candidates.takeWhile (!disk.isFile ·) ++
    match absent.candidates.find? disk.isFile with
    | some file =>
      if reading.visited.contains file.steps then []
      else match disk.readText file with
        | .ok _ => []
        | .error _ => [file]
    | none => []

/-- The paths that are looked for in vain while reading on through modules. -/
inductive Seeks (disk : Disk) : Reading → List Declared → Path → Prop where
  | present (later : Seeks disk (reading.add module) rest path) :
      Seeks disk reading (.present module :: rest) path
  | here (sought : path ∈ soughtAt disk reading absent) :
      Seeks disk reading (.absent absent :: rest) path
  | inner
      (sought : Seeks disk (openFile disk reading absent).1 (openFile disk reading absent).2 path) :
      Seeks disk reading (.absent absent :: rest) path
  | later
      (inner : Reads disk (openFile disk reading absent).1 (openFile disk reading absent).2 between)
      (sought : Seeks disk between rest path) : Seeks disk reading (.absent absent :: rest) path

variable {before after : Disk} {reading last : Reading} {declared : List Declared}

/-- The disks agree on a file for all steps that were visited. -/
def Covered (before after : Disk) (reading : Reading) : Prop :=
  ∀ steps ∈ reading.visited, ∃ path : Path, path.steps = steps ∧ before.isFile path = true ∧
    Disk.Agrees before after path

/-- A module's file is opened alike on disks that agree on what is looked for. -/
theorem openFile_congr (covered : Covered before after reading)
    (sought : ∀ path ∈ soughtAt before reading absent, Disk.Agrees before after path)
    (files : ∀ path ∈ (openFile before reading absent).1.files, Disk.Agrees before after path) :
    openFile after reading absent = openFile before reading absent ∧
      Covered before after (openFile before reading absent).1 := by
  have found_congr (found : ∀ file, absent.candidates.find? before.isFile = some file →
      Disk.Agrees before after file) :
      absent.candidates.find? after.isFile = absent.candidates.find? before.isFile :=
    find?_congr_until (fun path member => (sought path (List.mem_append_left _ member)).isFile)
      fun file first => (found file first).isFile
  have visit (file : Path) (own : before.isFile file = true)
      (agrees : Disk.Agrees before after file) (steps : List String) (member : steps ∈ reading.visited ++ [file.steps]) :
      ∃ path : Path, path.steps = steps ∧ before.isFile path = true ∧
        Disk.Agrees before after path := by
    rcases List.mem_append.mp member with earlier | last
    · exact covered steps earlier
    · exact ⟨file, (List.mem_singleton.mp last).symm, own, agrees⟩
  have opened := opening before reading absent
  generalize openFile before reading absent = result at opened files ⊢
  cases opened with
  | missing none =>
    have same := found_congr fun file found => by cases none.symm.trans found
    exact ⟨(Opening.missing (same.trans none)).eq, covered⟩
  | @seen file found seen =>
    have own := List.find?_some found
    -- The file may have been read under another path of the same steps.
    obtain ⟨path, steps, earlier, agrees⟩ := covered _ seen
    have again := agrees.of_steps own earlier steps.symm
    have same := found_congr fun other first => Option.some.inj (found.symm.trans first) ▸ again
    exact ⟨(Opening.seen (same.trans found) seen).eq, covered⟩
  | @unreadable file problem found new failed =>
    have own := List.find?_some found
    have agrees := sought file (by simp [soughtAt, found, new, failed])
    have same := found_congr fun other first => Option.some.inj (found.symm.trans first) ▸ agrees
    exact ⟨(Opening.unreadable (same.trans found) new ((agrees.readText own).trans failed)).eq,
      visit file own agrees⟩
  | @read file text found new contents =>
    have own := List.find?_some found
    have agrees := files file (by simp)
    have same := found_congr fun other first => Option.some.inj (found.symm.trans first) ▸ agrees
    exact ⟨(Opening.read (same.trans found) new ((agrees.readText own).trans contents)).eq,
      visit file own agrees⟩

/-- Reading on goes alike on disks that agree on what is read and on what is looked for. -/
theorem Reads.congr (run : Reads before reading declared last)
    (covered : Covered before after reading)
    (files : ∀ path ∈ last.files, Disk.Agrees before after path)
    (sought : ∀ path, Seeks before reading declared path → Disk.Agrees before after path) :
    Reads after reading declared last ∧ Covered before after last := by
  induction run with
  | done => exact ⟨.done, covered⟩
  | present _ ih =>
    obtain ⟨later, whole⟩ := ih covered files fun path seeks => sought path (.present seeks)
    exact ⟨.present later, whole⟩
  | absent inner later innerCongr laterCongr =>
    have middle := later.grows.files
    have opened := openFile_congr covered (fun path member => sought path (.here member))
      fun path member => files path (middle (inner.grows.files member))
    obtain ⟨first, between⟩ := innerCongr opened.2 (fun path member => files path (middle member))
      fun path seeks => sought path (.inner seeks)
    obtain ⟨second, whole⟩ := laterCongr between files fun path seeks =>
      sought path (.later inner seeks)
    rw [← opened.1] at first
    exact ⟨.absent first second, whole⟩

end Reading

theorem SourceTree.IsRead.congr {before after : Disk}
    (read : SourceTree.IsRead before directory root text last)
    (files : ∀ path ∈ last.files, Disk.Agrees before after path)
    (roots : ∀ path ∈ (rootNames.map (Path.join directory)).takeWhile (!before.isFile ·),
      Disk.Agrees before after path)
    (sought : ∀ path,
      Reading.Seeks before (opened root) ((start directory root).declared text) path →
        Disk.Agrees before after path) :
    SourceTree.IsRead after directory root text last := by
  have own := List.find?_some read.found
  have agrees := files root (read.run.grows.files List.mem_cons_self)
  have covered : Reading.Covered before after (opened root) := by
    intro steps member
    exact ⟨root, (List.mem_singleton.mp member).symm, own, agrees⟩
  have found : (rootNames.map (Path.join directory)).find? after.isFile =
      (rootNames.map (Path.join directory)).find? before.isFile :=
    find?_congr_until (fun path member => (roots path member).isFile)
      fun path first => Option.some.inj (read.found.symm.trans first) ▸ agrees.isFile
  exact ⟨found.trans read.found, (agrees.readText own).trans read.contents,
    (read.run.congr covered files sought).1⟩

namespace Build

open Disk

/-- The line that names a path that a result depends on. -/
def rerunLine (path : Path) : String :=
  "cargo:rerun-if-changed=" ++ path

/-- The paths that a run looks for beside those that it reads: the configuration, and what roots
and modules are looked for at in vain. -/
inductive LooksFor (build : Build) (disk : Disk) : Path → Prop where
  | config : LooksFor build disk build.configPath
  | root (sought : path ∈ (SourceTree.rootNames.map (Path.join build.sourcePath)).takeWhile
      (!disk.isFile ·)) : LooksFor build disk path
  | module (read : SourceTree.IsRead disk build.sourcePath root text last)
      (sought : Reading.Seeks disk (SourceTree.opened root)
        ((SourceTree.start build.sourcePath root).declared text) path) :
      LooksFor build disk path

variable {build : Build} {disk before after done : Disk} {report : Report}

theorem rerunLine_ne_warning (path : Path) (message : String) :
    rerunLine path ≠ "cargo:warning=valuegen: " ++ message := by
  intro same
  have letters : "cargo:rerun-if-changed=".toList ++ path.toList =
      "cargo:warning=valuegen: ".toList ++ message.toList := by
    rw [← String.toList_append, ← String.toList_append]
    exact congrArg String.toList same
  simp at letters

theorem rerunLine_mem_linesOf {files : List Path} {output : Generation.Output} :
    rerunLine path ∈ build.linesOf disk files output ↔
      path ∈ files ∨ path = build.configPath ∧ disk.isFile build.configPath = true := by
  have warned : ¬∃ failure ∈ output.diagnostics,
      "cargo:warning=valuegen: " ++ failure.message = rerunLine path :=
    fun ⟨_, _, same⟩ => rerunLine_ne_warning _ _ same.symm
  have plain (other : Path) : "cargo:rerun-if-changed=" ++ other = rerunLine path ↔ other = path :=
    String.append_right_inj _
  rw [linesOf, List.mem_append, List.mem_map, List.mem_map, or_iff_left warned]
  simp only [plain, exists_eq_right, List.mem_append]
  split
  · simp [*, or_comm]
  · simp [*]

/-- A run that succeeds gives what it generates, and stores it. -/
theorem run_eq_ok :
    build.run before = (.ok report, done) ↔
      ∃ files, build.generate before = .ok (report.output, files) ∧
        (report.output.store build.output).run before = (.ok (), done) ∧
        report.lines = if build.directives then build.linesOf done files report.output else [] := by
  unfold run
  constructor
  · intro ran
    split at ran
    · cases ran
    · rename_i generated
      split at ran
      · cases ran
      · rename_i stored
        cases ran
        exact ⟨_, generated, stored, rfl⟩
  · rintro ⟨files, generated, stored, told⟩
    rw [generated]
    simp only
    rw [stored]
    simp only [← told]

theorem generate_eq_ok {output : Generation.Output} (reads : build.config? = none) :
    build.generate disk = .ok (output, files) ↔
      ∃ config tree, Config.load disk build.configPath = .ok config ∧
        SourceTree.load disk build.sourcePath = .ok tree ∧
        Generation.generate config tree = .ok output ∧ tree.files = files := by
  unfold generate
  simp only [reads, bind_eq_ok, Generation.lift_eq_ok]
  constructor
  · rintro ⟨config, configured, tree, loaded, found, generated, whole⟩
    cases whole
    exact ⟨config, tree, configured, loaded, generated, rfl⟩
  · rintro ⟨config, tree, configured, loaded, generated, rfl⟩
    exact ⟨config, configured, tree, loaded, output, generated, rfl⟩

theorem home_of_root (default : build.source? = none)
    (found :
      (SourceTree.rootNames.map (Path.join build.sourcePath)).find? disk.isFile = some root) :
    build.manifest.isRooted = false ∧ ∃ home, disk.enter [] build.manifest.leading = .ok home := by
  obtain ⟨name, member, rfl⟩ := List.mem_map.mp (List.mem_of_find?_eq_some found)
  obtain ⟨bytes, file⟩ := isFile_iff.mp (List.find?_some found)
  obtain ⟨folders, home, last, entry⟩ := isEntry_of_file file
  have plain : '/' ∉ name.toList := by
    simp only [SourceTree.rootNames, List.mem_cons, List.not_mem_nil, or_false] at member
    rcases member with rfl | rfl <;> decide
  have source : build.sourcePath = Path.join build.manifest "src" := by
    simp [sourcePath, default]
  have relative := entry.relative
  have split := entry.split
  rw [source, Path.isRooted_join, Path.isRooted_join, Bool.or_eq_false_iff,
    Bool.or_eq_false_iff] at relative
  rw [source, Path.pieces_join relative.2, Path.pieces_of_plain plain,
    Path.leading_join relative.1.2] at split
  have same := List.append_inj_left' split rfl
  have entered := entry.entered
  rw [← same, enter_append, bind_eq_ok] at entered
  obtain ⟨above, inner, _⟩ := entered
  exact ⟨relative.1.1, above, inner⟩

theorem isEntry_configPath (relative : build.manifest.isRooted = false)
    (entered : disk.enter [] build.manifest.leading = .ok home)
    (short : build.configPath.utf8ByteSize ≤ longestPath) :
    disk.IsEntry build.configPath build.manifest.leading home configFile := by
  have plain : '/' ∉ configFile.toList := by decide
  refine ⟨?_, short, ?_, ⟨by decide, by decide, by decide⟩, entered⟩
  · rw [configPath, Path.pieces_join (Path.isRooted_of_plain plain), Path.pieces_of_plain plain]
  · rw [configPath, Path.isRooted_join, relative, Path.isRooted_of_plain plain]
    rfl

/-- The configuration beside a root that is found is no other if the disks agree on its path. -/
theorem config_congr (default : build.source? = none)
    (agrees : Agrees before after build.configPath)
    (root : (SourceTree.rootNames.map (Path.join build.sourcePath)).find? after.isFile = some root)
    (configured : Config.load before build.configPath = .ok config) :
    Config.load after build.configPath = .ok config := by
  cases found : before.find? build.configPath with
  | some node =>
    cases node with
    | file bytes =>
      have same := agrees.readText (isFile_iff.mpr ⟨bytes, found⟩)
      simpa only [Config.load, same] using configured
    | directory =>
      rw [Config.load, readText_of_directory found] at configured
      cases configured
  | none =>
    -- Reading fails on both disks. That it fails alike, as nothing is there, is due to the root,
    -- which shows the directory of the configuration to be there.
    have short : build.configPath.utf8ByteSize ≤ longestPath := by
      by_contra long
      rw [Config.load, readText_of_long (by omega)] at configured
      cases configured
    have unread (text : String) : before.readText build.configPath ≠ .ok text := by
      intro read
      obtain ⟨bytes, file⟩ := file_of_readText read
      cases found.symm.trans file
    obtain ⟨relative, home, entered⟩ := home_of_root default root
    have entry := isEntry_configPath relative entered short
    have nothing : after.at? (home ++ [configFile]) = none := by
      rw [← entry.find?, agrees, found]
    rw [Config.load, readText_of_absent entry.locate nothing]
    unfold Config.load at configured
    split at configured
    · exact (unread _ ‹_›).elim
    · exact configured
    · cases configured

/-- A run on a disk that agrees with another one on the paths that were named to the build tool
and on those that were looked for beside them generates the same. It then gives that result,
unless storing it fails. -/
theorem run_again (default : build.source? = none) (reads : build.config? = none)
    (told : build.directives = true) (ran : build.run before = (.ok report, done))
    (named : ∀ path, rerunLine path ∈ report.lines → Agrees before after path)
    (others : ∀ path, build.LooksFor before path → rerunLine path ∉ report.lines →
      Agrees before after path) :
    (∃ files, build.generate after = .ok (report.output, files)) ∧
      ((∃ lines last, build.run after = (.ok ⟨report.output, lines⟩, last)) ∨
        ∃ cause last, (report.output.store build.output).run after = (.error cause, last) ∧
          build.run after = (.error (.failure cause), last)) := by
  obtain ⟨files, generated, -, lines⟩ := run_eq_ok.mp ran
  rw [told, if_pos rfl] at lines
  have read (path : Path) (member : path ∈ files) : rerunLine path ∈ report.lines := by
    rw [lines, rerunLine_mem_linesOf]
    exact .inl member
  have agrees (path : Path) (looks : build.LooksFor before path) : Agrees before after path := by
    by_cases line : rerunLine path ∈ report.lines
    · exact named path line
    · exact others path looks line
  obtain ⟨config, tree, configured, loaded, made, rfl⟩ := (generate_eq_ok reads).mp generated
  obtain ⟨root, text, last, loadedFrom, rfl⟩ := SourceTree.load_eq_ok.mp loaded
  have again := loadedFrom.congr (fun path member => named path (read path member))
    (fun path member => agrees path (.root member))
    fun path seeks => agrees path (.module loadedFrom seeks)
  have configuredAgain := config_congr default (agrees _ .config) again.found configured
  have loadedAgain := SourceTree.load_eq_ok.mpr ⟨root, text, last, again, rfl⟩
  have generatedAgain : build.generate after = .ok (report.output, last.files) :=
    (generate_eq_ok reads).mpr ⟨config, _, configuredAgain, loadedAgain, made, rfl⟩
  refine ⟨⟨_, generatedAgain⟩, ?_⟩
  rcases stored : (report.output.store build.output).run after with ⟨result, final⟩
  unfold run
  rw [generatedAgain]
  simp only
  rw [stored]
  cases result with
  | ok value => exact .inl ⟨_, final, rfl⟩
  | error cause => exact .inr ⟨cause, final, rfl, rfl⟩

/-- A crate of one empty file, beside a directory to write to. -/
def plainCrate : Disk := ⟨[
  (["out"], .directory),
  (["src"], .directory),
  (["src", "lib.rs"], .file "".toUTF8)]⟩

/-- The same crate with a malformed configuration. -/
def misconfiguredCrate : Disk := plainCrate.put ["valuegen.toml"] (.file "x".toUTF8)

/-- The same crate with a file where the units are to be staged. -/
def obstructedCrate : Disk := plainCrate.put ["out", ".valuegen.staging"] (.file "x".toUTF8)

def plainBuild : Build := { manifest := "", output := "out" }

def plainReading : Reading :=
  (SourceTree.opened "src/lib.rs").add ⟨none, some "src/lib.rs", []⟩

private theorem plain_isRead :
    SourceTree.IsRead plainCrate plainBuild.sourcePath "src/lib.rs" "" plainReading :=
  ⟨rfl, rfl, .present .done⟩

def plainOutput : Generation.Output :=
  ⟨[], [], Generation.unitsOf [Generation.registrationAttempt []],
    Generation.failuresOf [Generation.registrationAttempt []]⟩

private theorem plain_pass : Generation.generate {} ⟨[⟨none, some "src/lib.rs", []⟩], files⟩ =
    .ok plainOutput := by
  have none : Discovery.candidates ⟨[⟨none, some "src/lib.rs", []⟩], files⟩ = [] := by
    simp [Discovery.candidates, Discovery.declared, Descriptor.sort, Discovery.firstOfEach]
  have noRows : Discovery.entities ⟨[⟨Option.none, some "src/lib.rs", []⟩], files⟩ [] = [] := by
    simp [Discovery.entities, SourceModule.structs, Property.sort]
  have made : Generation.attempts {} [] [] = .ok [Generation.registrationAttempt []] := rfl
  rw [Generation.generate, none, if_pos rfl, noRows]
  simp only [Generation.emit, made]
  rfl

private theorem plain_generate (configured : Config.load disk plainBuild.configPath = .ok {})
    (read : SourceTree.IsRead disk plainBuild.sourcePath "src/lib.rs" "" plainReading) :
    plainBuild.generate disk = .ok (plainOutput, ["src/lib.rs"]) := by
  have loaded : SourceTree.load disk plainBuild.sourcePath =
      .ok ⟨[⟨none, some "src/lib.rs", []⟩], ["src/lib.rs"]⟩ :=
    SourceTree.load_eq_ok.mpr ⟨_, _, _, read, rfl⟩
  exact (generate_eq_ok rfl).mpr ⟨{}, _, configured, loaded, plain_pass, rfl⟩

private theorem plain_named (present : unit ∈ plainOutput.units) :
    unit.name = "DocumentSerializers.registration.rs" := by
  simp only [plainOutput, Generation.mem_unitsOf, List.mem_singleton] at present
  exact Generation.name_of_registration present.symm

/-- A run that generates and can store names nothing but the files it has read if there is no
configuration. -/
private theorem run_ends {output : Generation.Output} (site : Generation.Home disk "out" ["out"])
    (sound : disk.IsSound) (plain : ∀ unit ∈ output.units, BeginsPlain unit.name)
    (can : Generation.CanAdopt disk "out" ["out"] output.units)
    (free : ∀ cause, ¬Generation.IsBlocked disk "out" ["out"] cause)
    (unset : disk.at? ["valuegen.toml"] = none)
    (generated : plainBuild.generate disk = .ok (output, files)) :
    ∃ report done, plainBuild.run disk = (.ok report, done) ∧
      ∀ path, rerunLine path ∈ report.lines → path ∈ files := by
  obtain ⟨done, stored, kept⟩ := Generation.store_ends site sound plain can free
  refine ⟨⟨output, plainBuild.linesOf done files output⟩, done,
    run_eq_ok.mpr ⟨_, generated, stored, rfl⟩, fun path line => ?_⟩
  rcases rerunLine_mem_linesOf.mp line with read | ⟨-, file⟩
  · exact read
  · have same := (kept.same ["valuegen.toml"] (by decide)).trans unset
    have found : done.find? "valuegen.toml" = none := same
    obtain ⟨bytes, there⟩ := isFile_iff.mp file
    cases found.symm.trans there

/-- A run on the crate succeeds, and it names the one file. -/
private theorem plain_run : ∃ report done, plainBuild.run plainCrate = (.ok report, done) ∧
    ∀ path, rerunLine path ∈ report.lines → path = "src/lib.rs" := by
  have site : Generation.Home plainCrate "out" ["out"] := ⟨rfl, rfl, by decide⟩
  have sound : plainCrate.IsSound := by
    intro entry member
    simp only [plainCrate, List.mem_cons, List.not_mem_nil, or_false] at member
    rcases member with rfl | rfl | rfl <;> rfl
  have plain : ∀ unit ∈ plainOutput.units, BeginsPlain unit.name := by
    intro unit present
    rw [plain_named present]
    exact ⟨'D', _, rfl, by decide, by decide⟩
  have writable : ∀ unit ∈ plainOutput.units, Generation.IsWritable "out" unit.name := by
    intro unit present
    rw [plain_named present]
    exact ⟨by decide, by decide, by decide⟩
  have absent (node : Node) : none ≠ some node := (Option.some_ne_none node).symm
  have can : Generation.CanAdopt plainCrate "out" ["out"] plainOutput.units :=
    ⟨⟨by decide, fun _ => absent _, writable⟩, fun _ => absent _⟩
  obtain ⟨report, done, ran, lines⟩ := run_ends site sound plain can
    (Generation.not_isBlocked (absent _) (absent _)) rfl (plain_generate rfl plain_isRead)
  exact ⟨report, done, ran, fun path line => List.mem_singleton.mp (lines path line)⟩

/-- The source of a wrapper, beside a module whose declarations lie in another file. -/
def modularSource : String := "#[derive(Value)] pub struct B(u8); mod m;"

/-- A crate of that source, with the module in the second place of its file. -/
def modularCrate : Disk := ⟨[
  (["out"], .directory),
  (["src"], .directory),
  (["src", "lib.rs"], .file modularSource.toUTF8),
  (["src", "m"], .directory),
  (["src", "m", "mod.rs"], .file "".toUTF8)]⟩

/-- The same crate with a file that is none of its modules. -/
def annotatedCrate : Disk := modularCrate.put ["src", "notes"] (.file "x".toUTF8)

def modularModule : Absent := ⟨SourceTree.start "src" "src/lib.rs", "m", none⟩

def modularItems : List Item := (Grammar.sourceItems? modularSource).getD []

def modularRoot : SourceModule := (SourceTree.start "src" "src/lib.rs").module modularItems

def modularReading : Reading :=
  ⟨[modularRoot, ⟨some "m", some "src/m/mod.rs", []⟩], ["src/lib.rs", "src/m/mod.rs"],
    [Path.steps "src/lib.rs", Path.steps "src/m/mod.rs"]⟩

/-- Whether declarations are a structure and a module without its own. -/
def declareModule : List Item → Bool
  | [.struct _, .module [] "m" none] => true
  | _ => false

private theorem struct_of_declareModule {items : List Item} (declares : declareModule items = true) :
    ∃ decl, items = [.struct decl, .module [] "m" none] := by
  unfold declareModule at declares
  split at declares
  · exact ⟨_, rfl⟩
  · cases declares

private theorem modular_scan :
    (Grammar.sourceItems? modularSource).any declareModule = true ∧
    Discovery.candidates ⟨modularReading.modules, modularReading.files⟩ =
      [Generation.smallWrapper] ∧
    Discovery.entities ⟨modularReading.modules, modularReading.files⟩ [Generation.smallWrapper] =
      [] := by
  decide +kernel

private theorem modular_declared : (SourceTree.start "src" "src/lib.rs").declared modularSource =
    [.present modularRoot, .absent modularModule] := by
  obtain ⟨items, parsed, declares⟩ := (Option.any_eq_true _ _).mp modular_scan.1
  obtain ⟨decl, rfl⟩ := struct_of_declareModule declares
  have whole : modularItems = [.struct decl, .module [] "m" none] := by
    rw [modularItems, parsed, Option.getD_some]
  rw [Site.declared_of_items parsed, modularRoot, whole]
  rfl

/-- The module is read from the second of its places, and the first is looked for in vain. -/
private theorem modular_opened (reading : Reading)
    (new : Path.steps "src/m/mod.rs" ∉ reading.visited) :
    Reading.openFile modularCrate reading modularModule =
      (⟨reading.modules, reading.files ++ ["src/m/mod.rs"],
        reading.visited ++ [Path.steps "src/m/mod.rs"]⟩,
        [.present ⟨some "m", some "src/m/mod.rs", []⟩]) ∧
    Reading.soughtAt modularCrate reading modularModule = ["src/m.rs"] := by
  have found : modularModule.candidates.find? modularCrate.isFile = some "src/m/mod.rs" := by
    decide
  have contents : modularCrate.readText "src/m/mod.rs" = .ok "" := by decide
  refine ⟨(Reading.Opening.read found new contents).eq, ?_⟩
  have passed : modularModule.candidates.takeWhile (!modularCrate.isFile ·) = ["src/m.rs"] := by
    decide
  rw [Reading.soughtAt, passed, found]
  simp [contents]

private theorem modular_isRead : SourceTree.IsRead modularCrate plainBuild.sourcePath "src/lib.rs"
    modularSource modularReading := by
  refine ⟨by decide, by decide, ?_⟩
  change Reading.Reads modularCrate _ ((SourceTree.start "src" "src/lib.rs").declared _) _
  rw [modular_declared]
  refine .present (.absent ?_ .done)
  rw [(modular_opened _ (by decide)).1]
  exact .present .done

private theorem modular_looksFor (looks : plainBuild.LooksFor modularCrate path) :
    path = "valuegen.toml" ∨ path = "src/m.rs" := by
  cases looks with
  | config => exact .inl rfl
  | root sought =>
    have none : (SourceTree.rootNames.map (Path.join plainBuild.sourcePath)).takeWhile
        (!modularCrate.isFile ·) = [] := by decide
    rw [none] at sought
    cases sought
  | module read sought =>
    cases read.found.symm.trans modular_isRead.found
    cases read.contents.symm.trans modular_isRead.contents
    change Reading.Seeks _ _ ((SourceTree.start "src" "src/lib.rs").declared _) _ at sought
    rw [modular_declared] at sought
    have opened := modular_opened ((SourceTree.opened "src/lib.rs").add modularRoot) (by decide)
    cases sought with
    | present sought =>
      cases sought with
      | here sought =>
        rw [opened.2] at sought
        exact .inr (List.mem_singleton.mp sought)
      | inner sought =>
        rw [opened.1] at sought
        cases sought with
        | present later => cases later
      | later inner sought => cases sought

/-- A run on the crate succeeds, and it names the files that are read. -/
private theorem modular_run : ∃ report done, plainBuild.run modularCrate = (.ok report, done) ∧
    ∀ path, rerunLine path ∈ report.lines → path ∈ ["src/lib.rs", "src/m/mod.rs"] := by
  obtain ⟨output, emitted, _, writable⟩ := Generation.emit_smallWrapper
  obtain ⟨-, wrappers, entities⟩ := modular_scan
  have site : Generation.Home modularCrate "out" ["out"] := ⟨rfl, rfl, by decide⟩
  have sound : modularCrate.IsSound := by
    intro entry member
    simp only [modularCrate, List.mem_cons, List.not_mem_nil, or_false] at member
    rcases member with rfl | rfl | rfl | rfl | rfl <;> rfl
  have made : Generation.generate {} ⟨modularReading.modules, modularReading.files⟩ =
      .ok output := by
    rw [Generation.generate, wrappers, if_pos rfl, entities, emitted]
  have loaded : SourceTree.load modularCrate plainBuild.sourcePath =
      .ok ⟨modularReading.modules, modularReading.files⟩ :=
    SourceTree.load_eq_ok.mpr ⟨_, _, _, modular_isRead, rfl⟩
  have absent (node : Node) : none ≠ some node := (Option.some_ne_none node).symm
  have can : Generation.CanAdopt modularCrate "out" ["out"] output.units :=
    ⟨⟨by decide, fun _ => absent _, writable⟩, fun _ => absent _⟩
  exact run_ends site sound (fun _ => Generation.beginsPlain_of_emit emitted) can
    (Generation.not_isBlocked (absent _) (absent _)) rfl
    ((generate_eq_ok rfl).mpr ⟨{}, _, rfl, loaded, made, rfl⟩)

theorem run_again_annotated :
    ∃ report done, plainBuild.run modularCrate = (.ok report, done) ∧
      (∀ path, rerunLine path ∈ report.lines → Agrees modularCrate annotatedCrate path) ∧
      (∀ path, plainBuild.LooksFor modularCrate path →
        Agrees modularCrate annotatedCrate path) ∧
      (∃ files, plainBuild.generate annotatedCrate = .ok (report.output, files)) ∧
      ((∃ lines last, plainBuild.run annotatedCrate = (.ok ⟨report.output, lines⟩, last)) ∨
        ∃ cause last,
          (report.output.store plainBuild.output).run annotatedCrate = (.error cause, last) ∧
            plainBuild.run annotatedCrate = (.error (.failure cause), last)) := by
  obtain ⟨report, done, ran, lines⟩ := modular_run
  have named : ∀ path, rerunLine path ∈ report.lines →
      Agrees modularCrate annotatedCrate path := by
    intro path line
    have read := lines path line
    simp only [List.mem_cons, List.not_mem_nil, or_false] at read
    rcases read with rfl | rfl <;> rfl
  have others : ∀ path, plainBuild.LooksFor modularCrate path →
      Agrees modularCrate annotatedCrate path := by
    intro path looks
    rcases modular_looksFor looks with rfl | rfl <;> rfl
  exact ⟨report, done, ran, named, others,
    run_again rfl rfl rfl ran named fun path looks _ => others path looks⟩

private theorem obstructed_run : plainBuild.run obstructedCrate =
    (.error (.failure (.io "out/.valuegen.staging")), obstructedCrate) := by
  obtain ⟨output, generated⟩ : ∃ output,
      plainBuild.generate obstructedCrate = .ok (output, ["src/lib.rs"]) :=
    ⟨plainOutput, plain_generate rfl ⟨rfl, rfl, .present .done⟩⟩
  have site : Generation.Home obstructedCrate "out" ["out"] := ⟨rfl, rfl, by decide⟩
  have stored : (output.store plainBuild.output).run obstructedCrate =
      (.error (.io "out/.valuegen.staging"), obstructedCrate) :=
    Generation.store_obstructed site (by decide) rfl
  unfold run
  rw [generated]
  simp only
  rw [stored]

/-- A configuration that was not there is not named, so a later one changes what a run gives. A file
in the way of the units is not named either. -/
theorem unnamed_paths_change_runs :
    ∃ report done, plainBuild.run plainCrate = (.ok report, done) ∧
      (∀ path, rerunLine path ∈ report.lines →
        Agrees plainCrate misconfiguredCrate path ∧ Agrees plainCrate obstructedCrate path) ∧
      plainBuild.run misconfiguredCrate =
        (.error (.failure (.config "valuegen.toml")), misconfiguredCrate) ∧
      plainBuild.run obstructedCrate =
        (.error (.failure (.io "out/.valuegen.staging")), obstructedCrate) := by
  obtain ⟨report, done, ran, lines⟩ := plain_run
  refine ⟨report, done, ran, fun path line => ?_, rfl, obstructed_run⟩
  rw [lines path line]
  exact ⟨rfl, rfl⟩

end Build

end ValueObjects
