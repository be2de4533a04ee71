import ValueObjects.Proofs.Crawl

namespace ValueObjects

/-- The declarations in a file; none if it cannot be read or is no source file. -/
def Disk.items? (disk : Disk) (path : Path) : Option (List Item) :=
  (disk.readText path).toOption.bind Grammar.sourceItems?

/-- Whether a declaration is none of a module. -/
def Item.IsOwn (item : Item) : Prop :=
  ∀ attrs name content, item ≠ .module attrs name content

/-- Where the language looks for the files of a module's modules: for those named after modules in
one directory, and for those that attributes give from another. -/
structure Ground where
  /-- The names that lead to the module from the crate root. -/
  steps : List String
  directory : Path
  base : Path

namespace Ground

/-- The ground of a module that is written inside the one of this ground. -/
def inside (ground : Ground) (name : String) : Ground :=
  let directory := Path.join ground.directory (Naming.unraw name)
  ⟨ground.steps ++ [name], directory, directory⟩

/-- The file of a module beside those of its siblings. -/
def beside (ground : Ground) (name : String) : Path :=
  Path.join ground.directory (Naming.unraw name ++ ".rs")

/-- The file of a module in the directory that is named after it. -/
def within (ground : Ground) (name : String) : Path :=
  Path.join (Path.join ground.directory (Naming.unraw name)) "mod.rs"

/-- The file that the language reads a module from, and the ground of the modules in it. They lie
next to the file if it is given by an attribute or called `mod.rs` for the directory that is named
after the module, and else in that directory. If a module has both files, the language refuses it;
here the one beside its siblings counts. -/
inductive Leads (disk : Disk) (ground : Ground) (name : String) :
    Option Path → Path → Ground → Prop where
  | given (there : disk.isFile (Path.join ground.base path) = true) :
      Leads disk ground name (some path) (Path.join ground.base path)
        ⟨ground.steps ++ [name], (Path.join ground.base path).parent,
          (Path.join ground.base path).parent⟩
  | beside (there : disk.isFile (ground.beside name) = true) :
      Leads disk ground name none (ground.beside name)
        ⟨ground.steps ++ [name], Path.join ground.directory (Naming.unraw name),
          (ground.beside name).parent⟩
  | within (free : disk.isFile (ground.beside name) = false)
      (there : disk.isFile (ground.within name) = true) :
      Leads disk ground name none (ground.within name)
        ⟨ground.steps ++ [name], (ground.within name).parent, (ground.within name).parent⟩

end Ground

/-- The modules that the language reads for declarations, each before those inside it, and their
files. Left out are modules for tests and those whose files are missing or no source files; a file
is not read again beneath itself, so not if its steps are among those above. Modules that are
written inside others have no paths in their attributes. -/
inductive Loads (disk : Disk) : List (List String) → Ground → List Item →
    List (List String × List Item) → List Path → Prop where
  | done : Loads disk above ground [] [] []
  | own (plain : item.IsOwn) (later : Loads disk above ground rest modules files) :
      Loads disk above ground (item :: rest) modules files
  | test (guarded : isTestOnly attrs = true) (later : Loads disk above ground rest modules files) :
      Loads disk above ground (.module attrs name content :: rest) modules files
  | inside (built : isTestOnly attrs = false) (unplaced : pathAttribute? attrs = none)
      (inner : Loads disk above (ground.inside name) items innerModules innerFiles)
      (later : Loads disk above ground rest modules files) :
      Loads disk above ground (.module attrs name (some items) :: rest)
        ((ground.steps ++ [name], items) :: (innerModules ++ modules)) (innerFiles ++ files)
  | missing (built : isTestOnly attrs = false)
      (nowhere : ∀ file next, ¬ground.Leads disk name (pathAttribute? attrs) file next)
      (later : Loads disk above ground rest modules files) :
      Loads disk above ground (.module attrs name none :: rest) modules files
  | broken (file : Path) (built : isTestOnly attrs = false)
      (leads : ground.Leads disk name (pathAttribute? attrs) file next)
      (unread : disk.items? file = none) (later : Loads disk above ground rest modules files) :
      Loads disk above ground (.module attrs name none :: rest) modules files
  | circular (built : isTestOnly attrs = false)
      (leads : ground.Leads disk name (pathAttribute? attrs) file next)
      (again : file.steps ∈ above) (later : Loads disk above ground rest modules files) :
      Loads disk above ground (.module attrs name none :: rest) modules files
  | file (file : Path) (built : isTestOnly attrs = false)
      (leads : ground.Leads disk name (pathAttribute? attrs) file next)
      (new : file.steps ∉ above) (read : disk.items? file = some items)
      (inner : Loads disk (file.steps :: above) next items innerModules innerFiles)
      (later : Loads disk above ground rest modules files) :
      Loads disk above ground (.module attrs name none :: rest)
        ((ground.steps ++ [name], items) :: (innerModules ++ modules))
        (file :: (innerFiles ++ files))

/-- The ground of a crate's root. -/
def Ground.ofRoot (directory : Path) : Ground :=
  ⟨[], directory, directory⟩

/-- A crate by the declarations of its root. -/
structure IsCrate (disk : Disk) (directory root : Path) (items : List Item) : Prop where
  found : (SourceTree.rootNames.map (Path.join directory)).find? disk.isFile = some root
  read : disk.items? root = some items

mutual

/-- Whether the modules that are written inside a declaration have no paths in their attributes,
but for those for tests. -/
def Item.isUnplaced : Item → Bool
  | .module attrs _ content =>
    isTestOnly attrs || match content with
      | some items => (pathAttribute? attrs).isNone && Item.areUnplaced items
      | none => true
  | _ => true

/-- Whether all declarations are like that. -/
def Item.areUnplaced : List Item → Bool
  | [] => true
  | item :: rest => item.isUnplaced && Item.areUnplaced rest

end

/-- Whether no source file on the disk gives a path to a module that is written inside another. -/
def Disk.isUnplaced (disk : Disk) : Bool :=
  disk.nodes.all fun (_, node) =>
    match node with
    | .file bytes => ((String.fromUTF8? bytes).bind Grammar.sourceItems?).all Item.areUnplaced
    | .directory => true

variable {disk : Disk} {ground next : Ground} {name : String} {path? : Option Path} {file : Path}

namespace Ground

/-- The site that modules of this ground are looked for from. -/
def site (ground : Ground) (file? : Option Path) : Site :=
  ⟨ground.steps, file?, ground.directory, ground.base⟩

/-- An attribute that gives the path leads to the same file. -/
theorem Leads.attribute (leads : ground.Leads disk name path? file next)
    (placed : pathAttribute? attrs = path?) :
    ground.Leads disk name (pathAttribute? attrs) file next :=
  placed ▸ leads

theorem Leads.isFile (leads : ground.Leads disk name path? file next) :
    disk.isFile file = true := by
  cases leads with
  | given there => exact there
  | beside there => exact there
  | within _ there => exact there

theorem Leads.steps (leads : ground.Leads disk name path? file next) :
    next.steps = ground.steps ++ [name] := by
  cases leads <;> rfl

theorem Leads.found (leads : ground.Leads disk name path? file next) (file? : Option Path) :
    (Absent.candidates ⟨ground.site file?, name, path?⟩).find? disk.isFile = some file := by
  cases leads with
  | given there => simp [Absent.candidates, site, there]
  | beside there => exact List.find?_cons_of_pos there
  | within free there =>
    have passed : ¬disk.isFile (ground.beside name) = true := by simp [free]
    exact (List.find?_cons_of_neg passed).trans (List.find?_cons_of_pos there)

theorem not_found (nowhere : ∀ file next, ¬ground.Leads disk name path? file next)
    (file? : Option Path) :
    (Absent.candidates ⟨ground.site file?, name, path?⟩).find? disk.isFile = none := by
  rw [List.find?_eq_none]
  intro file member there
  cases path? with
  | some path =>
    have same := List.mem_singleton.mp member
    subst same
    exact nowhere _ _ (.given there)
  | none =>
    cases free : disk.isFile (ground.beside name) with
    | true => exact nowhere _ _ (.beside free)
    | false =>
      rcases List.mem_pair.mp member with rfl | rfl
      · cases free.symm.trans there
      · exact nowhere _ _ (.within free there)

/-- The modules in a file are looked for where the file lies or below. -/
theorem Leads.isBelow {file? : Option Path} (leads : ground.Leads disk name path? file next)
    (below : (ground.site file?).IsBelow kept) (entry : disk.IsEntry file before home last) :
    kept <+: before ∧ (next.site file?).IsBelow (Path.trimmed before) := by
  have parent : LiesBelow (Path.trimmed before) file.parent :=
    .inr (entry.leading_parent ▸ List.prefix_rfl)
  have owned (steps : List String) :
      (Ground.site ⟨steps, file.parent, file.parent⟩ file?).IsBelow (Path.trimmed before) :=
    ⟨parent, parent⟩
  cases leads with
  | given there => exact ⟨(prefix_of_entry below.base entry).1, owned _⟩
  | beside there =>
    obtain ⟨start, named⟩ := isBelow_beside below.directory entry
    exact ⟨start, named, parent⟩
  | within free there =>
    have inner : LiesBelow kept (Path.join ground.directory (Naming.unraw name)) :=
      below.directory.join _
    exact ⟨(prefix_of_entry inner entry).1, owned _⟩

end Ground

namespace Disk

theorem mem_nodes_of_file {bytes : ByteArray} (found : disk.find? file = some (.file bytes)) :
    ∃ place, (place, .file bytes) ∈ disk.nodes := by
  obtain ⟨place, _, present⟩ := find?_eq_some.mp found
  unfold at? at present
  split at present
  · cases present
  · obtain ⟨front, back, split, _⟩ := List.lookup_eq_some_iff.mp present
    exact ⟨place, by simp [split]⟩

theorem items?_of_text (contents : disk.readText file = .ok text) :
    disk.items? file = Grammar.sourceItems? text := by
  rw [items?, contents, Except.toOption, Option.bind_some]

theorem items?_eq_some {items : List Item} : disk.items? file = some items ↔
    ∃ text, disk.readText file = .ok text ∧ Grammar.sourceItems? text = some items := by
  rw [items?, Option.bind_eq_some_iff]
  simp only [toOption_eq_some]

theorem unplaced_of_items (unplaced : disk.isUnplaced = true)
    (read : disk.items? file = some items) : Item.areUnplaced items = true := by
  obtain ⟨text, contents, parsed⟩ := items?_eq_some.mp read
  obtain ⟨bytes, found⟩ := file_of_readText contents
  obtain ⟨place, member⟩ := mem_nodes_of_file found
  have usual := List.all_eq_true.mp unplaced _ member
  have decoded : String.fromUTF8? bytes = some text := by
    obtain ⟨other, bytesRead, decoding⟩ := bind_eq_ok.mp contents
    cases Except.ok.inj ((readBytes_of_file found).symm.trans bytesRead)
    split at decoding
    · cases decoding
      assumption
    · cases decoding
  simpa [decoded, parsed] using usual

theorem isFile_of_items (read : disk.items? file = some items) :
    disk.isFile file = true := by
  obtain ⟨text, contents, _⟩ := items?_eq_some.mp read
  exact isFile_iff.mpr (file_of_readText contents)

/-- Two files of the same steps have the same declarations. -/
theorem items?_of_steps {other : Path} (there : disk.isFile file = true)
    (otherThere : disk.isFile other = true) (same : file.steps = other.steps) :
    disk.items? file = disk.items? other := by
  obtain ⟨bytes, found⟩ := isFile_iff.mp there
  obtain ⟨otherBytes, otherFound⟩ := isFile_iff.mp otherThere
  obtain ⟨_, _, _, entry⟩ := isEntry_of_file found
  obtain ⟨_, _, _, otherEntry⟩ := isEntry_of_file otherFound
  have shared := find?_of_steps otherEntry entry.split entry.short entry.relative entry.named same
  have bytesRead := readBytes_of_file (shared.symm.trans found)
  rw [items?, items?, readText, readText, readBytes_of_file found, bytesRead]

end Disk

/-- Whether all files below those above have modules that come to an end. -/
def EndsBeneath (disk : Disk) (kept : List String) (above : List (List String)) : Prop :=
  ∀ ⦃ground next : Ground⦄ ⦃name : String⦄ ⦃path? : Option Path⦄ ⦃file : Path⦄ ⦃items : List Item⦄,
    (ground.site none).IsBelow kept → ground.Leads disk name path? file next →
      file.steps ∉ above → disk.items? file = some items →
      ∃ modules files, Loads disk (file.steps :: above) next items modules files

mutual

theorem loads_item {ground : Ground} {rest : List Item} (deeper : EndsBeneath disk kept above)
    (below : (ground.site none).IsBelow kept) (item : Item) (unplaced : item.isUnplaced = true)
    (later : Loads disk above ground rest modules files) :
    ∃ modules files, Loads disk above ground (item :: rest) modules files := by
  cases item with
  | module attrs name content =>
    cases guarded : isTestOnly attrs with
    | true => exact ⟨_, _, .test guarded later⟩
    | false =>
      cases content with
      | some items =>
        simp only [Item.isUnplaced, guarded, Bool.false_or, Bool.and_eq_true,
          Option.isNone_iff_eq_none] at unplaced
        have inside : ((ground.inside name).site none).IsBelow kept := below.inside name none
        obtain ⟨_, _, inner⟩ := loads_items deeper inside items unplaced.2
        exact ⟨_, _, .inside guarded unplaced.1 inner later⟩
      | none =>
        by_cases leads : ∃ file next, ground.Leads disk name (pathAttribute? attrs) file next
        · obtain ⟨file, next, leads⟩ := leads
          cases read : disk.items? file with
          | none => exact ⟨_, _, .broken file guarded leads read later⟩
          | some items =>
            by_cases again : file.steps ∈ above
            · exact ⟨_, _, .circular guarded leads again later⟩
            · obtain ⟨_, _, inner⟩ := deeper below leads again read
              exact ⟨_, _, .file file guarded leads again read inner later⟩
        · exact ⟨_, _, .missing guarded (fun file next this => leads ⟨file, next, this⟩) later⟩
  | struct decl => exact ⟨_, _, .own nofun later⟩
  | impl decl => exact ⟨_, _, .own nofun later⟩
  | other => exact ⟨_, _, .own nofun later⟩

theorem loads_items {ground : Ground} (deeper : EndsBeneath disk kept above)
    (below : (ground.site none).IsBelow kept) (items : List Item)
    (unplaced : Item.areUnplaced items = true) :
    ∃ modules files, Loads disk above ground items modules files := by
  cases items with
  | nil => exact ⟨_, _, .done⟩
  | cons item rest =>
    rw [Item.areUnplaced, Bool.and_eq_true] at unplaced
    obtain ⟨_, _, later⟩ := loads_items deeper below rest unplaced.2
    exact loads_item deeper below item unplaced.1 later

end

/-- The modules of declarations come to an end, as those in files do: each file is below another
with a longer path, or has a new name. -/
theorem Loads.ends (fuel : Nat) (solid : Path.trimmed kept = kept)
    (unplaced : disk.isUnplaced = true)
    (below : (ground.site none).IsBelow kept) (here : Item.areUnplaced items = true)
    (enough : Reading.depthLeft disk kept above < fuel) :
    ∃ modules files, Loads disk above ground items modules files := by
  induction fuel generalizing above ground items kept with
  | zero => exact (Nat.not_lt_zero _ enough).elim
  | succ fuel ih =>
    refine loads_items ?_ below items here
    intro ground next name path? file items below leads new read
    obtain ⟨bytes, there⟩ := Disk.isFile_iff.mp leads.isFile
    obtain ⟨before, home, last, entry⟩ := Disk.isEntry_of_file there
    obtain ⟨start, inner⟩ := leads.isBelow below entry
    have present : disk.at? (home ++ [last]) ≠ none := by
      rw [← entry.find?, there]
      exact nofun
    have less := Reading.depthLeft_lt solid start entry present new
    have more : above ++ [file.steps] ⊆ file.steps :: above := by simp
    exact ih (Path.trimmed_trimmed before) inner (Disk.unplaced_of_items unplaced read)
      (Nat.lt_of_le_of_lt (Reading.depthLeft_mono more _) (by omega))

/-- Every crate has the modules that the language reads. -/
theorem IsCrate.ends (crate : IsCrate disk directory root items)
    (unplaced : disk.isUnplaced = true) :
    ∃ modules files, Loads disk [root.steps] (.ofRoot directory) items modules files := by
  have below : Site.IsBelow [] ((Ground.ofRoot directory).site none) :=
    ⟨.inr List.nil_prefix, .inr List.nil_prefix⟩
  have here := Disk.unplaced_of_items unplaced crate.read
  exact Loads.ends _ rfl unplaced below here (Nat.lt_succ_self _)

end ValueObjects
