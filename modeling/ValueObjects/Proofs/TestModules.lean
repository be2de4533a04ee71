import Mathlib.Data.List.Find
import ValueObjects.Discovery.Entities
import ValueObjects.Proofs.LoadedModules

namespace ValueObjects

/-! Modules for test builds. -/

mutual

/-- A declaration without the modules for test builds inside it; nothing if it is one itself. -/
def Item.built : Item → List Item
  | .module attrs name content =>
    if isTestOnly attrs then []
    else match content with
      | some items => [.module attrs name (some (Item.builtIn items))]
      | none => [.module attrs name none]
  | item => [item]

/-- Declarations without the modules for test builds among them, at every depth. -/
def Item.builtIn : List Item → List Item
  | [] => []
  | item :: rest => item.built ++ Item.builtIn rest

end

namespace Item

theorem built_of_test (guarded : isTestOnly attrs = true) :
    built (.module attrs name content) = [] := by
  cases content <;> rw [built, if_pos guarded]

theorem built_of_inside (kept : isTestOnly attrs = false) :
    built (.module attrs name (some items)) = [.module attrs name (some (builtIn items))] := by
  rw [built, if_neg (by simp [kept])]

theorem built_of_absent (kept : isTestOnly attrs = false) :
    built (.module attrs name none) = [.module attrs name none] := by
  rw [built, if_neg (by simp [kept])]

theorem declaredIn_append (site : Site) (first second : List Item) :
    declaredIn site (first ++ second) = declaredIn site first ++ declaredIn site second := by
  simp only [declaredIn_eq_flatMap, List.flatMap_append]

theorem declaredIn_singleton (site : Site) (item : Item) :
    declaredIn site [item] = declared site item := by
  rw [declaredIn, declaredIn, List.append_nil]

theorem ownItems_append (first second : List Item) :
    ownItems (first ++ second) = ownItems first ++ ownItems second :=
  List.filter_append ..

theorem ownItems_builtIn (items : List Item) : ownItems (builtIn items) = ownItems items := by
  induction items with
  | nil => rfl
  | cons item rest ih =>
    have own : ownItems item.built = ownItems [item] := by
      cases item with
      | module attrs name content =>
        cases guarded : isTestOnly attrs with
        | true => rw [built_of_test guarded]; rfl
        | false =>
          cases content with
          | none => rw [built_of_absent guarded]
          | some items => rw [built_of_inside guarded]; rfl
      | struct decl => rfl
      | impl decl => rfl
      | other => rfl
    rw [builtIn, ownItems_append, own, ih, ← ownItems_append, List.singleton_append]

mutual

/-- A declaration stands for the same modules without those for test builds inside it. -/
theorem declaredIn_built (site : Site) (item : Item) :
    declaredIn site item.built = declared site item := by
  cases item with
  | module attrs name content =>
    cases guarded : isTestOnly attrs with
    | true => rw [built_of_test guarded, declared_of_test guarded, declaredIn]
    | false =>
      cases content with
      | none => rw [built_of_absent guarded, declaredIn_singleton]
      | some items =>
        rw [built_of_inside guarded, declaredIn_singleton, declared, declared]
        simp only [Site.module, ownItems_builtIn, declaredIn_builtIn _ items]
  | struct decl => exact declaredIn_singleton site _
  | impl decl => exact declaredIn_singleton site _
  | other => exact declaredIn_singleton site _

theorem declaredIn_builtIn (site : Site) (items : List Item) :
    declaredIn site (builtIn items) = declaredIn site items := by
  cases items with
  | nil => rfl
  | cons item rest =>
    rw [builtIn, declaredIn_append, declaredIn_built site item, declaredIn_builtIn site rest,
      declaredIn]

end

end Item

/-- What a text declares outside of modules for test builds, if it is a source file. -/
def builtItems? (text : String) : Option (List Item) :=
  (Grammar.sourceItems? text).map Item.builtIn

/-- A text stands for the modules that are not for test builds. -/
theorem Site.declared_of_built (site : Site) (same : builtItems? text = builtItems? other) :
    site.declared text = site.declared other := by
  have whole (text : String) : site.declared text =
      match builtItems? text with
      | some items => .present (site.module items) :: Item.declaredIn site items
      | none => [] := by
    cases parsed : Grammar.sourceItems? text with
    | none => rw [declared_of_none parsed, builtItems?, parsed]; rfl
    | some items =>
      rw [declared_of_items parsed, builtItems?, parsed]
      simp only [Option.map_some, Item.declaredIn_builtIn, Site.module, Item.ownItems_builtIn]
  rw [whole, whole, same]

namespace SourceTree

/-- Source texts that differ in modules for test builds only make one tree. -/
theorem ofSources_of_built {sources others : List (String × String)}
    (same : List.Forall₂ (fun source other => source.1 = other.1 ∧
      builtItems? source.2 = builtItems? other.2) sources others) :
    ofSources sources = ofSources others := by
  have modules : sources.flatMap (fun source => modulesOf source.1 source.2) =
      others.flatMap fun source => modulesOf source.1 source.2 := by
    induction same with
    | nil => rfl
    | @cons source other _ _ first _ ih =>
      obtain ⟨path, text⟩ := source
      obtain ⟨_, other⟩ := other
      obtain ⟨rfl, built⟩ := first
      have own : modulesOf path text = modulesOf path other := by
        rw [modulesOf, modulesOf, Site.declared_of_built _ built]
      simp only [List.flatMap_cons, own, ih]
  rw [ofSources, ofSources, modules]

end SourceTree

/-! Reading a crate from a disk. -/

namespace Disk

variable {before after : Disk} {path : Path}

/-- The same is at the path on both disks, but for modules for test builds. -/
structure BuiltAlike (before after : Disk) (path : Path) : Prop where
  isFile : after.isFile path = before.isFile path
  contents : (after.readText path).toOption.map builtItems? =
    (before.readText path).toOption.map builtItems?

theorem BuiltAlike.unreadable (alike : BuiltAlike before after path)
    (failed : before.readText path = .error problem) :
    ∃ other, after.readText path = .error other := by
  have contents := alike.contents
  rw [failed] at contents
  cases read : after.readText path with
  | error other => exact ⟨other, rfl⟩
  | ok text =>
    rw [read] at contents
    cases contents

theorem BuiltAlike.read (alike : BuiltAlike before after path)
    (contents : before.readText path = .ok text) :
    ∃ other, after.readText path = .ok other ∧ builtItems? other = builtItems? text := by
  have same := alike.contents
  rw [contents] at same
  cases read : after.readText path with
  | error problem =>
    rw [read] at same
    cases same
  | ok other =>
    rw [read] at same
    exact ⟨other, rfl, Option.some.inj same⟩

theorem find?_of_alike {paths : List Path}
    (alike : ∀ path ∈ paths, BuiltAlike before after path) :
    paths.find? after.isFile = paths.find? before.isFile :=
  List.find?_congr fun path member => (alike path member).isFile

end Disk

open Disk (BuiltAlike)

namespace Reading

/-- The paths that are looked at while reading on through modules: those that the file of a module
may have. -/
inductive Probes (disk : Disk) : Reading → List Declared → Path → Prop where
  | present (later : Probes disk (reading.add module) rest path) :
      Probes disk reading (.present module :: rest) path
  | here (among : path ∈ absent.candidates) : Probes disk reading (.absent absent :: rest) path
  | inner (probed : Probes disk (openFile disk reading absent).1
        (openFile disk reading absent).2 path) :
      Probes disk reading (.absent absent :: rest) path
  | later
      (inner : Reads disk (openFile disk reading absent).1 (openFile disk reading absent).2 between)
      (probed : Probes disk between rest path) : Probes disk reading (.absent absent :: rest) path

variable {before after : Disk} {reading last : Reading} {declared : List Declared}

/-- Opening the file of a module comes to the same on disks that are alike where it may be. -/
theorem openFile_of_alike (alike : ∀ path ∈ absent.candidates, BuiltAlike before after path) :
    openFile after reading absent = openFile before reading absent := by
  have same := Disk.find?_of_alike alike
  have opened := opening before reading absent
  generalize openFile before reading absent = result at opened ⊢
  cases opened with
  | missing none => exact (Opening.missing (same.trans none)).eq
  | seen found seen => exact (Opening.seen (same.trans found) seen).eq
  | unreadable found new failed =>
    obtain ⟨_, unread⟩ := (alike _ (List.mem_of_find?_eq_some found)).unreadable failed
    exact (Opening.unreadable (same.trans found) new unread).eq
  | read found new contents =>
    obtain ⟨other, read, built⟩ := (alike _ (List.mem_of_find?_eq_some found)).read contents
    rw [← Site.declared_of_built _ built]
    exact (Opening.read (same.trans found) new read).eq

theorem Reads.of_alike (run : Reads before reading declared last)
    (alike : ∀ path, Probes before reading declared path → BuiltAlike before after path) :
    Reads after reading declared last := by
  induction run with
  | done => exact .done
  | present _ ih => exact .present (ih fun path probed => alike path (.present probed))
  | @absent reading absent _ _ _ inner later innerAlike laterAlike =>
    have opened : openFile after reading absent = openFile before reading absent :=
      openFile_of_alike fun path among => alike path (.here among)
    have first := innerAlike fun path probed => alike path (.inner probed)
    rw [← opened] at first
    exact .absent first (laterAlike fun path probed => alike path (.later inner probed))

end Reading

namespace SourceTree

variable {before after : Disk} {directory : Path}

/-- The paths that are looked at while a crate is read: those of its root, and those that the files
of its modules may have. Where modules for test builds lie is none of them. -/
inductive LooksAt (disk : Disk) (directory : Path) : Path → Prop where
  | root (among : path ∈ rootNames.map (Path.join directory)) : LooksAt disk directory path
  | module (read : IsRead disk directory root text last)
      (probed : Reading.Probes disk (opened root) ((start directory root).declared text) path) :
      LooksAt disk directory path

/-- A crate is read alike from disks that differ in modules for test builds only. -/
theorem load_of_alike
    (alike : ∀ path, LooksAt before directory path → BuiltAlike before after path) :
    load after directory = load before directory := by
  have found := Disk.find?_of_alike fun path among => alike path (.root among)
  cases loaded : load before directory with
  | error cause =>
    cases first : (rootNames.map (Path.join directory)).find? before.isFile with
    | none =>
      rw [← loaded]
      simp only [load, found, first]
    | some root =>
      have own := alike root (.root (List.mem_of_find?_eq_some first))
      cases contents : before.readText root with
      | error problem =>
        obtain ⟨other, unread⟩ := own.unreadable contents
        rw [← loaded]
        simp only [load, found, first, contents, unread]
      | ok text =>
        simp only [load, first, contents] at loaded
        cases loaded
  | ok tree =>
    obtain ⟨root, text, last, read, rfl⟩ := load_eq_ok.mp loaded
    have own := alike root (.root (List.mem_of_find?_eq_some read.found))
    obtain ⟨other, contents, built⟩ := own.read read.contents
    refine load_eq_ok.mpr ⟨root, other, last, ⟨found.trans read.found, contents, ?_⟩, rfl⟩
    rw [Site.declared_of_built _ built]
    exact read.run.of_alike fun path probed => alike path (.module read probed)

end SourceTree

/-! Structures and implementations that are kept for test builds themselves. -/

/-- Attributes without those that keep a declaration for test builds. -/
def unguarded (attrs : List Attribute) : List Attribute :=
  attrs.filter fun attr => !isTestOnly [attr]

def StructDecl.unguarded (decl : StructDecl) : StructDecl :=
  { decl with attrs := ValueObjects.unguarded decl.attrs }

def ImplDecl.unguarded (decl : ImplDecl) : ImplDecl :=
  { decl with attrs := ValueObjects.unguarded decl.attrs }

/-- A structure or an implementation for all builds; other declarations stay as they are. -/
def Item.unguarded : Item → Item
  | .struct decl => .struct decl.unguarded
  | .impl decl => .impl decl.unguarded
  | item => item

/-- Whether a structure or an implementation is kept for test builds itself. -/
def Item.isGuarded : Item → Bool
  | .struct decl => isTestOnly decl.attrs
  | .impl decl => isTestOnly decl.attrs
  | _ => false

def SourceModule.unguarded (module : SourceModule) : SourceModule :=
  { module with items := module.items.map Item.unguarded }

/-- The crate with all its structures and implementations for all builds. -/
def SourceTree.unguarded (tree : SourceTree) : SourceTree :=
  { tree with modules := tree.modules.map SourceModule.unguarded }

theorem SourceModule.structs_unguarded (module : SourceModule) :
    module.unguarded.structs = module.structs.map StructDecl.unguarded := by
  rw [structs, structs, SourceModule.unguarded, List.filterMap_map, List.map_filterMap]
  refine List.filterMap_congr fun item _ => ?_
  cases item <;> rfl

theorem SourceTree.findStruct?_unguarded (tree : SourceTree) (scope? : Option String)
    (name : String) :
    tree.unguarded.findStruct? scope? name =
      (tree.findStruct? scope? name).map StructDecl.unguarded := by
  have structs : (tree.unguarded.modules.filter (·.scope? == scope?)).flatMap SourceModule.structs =
      ((tree.modules.filter (·.scope? == scope?)).flatMap SourceModule.structs).map
        StructDecl.unguarded := by
    rw [SourceTree.unguarded, List.filter_map, List.flatMap_map, List.map_flatMap]
    exact List.flatMap_congr fun module _ => module.structs_unguarded
  rw [findStruct?, findStruct?, structs, List.find?_map]
  rfl

namespace Discovery

/-- An attribute that keeps a declaration for test builds derives nothing. -/
theorem isNamed_of_guard {attr : Attribute} (guarded : isTestOnly [attr] = true) :
    attr.isNamed "derive" = false := by
  obtain ⟨rooted, path, body⟩ := attr
  cases body with
  | word => cases guarded
  | value literal => cases guarded
  | list tokens =>
    simp only [isTestOnly, Attribute.isNamed, List.any_cons, List.any_nil, Bool.or_false,
      Bool.and_eq_true, beq_iff_eq] at guarded
    simp [Attribute.isNamed, guarded.1.2]

theorem derivedNames_unguarded (decl : StructDecl) :
    derivedNames decl.unguarded = derivedNames decl := by
  unfold derivedNames StructDecl.unguarded unguarded
  induction decl.attrs with
  | nil => rfl
  | cons attr rest ih =>
    cases guarded : isTestOnly [attr] with
    | false =>
      rw [List.filter_cons_of_pos (by simp [guarded]), List.flatMap_cons, ih, List.flatMap_cons]
    | true =>
      rw [List.filter_cons_of_neg (by simp [guarded]), ih, List.flatMap_cons]
      cases attr.body <;> simp [isNamed_of_guard guarded]

theorem ofDerive?_unguarded (scope? : Option String) (decl : StructDecl) :
    ofDerive? scope? decl.unguarded = ofDerive? scope? decl := by
  simp only [ofDerive?, derivedNames_unguarded]
  rfl

theorem ofImpl?_unguarded (tree : SourceTree) (scope? : Option String) (decl : ImplDecl) :
    ofImpl? tree.unguarded scope? decl.unguarded = ofImpl? tree scope? decl := by
  have capable : implementsCapability decl.unguarded = implementsCapability decl := rfl
  obtain ⟨attrs, isGeneric, trait?, self, types⟩ := decl
  unfold ofImpl?
  rw [capable]
  simp only [ImplDecl.unguarded, SourceTree.findStruct?_unguarded]
  split
  · rfl
  · cases self with
    | path rooted segments =>
      dsimp only
      cases ownerOf? scope? segments with
      | none => rfl
      | some owner =>
        cases types.lookup "Payload" with
        | none => rfl
        | some payload =>
          -- The flags are those of the structure, which loses its attribute as well.
          obtain ⟨owner?, name⟩ := owner
          dsimp only
          cases tree.findStruct? owner? name with
          | none => rfl
          | some declared =>
            simp only [Option.map_some, derivedNames_unguarded]
            rfl
    | _ => rfl

/-- What a declaration adds to a scan: the wrapper that it makes, and the properties of the entity
that it is. -/
def contribution (tree : SourceTree) (wrappers : List Descriptor) (module : SourceModule)
    (item : Item) : Option Descriptor × List Property :=
  (candidate? tree module item,
    match item with
    | .struct decl => entityProperties wrappers module.scope? decl
    | _ => [])

theorem contribution_unguarded (tree : SourceTree) (wrappers : List Descriptor)
    (module : SourceModule) (item : Item) :
    contribution tree.unguarded wrappers module.unguarded item.unguarded =
      contribution tree wrappers module item := by
  cases item with
  | struct decl => exact Prod.ext (ofDerive?_unguarded module.scope? decl) rfl
  | impl decl => exact Prod.ext (ofImpl?_unguarded tree module.scope? decl) rfl
  | module attrs name content => rfl
  | other => rfl

/-- All properties are those that the declarations add. -/
theorem entities_eq (tree : SourceTree) (wrappers : List Descriptor) :
    entities tree wrappers = Property.sort (tree.modules.flatMap fun module =>
      module.items.flatMap fun item => (contribution tree wrappers module item).2) := by
  have rows (module : SourceModule) :
      module.structs.flatMap (entityProperties wrappers module.scope?) =
        module.items.flatMap fun item => (contribution tree wrappers module item).2 := by
    rw [SourceModule.structs]
    induction module.items with
    | nil => rfl
    | cons item rest ih =>
      rw [List.flatMap_cons, ← ih]
      cases item <;> rfl
  rw [entities]
  simp only [rows]

theorem candidates_unguarded (tree : SourceTree) :
    candidates tree.unguarded = candidates tree := by
  have made : declared tree.unguarded = declared tree := by
    rw [declared, declared, SourceTree.unguarded, List.flatMap_map]
    refine List.flatMap_congr fun module _ => ?_
    rw [SourceModule.unguarded, List.filterMap_map]
    refine List.filterMap_congr fun item _ => ?_
    exact congrArg Prod.fst (contribution_unguarded tree [] module item)
  rw [candidates, candidates, made]

theorem entities_unguarded (tree : SourceTree) (wrappers : List Descriptor) :
    entities tree.unguarded wrappers = entities tree wrappers := by
  rw [entities_eq, entities_eq]
  have rows : (tree.unguarded.modules.flatMap fun module => module.items.flatMap fun item =>
      (contribution tree.unguarded wrappers module item).2) =
      tree.modules.flatMap fun module => module.items.flatMap fun item =>
        (contribution tree wrappers module item).2 := by
    have shown : tree.unguarded.modules = tree.modules.map SourceModule.unguarded := rfl
    rw [shown, List.flatMap_map]
    refine List.flatMap_congr fun module _ => ?_
    have items : module.unguarded.items = module.items.map Item.unguarded := rfl
    rw [items, List.flatMap_map]
    refine List.flatMap_congr fun item _ => ?_
    exact congrArg Prod.snd (contribution_unguarded tree wrappers module item)
  rw [rows]

end Discovery

/-- What a scan leaves out of what exists in test builds only: of source texts, of a crate on a
disk, and of the tree of a crate. -/
structure LeavesOut (sources : List (String × String)) (disk : Disk) (directory : Path)
    (tree : SourceTree) (wrappers : List Descriptor) : Prop where
  /-- Texts that differ in modules for test builds only make the same tree, at every depth. -/
  texts : ∀ others : List (String × String),
    List.Forall₂ (fun source other => source.1 = other.1 ∧
      builtItems? source.2 = builtItems? other.2) sources others →
    SourceTree.ofSources sources = SourceTree.ofSources others
  /-- So do disks, wherever the files of those modules lie and whatever is in them. -/
  disks : ∀ other : Disk,
    (∀ path, SourceTree.LooksAt disk directory path → BuiltAlike disk other path) →
    SourceTree.load other directory = SourceTree.load disk directory
  /-- Structures and implementations that are kept for test builds themselves count for all
  builds. -/
  candidates : Discovery.candidates tree.unguarded = Discovery.candidates tree
  entities : Discovery.entities tree.unguarded wrappers = Discovery.entities tree wrappers
  /-- They add nothing exactly if they would add nothing for all builds. -/
  guarded : (∀ module ∈ tree.modules, ∀ item ∈ module.items, item.isGuarded = true →
      Discovery.contribution tree wrappers module item = (none, [])) ↔
    ∀ module ∈ tree.modules, ∀ item ∈ module.items, item.isGuarded = true →
      Discovery.contribution tree.unguarded wrappers module.unguarded item.unguarded = (none, [])

/-- Modules for test builds are left out of a crate with all that is inside them. Structures and
implementations that are kept for test builds themselves are left out exactly if they make nothing
anyway. -/
theorem test_modules_left_out (sources : List (String × String)) (disk : Disk) (directory : Path)
    (tree : SourceTree) (wrappers : List Descriptor) :
    LeavesOut sources disk directory tree wrappers where
  texts _ := SourceTree.ofSources_of_built
  disks _ := SourceTree.load_of_alike
  candidates := Discovery.candidates_unguarded tree
  entities := Discovery.entities_unguarded tree wrappers
  guarded := by simp only [Discovery.contribution_unguarded]

/-- The wrapper of a module for test builds inside another module is left out with the module. -/
example : Discovery.declared (SourceTree.ofSources
    [("", "mod a { #[cfg(test)] mod t { #[derive(Value)] struct Fixture(i32); } }")]) = [] := by
  decide +kernel

/-- A structure that derives the capability and one that holds it, both kept for test builds
themselves. -/
def guardedTree : SourceTree :=
  let guard : Attribute := ⟨false, ["cfg"], .list [.ident "test"]⟩
  ⟨[⟨none, none, [
    .struct ⟨[guard, ⟨false, ["derive"], .list [.ident "Value"]⟩], "Fixture", false,
      .positional [⟨true, none, .path false [.plain "i32"]⟩]⟩,
    .struct ⟨[guard], "Sample", false,
      .named [⟨true, some "fixture", .path false [.plain "Fixture"]⟩]⟩]⟩], []⟩

/-- All its declarations exist in test builds only, and yet there are a wrapper and an entity. -/
theorem guarded_structures_found :
    (∀ module ∈ guardedTree.modules, module.structs.length = module.items.length ∧
      ∀ decl ∈ module.structs, isTestOnly decl.attrs = true) ∧
    Discovery.candidates guardedTree = [⟨"Fixture", "i32", none, false, true⟩] ∧
    Discovery.entities guardedTree (Discovery.candidates guardedTree) =
      [⟨"Sample", none, "fixture", "Fixture", none, false⟩] := by
  have declared : Discovery.declared guardedTree = [⟨"Fixture", "i32", none, false, true⟩] := by
    decide
  have found : Discovery.candidates guardedTree = [⟨"Fixture", "i32", none, false, true⟩] := by
    rw [Discovery.candidates, declared, Descriptor.sort, List.mergeSort_singleton]
    rfl
  have rows : (guardedTree.modules.flatMap fun module =>
      module.structs.flatMap (Discovery.entityProperties [⟨"Fixture", "i32", none, false, true⟩]
        module.scope?)) = [⟨"Sample", none, "fixture", "Fixture", none, false⟩] := by
    decide
  refine ⟨by decide, found, ?_⟩
  rw [found, Discovery.entities, rows, Property.sort, List.mergeSort_singleton]

end ValueObjects
