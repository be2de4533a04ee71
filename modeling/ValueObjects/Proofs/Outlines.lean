import ValueObjects.Proofs.LoadedModules
/-!
A crate is the same however its modules are laid out over files: read from its files, it has the
modules that it has when it is written as one source.
-/
namespace ValueObjects

/-- Where a module is written: inside its parent, in a file beside those of its siblings, or in one
in the directory that is named after it. -/
inductive Placement where
  | inside
  | beside
  | within

/-- Declarations with the trees of the modules among them. -/
inductive Outline where
  | nil
  | own (item : Item) (rest : Outline)
  | module (attrs : List Attribute) (name : String) (placement : Placement) (inner rest : Outline)

namespace Outline

/-- The declarations with all modules written out. -/
def whole : Outline → List Item
  | nil => []
  | own item rest => item :: rest.whole
  | module attrs name _ inner rest => .module attrs name (some inner.whole) :: rest.whole

/-- The declarations as they are written where the modules have files. -/
def written : Outline → List Item
  | nil => []
  | own item rest => item :: rest.written
  | module attrs name placement inner rest =>
    .module attrs name (match placement with | .inside => some inner.written | _ => none) ::
      rest.written

/-- The names of the modules, without those inside them, as files are named after them. -/
def names : Outline → List String
  | nil => []
  | own _ rest => rest.names
  | module _ name _ _ rest => Naming.unraw name :: rest.names

/-- The modules with their declarations, each before those inside it. -/
def modules (steps : List String) : Outline → List (List String × List Item)
  | nil => []
  | own _ rest => rest.modules steps
  | module _ name _ inner rest =>
    (steps ++ [name], inner.written) ::
      (inner.modules (steps ++ [name]) ++ rest.modules steps)

/-- The files of the modules, from the directory of their parent's modules. -/
def files (directory : Path) : Outline → List Path
  | nil => []
  | own _ rest => rest.files directory
  | module _ name placement inner rest =>
    let folder := Path.join directory (Naming.unraw name)
    let others := inner.files folder ++ rest.files directory
    match placement with
    | .inside => others
    | .beside => Path.join directory (Naming.unraw name ++ ".rs") :: others
    | .within => Path.join folder "mod.rs" :: others

end Outline

/-- A name that a file of a module's own can have. -/
structure IsStem (stem : String) : Prop where
  solid : stem ≠ ""
  plain : '/' ∉ stem.toList
  undotted : '.' ∉ stem.toList
  other : stem ≠ "mod"

instance : DecidablePred IsStem := fun stem =>
  decidable_of_iff (stem ≠ "" ∧ '/' ∉ stem.toList ∧ '.' ∉ stem.toList ∧ stem ≠ "mod")
    ⟨fun ⟨solid, plain, undotted, other⟩ => ⟨solid, plain, undotted, other⟩,
      fun named => ⟨named.solid, named.plain, named.undotted, named.other⟩⟩

namespace Outline

/-- Modules for all builds and without paths, of distinct names among their siblings. The marks of
raw identifiers do not tell names apart. -/
inductive IsPlain : Outline → Prop where
  | nil : IsPlain nil
  | own (plain : item.IsOwn) (later : rest.IsPlain) : IsPlain (own item rest)
  | module {placement : Placement} {inner rest : Outline} (built : isTestOnly attrs = false)
      (unplaced : pathAttribute? attrs = none)
      (named : IsStem (Naming.unraw name)) (apart : Naming.unraw name ∉ rest.names)
      (inside : inner.IsPlain) (later : rest.IsPlain) :
      IsPlain (module attrs name placement inner rest)

/-- Whether the files of the modules are on the disk, where the language looks for them. -/
inductive IsOn (disk : Disk) : Path → Outline → Prop where
  | nil : IsOn disk directory nil
  | own (later : IsOn disk directory rest) : IsOn disk directory (own item rest)
  | inside {inner rest : Outline} (inside : IsOn disk (Path.join directory (Naming.unraw name)) inner)
      (later : IsOn disk directory rest) :
      IsOn disk directory (module attrs name .inside inner rest)
  | beside {inner rest : Outline}
      (read : disk.items? (Path.join directory (Naming.unraw name ++ ".rs")) = some inner.written)
      (inside : IsOn disk (Path.join directory (Naming.unraw name)) inner)
      (later : IsOn disk directory rest) :
      IsOn disk directory (module attrs name .beside inner rest)
  | within {inner rest : Outline}
      (free : disk.isFile (Path.join directory (Naming.unraw name ++ ".rs")) = false)
      (read : disk.items? (Path.join (Path.join directory (Naming.unraw name)) "mod.rs") =
        some inner.written)
      (inside : IsOn disk (Path.join directory (Naming.unraw name)) inner)
      (later : IsOn disk directory rest) :
      IsOn disk directory (module attrs name .within inner rest)

end Outline

namespace IsStem

variable {stem other : String}

theorem moves (named : IsStem stem) : Path.isIdle stem = false := by
  simp only [Path.isIdle, Bool.or_eq_false_iff, beq_eq_false_iff_ne]
  refine ⟨named.solid, ?_⟩
  rintro rfl
  exact named.undotted (by decide)

theorem plain_file (named : IsStem stem) : '/' ∉ (stem ++ ".rs").toList := by
  rw [String.toList_append, List.mem_append]
  exact not_or.mpr ⟨named.plain, by decide⟩

theorem steps_file (named : IsStem stem) : Path.steps (stem ++ ".rs") = [stem ++ ".rs"] :=
  Path.steps_of_plain named.plain_file (Path.moves_file stem)

theorem ne_file (named : IsStem stem) (other : String) : stem ≠ other ++ ".rs" := by
  rintro rfl
  exact named.undotted (by simp)

theorem file_ne_mod (named : IsStem stem) : "mod.rs" ≠ stem ++ ".rs" := by
  intro same
  have stems : "mod" ++ ".rs" = stem ++ ".rs" := same
  exact named.other ((String.append_left_inj ".rs").mp stems).symm

end IsStem

/-- Whether the steps of a file begin, after those of a directory, with a module's name. -/
def BeginsWith (directory : Path) (stem : String) (file : Path) : Prop :=
  ∃ piece rest, file.steps = directory.steps ++ piece :: rest ∧
    (piece = stem ∨ piece = stem ++ ".rs")

section

variable {directory file other : Path} {stem own : String}

theorem steps_beside (named : IsStem stem) :
    (Path.join directory (stem ++ ".rs")).steps = directory.steps ++ [stem ++ ".rs"] :=
  Path.steps_join_name named.plain_file (Path.moves_file stem)

theorem steps_folder (named : IsStem stem) :
    (Path.join directory stem).steps = directory.steps ++ [stem] :=
  Path.steps_join_name named.plain named.moves

theorem steps_mod (directory : Path) :
    (Path.join directory "mod.rs").steps = directory.steps ++ ["mod.rs"] :=
  Path.steps_join_name (by decide) (by decide)

theorem parent_mod (named : IsStem stem) :
    (Path.join (Path.join directory stem) "mod.rs").parent = Path.join directory stem :=
  Path.parent_join named.plain named.moves (by decide) (by decide)

theorem beginsWith_file (named : IsStem stem) :
    BeginsWith directory stem (Path.join directory (stem ++ ".rs")) :=
  ⟨stem ++ ".rs", [], steps_beside named, .inr rfl⟩

theorem beginsWith_mod (named : IsStem stem) :
    BeginsWith directory stem (Path.join (Path.join directory stem) "mod.rs") := by
  refine ⟨stem, ["mod.rs"], ?_, .inl rfl⟩
  rw [steps_mod, steps_folder named, List.append_assoc]
  rfl

/-- What begins with a name below the directory of a module begins with the module's name. -/
theorem BeginsWith.above (named : IsStem stem)
    (begins : BeginsWith (Path.join directory stem) own file) : BeginsWith directory stem file := by
  obtain ⟨piece, rest, steps, _⟩ := begins
  rw [steps_folder named, List.append_assoc] at steps
  exact ⟨stem, piece :: rest, steps, .inl rfl⟩

theorem IsStem.eq_of_begins (named : IsStem stem) (ownNamed : IsStem own)
    (begins : BeginsWith directory stem file) (ownBegins : BeginsWith directory own other)
    (same : file.steps = other.steps) : stem = own := by
  obtain ⟨piece, rest, steps, which⟩ := begins
  obtain ⟨ownPiece, ownRest, ownSteps, ownWhich⟩ := ownBegins
  rw [steps, ownSteps, List.append_cancel_left_eq, List.cons.injEq] at same
  obtain ⟨rfl, _⟩ := same
  rcases which with plain | spelled <;> rcases ownWhich with ownPlain | ownSpelled
  · exact plain.symm.trans ownPlain
  · exact (named.ne_file own (plain.symm.trans ownSpelled)).elim
  · exact (ownNamed.ne_file stem (ownPlain.symm.trans spelled)).elim
  · exact (String.append_left_inj ".rs").mp (spelled.symm.trans ownSpelled)

/-- The file of a module beside those of its siblings is none of those of the modules inside it. -/
theorem BeginsWith.ne_beside (named : IsStem stem)
    (begins : BeginsWith (Path.join directory stem) own file) :
    (Path.join directory (stem ++ ".rs")).steps ≠ file.steps := by
  obtain ⟨piece, rest, steps, _⟩ := begins
  rw [steps, steps_folder named, steps_beside named, List.append_assoc, ne_eq,
    List.append_cancel_left_eq]
  intro same
  exact named.ne_file stem (List.cons.inj same).1.symm

/-- The file of a module in its directory is none of those of the modules inside it. -/
theorem BeginsWith.ne_within (named : IsStem stem) (begins : BeginsWith directory stem file) :
    (Path.join directory "mod.rs").steps ≠ file.steps := by
  obtain ⟨piece, rest, steps, which⟩ := begins
  rw [steps, steps_mod, ne_eq, List.append_cancel_left_eq]
  intro same
  rcases which with plain | spelled
  · exact named.ne_file "mod" (plain.symm.trans (List.cons.inj same).1.symm)
  · exact named.file_ne_mod ((List.cons.inj same).1.trans spelled)

end

/-- A module in a file of its own is read if none of the files inside and after it is the same. -/
theorem Loads.of_apart {disk : Disk} {file : Path} {ground next : Ground}
    (built : isTestOnly attrs = false)
    (leads : ground.Leads disk name (pathAttribute? attrs) file next)
    (read : disk.items? file = some items)
    (apart : ((file :: (innerFiles ++ files)).map Path.steps).Nodup)
    (new : ∀ other ∈ file :: (innerFiles ++ files), other.steps ∉ above)
    (inner : (innerFiles.map Path.steps).Nodup →
      (∀ other ∈ innerFiles, other.steps ∉ file.steps :: above) →
      Loads disk (file.steps :: above) next items innerModules innerFiles)
    (later : (files.map Path.steps).Nodup → (∀ other ∈ files, other.steps ∉ above) →
      Loads disk above ground rest modules files) :
    Loads disk above ground (.module attrs name none :: rest)
      ((ground.steps ++ [name], items) :: (innerModules ++ modules))
      (file :: (innerFiles ++ files)) := by
  obtain ⟨here, apart⟩ := List.nodup_cons.mp apart
  obtain ⟨newHere, new⟩ := List.forall_mem_cons.mp new
  obtain ⟨newInner, newLater⟩ := List.forall_mem_append.mp new
  rw [List.map_append, List.nodup_append'] at apart
  refine .file file built leads newHere read (inner apart.1 ?_) (later apart.2.1 newLater)
  intro other member
  rw [List.mem_cons, not_or]
  refine ⟨fun same => here ?_, newInner other member⟩
  rw [← same]
  exact List.mem_map_of_mem (List.mem_append_left _ member)

namespace Outline

variable {crate : Outline} {disk : Disk} {directory file : Path}

theorem IsPlain.stems (plain : crate.IsPlain) : ∀ stem ∈ crate.names, IsStem stem := by
  induction plain with
  | nil => exact nofun
  | own _ _ ih => exact ih
  | module _ _ named _ _ _ _ ihLater =>
    intro stem member
    rcases List.mem_cons.mp member with rfl | later
    · exact named
    · exact ihLater stem later

/-- The file of a module itself. -/
theorem mem_files_module {inner rest : Outline} :
    file ∈ (module attrs name placement inner rest).files directory ↔
    (placement = .beside ∧ file = Path.join directory (Naming.unraw name ++ ".rs")) ∨
      (placement = .within ∧
        file = Path.join (Path.join directory (Naming.unraw name)) "mod.rs") ∨
      file ∈ inner.files (Path.join directory (Naming.unraw name)) ∨
      file ∈ rest.files directory := by
  cases placement <;> simp [files]

theorem IsPlain.files_begin (plain : crate.IsPlain) (member : file ∈ crate.files directory) :
    ∃ stem ∈ crate.names, BeginsWith directory stem file := by
  induction plain generalizing directory with
  | nil => cases member
  | own _ _ ih => exact ih member
  | module _ _ named _ _ _ ihInner ihLater =>
    rw [mem_files_module] at member
    rcases member with ⟨_, rfl⟩ | ⟨_, rfl⟩ | inside | later
    · exact ⟨_, List.mem_cons_self, beginsWith_file named⟩
    · exact ⟨_, List.mem_cons_self, beginsWith_mod named⟩
    · obtain ⟨_, _, begins⟩ := ihInner inside
      exact ⟨_, List.mem_cons_self, begins.above named⟩
    · obtain ⟨stem, among, begins⟩ := ihLater later
      exact ⟨stem, List.mem_cons_of_mem _ among, begins⟩

/-- No two modules have the same file. -/
theorem IsPlain.files_nodup (plain : crate.IsPlain) (directory : Path) :
    ((crate.files directory).map Path.steps).Nodup := by
  induction plain generalizing directory with
  | nil => exact List.nodup_nil
  | own _ _ ih => exact ih directory
  | @module _ name placement inner rest _ _ named apart plainInner plainLater ihInner ihLater =>
    have outside {file : Path} (begins : BeginsWith directory (Naming.unraw name) file) :
        file.steps ∉ (rest.files directory).map Path.steps := by
      intro among
      obtain ⟨other, member, same⟩ := List.mem_map.mp among
      obtain ⟨stem, own, otherBegins⟩ := plainLater.files_begin member
      have called := named.eq_of_begins (plainLater.stems stem own) begins otherBegins same.symm
      exact apart (called ▸ own)
    have both : ((inner.files (Path.join directory (Naming.unraw name)) ++
        rest.files directory).map Path.steps).Nodup := by
      rw [List.map_append, List.nodup_append']
      refine ⟨ihInner _, ihLater _, ?_⟩
      intro steps inside later
      obtain ⟨file, member, rfl⟩ := List.mem_map.mp inside
      obtain ⟨_, _, begins⟩ := plainInner.files_begin member
      exact outside (begins.above named) later
    cases placement with
    | inside => exact both
    | beside =>
      refine List.nodup_cons.mpr ⟨?_, both⟩
      rw [List.map_append, List.mem_append, not_or]
      refine ⟨?_, outside (beginsWith_file named)⟩
      intro among
      obtain ⟨file, member, same⟩ := List.mem_map.mp among
      obtain ⟨_, _, begins⟩ := plainInner.files_begin member
      exact begins.ne_beside named same.symm
    | within =>
      refine List.nodup_cons.mpr ⟨?_, both⟩
      rw [List.map_append, List.mem_append, not_or]
      refine ⟨?_, outside (beginsWith_mod named)⟩
      intro among
      obtain ⟨file, member, same⟩ := List.mem_map.mp among
      obtain ⟨stem, own, begins⟩ := plainInner.files_begin member
      exact begins.ne_within (plainInner.stems stem own) same.symm

/-- The language reads the modules of an outline from their files. -/
theorem IsOn.loads (placed : crate.IsOn disk directory) (plain : crate.IsPlain)
    (steps : List String) (base : Path)
    (apart : ((crate.files directory).map Path.steps).Nodup)
    (new : ∀ file ∈ crate.files directory, file.steps ∉ above) :
    Loads disk above ⟨steps, directory, base⟩ crate.written (crate.modules steps)
      (crate.files directory) := by
  induction placed generalizing steps base above with
  | nil => exact .done
  | own _ ih =>
    cases plain with
    | own plain later => exact .own plain (ih later steps base apart new)
  | inside _ _ ihInner ihLater =>
    cases plain with
    | module built unplaced _ _ inside later =>
      rw [files, List.map_append, List.nodup_append'] at apart
      obtain ⟨newInner, newLater⟩ := List.forall_mem_append.mp new
      exact .inside built unplaced (ihInner inside _ _ apart.1 newInner)
        (ihLater later steps base apart.2.1 newLater)
  | @beside _ name _ _ _ read _ _ ihInner ihLater =>
    cases plain with
    | module built unplaced _ _ inside later =>
      have leads : Ground.Leads disk ⟨steps, _, base⟩ name none _ _ :=
        .beside (Disk.isFile_of_items read)
      exact Loads.of_apart built (leads.attribute unplaced) read apart new (ihInner inside _ _)
        (ihLater later steps base)
  | @within _ name _ _ _ free read _ _ ihInner ihLater =>
    cases plain with
    | module built unplaced named _ inside later =>
      have leads : Ground.Leads disk ⟨steps, _, base⟩ name none _ _ :=
        .within free (Disk.isFile_of_items read)
      rw [Ground.within, parent_mod named] at leads
      exact Loads.of_apart built (leads.attribute unplaced) read apart new (ihInner inside _ _)
        (ihLater later steps base)

/-- The modules of an outline have their own names. -/
theorem IsPlain.ownNames (plain : crate.IsPlain) (steps : List String) :
    HaveOwnNames (crate.modules steps) := by
  induction plain generalizing steps with
  | nil => exact nofun
  | own _ _ ih => exact ih steps
  | @module _ name _ _ _ _ _ named _ _ _ ihInner ihLater =>
    refine List.forall_mem_cons.mpr ⟨?_, List.forall_mem_append.mpr ⟨ihInner _, ihLater steps⟩⟩
    intro last ends shares
    rw [List.getLast?_concat, Option.mem_some_iff] at ends
    subst ends
    rw [SharesName, Path.fileName?, named.steps_file, List.getLast?_singleton,
      Option.some_inj] at shares
    exact named.file_ne_mod shares.symm

theorem IsPlain.ownItems_whole (plain : crate.IsPlain) :
    ownItems crate.whole = ownItems crate.written := by
  induction plain with
  | nil => rfl
  | @own item rest _ _ ih =>
    have split (items : List Item) : ownItems (item :: items) = ownItems [item] ++ ownItems items :=
      List.filter_append [item] items
    rw [whole, written, split rest.whole, split rest.written, ih]
  | module _ _ _ _ _ _ _ ih => exact ih

/-- Written as one source, an outline has the same modules. -/
theorem IsPlain.declared_whole (plain : crate.IsPlain) (site : Site) :
    ((Item.declaredIn site crate.whole).filterMap Declared.module?).map SourceModule.content =
      (crate.modules site.steps).map shown := by
  induction plain generalizing site with
  | nil => rfl
  | own plain _ ih =>
    rw [whole, Item.declaredIn, Item.declared_of_own plain, List.nil_append, ih]
    rfl
  | @module _ name _ inner _ built unplaced _ _ inside _ ihInner ihLater =>
    rw [whole, Item.declaredIn, Item.declared_of_inside built unplaced, List.filterMap_append,
      List.filterMap_cons, List.map_append]
    have same : ((site.inside name none).module inner.whole).content =
        shown (site.steps ++ [name], inner.written) := by
      rw [shown, ← inside.ownItems_whole]
      rfl
    simp only [Declared.module?, List.map_cons, ihInner, ihLater, same]
    rw [modules, List.map_cons, List.map_append]
    rfl

/-- The file of a crate's root is that of none of its modules, if none is called like it. -/
theorem IsPlain.root_apart (plain : crate.IsPlain) (other : "lib" ∉ crate.names) :
    ∀ file ∈ crate.files directory, file.steps ∉ [(Path.join directory "lib.rs").steps] := by
  intro file member same
  obtain ⟨stem, among, begins⟩ := plain.files_begin member
  have root : IsStem "lib" := ⟨by decide, by decide, by decide, by decide⟩
  have called := root.eq_of_begins (plain.stems stem among) (beginsWith_file root) begins
    (List.mem_singleton.mp same).symm
  exact other (called ▸ among)

end Outline

/-- A source text by itself has the modules that are written in it. -/
theorem SourceTree.contents_ofSource (parsed : Grammar.sourceItems? text = some items) :
    (SourceTree.ofSources [("", text)]).contents =
      shown ([], items) ::
        ((Item.declaredIn ⟨[], none, "", ""⟩ items).filterMap Declared.module?).map
          SourceModule.content := by
  have own : (ofSources [("", text)]).modules =
      (Site.declared ⟨[], none, "", ""⟩ text).filterMap Declared.module? :=
    List.flatMap_singleton _ _
  rw [contents, own, Site.declared_of_items parsed]
  rfl

/-- A crate that is laid out over files is read with the modules that it has when it is written as
one source, and a pass over it gives the same. -/
theorem load_laid_out {crate : Outline} (plain : crate.IsPlain) (other : "lib" ∉ crate.names)
    (placed : crate.IsOn disk directory)
    (read : disk.items? (Path.join directory "lib.rs") = some crate.written)
    (parsed : Grammar.sourceItems? text = some crate.whole) :
    ∃ tree, SourceTree.load disk directory = .ok tree ∧
      tree.contents = (SourceTree.ofSources [("", text)]).contents ∧
      ∀ config, Generation.generate config tree =
        Generation.generate config (SourceTree.ofSources [("", text)]) := by
  have there : disk.isFile (Path.join directory "lib.rs") = true := Disk.isFile_of_items read
  have root : IsCrate disk directory (Path.join directory "lib.rs") crate.written :=
    ⟨List.find?_cons_of_pos there, read⟩
  have loads := placed.loads plain [] directory (plain.files_nodup directory)
    (plain.root_apart other)
  obtain ⟨_, tree, _, _, _, loaded, _⟩ := root.loaded
  obtain ⟨kept, last, compared, contents⟩ := root.kept loads (plain.ownNames []) loaded
  have same : tree.contents = (SourceTree.ofSources [("", text)]).contents := by
    rw [contents, compared.whole loads.fresh (plain.files_nodup directory),
      SourceTree.contents_ofSource parsed, plain.declared_whole, List.map_cons, shown, shown,
      plain.ownItems_whole]
  exact ⟨tree, loaded, same, fun config => Generation.generate_of_contents config same⟩

/-- A wrapper of numbers. -/
def wrapperItem : Item :=
  .struct ⟨[⟨false, ["derive"], .list [.ident "Value"]⟩], "S", false,
    .positional [⟨true, none, .path false [.mk "u8" .none]⟩]⟩

def Item.isWrapper : Item → Bool
  | .struct ⟨[⟨false, [path], .list [.ident word]⟩], name, false,
      .positional [⟨true, none, .path false [.mk ty .none]⟩]⟩ =>
    path == "derive" && word == "Value" && name == "S" && ty == "u8"
  | _ => false

theorem Item.eq_of_isWrapper {item : Item} (found : item.isWrapper = true) :
    item = wrapperItem := by
  unfold isWrapper at found
  split at found
  · simp only [Bool.and_eq_true, beq_iff_eq] at found
    obtain ⟨⟨⟨rfl, rfl⟩, rfl⟩, rfl⟩ := found
    rfl
  · cases found

mutual

/-- Whether two declarations are the same wrapper, or modules without attributes of the same. -/
def Item.agrees : Item → Item → Bool
  | .struct decl, .struct second => (Item.struct decl).isWrapper && (Item.struct second).isWrapper
  | .module [] name none, .module [] named none => name == named
  | .module [] name (some items), .module [] named (some others) =>
    name == named && Item.agreeAll items others
  | _, _ => false

def Item.agreeAll : List Item → List Item → Bool
  | [], [] => true
  | item :: rest, second :: others => item.agrees second && Item.agreeAll rest others
  | _, _ => false

end

mutual

theorem Item.eq_of_agrees : {item second : Item} → item.agrees second = true → item = second
  | .struct decl, .struct second, same => by
    rw [agrees, Bool.and_eq_true] at same
    rw [eq_of_isWrapper same.1, eq_of_isWrapper same.2]
  | .module [] name none, .module [] named none, same => by
    rw [agrees, beq_iff_eq] at same
    rw [same]
  | .module [] name (some items), .module [] named (some others), same => by
    rw [agrees, Bool.and_eq_true, beq_iff_eq] at same
    rw [same.1, eq_of_agreeAll same.2]

theorem Item.eq_of_agreeAll :
    {items others : List Item} → agreeAll items others = true → items = others
  | [], [], _ => rfl
  | item :: rest, second :: others, same => by
    rw [agreeAll, Bool.and_eq_true] at same
    rw [eq_of_agrees same.1, eq_of_agreeAll same.2]

end

theorem Item.eq_of_any {items : List Item} {parsed : Option (List Item)}
    (agreed : parsed.any (agreeAll items) = true) : parsed = some items := by
  obtain ⟨found, rfl, same⟩ := (Option.any_eq_true _ _).mp agreed
  rw [eq_of_agreeAll same]

/-- A crate with a module in each place, one of them with a raw name. -/
def mixedCrate : Outline :=
  .own wrapperItem <|
  .module [] "r#loop" .beside (.module [] "c" .within .nil .nil) <|
  .module [] "b" .inside (.module [] "d" .beside .nil .nil) .nil

def mixedDisk : Disk :=
  ⟨[(["src"], .directory),
    (["src", "lib.rs"],
      .file "#[derive(Value)] pub struct S(u8); mod r#loop; mod b { mod d; }".toUTF8),
    (["src", "loop.rs"], .file "mod c;".toUTF8), (["src", "loop"], .directory),
    (["src", "loop", "c"], .directory), (["src", "loop", "c", "mod.rs"], .file "".toUTF8),
    (["src", "b"], .directory), (["src", "b", "d.rs"], .file "".toUTF8)]⟩

def mixedText : String :=
  "#[derive(Value)] pub struct S(u8); mod r#loop { mod c { } } mod b { mod d { } }"

theorem load_laid_out_mixed :
    mixedCrate.IsPlain ∧ "lib" ∉ mixedCrate.names ∧ mixedCrate.IsOn mixedDisk "src" ∧
      mixedDisk.items? (Path.join "src" "lib.rs") = some mixedCrate.written ∧
      Grammar.sourceItems? mixedText = some mixedCrate.whole ∧
      ∃ tree, SourceTree.load mixedDisk "src" = .ok tree ∧
        tree.contents = (SourceTree.ofSources [("", mixedText)]).contents ∧
        ∀ config, Generation.generate config tree =
          Generation.generate config (SourceTree.ofSources [("", mixedText)]) := by
  obtain ⟨isLoop, isC, isB, isD, apart, free⟩ :
      IsStem (Naming.unraw "r#loop") ∧ IsStem (Naming.unraw "c") ∧ IsStem (Naming.unraw "b") ∧
      IsStem (Naming.unraw "d") ∧ "lib" ∉ mixedCrate.names ∧
      mixedDisk.isFile "src/loop/c.rs" = false := by decide +kernel
  have plain : mixedCrate.IsPlain :=
    .own nofun <| .module rfl rfl isLoop (by decide +kernel)
      (.module rfl rfl isC List.not_mem_nil .nil .nil) <|
      .module rfl rfl isB List.not_mem_nil
        (.module rfl rfl isD List.not_mem_nil .nil .nil) .nil
  obtain ⟨inLoop, inC, inD, inRoot, inText⟩ :
      (mixedDisk.items? "src/loop.rs").any (Item.agreeAll [.module [] "c" none]) = true ∧
      (mixedDisk.items? "src/loop/c/mod.rs").any (Item.agreeAll []) = true ∧
      (mixedDisk.items? "src/b/d.rs").any (Item.agreeAll []) = true ∧
      (mixedDisk.items? (Path.join "src" "lib.rs")).any (Item.agreeAll mixedCrate.written) = true ∧
      (Grammar.sourceItems? mixedText).any (Item.agreeAll mixedCrate.whole) = true := by
    decide +kernel
  have readLoop : mixedDisk.items? "src/loop.rs" = some [.module [] "c" none] :=
    Item.eq_of_any inLoop
  have placed : mixedCrate.IsOn mixedDisk "src" :=
    .own <| .beside readLoop (.within free (Item.eq_of_any inC) .nil .nil) <|
      .inside (.beside (Item.eq_of_any inD) .nil .nil) .nil
  have read := Item.eq_of_any inRoot
  have parsed := Item.eq_of_any inText
  exact ⟨plain, apart, placed, read, parsed, load_laid_out plain apart placed read parsed⟩

end ValueObjects
