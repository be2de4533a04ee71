import ValueObjects.Proofs.BodyReaders
import ValueObjects.Proofs.Crawl
import ValueObjects.Proofs.Outlines
import ValueObjects.Proofs.Registrations

namespace ValueObjects

open Token

/-- Declarations whose names, and the types that they are for, are read back from their written
form. -/
inductive Item.IsLegible : Item → Prop where
  | struct (named : Legible [.ident decl.name]) : IsLegible (.struct decl)
  | impl (self : Legible decl.self.tokens) : IsLegible (.impl decl)
  | module (named : Legible [.ident name])
      (inner : ∀ items, content = some items → ∀ item ∈ items, IsLegible item) :
      IsLegible (.module attrs name content)
  | other : IsLegible .other

/-! Readers of declarations. -/

namespace Grammar

open Std.Do

set_option mvcgen.warning false

section

variable {rules : Rules} [rules.Keep]

theorem structDecl_gives : Gives (structDecl rules attrs) Item.IsLegible := by
  mvcgen [structDecl, -structDecl_spec, name_gives, -name_spec] with grind [Item.IsLegible]

theorem implDecl_gives : Gives (implDecl rules attrs) Item.IsLegible := by
  mvcgen -trivial [implDecl, -implDecl_spec, type_gives, -type_spec]
  -- What is kept is for the type that was read last.
  all_goals first
    | assumption
    | exact And.left ‹_›
    | exact ⟨‹_›, .other⟩
    | exact ⟨‹_›, .impl (And.right ‹_›)⟩
    | rfl

theorem unnoticed_gives {reader : Reader Unit} (keeps : Keeps reader) :
    Gives (unnoticed reader) Item.IsLegible := by
  mvcgen [unnoticed, -unnoticed_spec, keeps] with grind [Item.IsLegible]

theorem externDecl_gives : Gives (externDecl rules after) Item.IsLegible := by
  unfold externDecl
  split
  · exact unnoticed_gives externCrate_spec
  · exact unnoticed_gives foreignModule_spec

section

variable (items : ∀ attrs, Gives (rules.item attrs) Item.IsLegible)

include items

theorem items_give : Gives (collectAll do rules.item (← outerAttributes rules)) fun found =>
    ∀ item ∈ found, Item.IsLegible item := by
  apply collectWhile_gives
  mvcgen [items, -Rules.Keep.item]

theorem moduleDecl_gives : Gives (moduleDecl rules attrs) Item.IsLegible := by
  have body := items_give items
  have content {attrs : List Attribute} {name : String} (named : Legible [.ident name]) :
      Gives (inside .brace do
        let inner ← innerAttributes rules
        let items ← collectAll do
          rules.item (← outerAttributes rules)
        return .module (attrs ++ inner) name (some items)) Item.IsLegible := by
    apply inside_gives
    mvcgen [body, -collectAll_spec] with grind [Item.IsLegible]
  mvcgen [moduleDecl, -moduleDecl_spec, anyName_gives, name_gives, -anyName_spec, -name_spec,
    content, -inside_spec] with grind [Item.IsLegible]

theorem unsafeDecl_gives : Gives (unsafeDecl rules attrs after) Item.IsLegible := by
  unfold unsafeDecl
  split
  · exact unnoticed_gives traitDecl_spec
  · split
    · exact implDecl_gives
    · split
      · exact unnoticed_gives foreignModule_spec
      · exact moduleDecl_gives items

theorem item_gives : Gives (item rules attrs) Item.IsLegible := by
  have modules {attrs : List Attribute} : Gives (moduleDecl rules attrs) Item.IsLegible :=
    moduleDecl_gives items
  have marked {after : List Token} : Gives (unsafeDecl rules attrs after) Item.IsLegible :=
    unsafeDecl_gives items
  mvcgen [item, -item_spec, unnoticed_gives, -unnoticed_spec, externDecl_gives, -externDecl_spec,
    marked, -unsafeDecl_spec, modules, -moduleDecl_spec, structDecl_gives, -structDecl_spec,
    implDecl_gives, -implDecl_spec]

theorem file_gives : Gives (file rules) fun found => ∀ item ∈ found, Item.IsLegible item := by
  have body := items_give items
  mvcgen [file, body, -collectAll_spec]

end

end

/-- The declarations that the grammar gives are legible, to every depth. -/
theorem rules_item_gives (depth : Nat) (attrs : List Attribute) :
    Gives ((Grammar.rules depth).item attrs) Item.IsLegible := by
  induction depth generalizing attrs with
  | zero =>
    have fails : Gives (fail : Reader Item) Item.IsLegible := by mvcgen
    exact fails
  | succ depth ih => exact item_gives ih

/-- The declarations of a source file are legible. -/
theorem isLegible_of_sourceItems? (read : sourceItems? text = some items) :
    ∀ item ∈ items, Item.IsLegible item := by
  obtain ⟨tokens, lexed, whole⟩ := Option.bind_eq_some_iff.mp read
  have legible := Cursor.isLegible_start (legible_of_tokens? lexed)
  unfold items? Grammar.read complete at whole
  split at whole
  · rename_i ran
    cases whole
    exact (gives_iff.mp (file_gives (rules_item_gives _)) _ legible _ _ ran).2
  · cases whole

end Grammar

open Lexer (IsName)

/-! Names of what is legible. -/

namespace Legible

/-- A word that is read back is spelled as an identifier. -/
theorem isName (legible : Legible (.ident name :: rest)) : IsName name.toList := by
  cases legible with
  | leaf _ stands => exact (Lexer.name?_spells (Lexer.leaf?_ident (stands [] .ended).leaf)).2

theorem isName_of_steps (legible : Legible (ValueObjects.joinSteps (Segment.tokensOf segments)))
    (member : step ∈ segments) : IsName step.name.toList := by
  induction segments with
  | nil => cases member
  | cons segment rest ih =>
    obtain ⟨name, arguments⟩ := segment
    cases rest with
    | nil =>
      cases List.mem_singleton.mp member
      exact legible.isName
    | cons next more =>
      rcases List.mem_cons.mp member with rfl | later
      · exact legible.isName
      · have split : ValueObjects.joinSteps (Segment.tokensOf (.mk name arguments :: next :: more)) =
            ((Segment.mk name arguments).tokens ++ pathSeparator) ++
              ValueObjects.joinSteps (Segment.tokensOf (next :: more)) := rfl
        have behind := legible.drop ((Segment.mk name arguments).tokens ++ pathSeparator).length
        rw [split, List.drop_left] at behind
        exact ih behind later

/-- The steps of a path that is read back are identifiers. -/
theorem isName_of_path (legible : Legible (Ty.path rooted segments).tokens)
    (member : step ∈ segments) : IsName step.name.toList := by
  apply isName_of_steps _ member
  cases rooted with
  | false => exact legible
  | true => exact legible.tail.tail

end Legible

/-- Without the mark of raw identifiers, an identifier other than `mod` is a name that a file of a
module's own can have. -/
theorem Lexer.IsName.isStem {name : String} (spelled : IsName name.toList)
    (other : Naming.unraw name ≠ "mod") : IsStem (Naming.unraw name) := by
  have word := Naming.isWord_unraw spelled
  have apart {c : Char} (noPart : Text.isIdentContinue c = false) :
      c ∉ (Naming.unraw name).toList := by
    intro member
    cases noPart.symm.trans (Naming.isIdentContinue_of_mem_word word c member)
  refine ⟨?_, apart (by decide), apart (by decide), other⟩
  intro empty
  obtain ⟨c, rest, same, _⟩ := word
  rw [empty] at same
  cases same

/-- Of declarations that are read from text, all modules but those named `mod` have names that files
of their own can have. -/
theorem Outline.isStem_of_mem_names {outline : Outline}
    (legible : ∀ item ∈ outline.whole, Item.IsLegible item) (member : stem ∈ outline.names)
    (other : stem ≠ "mod") : IsStem stem := by
  induction outline with
  | nil => cases member
  | own item rest ih => exact ih (List.forall_mem_cons.mp legible).2 member
  | module attrs name placement inner rest _ ih =>
    obtain ⟨first, later⟩ := List.forall_mem_cons.mp legible
    rcases List.mem_cons.mp member with rfl | below
    · cases first with
      | module named => exact named.isName.isStem other
    · exact ih later below

/-- Whether the names are all spelled as identifiers. -/
def AllNamed (names : List String) : Prop :=
  ∀ name ∈ names, IsName name.toList

theorem AllNamed.concat (named : AllNamed names) (last : IsName name.toList) :
    AllNamed (names ++ [name]) := by
  simpa [AllNamed, or_imp, forall_and] using And.intro named last

/-- Identifiers are got back from the module path that is made of them. -/
theorem AllNamed.baseOf_pathOf (named : AllNamed names) :
    Discovery.baseOf (SourceModule.pathOf names) = names := by
  cases names with
  | nil => rfl
  | cons name rest =>
    exact Naming.steps_joinSteps (List.cons_ne_nil _ _) fun step member =>
      (named step member).solid.2

/-! Modules. -/

/-- A module at a path of identifiers, whose declarations are legible. -/
structure SourceModule.IsNamed (module : SourceModule) : Prop where
  path : ∃ names, AllNamed names ∧ module.scope? = SourceModule.pathOf names
  items : ∀ item ∈ module.items, item.IsLegible

/-- Whether a module that is declared is at a path of identifiers, and its declarations are legible
if they are written out. -/
def Declared.IsNamed : Declared → Prop
  | .present module => module.IsNamed
  | .absent unread => AllNamed (unread.site.steps ++ [unread.name])

theorem Site.isNamed_module {site : Site} (named : AllNamed site.steps)
    (legible : ∀ item ∈ items, Item.IsLegible item) : (site.module items).IsNamed where
  path := ⟨site.steps, named, rfl⟩
  items item member := legible item (List.mem_of_mem_filter member)

mutual

theorem Item.isNamed_declared {site : Site} (named : AllNamed site.steps) {item : Item}
    (legible : item.IsLegible) : ∀ found ∈ item.declared site, found.IsNamed := by
  intro found member
  cases legible with
  | @module name content attrs own inner =>
    have below : AllNamed (site.steps ++ [name]) := named.concat own.isName
    cases content with
    | none =>
      rw [Item.declared] at member
      split at member
      · cases member
      · cases List.mem_singleton.mp member
        exact below
    | some items =>
      rw [Item.declared] at member
      split at member
      · cases member
      · have inside : AllNamed (site.inside name (pathAttribute? attrs)).steps := below
        rcases List.mem_cons.mp member with rfl | later
        · exact Site.isNamed_module inside (inner items rfl)
        · exact Item.isNamed_declaredIn inside (inner items rfl) found later
  | _ => simp [Item.declared] at member

theorem Item.isNamed_declaredIn {site : Site} (named : AllNamed site.steps) {items : List Item}
    (legible : ∀ item ∈ items, Item.IsLegible item) :
    ∀ found ∈ Item.declaredIn site items, found.IsNamed := by
  intro found member
  cases items with
  | nil => simp [Item.declaredIn] at member
  | cons item rest =>
    obtain ⟨first, later⟩ := List.forall_mem_cons.mp legible
    rw [Item.declaredIn, List.mem_append] at member
    rcases member with own | others
    · exact Item.isNamed_declared named first found own
    · exact Item.isNamed_declaredIn named later found others

end

/-- The modules that a source file declares at a path of identifiers are so themselves. -/
theorem Site.isNamed_declared {site : Site} (named : AllNamed site.steps) (text : String) :
    ∀ found ∈ site.declared text, found.IsNamed := by
  intro found member
  unfold Site.declared at member
  split at member
  · rename_i items read
    have legible := Grammar.isLegible_of_sourceItems? read
    rcases List.mem_cons.mp member with rfl | later
    · exact Site.isNamed_module named legible
    · exact Item.isNamed_declaredIn named legible found later
  · cases member

namespace Reading

variable {disk : Disk} {reading last : Reading} {declared : List Declared}

/-- Opening the file of a module adds no module by itself, and declares modules at paths of
identifiers. -/
theorem isNamed_openFile {unread : Absent} (named : (Declared.absent unread).IsNamed) :
    (openFile disk reading unread).1.modules = reading.modules ∧
      ∀ found ∈ (openFile disk reading unread).2, found.IsNamed := by
  have ended := opening disk reading unread
  generalize openFile disk reading unread = result at ended ⊢
  cases ended with
  | @read file text found new contents =>
    have steps : AllNamed (unread.siteAt file).steps := named
    exact ⟨rfl, Site.isNamed_declared steps text⟩
  | _ => exact ⟨rfl, nofun⟩

/-- Reading on adds modules at paths of identifiers to modules at such paths. -/
theorem Reads.isNamed (run : Reads disk reading declared last)
    (named : ∀ found ∈ declared, found.IsNamed)
    (before : ∀ module ∈ reading.modules, module.IsNamed) :
    ∀ module ∈ last.modules, module.IsNamed := by
  induction run with
  | done => exact before
  | present _ ih =>
    obtain ⟨first, later⟩ := List.forall_mem_cons.mp named
    apply ih later
    intro module member
    rcases List.mem_append.mp member with old | new
    · exact before module old
    · cases List.mem_singleton.mp new
      exact first
  | absent _ _ inner later =>
    obtain ⟨first, others⟩ := List.forall_mem_cons.mp named
    obtain ⟨same, below⟩ := isNamed_openFile first
    exact later others (inner below (same ▸ before))

end Reading

/-! Wrappers. -/

namespace Discovery

variable {tree : SourceTree} {module : SourceModule} {descriptor : Descriptor}

/-- A path of identifiers leads to an identifier in a module at a path of identifiers. -/
theorem Leads.allNamed (leads : Leads scope? names (owner?, name)) (named : AllNamed names)
    (scope : AllNamed (baseOf scope?)) : AllNamed (name :: baseOf owner?) := by
  cases leads with
  | bare => exact List.forall_mem_cons.mpr ⟨named _ List.mem_cons_self, scope⟩
  | self => exact List.forall_mem_cons.mpr ⟨named name (by simp), scope⟩
  | @crate rest =>
    have above : AllNamed rest := fun step member => named step (by simp [member])
    refine List.forall_mem_cons.mpr ⟨named name (by simp), ?_⟩
    rwa [above.baseOf_pathOf]

/-- The names on the path to a wrapper are identifiers if its module and the declaration that makes
it are named by identifiers. -/
theorem Makes.allNamed (makes : Makes tree module.scope? descriptor rooted item)
    (named : module.IsNamed) (legible : item.IsLegible) :
    AllNamed (Generation.pathNames descriptor) := by
  obtain ⟨names, steps, path⟩ := named.path
  have scope : AllNamed (baseOf module.scope?) := by rwa [path, steps.baseOf_pathOf]
  cases makes with
  | @derived decl derivedAs =>
    cases legible with
    | struct own =>
      have whole : AllNamed (decl.name :: baseOf module.scope?) :=
        List.forall_mem_cons.mpr ⟨own.isName, scope⟩
      have key := derivedAs.key
      cases descriptor
      cases key
      exact whole
  | implemented implementedAs =>
    cases legible with
    | impl self =>
      obtain ⟨segments, written, _, leads⟩ := implementedAs.self
      rw [written] at self
      have each : AllNamed (segments.map Segment.name) := by
        intro name member
        obtain ⟨segment, present, rfl⟩ := List.mem_map.mp member
        exact self.isName_of_path present
      exact leads.allNamed each scope

end Discovery

/-! Crates. -/

namespace SourceTree

variable {tree : SourceTree}

theorem isSpelled_of_named (named : ∀ module ∈ tree.modules, module.IsNamed) : tree.IsSpelled := by
  have same {name read : String} (spelled : IsName name.toList)
      (found : Grammar.name? name = some read) : read = name :=
    Grammar.name?_eq_self spelled.solid.1 found
  constructor
  · intro module present decl member read found
    obtain ⟨item, among, own⟩ := List.mem_filterMap.mp member
    have legible := (named module present).items item among
    cases legible with
    | struct declared =>
      cases own
      exact same declared.isName found
    | _ => cases own
  · intro descriptor member name among read found
    obtain ⟨_, module, present, item, inModule, makes⟩ := Discovery.made_of_candidate member
    have own := named module present
    exact same (makes.allNamed own (own.items item inModule) name among) found

/-- The names of a crate that is read from a disk are spelled as they are read. -/
theorem isSpelled_of_load {disk : Disk} {directory : Path}
    (loaded : load disk directory = .ok tree) : tree.IsSpelled := by
  obtain ⟨root, text, last, read, rfl⟩ := load_eq_ok.mp loaded
  have steps : AllNamed (start directory root).steps := List.forall_mem_nil _
  exact isSpelled_of_named <|
    read.run.isNamed (Site.isNamed_declared steps text) (List.forall_mem_nil _)

/-- The names of source texts are spelled as they are read if the module paths that are given with
the texts are made of identifiers. -/
theorem isSpelled_ofSources {sources : List (String × String)}
    (named : ∀ source ∈ sources, AllNamed (stepsOf source.1)) : (ofSources sources).IsSpelled := by
  apply isSpelled_of_named
  intro module member
  obtain ⟨⟨path, text⟩, given, among⟩ := List.mem_flatMap.mp member
  obtain ⟨found, declared, written⟩ := List.mem_filterMap.mp among
  let site : Site := ⟨stepsOf path, none, "", ""⟩
  have steps : AllNamed site.steps := named (path, text) given
  have ends : found.IsNamed := Site.isNamed_declared steps text found declared
  cases found with
  | present =>
    cases written
    exact ends
  | absent => cases written

end SourceTree

end ValueObjects
