import Mathlib.Data.List.Induction
import ValueObjects.Proofs.LoadedModules
/-!
The modules of source texts. Each module that is written out is told by its position: the index of
its source and those of the declarations that lead to it. The modules of a tree are exactly these,
in the order of their positions, so that each comes once, before those inside it.
-/
namespace ValueObjects

/-- The modules that are written out among declarations: where they are, the names that lead to
them, and their own declarations. None is in one for test builds. -/
inductive Inline : List Item → List Nat → List String → List Item → Prop where
  | here : Inline items [] [] items
  | inside (found : items[i]? = some (.module attrs name (some nested)))
      (kept : isTestOnly attrs = false) (below : Inline nested position steps content) :
    Inline items (i :: position) (name :: steps) content

section

variable {α β : Type} {own other : List Nat → α → Prop} {values others : List α}

/-- Whether the values are those at some positions, each once and in the order of the positions. -/
def Lists (own : List Nat → α → Prop) (values : List α) : Prop :=
  ∃ listing : List (List Nat × α), listing.map Prod.snd = values ∧
    (listing.map Prod.fst).Pairwise (· < ·) ∧
    ∀ position value, (position, value) ∈ listing ↔ own position value

namespace Lists

theorem nil (none : ∀ position value, ¬own position value) : Lists own [] :=
  ⟨[], rfl, .nil, fun position value => by simp [none]⟩

theorem congr (lists : Lists own values)
    (same : ∀ position value, own position value ↔ other position value) :
    Lists other values := by
  obtain ⟨listing, named, ascending, exact⟩ := lists
  exact ⟨listing, named, ascending, fun position value => (exact position value).trans
    (same position value)⟩

theorem singleton (value : α) :
    Lists (fun position found => position = [] ∧ found = value) [value] :=
  ⟨[([], value)], rfl, List.pairwise_singleton _ _, fun position found => by simp⟩

theorem below (lists : Lists own values) (i : Nat) :
    Lists (fun position value => ∃ rest, position = i :: rest ∧ own rest value) values := by
  obtain ⟨listing, rfl, ascending, exact⟩ := lists
  refine ⟨listing.map fun entry => (i :: entry.1, entry.2), by simp, ?_, ?_⟩
  · rw [List.map_map, List.pairwise_map]
    rw [List.pairwise_map] at ascending
    exact ascending.imp fun before => List.cons_lt_cons_iff.mpr (.inr ⟨rfl, before⟩)
  · intro position value
    simp only [List.mem_map, Prod.exists, Prod.mk.injEq, exact]
    constructor
    · rintro ⟨rest, found, present, rfl, rfl⟩
      exact ⟨rest, rfl, present⟩
    · rintro ⟨rest, rfl, present⟩
      exact ⟨rest, value, present, rfl, rfl⟩

/-- Values at earlier positions come before values at later ones. -/
theorem append (first : Lists own values) (second : Lists other others)
    (before : ∀ position value later found, own position value → other later found →
      position < later) :
    Lists (fun position value => own position value ∨ other position value)
      (values ++ others) := by
  obtain ⟨listing, rfl, ascending, exact⟩ := first
  obtain ⟨more, rfl, moreAscending, moreExact⟩ := second
  refine ⟨listing ++ more, List.map_append, ?_, ?_⟩
  · rw [List.map_append, List.pairwise_append]
    refine ⟨ascending, moreAscending, ?_⟩
    intro position present later morePresent
    obtain ⟨entry, found, rfl⟩ := List.mem_map.mp present
    obtain ⟨next, moreFound, rfl⟩ := List.mem_map.mp morePresent
    exact before _ _ _ _ ((exact _ _).mp found) ((moreExact _ _).mp moreFound)
  · intro position value
    rw [List.mem_append, exact, moreExact]

/-- What the items of a list have at their positions is listed item by item. -/
theorem flatMap {owns : β → List Nat → α → Prop} {values : β → List α} {items : List β}
    (each : ∀ item ∈ items, Lists (owns item) (values item)) :
    Lists (fun position value => ∃ i item rest, position = i :: rest ∧ items[i]? = some item ∧
      owns item rest value) (items.flatMap values) := by
  induction items using List.reverseRecOn with
  | nil => exact nil fun position value ⟨i, item, rest, _, found, _⟩ => by simp at found
  | append_singleton front last ih =>
    have earlier := ih fun item member => each item (List.mem_append_left _ member)
    have final := (each last List.mem_concat_self).below front.length
    rw [List.flatMap_append, List.flatMap_singleton]
    refine (earlier.append final ?_).congr ?_
    · rintro _ _ _ _ ⟨i, item, rest, rfl, found, _⟩ ⟨tail, rfl, _⟩
      obtain ⟨short, _⟩ := List.getElem?_eq_some_iff.mp found
      exact List.cons_lt_cons_iff.mpr (.inl short)
    · intro position value
      constructor
      · rintro (⟨i, item, rest, rfl, found, present⟩ | ⟨rest, rfl, present⟩)
        · obtain ⟨short, _⟩ := List.getElem?_eq_some_iff.mp found
          exact ⟨i, item, rest, rfl, by rwa [List.getElem?_append_left short], present⟩
        · exact ⟨front.length, last, rest, rfl, List.getElem?_concat_length, present⟩
      · rintro ⟨i, item, rest, rfl, found, present⟩
        by_cases short : i < front.length
        · rw [List.getElem?_append_left short] at found
          exact .inl ⟨i, item, rest, rfl, found, present⟩
        · obtain ⟨inside, _⟩ := List.getElem?_eq_some_iff.mp found
          have same : i = front.length := by
            rw [List.length_append, List.length_singleton] at inside
            omega
          subst same
          rw [List.getElem?_concat_length, Option.some.injEq] at found
          exact .inr ⟨rest, rfl, found ▸ present⟩

end Lists

end

/-- Whether a module is at a position below the one at a site. -/
def Site.Has (site : Site) (items : List Item) (position : List Nat) (module : SourceModule) :
    Prop :=
  ∃ steps content, Inline items position steps content ∧
    module = ⟨SourceModule.pathOf (site.steps ++ steps), site.file?, ownItems content⟩

namespace Site

variable {site : Site} {items : List Item} {module : SourceModule}

theorem has_nil : site.Has items [] module ↔ module = site.module items := by
  constructor
  · rintro ⟨steps, content, inline, rfl⟩
    cases inline
    rw [List.append_nil]
    rfl
  · rintro rfl
    exact ⟨[], items, .here, by rw [List.append_nil]; rfl⟩

/-- Below a site are the modules below those that its declarations write out. -/
theorem has_cons : site.Has items (i :: position) module ↔
    ∃ attrs name nested, items[i]? = some (.module attrs name (some nested)) ∧
      isTestOnly attrs = false ∧
        (site.inside name (pathAttribute? attrs)).Has nested position module := by
  constructor
  · rintro ⟨_, content, inline, rfl⟩
    cases inline with
    | inside found kept below =>
      refine ⟨_, _, _, found, kept, _, content, below, ?_⟩
      simp [inside]
  · rintro ⟨attrs, name, nested, found, kept, steps, content, below, rfl⟩
    refine ⟨name :: steps, content, .inside found kept below, ?_⟩
    simp [inside]

end Site

namespace Item

/-- The modules that a declaration is written out as. -/
def Writes (site : Site) (item : Item) (position : List Nat) (module : SourceModule) : Prop :=
  ∃ attrs name nested, item = .module attrs name (some nested) ∧ isTestOnly attrs = false ∧
    (site.inside name (pathAttribute? attrs)).Has nested position module

/-- If the modules of each declaration are listed, so are those of the module around them. -/
theorem lists_module (site : Site) (items : List Item)
    (each : ∀ item ∈ items,
      Lists (item.Writes site) ((item.declared site).filterMap Declared.module?)) :
    Lists (site.Has items)
      (site.module items :: (declaredIn site items).filterMap Declared.module?) := by
  rw [declaredIn_eq_flatMap, List.filterMap_flatMap]
  refine ((Lists.singleton (site.module items)).append (Lists.flatMap each) ?_).congr ?_
  · rintro _ _ _ _ ⟨rfl, _⟩ ⟨i, item, rest, rfl, _⟩
    exact List.nil_lt_cons _ _
  · intro position module
    cases position with
    | nil => simp [Site.has_nil]
    | cons i position =>
      rw [Site.has_cons]
      simp only [reduceCtorEq, false_and, false_or, List.cons.injEq, Writes]
      constructor
      · rintro ⟨_, _, _, ⟨rfl, rfl⟩, found, attrs, name, nested, rfl, below⟩
        exact ⟨attrs, name, nested, found, below⟩
      · rintro ⟨attrs, name, nested, found, below⟩
        exact ⟨i, _, position, ⟨rfl, rfl⟩, found, attrs, name, nested, rfl, below⟩

theorem lists_nothing {item : Item} {site : Site}
    (none : ∀ attrs name nested, item = .module attrs name (some nested) → isTestOnly attrs = true) :
    Lists (item.Writes site) [] := by
  refine .nil ?_
  rintro position module ⟨attrs, name, nested, same, kept, _⟩
  cases kept.symm.trans (none attrs name nested same)

mutual

/-- A declaration gives the modules that it is written out as, in order. -/
theorem lists_declared (site : Site) (item : Item) :
    Lists (item.Writes site) ((item.declared site).filterMap Declared.module?) := by
  cases item with
  | module attrs name content =>
    cases guarded : isTestOnly attrs with
    | true =>
      rw [declared_of_test guarded]
      refine lists_nothing ?_
      rintro _ _ _ ⟨⟩
      exact guarded
    | false =>
      cases content with
      | none =>
        rw [declared_of_absent guarded]
        exact lists_nothing nofun
      | some items =>
        have whole := lists_module (site.inside name (pathAttribute? attrs)) items
          (lists_declaredIn (site.inside name (pathAttribute? attrs)) items)
        rw [declared, if_neg (by simp [guarded])]
        refine whole.congr fun position module => ?_
        constructor
        · exact fun present => ⟨attrs, name, items, rfl, guarded, present⟩
        · rintro ⟨_, _, _, ⟨⟩, _, present⟩
          exact present
  | struct decl => exact lists_nothing nofun
  | impl decl => exact lists_nothing nofun
  | other => exact lists_nothing nofun

theorem lists_declaredIn (site : Site) (items : List Item) :
    ∀ item ∈ items, Lists (item.Writes site) ((item.declared site).filterMap Declared.module?) := by
  cases items with
  | nil => exact nofun
  | cons item rest =>
    exact List.forall_mem_cons.mpr ⟨lists_declared site item, lists_declaredIn site rest⟩

end

end Item

namespace SourceTree

/-- The modules that are written out in source texts: those of a text lie below its index, and have
the path of the text before the names that lead to them. -/
inductive IsWritten (sources : List (String × String)) : List Nat → SourceModule → Prop where
  | intro (source : sources[i]? = some (path, text))
      (parsed : Grammar.sourceItems? text = some items)
      (inline : Inline items position steps content) :
    IsWritten sources (i :: position)
      ⟨SourceModule.pathOf (stepsOf path ++ steps), none, ownItems content⟩

theorem lists_modulesOf (path text : String) :
    Lists (fun position module => ∃ items, Grammar.sourceItems? text = some items ∧
      (⟨stepsOf path, none, "", ""⟩ : Site).Has items position module) (modulesOf path text) := by
  rw [modulesOf]
  cases parsed : Grammar.sourceItems? text with
  | none =>
    rw [Site.declared_of_none parsed]
    exact .nil fun position module ⟨items, found, _⟩ => by cases found
  | some items =>
    rw [Site.declared_of_items parsed]
    refine (Item.lists_module _ items (Item.lists_declaredIn _ items)).congr ?_
    intro position module
    simp

/-- The modules of source texts are exactly those that are written out in them, each once: source by
source, and each module before those inside it, which come in the order of their declarations. -/
theorem ofSources_lists (sources : List (String × String)) :
    Lists (IsWritten sources) (ofSources sources).modules := by
  rw [ofSources]
  refine (Lists.flatMap fun source _ => lists_modulesOf source.1 source.2).congr ?_
  intro position module
  constructor
  · rintro ⟨i, ⟨path, text⟩, rest, rfl, source, items, parsed, steps, content, inline, rfl⟩
    exact .intro source parsed inline
  · rintro ⟨source, parsed, inline⟩
    exact ⟨_, _, _, rfl, source, _, parsed, _, _, inline, rfl⟩

end SourceTree

end ValueObjects
