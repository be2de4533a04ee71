import ValueObjects.Proofs.Payloads
import ValueObjects.Proofs.SourceOrder

namespace ValueObjects.Discovery

/-- Whether a structure derives a trait of the name, by whatever path. -/
def Derives (decl : StructDecl) (name : String) : Prop :=
  ∃ attr ∈ decl.attrs, attr.rooted = false ∧ attr.path = ["derive"] ∧
    ∃ tokens paths, attr.body = .list tokens ∧ derivedPaths tokens = some paths ∧
      ∃ path ∈ paths, ∃ last, path.segments.getLast? = some last ∧ last.name = name

/-- Whether the flags of a wrapper are those of the structure. -/
structure HasFlags (decl : StructDecl) (descriptor : Descriptor) : Prop where
  copied : descriptor.isCopy = true ↔ Derives decl "Copy"
  immutable : descriptor.isImmutable = true ↔ ∀ field ∈ decl.fields.list, field.isPrivate = true

/-- The structure derives the capability, has one field and no parameters, and is the wrapper. -/
structure DerivedAs (scope? : Option String) (decl : StructDecl) (descriptor : Descriptor) :
    Prop where
  derives : Derives decl capability
  closed : decl.isGeneric = false
  payload : ∃ field, decl.fields.list = [field] ∧ descriptor.payload = field.ty.display
  key : descriptor.key = (scope?, decl.name)
  flags : HasFlags decl descriptor

/-- The module and name of the type that the names of a path lead to, seen from a module: a bare
name, one name after `self`, or a path from the crate root. -/
inductive Leads (scope? : Option String) : List String → Option String × String → Prop where
  | bare : Leads scope? [name] (scope?, name)
  | self : Leads scope? ["self", name] (scope?, name)
  | crate : Leads scope? ("crate" :: rest ++ [name]) (SourceModule.pathOf rest, name)

/-- A token that stands for a type that is to be inferred or is abstract. -/
inductive IsAbstract : Token → Prop where
  | self : IsAbstract (.ident "Self")
  | inferred : IsAbstract (.ident "_")
  | mark : IsAbstract (.punct '_' spacing)
  | bounded : IsAbstract (.ident "impl")

/-- A token is among tokens, or in brackets among them. -/
inductive Occurs (token : Token) : List Token → Prop where
  | here : token ∈ tokens → Occurs token tokens
  | inside : .group delimiter body ∈ tokens → Occurs token body → Occurs token tokens

/-- Whether a path names the capability plainly. -/
def NamesCapability (seen : TraitRef) : Prop :=
  ∃ last, seen.segments.getLast? = some last ∧ last.name = capability ∧ isBare last = true

/-- The implementation of the capability has no parameters, is for a type without arguments at the
wrapper's path, and has a concrete payload. -/
structure ImplementedAs (tree : SourceTree) (scope? : Option String) (rooted : Bool)
    (decl : ImplDecl) (descriptor : Descriptor) : Prop where
  capability : ∃ seen, decl.trait? = some seen ∧ seen.negative = false ∧ NamesCapability seen
  closed : decl.isGeneric = false
  self : ∃ segments, decl.self = .path rooted segments ∧ (∀ step ∈ segments, isBare step = true) ∧
    Leads scope? (segments.map Segment.name) descriptor.key
  payload : ∃ ty, decl.types.lookup "Payload" = some ty ∧ descriptor.payload = ty.display ∧
    ∀ token, Occurs token ty.tokens → ¬IsAbstract token
  flags : ∀ declared, tree.findStruct? descriptor.scope? descriptor.typeName = some declared →
    HasFlags declared descriptor
  defaults : tree.findStruct? descriptor.scope? descriptor.typeName = none →
    descriptor.isCopy = false ∧ descriptor.isImmutable = true

/-- Whether an item of a module makes the wrapper; `rooted` if it is an implementation for a path
that begins with two colons. -/
inductive Makes (tree : SourceTree) (scope? : Option String) (descriptor : Descriptor) :
    Bool → Item → Prop where
  | derived : DerivedAs scope? decl descriptor → Makes tree scope? descriptor false (.struct decl)
  | implemented : ImplementedAs tree scope? rooted decl descriptor →
    Makes tree scope? descriptor rooted (.impl decl)

/-- Whether some item of the crate makes the wrapper. -/
def Made (tree : SourceTree) (rooted : Bool) (descriptor : Descriptor) : Prop :=
  ∃ module ∈ tree.modules, ∃ item ∈ module.items, Makes tree module.scope? descriptor rooted item

variable {tree : SourceTree} {descriptor : Descriptor}

theorem mem_derivedNames {decl : StructDecl} : name ∈ derivedNames decl ↔ Derives decl name := by
  unfold derivedNames Derives
  rw [List.mem_flatMap]
  refine exists_congr fun attr => and_congr_right fun _ => ?_
  obtain ⟨rooted, path, body⟩ := attr
  cases body with
  | word => simp
  | value literal => simp
  | list tokens =>
    cases paths : derivedPaths tokens <;>
      simp [Attribute.isNamed, paths, and_assoc, Option.map_eq_some_iff]

theorem contains_derivedNames {decl : StructDecl} :
    (derivedNames decl).contains name = true ↔ Derives decl name := by
  rw [List.contains_iff_mem, mem_derivedNames]

theorem hasFlags_iff {decl : StructDecl} :
    HasFlags decl descriptor ↔
      descriptor.isCopy = (derivedNames decl).contains "Copy" ∧
      descriptor.isImmutable = allPrivate decl := by
  constructor
  · intro flags
    refine ⟨Bool.eq_iff_iff.mpr ?_, Bool.eq_iff_iff.mpr ?_⟩
    · rw [flags.copied, contains_derivedNames]
    · rw [flags.immutable, allPrivate, List.all_eq_true]
  · rintro ⟨copied, immutable⟩
    refine ⟨?_, ?_⟩
    · rw [copied, contains_derivedNames]
    · rw [immutable, allPrivate, List.all_eq_true]

theorem ofDerive?_eq_some {decl : StructDecl} :
    ofDerive? scope? decl = some descriptor ↔ DerivedAs scope? decl descriptor := by
  constructor
  · intro made
    unfold ofDerive? at made
    simp only at made
    split at made
    · rename_i eligible
      rw [Bool.and_eq_true, Bool.not_eq_true', contains_derivedNames] at eligible
      split at made
      · rename_i field single
        cases made
        exact ⟨eligible.1, eligible.2, ⟨field, single, rfl⟩, rfl, hasFlags_iff.mpr ⟨rfl, rfl⟩⟩
      · cases made
    · cases made
  · rintro ⟨derives, closed, ⟨field, single, payload⟩, key, flags⟩
    obtain ⟨copied, immutable⟩ := hasFlags_iff.mp flags
    obtain ⟨scope, name⟩ := Prod.mk.inj key
    unfold ofDerive?
    simp only [contains_derivedNames.mpr derives, closed, Bool.not_false, Bool.and_self,
      ↓reduceIte, single, ← payload, ← copied, ← immutable, ← scope, ← name]

theorem ownerOf?_eq_some {segments : List Segment} :
    ownerOf? scope? segments = some owner ↔
      (∀ step ∈ segments, isBare step = true) ∧
        Leads scope? (segments.map Segment.name) owner := by
  unfold ownerOf?
  rw [← List.all_eq_true]
  cases segments.all isBare with
  | false => simp
  | true =>
    simp only [Bool.not_true, Bool.false_eq_true, ↓reduceIte, true_and]
    generalize segments.map Segment.name = names
    constructor
    · intro found
      split at found
      · cases found
      · rename_i name single
        cases found
        rw [← List.reverse_reverse names, single]
        exact .bare
      · rename_i name leading _ heads
        rw [← List.reverse_reverse names, heads, List.reverse_cons]
        split at found
        · rename_i rest root
          cases found
          rw [root]
          exact .crate
        · rename_i own
          cases found
          rw [own]
          exact .self
        · cases found
    · intro leads
      cases leads with
      | bare => rfl
      | self => rfl
      | @crate rest name =>
        have turned : ("crate" :: rest ++ [name]).reverse = name :: ("crate" :: rest).reverse := by
          simp
        rw [turned]
        split
        · rename_i empty
          cases empty
        · rename_i single
          simp at single
        · rename_i heads
          obtain ⟨rfl, rfl⟩ := List.cons.inj heads
          rw [List.reverse_reverse]
          rfl

theorem Occurs.mono (occurs : Occurs token tokens) (part : tokens ⊆ others) :
    Occurs token others := by
  cases occurs with
  | here member => exact .here (part member)
  | inside member within => exact .inside (part member) within

theorem Occurs.concrete (occurs : Occurs token tokens)
    (concrete : isConcrete.allConcrete tokens = true) : isConcrete token = true := by
  have each {tokens : List Token} (concrete : isConcrete.allConcrete tokens = true) :
      ∀ token ∈ tokens, isConcrete token = true := by
    induction tokens with
    | nil => nofun
    | cons first rest ih =>
      rw [isConcrete.allConcrete, Bool.and_eq_true] at concrete
      intro token member
      rcases List.mem_cons.mp member with rfl | later
      · exact concrete.1
      · exact ih concrete.2 token later
  induction occurs with
  | here member => exact each concrete _ member
  | inside member _ ih => exact ih (by simpa only [isConcrete] using each concrete _ member)

mutual

theorem isConcrete_of_free (token : Token)
    (free : ∀ found, Occurs found [token] → ¬IsAbstract found) : isConcrete token = true := by
  have itself := free token (.here List.mem_cons_self)
  cases token with
  | ident name =>
    have words : name ≠ "Self" ∧ name ≠ "_" ∧ name ≠ "impl" := by
      refine ⟨?_, ?_, ?_⟩ <;> rintro rfl
      · exact itself .self
      · exact itself .inferred
      · exact itself .bounded
    simp [isConcrete, words]
  | punct mark spacing =>
    have other : mark ≠ '_' := by
      rintro rfl
      exact itself .mark
    simp [isConcrete, other]
  | literal text => rfl
  | group delimiter body =>
    have inside : isConcrete.allConcrete body = true :=
      allConcrete_of_free body fun found occurs => free found (.inside List.mem_cons_self occurs)
    simpa only [isConcrete] using inside

theorem allConcrete_of_free (tokens : List Token)
    (free : ∀ found, Occurs found tokens → ¬IsAbstract found) :
    isConcrete.allConcrete tokens = true := by
  cases tokens with
  | nil => rfl
  | cons first rest =>
    have head : isConcrete first = true :=
      isConcrete_of_free first fun found occurs => free found (occurs.mono (by simp))
    have tail : isConcrete.allConcrete rest = true :=
      allConcrete_of_free rest fun found occurs => free found (occurs.mono (by simp))
    rw [isConcrete.allConcrete, head, tail]
    rfl

end

theorem allConcrete_iff : isConcrete.allConcrete tokens = true ↔
    ∀ found, Occurs found tokens → ¬IsAbstract found := by
  constructor
  · intro concrete found occurs vague
    have clear := occurs.concrete concrete
    cases vague <;> cases clear
  · exact allConcrete_of_free tokens

theorem implementsCapability_iff {decl : ImplDecl} : implementsCapability decl = true ↔
    ∃ seen, decl.trait? = some seen ∧ seen.negative = false ∧ NamesCapability seen := by
  unfold implementsCapability NamesCapability
  cases decl.trait? with
  | none => simp
  | some seen => cases last : seen.segments.getLast? <;> simp [last]

/-- The flags of a type that is declared as a structure, or not. -/
def flagsOf (declared? : Option StructDecl) : Bool × Bool :=
  match declared? with
  | some declared => ((derivedNames declared).contains "Copy", allPrivate declared)
  | none => (false, true)

theorem flags_iff {declared? : Option StructDecl} :
    (descriptor.isCopy, descriptor.isImmutable) = flagsOf declared? ↔
      (∀ declared, declared? = some declared → HasFlags declared descriptor) ∧
      (declared? = none → descriptor.isCopy = false ∧ descriptor.isImmutable = true) := by
  cases declared? <;> simp [flagsOf, hasFlags_iff]

theorem ofImpl?_eq_some {decl : ImplDecl} :
    ofImpl? tree scope? decl = some descriptor ↔
      ∃ rooted, ImplementedAs tree scope? rooted decl descriptor := by
  constructor
  · intro made
    unfold ofImpl? at made
    split at made
    · cases made
    · rename_i eligible
      rw [Bool.or_eq_true, not_or, Bool.not_eq_true', Bool.not_eq_false, Bool.not_eq_true,
        implementsCapability_iff] at eligible
      split at made
      · rename_i rooted segments self
        split at made
        · rename_i owner? name payload owner given
          split at made
          · rename_i concrete
            obtain ⟨bare, leads⟩ := ownerOf?_eq_some.mp owner
            have flags : (descriptor.isCopy, descriptor.isImmutable) =
                flagsOf (tree.findStruct? owner? name) := by
              rw [← Option.some.inj made]
              rfl
            cases made
            obtain ⟨found, absent⟩ := flags_iff.mp flags
            exact ⟨rooted, eligible.1, eligible.2, ⟨segments, self, bare, leads⟩,
              ⟨payload, given, rfl, allConcrete_iff.mp concrete⟩, found, absent⟩
          · cases made
        · cases made
      · cases made
  · rintro ⟨rooted, capable, closed, ⟨segments, self, bare, leads⟩,
      ⟨payload, given, display, free⟩, found, absent⟩
    have flags := flags_iff.mpr ⟨found, absent⟩
    have owner := ownerOf?_eq_some.mpr ⟨bare, leads⟩
    unfold ofImpl?
    simp only [implementsCapability_iff.mpr capable, closed, self, owner, given,
      allConcrete_iff.mpr free, Descriptor.key, ↓reduceIte, Bool.not_true, Bool.or_self,
      Bool.false_eq_true]
    change some (Descriptor.mk _ _ _ (flagsOf _).1 (flagsOf _).2) = _
    rw [← flags, ← display]

/-- An item makes a wrapper exactly if it is eligible. -/
theorem candidate?_eq_some {module : SourceModule} :
    candidate? tree module item = some descriptor ↔
      ∃ rooted, Makes tree module.scope? descriptor rooted item := by
  cases item with
  | struct decl =>
    rw [candidate?, ofDerive?_eq_some]
    constructor
    · intro derived
      exact ⟨false, .derived derived⟩
    · rintro ⟨_, ⟨derived⟩⟩
      exact derived
  | impl decl =>
    rw [candidate?, ofImpl?_eq_some]
    constructor
    · rintro ⟨rooted, implemented⟩
      exact ⟨rooted, .implemented implemented⟩
    · rintro ⟨rooted, ⟨⟩ | implemented⟩
      exact ⟨rooted, implemented⟩
  | module attrs name content =>
    constructor
    · intro made
      cases made
    · rintro ⟨rooted, makes⟩
      cases makes
  | other =>
    constructor
    · intro made
      cases made
    · rintro ⟨rooted, makes⟩
      cases makes

theorem mem_declared : descriptor ∈ declared tree ↔ ∃ rooted, Made tree rooted descriptor := by
  simp only [declared, List.mem_flatMap, List.mem_filterMap, candidate?_eq_some, Made]
  constructor
  · rintro ⟨module, present, item, inModule, rooted, makes⟩
    exact ⟨rooted, module, present, item, inModule, makes⟩
  · rintro ⟨rooted, module, present, item, inModule, makes⟩
    exact ⟨module, present, item, inModule, rooted, makes⟩

theorem firstOfEach_sublist (seen : List (Option String × String)) (descriptors : List Descriptor) :
    (firstOfEach seen descriptors).Sublist descriptors := by
  induction descriptors generalizing seen with
  | nil => exact .slnil
  | cons next rest ih =>
    rw [firstOfEach]
    split
    · exact (ih seen).cons next
    · exact (ih _).cons_cons next

theorem key_of_firstOfEach {descriptors : List Descriptor}
    (member : descriptor ∈ firstOfEach seen descriptors) : descriptor.key ∉ seen := by
  induction descriptors generalizing seen with
  | nil => cases member
  | cons next rest ih =>
    rw [firstOfEach] at member
    split at member
    · exact ih member
    · rename_i new
      rcases List.mem_cons.mp member with rfl | later
      · simpa using new
      · exact fun old => ih later (List.mem_cons_of_mem _ old)

theorem nodup_firstOfEach (seen : List (Option String × String)) (descriptors : List Descriptor) :
    ((firstOfEach seen descriptors).map Descriptor.key).Nodup := by
  induction descriptors generalizing seen with
  | nil => exact List.nodup_nil
  | cons next rest ih =>
    rw [firstOfEach]
    split
    · exact ih seen
    · rw [List.map_cons, List.nodup_cons]
      refine ⟨?_, ih _⟩
      intro again
      obtain ⟨other, member, same⟩ := List.mem_map.mp again
      exact key_of_firstOfEach member (same ▸ List.mem_cons_self)

/-- For each item of a list whose key is new, one that is not after it is kept. -/
theorem kept_of_mem {before : Descriptor → Descriptor → Prop} {descriptors : List Descriptor}
    (sorted : descriptors.Pairwise before) (member : descriptor ∈ descriptors)
    (new : descriptor.key ∉ seen) :
    ∃ kept ∈ firstOfEach seen descriptors, kept.key = descriptor.key ∧
      (kept = descriptor ∨ before kept descriptor) := by
  induction descriptors generalizing seen with
  | nil => cases member
  | cons next rest ih =>
    obtain ⟨first, later⟩ := List.pairwise_cons.mp sorted
    rw [firstOfEach]
    by_cases same : next.key = descriptor.key
    · have kept : ¬seen.contains next.key = true := by
        rw [same]
        simpa using new
      rw [if_neg kept]
      refine ⟨next, List.mem_cons_self, same, ?_⟩
      rcases List.mem_cons.mp member with rfl | after
      · exact .inl rfl
      · exact .inr (first descriptor after)
    · have after : descriptor ∈ rest := by
        rcases List.mem_cons.mp member with rfl | after
        · exact (same rfl).elim
        · exact after
      split
      · exact ih later after new
      · have still : descriptor.key ∉ next.key :: seen := by simpa [Ne.symm same] using new
        obtain ⟨kept, present, found⟩ := ih later after still
        exact ⟨kept, List.mem_cons_of_mem _ present, found⟩

/-- By type name, then payload, then module. -/
def compareNames (first second : Descriptor) : Ordering :=
  (compare first.typeName second.typeName).then <|
    (compare first.payload second.payload).then (compareScopes first.scope? second.scope?)

theorem compareNames_eq_lt {first second : Descriptor}
    (ordered : (Descriptor.order first second).isLE = true) (apart : first.key ≠ second.key) :
    compareNames first second = .lt := by
  have split : Descriptor.order first second = (compareNames first second).then
      ((compare first.isCopy second.isCopy).then
        (compare first.isImmutable second.isImmutable)) := by
    simp only [Descriptor.order, compareNames, Ordering.then_assoc]
  rw [split] at ordered
  cases names : compareNames first second with
  | lt => rfl
  | gt =>
    rw [names] at ordered
    cases ordered
  | eq =>
    simp only [compareNames, Generation.compareScopes_eq_compare, Ordering.then_eq_eq,
      Std.LawfulEqCmp.compare_eq_iff_eq] at names
    exact (apart (Prod.ext names.2.2 names.1)).elim

theorem sorted_declared (tree : SourceTree) :
    (Descriptor.sort (declared tree)).Pairwise
      fun first second => (Descriptor.order first second).isLE = true :=
  pairwise_of_mergeSort (declared tree)

/-- The wrappers that a scan finds, by the items that make them. -/
structure Listing (tree : SourceTree) (found : List Descriptor) : Prop where
  sorted : found.Pairwise fun first second => compareNames first second = .lt
  distinct : (found.map Descriptor.key).Nodup
  /-- There is a wrapper of a module and name exactly if an item makes one. -/
  complete : ∀ key, key ∈ found.map Descriptor.key ↔
    ∃ rooted descriptor, Made tree rooted descriptor ∧ descriptor.key = key
  /-- A wrapper is the least of those that items make for its module and name. -/
  least : ∀ kept ∈ found, (∃ rooted, Made tree rooted kept) ∧
    ∀ rooted other, Made tree rooted other → other.key = kept.key →
      (Descriptor.order kept other).isLE = true
  /-- Paths that begin with two colons can be left out for a module and name exactly if they make
  nothing that other items do not make as well. -/
  unrooted : ∀ key,
    (key ∈ found.map Descriptor.key ↔
      ∃ descriptor, Made tree false descriptor ∧ descriptor.key = key) ↔
    ((∃ descriptor, Made tree true descriptor ∧ descriptor.key = key) →
      ∃ descriptor, Made tree false descriptor ∧ descriptor.key = key)

theorem made_of_candidate (member : descriptor ∈ candidates tree) :
    ∃ rooted, Made tree rooted descriptor :=
  mem_declared.mp (List.mem_mergeSort.mp (mem_of_firstOfEach member))

/-- Of the wrappers that items make for a module and name, one that is not after any is listed. -/
theorem candidate_of_made (made : Made tree rooted descriptor) :
    ∃ kept ∈ candidates tree, kept.key = descriptor.key ∧
      (Descriptor.order kept descriptor).isLE = true := by
  have present : descriptor ∈ Descriptor.sort (declared tree) :=
    List.mem_mergeSort.mpr (mem_declared.mpr ⟨rooted, made⟩)
  obtain ⟨kept, member, same, before⟩ :=
    kept_of_mem (sorted_declared tree) present List.not_mem_nil
  refine ⟨kept, member, same, ?_⟩
  rcases before with rfl | before
  · have equal : Descriptor.order kept kept = .eq := Std.ReflCmp.compare_self
    rw [equal]
    rfl
  · exact before

theorem key_mem_candidates {key : Option String × String} :
    key ∈ (candidates tree).map Descriptor.key ↔
      ∃ rooted descriptor, Made tree rooted descriptor ∧ descriptor.key = key := by
  rw [List.mem_map]
  constructor
  · rintro ⟨kept, member, same⟩
    obtain ⟨rooted, made⟩ := made_of_candidate member
    exact ⟨rooted, kept, made, same⟩
  · rintro ⟨rooted, descriptor, made, same⟩
    obtain ⟨kept, member, own, _⟩ := candidate_of_made made
    exact ⟨kept, member, own.trans same⟩

/-- A scan lists the wrappers in order, one for each module and name that an item makes a wrapper
of, and of several the least. -/
theorem candidates_listing (tree : SourceTree) : Listing tree (candidates tree) where
  sorted := by
    have distinct := nodup_firstOfEach [] (Descriptor.sort (declared tree))
    rw [List.Nodup, List.pairwise_map] at distinct
    have ordered := (sorted_declared tree).sublist (firstOfEach_sublist [] _)
    exact (ordered.and distinct).imp fun ⟨before, apart⟩ => compareNames_eq_lt before apart
  distinct := nodup_firstOfEach [] _
  complete _ := key_mem_candidates
  least kept member := by
    refine ⟨made_of_candidate member, ?_⟩
    intro rooted other made same
    obtain ⟨least, listed, own, before⟩ := candidate_of_made made
    have only : least = kept :=
      List.inj_on_of_nodup_map (nodup_firstOfEach [] _) listed member (own.trans same)
    exact only ▸ before
  unrooted key := by
    rw [key_mem_candidates]
    constructor
    · rintro plain ⟨descriptor, made, same⟩
      exact plain.mp ⟨true, descriptor, made, same⟩
    · intro plain
      constructor
      · rintro ⟨rooted, descriptor, made, same⟩
        cases rooted with
        | false => exact ⟨descriptor, made, same⟩
        | true => exact plain ⟨descriptor, made, same⟩
      · rintro ⟨descriptor, made, same⟩
        exact ⟨false, descriptor, made, same⟩

/-- A structure at the crate root, and an implementation for its path in a module. -/
def rootedTree : SourceTree := ⟨[
  ⟨none, none, [.struct ⟨[], "Foo", false, .positional [⟨true, none, .path false [.plain "u8"]⟩]⟩]⟩,
  ⟨some "m", none, [.impl ⟨[], false, some ⟨false, [.plain "Value"]⟩, .path true [.plain "Foo"],
    [("Payload", .path false [.plain "u8"])]⟩]⟩], []⟩

/-- The two colons are not looked at, and a wrapper of the module is listed. -/
theorem rooted_path_in_module :
    (some "m", "Foo") ∈ (candidates rootedTree).map Descriptor.key ∧
      ¬∃ descriptor, Made rootedTree false descriptor ∧ descriptor.key = (some "m", "Foo") := by
  constructor
  · have found : declared rootedTree = [⟨"Foo", "u8", some "m", false, true⟩] := by decide
    have made : ⟨"Foo", "u8", some "m", false, true⟩ ∈ declared rootedTree := by
      rw [found]
      exact List.mem_cons_self
    obtain ⟨rooted, made⟩ := mem_declared.mp made
    exact key_mem_candidates.mpr ⟨rooted, _, made, rfl⟩
  · rintro ⟨descriptor, ⟨module, present, item, inModule, makes⟩, _⟩
    have places : module.items = [.struct ⟨[], "Foo", false,
          .positional [⟨true, none, .path false [.plain "u8"]⟩]⟩] ∨
        module.items = [.impl ⟨[], false, some ⟨false, [.plain "Value"]⟩,
          .path true [.plain "Foo"], [("Payload", .path false [.plain "u8"])]⟩] := by
      rcases List.mem_cons.mp present with rfl | later
      · exact .inl rfl
      · cases List.mem_singleton.mp later
        exact .inr rfl
    rcases places with items | items <;> rw [items] at inModule <;>
      cases List.mem_singleton.mp inModule
    · cases makes with
      | derived derived =>
        obtain ⟨attr, none, _⟩ := derived.derives
        cases none
    · cases makes with
      | implemented implemented =>
        obtain ⟨segments, self, _⟩ := implemented.self
        cases self

end ValueObjects.Discovery
