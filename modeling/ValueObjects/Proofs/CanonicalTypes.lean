import Mathlib.Order.WellFounded
import ValueObjects.Proofs.TypeSpellings

namespace ValueObjects

/-- A type is one of the arguments of a step. -/
inductive Segment.Holds : Segment → Ty → Prop where
  | argument (member : Argument.type ty ∈ given) :
      Holds (.mk step (.angle turbofish given trailing)) ty

/-- The names of a path stand for a well-known path: they are its last name alone, or end in it. -/
def StandsFor (names path : List String) : Prop :=
  names = path.getLast?.toList ∨ path <:+ names

instance : Decidable (StandsFor names path) :=
  inferInstanceAs (Decidable (_ ∨ _))

/-- What the rewriting of paths is to leave of the steps of a path. -/
structure SettledPath (segments : List Segment) : Prop where
  /-- No path leads from a standard library to a name that needs no path. -/
  standard : ∀ library ∈ ["std", "core", "alloc"], ∀ between,
    ∀ last ∈ "String" :: "Option" :: primitives,
      segments.map Segment.name ≠ library :: between ++ [last]
  /-- A path that stands for a well-known one is that one, with no arguments but at its end. -/
  known : ∀ path ∈ wellKnownPaths, StandsFor (segments.map Segment.name) path →
    ∃ arguments, segments = pathWith path arguments

namespace Ty

/-- A type stands directly inside another one, at a place that the canonical form looks at. -/
inductive Part : Ty → Ty → Prop where
  | argument {segment : Segment} (step : segment ∈ segments) (holds : segment.Holds ty) :
      Part ty (.path rooted segments)
  | self : Part self (.qualified self position rooted segments)
  | reference : Part elem (.reference lifetime mutable elem)
  | pointer : Part elem (.pointer mutable elem)
  | slice : Part elem (.slice elem)
  | array : Part elem (.array elem length)
  | element (member : elem ∈ elems) : Part elem (.tuple elems trailing)
  | paren : Part elem (.paren elem)
  | group : Part elem (.group elem)

/-- The places that the canonical form looks at, at any depth. -/
inductive Within : Ty → Ty → Prop where
  | here : Within ty ty
  | inside {inner : Ty} (part : Part inner outer) (deeper : Within ty inner) : Within ty outer

/-- Nothing of the type itself is left to rewrite. What stands inside is not looked at. -/
def IsSettled : Ty → Prop
  | .path rooted segments => rooted = false ∧ SettledPath segments
  | .paren _ => False
  | .group _ => False
  | _ => True

/-- Nothing is left to rewrite at any place that the canonical form looks at. -/
def IsCanonical (ty : Ty) : Prop :=
  ∀ part, Within part ty → part.IsSettled

variable {ty inner outer : Ty}

theorem Part.sizeOf_lt (part : Part inner outer) : sizeOf inner < sizeOf outer := by
  cases part with
  | argument step holds =>
    obtain ⟨member⟩ := holds
    have listed := List.sizeOf_lt_of_mem member
    have among := List.sizeOf_lt_of_mem step
    simp only [path.sizeOf_spec, Segment.mk.sizeOf_spec, Arguments.angle.sizeOf_spec,
      Argument.type.sizeOf_spec] at *
    omega
  | element member =>
    have listed := List.sizeOf_lt_of_mem member
    simp only [tuple.sizeOf_spec]
    omega
  | _ => simp +arith

/-- A property of types that passes from the types directly inside to the type holds of all. -/
theorem part_induction {motive : Ty → Prop}
    (step : ∀ ty, (∀ part, Part part ty → motive part) → motive ty) (ty : Ty) : motive ty :=
  (measure sizeOf).wf.induction ty fun ty ih => step ty fun part inside => ih part inside.sizeOf_lt

theorem IsCanonical.settled (canonical : ty.IsCanonical) : ty.IsSettled :=
  canonical ty .here

theorem IsCanonical.part (canonical : outer.IsCanonical) (part : Part inner outer) :
    inner.IsCanonical :=
  fun ty within => canonical ty (.inside part within)

theorem IsCanonical.of_parts (settled : ty.IsSettled)
    (parts : ∀ part, Part part ty → part.IsCanonical) : ty.IsCanonical := by
  intro ty within
  cases within with
  | here => exact settled
  | inside part deeper => exact parts _ part _ deeper

end Ty

/-! Paths. -/

theorem wellKnownPaths_filled : ∀ path ∈ wellKnownPaths, path ≠ [] := by
  decide

/-- A well-known path stands for no other one. -/
theorem eq_of_standsFor : ∀ path ∈ wellKnownPaths, ∀ other ∈ wellKnownPaths,
    StandsFor path other → path = other := by
  decide

theorem standsFor_iff {names path : List String} (filled : path ≠ []) :
    (decide (names.length = 1) && names.getLast? == path.getLast? || path.isSuffixOf names) = true ↔
      StandsFor names path := by
  rw [StandsFor, Bool.or_eq_true, Bool.and_eq_true, decide_eq_true_iff, beq_iff_eq,
    List.isSuffixOf_iff_suffix]
  refine or_congr_left ⟨?_, ?_⟩
  · rintro ⟨single, last⟩
    obtain ⟨name, rfl⟩ := List.length_eq_one_iff.mp single
    rw [← last]
    rfl
  · rintro rfl
    rw [List.getLast?_eq_some_getLast filled]
    exact ⟨rfl, rfl⟩

theorem standsFor_of_wellKnown? (found : wellKnown? names = some path) :
    path ∈ wellKnownPaths ∧ StandsFor names path := by
  have member := List.mem_of_find?_eq_some found
  have chosen := List.find?_some found
  exact ⟨member, (standsFor_iff (wellKnownPaths_filled path member)).mp chosen⟩

theorem not_standsFor_of_wellKnown? (unknown : wellKnown? names = none)
    (member : path ∈ wellKnownPaths) : ¬StandsFor names path := by
  intro stands
  apply List.find?_eq_none.mp unknown path member
  exact (standsFor_iff (wellKnownPaths_filled path member)).mpr stands

theorem names_pathWith (filled : path ≠ []) (arguments : Arguments) :
    (pathWith path arguments).map Segment.name = path := by
  have plain : Segment.name ∘ Segment.plain = id := rfl
  rw [pathWith, List.map_append, List.map_map, plain, List.map_id,
    List.getLast?_eq_some_getLast filled]
  exact List.dropLast_append_getLast filled

theorem getLast?_pathWith (filled : path ≠ []) (arguments : Arguments) :
    (pathWith path arguments).getLast? = some (.mk (path.getLast filled) arguments) := by
  rw [pathWith, List.getLast?_eq_some_getLast filled]
  exact List.getLast?_concat

/-- A path ends in the name that its last step has. -/
theorem names_getLast? {segments : List Segment} (ends : segments.getLast? = some last) :
    (segments.map Segment.name).getLast? = some last.name := by
  rw [List.getLast?_map, ends, Option.map_some]

theorem isPrelude_iff : isPrelude name = true ↔ name ∈ "String" :: "Option" :: primitives := by
  simp [isPrelude, or_assoc]

theorem isStandard_cons :
    isStandard (library :: rest) = true ↔ library ∈ ["std", "core", "alloc"] := by
  simp [isStandard, or_assoc]

theorem settledPath_nil : SettledPath [] where
  standard library _ between last _ same := by cases same
  known path member stands := by
    have filled := wellKnownPaths_filled path member
    rcases stands with alone | ending
    · rw [List.getLast?_eq_some_getLast filled] at alone
      cases alone
    · exact (filled (List.suffix_nil.mp ending)).elim

theorem settledPath_pathWith (member : path ∈ wellKnownPaths) (arguments : Arguments) :
    SettledPath (pathWith path arguments) where
  standard library _ between last prelude same := by
    have none : ∀ path ∈ wellKnownPaths, ∀ last ∈ path.getLast?,
        last ∉ "String" :: "Option" :: primitives := by
      decide
    rw [names_pathWith (wellKnownPaths_filled path member)] at same
    refine none path member last ?_ prelude
    rw [same]
    exact List.getLast?_concat
  known other listed stands := by
    rw [names_pathWith (wellKnownPaths_filled path member)] at stands
    rw [eq_of_standsFor path member other listed stands]
    exact ⟨arguments, rfl⟩

theorem settledPath_single (prelude : isPrelude last.name = true) : SettledPath [last] where
  standard library _ between name _ same := by
    have lengths := congrArg List.length same
    simp at lengths
  known path member stands := by
    have unknown : wellKnown? [last.name] = none := wellKnown?_of_isPrelude rfl prelude
    exact (not_standsFor_of_wellKnown? unknown member stands).elim

/-- The rewriting of paths leaves nothing to rewrite. -/
theorem settledPath_canonicalPath (segments : List Segment) :
    SettledPath (canonicalPath segments) := by
  cases ends : segments.getLast? with
  | none =>
    rw [List.getLast?_eq_none_iff.mp ends]
    exact settledPath_nil
  | some last =>
    have names := names_getLast? ends
    cases found : wellKnown? (segments.map Segment.name) with
    | some path =>
      simp only [canonicalPath, ends, found]
      exact settledPath_pathWith (standsFor_of_wellKnown? found).1 last.arguments
    | none =>
      simp only [canonicalPath, ends, found]
      by_cases short : (isStandard (segments.map Segment.name) && isPrelude last.name) = true
      · rw [if_pos short]
        exact settledPath_single (Bool.and_eq_true_iff.mp short).2
      · rw [if_neg short]
        exact {
          standard := by
            intro library standard between name prelude same
            apply short
            rw [same, List.getLast?_concat] at names
            cases names
            rw [same, List.cons_append, Bool.and_eq_true]
            exact ⟨isStandard_cons.mpr standard, isPrelude_iff.mpr prelude⟩
          known := by
            intro path member stands
            exact (not_standsFor_of_wellKnown? found member stands).elim }

/-- A path of which nothing is left to rewrite stays as it is. -/
theorem canonicalPath_of_settled (settled : SettledPath segments) :
    canonicalPath segments = segments := by
  cases ends : segments.getLast? with
  | none =>
    rw [List.getLast?_eq_none_iff.mp ends]
    rfl
  | some last =>
    cases found : wellKnown? (segments.map Segment.name) with
    | some path =>
      obtain ⟨member, stands⟩ := standsFor_of_wellKnown? found
      have filled := wellKnownPaths_filled path member
      obtain ⟨arguments, rfl⟩ := settled.known path member stands
      rw [getLast?_pathWith filled] at ends
      cases ends
      simp only [canonicalPath, getLast?_pathWith filled, found, Segment.arguments]
    | none =>
      simp only [canonicalPath, ends, found]
      by_cases short : (isStandard (segments.map Segment.name) && isPrelude last.name) = true
      · rw [if_pos short]
        obtain ⟨before, rfl⟩ := List.getLast?_eq_some_iff.mp ends
        cases before with
        | nil => rfl
        | cons first between =>
          -- a longer path of a standard library would have been cut short
          obtain ⟨standard, prelude⟩ := Bool.and_eq_true_iff.mp short
          exact (settled.standard first.name (isStandard_cons.mp standard)
            (between.map Segment.name) last.name (isPrelude_iff.mp prelude) (by simp)).elim
      · rw [if_neg short]

/-! Types. -/

variable {segment other : Segment} {ty : Ty}

/-- What a step holds is told by its arguments. -/
theorem Segment.Holds.congr (holds : Segment.Holds segment ty)
    (same : segment.arguments = other.arguments) : other.Holds ty := by
  cases holds with
  | argument member =>
    cases other
    cases same
    exact .argument member

/-- The canonical form of a path takes its arguments from the path. -/
theorem Segment.Holds.of_canonicalPath (holds : Segment.Holds segment ty)
    (step : segment ∈ canonicalPath segments) : ∃ origin ∈ segments, origin.Holds ty := by
  cases ends : segments.getLast? with
  | none =>
    rw [List.getLast?_eq_none_iff.mp ends] at step
    cases step
  | some last =>
    have present := List.mem_of_getLast? ends
    simp only [canonicalPath, ends] at step
    split at step
    · rcases List.mem_append.mp step with plain | final
      · obtain ⟨name, _, rfl⟩ := List.mem_map.mp plain
        cases holds
      · obtain ⟨name, _, rfl⟩ := Option.map_eq_some_iff.mp (Option.mem_toList.mp final)
        exact ⟨last, present, holds.congr rfl⟩
    · split at step
      · rw [List.mem_singleton] at step
        exact ⟨last, present, step ▸ holds⟩
      · exact ⟨segment, step, holds⟩

theorem Segment.Holds.of_canonical (holds : Segment.Holds segment.canonical ty) :
    ∃ origin, segment.Holds origin ∧ ty = origin.canonical := by
  obtain ⟨label, arguments⟩ := segment
  cases arguments with
  | none => cases holds
  | angle turbofish given trailing =>
    rw [Segment.canonical, Arguments.canonical, Argument.canonicalAll_eq_map] at holds
    cases holds with
    | argument member =>
      obtain ⟨argument, listed, same⟩ := List.mem_map.mp member
      cases argument with
      | type origin =>
        cases same
        exact ⟨origin, .argument listed, rfl⟩
      | _ => cases same

/-- A step stays as it is if the types that it holds do. -/
theorem Segment.canonical_of_holds (kept : ∀ ty, Segment.Holds segment ty → ty.canonical = ty) :
    segment.canonical = segment := by
  obtain ⟨label, arguments⟩ := segment
  cases arguments with
  | none => rfl
  | angle turbofish given trailing =>
    have same : given.map Argument.canonical = given := by
      refine (List.map_congr_left fun argument member => ?_).trans (List.map_id given)
      cases argument with
      | type ty => exact congrArg Argument.type (kept ty (.argument member))
      | _ => rfl
    rw [Segment.canonical, Arguments.canonical, Argument.canonicalAll_eq_map, same]

namespace Ty

/-- The canonical form of a type is canonical. -/
theorem isCanonical_canonical (ty : Ty) : ty.canonical.IsCanonical := by
  induction ty using part_induction with
  | step ty ih =>
    cases ty with
    | path rooted segments =>
      rw [Ty.canonical, Segment.canonicalAll_eq_map]
      refine .of_parts ⟨rfl, settledPath_canonicalPath _⟩ fun part inside => ?_
      cases inside with
      | argument step holds =>
        obtain ⟨image, present, held⟩ := holds.of_canonicalPath step
        obtain ⟨segment, among, rfl⟩ := List.mem_map.mp present
        obtain ⟨origin, own, rfl⟩ := held.of_canonical
        exact ih origin (.argument among own)
    | qualified self position rooted segments =>
      refine .of_parts trivial fun part inside => ?_
      cases inside
      exact ih self .self
    | reference lifetime mutable elem =>
      refine .of_parts trivial fun part inside => ?_
      cases inside
      exact ih elem .reference
    | pointer mutable elem =>
      refine .of_parts trivial fun part inside => ?_
      cases inside
      exact ih elem .pointer
    | slice elem =>
      refine .of_parts trivial fun part inside => ?_
      cases inside
      exact ih elem .slice
    | array elem length =>
      refine .of_parts trivial fun part inside => ?_
      cases inside
      exact ih elem .array
    | tuple elems trailing =>
      rw [Ty.canonical, canonicalAll_eq_map]
      refine .of_parts trivial fun part inside => ?_
      cases inside with
      | element member =>
        obtain ⟨elem, listed, rfl⟩ := List.mem_map.mp member
        exact ih elem (.element listed)
    | paren elem => exact ih elem .paren
    | group elem => exact ih elem .group
    | verbatim tokens =>
      refine .of_parts trivial fun part inside => ?_
      cases inside

/-- A canonical type is left as it is. -/
theorem IsCanonical.canonical (canonical : ty.IsCanonical) : ty.canonical = ty := by
  induction ty using part_induction with
  | step ty ih =>
    have kept (part : Ty) (inside : Part part ty) : part.canonical = part :=
      ih part inside (canonical.part inside)
    cases ty with
    | path rooted segments =>
      obtain ⟨rfl, settled⟩ := canonical.settled
      have steps : segments.map Segment.canonical = segments := by
        refine (List.map_congr_left fun segment member => ?_).trans (List.map_id segments)
        exact Segment.canonical_of_holds fun ty holds => kept ty (.argument member holds)
      rw [Ty.canonical, Segment.canonicalAll_eq_map, steps, canonicalPath_of_settled settled]
    | qualified self position rooted segments => rw [Ty.canonical, kept self .self]
    | reference lifetime mutable elem => rw [Ty.canonical, kept elem .reference]
    | pointer mutable elem => rw [Ty.canonical, kept elem .pointer]
    | slice elem => rw [Ty.canonical, kept elem .slice]
    | array elem length => rw [Ty.canonical, kept elem .array]
    | tuple elems trailing =>
      have each : elems.map Ty.canonical = elems := by
        refine (List.map_congr_left fun elem member => ?_).trans (List.map_id elems)
        exact kept elem (.element member)
      rw [Ty.canonical, canonicalAll_eq_map, each]
    | paren elem => exact canonical.settled.elim
    | group elem => exact canonical.settled.elim
    | verbatim tokens => rfl

/-- The types that the canonical form leaves as they are. -/
theorem canonical_eq_self_iff : ty.canonical = ty ↔ ty.IsCanonical := by
  constructor
  · intro same
    exact same ▸ isCanonical_canonical ty
  · exact IsCanonical.canonical

/-- The canonical form of a type is its own canonical form, and nothing is left to rewrite at any
place in it that the canonical form looks at. -/
theorem canonical_settles (ty : Ty) :
    ty.canonical.canonical = ty.canonical ∧ ty.canonical.IsCanonical := by
  have canonical := isCanonical_canonical ty
  exact ⟨canonical.canonical, canonical⟩

end Ty

end ValueObjects
