import ValueObjects.Proofs.Results
import ValueObjects.Proofs.Stems
import ValueObjects.Proofs.WordCases
import ValueObjects.Proofs.Words

namespace ValueObjects

namespace Naming

open Text Literal

theorem mem_of_mem_unraw (member : c ∈ (unraw name).toList) : c ∈ name.toList := by
  unfold unraw at member
  split at member
  · rename_i rest raw
    rw [String.toList_ofList] at member
    rw [raw]
    exact List.mem_cons_of_mem _ (List.mem_cons_of_mem _ member)
  · exact member

theorem isIdentContinue_of_mem_word (word : IsWord text) : ∀ c ∈ text, isIdentContinue c = true := by
  obtain ⟨c, rest, rfl, start, later⟩ := word
  intro d member
  rcases List.mem_cons.mp member with rfl | inner
  · exact isIdentContinue_of_isIdentStart start
  · exact later d inner

/-- Without the mark of raw identifiers a name is a word. -/
theorem isWord_unraw {name : String} (spelled : Lexer.IsName name.toList) :
    IsWord (unraw name).toList := by
  generalize same : name.toList = text at spelled
  cases spelled with
  | plain word =>
    unfold unraw
    split
    · rename_i rest marked
      rw [same] at marked
      subst marked
      cases isIdentContinue_of_mem_word word '#' (by simp)
    · rwa [same]
  | raw word =>
    rw [unraw, same]
    change IsWord (String.ofList _).toList
    rwa [String.toList_ofList]

/-- Cutting a text leaves out characters only. -/
theorem mem_of_mem_cutAt (piece : cut ∈ cutAt test text) (member : c ∈ cut) : c ∈ text := by
  induction text generalizing cut with
  | nil =>
    rw [cutAt, List.mem_singleton] at piece
    exact piece ▸ member
  | cons first rest ih =>
    simp only [cutAt] at piece
    split at piece
    · rcases List.mem_cons.mp piece with rfl | later
      · cases member
      · exact List.mem_cons_of_mem _ (ih later member)
    · split at piece
      · rw [List.mem_singleton] at piece
        rw [piece, List.mem_singleton] at member
        exact member ▸ List.mem_cons_self
      · rename_i head tail cuts
        rcases List.mem_cons.mp piece with rfl | later
        · rcases List.mem_cons.mp member with rfl | inner
          · exact List.mem_cons_self
          · exact List.mem_cons_of_mem _ (ih (cuts ▸ List.mem_cons_self) inner)
        · exact List.mem_cons_of_mem _ (ih (cuts ▸ List.mem_cons_of_mem _ later) member)

/-- A property of characters that upper case keeps, and that digits and the name of the crate root
have. The names that are made from names keep it. -/
structure Lasting (keep : Char → Prop) : Prop where
  upper : ∀ c d, keep c → d ∈ upper c → keep d
  digit : ∀ c, c.isDigit = true → keep c
  root : ∀ c ∈ "Crate".toList, keep c

theorem lasting_solid : Lasting (isSolid · = true) where
  upper _ _ := isSolid_of_mem_upper
  digit c digit := isSolid_of_isAlphanum (by simp [Char.isAlphanum, digit])
  root := solid_of_all (by decide)

section

variable {keep : Char → Prop} (lasting : Lasting keep)

include lasting

theorem keeps_capitalized (each : ∀ c ∈ text, keep c) : ∀ c ∈ capitalized text, keep c := by
  cases text with
  | nil => exact each
  | cons c rest =>
    intro d member
    rcases List.mem_append.mp member with first | later
    · exact lasting.upper c d (each c List.mem_cons_self) first
    · exact each d (List.mem_cons_of_mem _ later)

theorem keeps_upperCamel (each : ∀ c ∈ (unraw name).toList, keep c) :
    ∀ c ∈ (upperCamel name).toList, keep c := by
  rw [upperCamel, String.toList_ofList]
  intro c member
  obtain ⟨piece, present, inner⟩ := List.mem_flatMap.mp member
  refine keeps_capitalized lasting ?_ c inner
  intro d own
  exact each d (mem_of_mem_cutAt (List.mem_filter.mp present).1 own)

theorem keeps_namespaceName
    (each : ∀ path, scope? = some path → ∀ step ∈ steps path, ∀ c ∈ (unraw step).toList, keep c) :
    ∀ c ∈ (namespaceName scope?).toList, keep c := by
  cases scope? with
  | none => exact lasting.root
  | some path =>
    intro c member
    rw [namespaceName, String.toList_join] at member
    obtain ⟨camel, present, inner⟩ := List.mem_flatMap.mp member
    obtain ⟨step, among, rfl⟩ := List.mem_map.mp present
    exact keeps_upperCamel lasting (each path rfl step among) c inner

theorem keeps_toString (n : Nat) : ∀ c ∈ (toString n).toList, keep c := by
  intro c member
  rw [Nat.toString_eq_repr, Nat.toList_repr] at member
  exact lasting.digit c (Nat.isDigit_of_mem_toDigits (by decide) (by decide) member)

end

end Naming

namespace Generation

open Emit Text Naming Literal

/-- The names on the path to a wrapper. -/
def pathNames (descriptor : Descriptor) : List String :=
  descriptor.typeName :: (descriptor.scope?.map steps).getD []

/-- Whether each name on the path to the wrapper is an identifier as it is spelled, or is none. -/
def Spelled (descriptor : Descriptor) : Prop :=
  ∀ name ∈ pathNames descriptor, ∀ read, Grammar.name? name = some read → read = name

variable {descriptors : List Descriptor} {descriptor : Descriptor}

/-- Whether each name on the path to the wrapper is an identifier that is spelled as it is read. -/
def Identified (descriptor : Descriptor) : Prop :=
  ∀ name ∈ pathNames descriptor, Grammar.name? name = some name

theorem Identified.word (identified : Identified descriptor) (member : name ∈ pathNames descriptor) :
    IsWord (unraw name).toList :=
  isWord_unraw (Grammar.name?_eq_self_iff.mp (identified name member)).1

/-- The names on a path that can be written down are solid. -/
theorem solid_pathNames (spelled : Spelled descriptor)
    (path : CratePath.of descriptor.scope? descriptor.typeName = .ok wrapper) :
    ∀ name ∈ pathNames descriptor, Solid name.toList := by
  intro name member
  obtain ⟨read, found⟩ := names_of_path path name member
  have same := spelled name member read found
  exact same ▸ Grammar.solid_of_name? found

section

variable {keep : Char → Prop} (lasting : Lasting keep)
  (each : ∀ name ∈ pathNames descriptor, ∀ c ∈ (unraw name).toList, keep c)

include lasting each

theorem keeps_qualifiedStem : ∀ c ∈ (qualifiedStem descriptor).toList, keep c := by
  intro c member
  rw [qualifiedStem, String.toList_append] at member
  rcases List.mem_append.mp member with early | late
  · refine keeps_namespaceName lasting ?_ c early
    intro path scope step among
    exact each step (by simp [pathNames, scope, among])
  · exact keeps_upperCamel lasting (each _ List.mem_cons_self) c late

theorem keeps_preferredStem : ∀ c ∈ (preferredStem descriptors descriptor).toList, keep c := by
  unfold preferredStem
  split
  · exact keeps_qualifiedStem lasting each
  · exact each _ List.mem_cons_self

omit each in
theorem Counting.keeps (counting : Counting taken stem n found) (kept : ∀ c ∈ stem.toList, keep c) :
    ∀ c ∈ found.toList, keep c := by
  induction counting with
  | @free n _ =>
    intro c member
    rw [String.toList_append] at member
    rcases List.mem_append.mp member with early | late
    · exact kept c early
    · exact keeps_toString lasting n c late
  | next _ _ ih => exact ih

theorem Choice.keeps (choice : Choice descriptors taken descriptor stem) :
    ∀ c ∈ stem.toList, keep c := by
  cases choice with
  | preferred _ => exact keeps_preferredStem lasting each
  | qualified _ _ => exact keeps_qualifiedStem lasting each
  | numbered _ _ counting => exact counting.keeps lasting (keeps_qualifiedStem lasting each)

end

theorem Assignment.choice (run : Assignment descriptors taken rest assigned)
    (member : (key, stem) ∈ assigned) :
    ∃ descriptor ∈ rest, ∃ earlier, descriptor.key = key ∧
      Choice descriptors earlier descriptor stem := by
  induction run with
  | done => cases member
  | next choice _ ih =>
    rcases List.mem_cons.mp member with own | later
    · cases own
      exact ⟨_, List.mem_cons_self, _, rfl, choice⟩
    · obtain ⟨descriptor, present, chosen⟩ := ih later
      exact ⟨descriptor, List.mem_cons_of_mem _ present, chosen⟩

/-- The stem of a wrapper is chosen for it. -/
theorem choice_of_stem (distinct : (descriptors.map Descriptor.key).Nodup) (groups : List Group)
    (member : descriptor ∈ descriptors) :
    ∃ earlier, Choice descriptors earlier descriptor
      (stemOf (stems descriptors groups) descriptor.key) := by
  have run := assignStems_assignment descriptors (groups.flatMap groupNames) descriptors
  obtain ⟨other, present, earlier, same, choice⟩ := run.choice (stems_mem distinct groups member)
  cases List.inj_on_of_nodup_map distinct present member same
  exact ⟨earlier, choice⟩

theorem solid_stemOf (distinct : (descriptors.map Descriptor.key).Nodup) (groups : List Group)
    (member : descriptor ∈ descriptors)
    (solid : ∀ name ∈ pathNames descriptor, Solid name.toList) :
    Solid (stemOf (stems descriptors groups) descriptor.key).toList := by
  obtain ⟨earlier, choice⟩ := choice_of_stem distinct groups member
  apply choice.keeps lasting_solid
  exact fun name among c inner => solid name among c (mem_of_mem_unraw inner)

/-- A converter of a solid stem has the name that the stem gives. -/
theorem converterName_eq (solid : Solid stem.toList) (made : converterName stem nullable = .ok name) :
    name = stem ++ converterSuffix nullable := by
  apply Grammar.name?_eq_self _ (identifier_eq_ok.mp made)
  rw [String.toList_append]
  apply solid.append
  cases nullable with
  | false => exact solid_of_all (by decide)
  | true => exact solid_of_all (by decide)

theorem convertersOf_eq (solid : Solid stem.toList) (made : convertersOf stem = .ok converters) :
    converters = ⟨stem ++ converterSuffix false, stem ++ converterSuffix true⟩ := by
  obtain ⟨plain, first, later⟩ := bind_eq_ok.mp made
  obtain ⟨nullable, second, whole⟩ := bind_eq_ok.mp later
  cases whole
  rw [converterName_eq solid first, converterName_eq solid second]

end Generation

end ValueObjects
