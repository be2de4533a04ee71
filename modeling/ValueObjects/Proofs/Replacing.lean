import ValueObjects.Proofs.Quoting
import ValueObjects.Proofs.Storing

namespace ValueObjects

namespace Disk

variable {disk after : Disk}

/-- Where a directory on the way is missing, no piece after it leads up. -/
def Descends (disk : Disk) : Place → List String → Prop
  | _, [] => True
  | place, piece :: rest =>
    ∀ next, step place piece = .ok next →
      (disk.at? next = none → ".." ∉ rest) ∧
      (disk.at? next = some .directory → disk.Descends next rest)

/-- A path that leads to a directory meets none that is missing. -/
theorem descends_of_enter (entered : disk.enter place pieces = .ok home) :
    disk.Descends place pieces := by
  induction pieces generalizing place with
  | nil => trivial
  | cons piece rest ih =>
    obtain ⟨next, moved, here, later⟩ := enter_cons_eq_ok.mp entered
    intro other same
    cases moved.symm.trans same
    exact ⟨fun nothing => (by cases nothing.symm.trans here), fun _ => ih later⟩

/-- Where pieces lead does not depend on the disk. -/
theorem enter_unique {other : Disk} (entered : disk.enter place pieces = .ok home)
    (again : other.enter place pieces = .ok final) : final = home := by
  induction pieces generalizing place with
  | nil =>
    cases entered
    cases again
    rfl
  | cons piece rest ih =>
    obtain ⟨next, moved, _, entered⟩ := enter_cons_eq_ok.mp entered
    obtain ⟨_, same, _, again⟩ := enter_cons_eq_ok.mp again
    cases moved.symm.trans same
    exact ih entered again

theorem isSettled_of_passed (settled : disk.IsSettled place)
    (entered : disk.enter place pieces = .ok home) (onWay : next ∈ passed place pieces) :
    disk.IsSettled next := by
  induction pieces generalizing place with
  | nil => cases onWay
  | cons piece rest ih =>
    obtain ⟨first, moved, here, later⟩ := enter_cons_eq_ok.mp entered
    have further := settled.step moved here
    simp only [passed, moved, List.mem_cons] at onWay
    rcases onWay with rfl | onWay
    · exact further
    · exact ih further later onWay

theorem IsSound.put (sound : disk.IsSound) (below : place ≠ [])
    (above : disk.at? place.dropLast = some .directory) : (disk.put place .directory).IsSound := by
  intro entry member
  rw [at?_put below]
  split
  · rfl
  · rcases List.mem_cons.mp member with rfl | member
    · exact above
    · exact sound entry (List.mem_of_mem_filter member)

/-- A disk with some directories more, all of them on the way to a place. -/
structure Made (disk : Disk) (home : Place) (after : Disk) : Prop where
  sound : after.IsSound
  each : ∀ place, after.at? place = disk.at? place ∨
    (place <+: home ∧ disk.at? place = none ∧ after.at? place = some .directory)

theorem Made.directory (made : Made disk home after) (here : disk.at? place = some .directory) :
    after.at? place = some .directory := by
  rcases made.each place with same | ⟨_, _, new⟩
  · exact same.trans here
  · exact new

theorem makeSteps_cons (moved : step place piece = .ok next) (rest : List String) :
    (makeSteps place (piece :: rest)).run disk =
      match disk.at? next with
      | some .directory => (makeSteps next rest).run disk
      | some (.file _) => (.error .unusable, disk)
      | none => (makeSteps next rest).run (disk.put next .directory) := by
  simp only [makeSteps, moved]
  rw [run_get_bind]
  cases disk.at? next with
  | none => rfl
  | some entry => cases entry <;> rfl

/-- A piece that directories are made for leads somewhere, and to no file. -/
theorem makeSteps_cons_eq_ok :
    (makeSteps place (piece :: rest)).run disk = (.ok (), after) ↔
      ∃ next, step place piece = .ok next ∧
        ((disk.at? next = some .directory ∧ (makeSteps next rest).run disk = (.ok (), after)) ∨
          (disk.at? next = none ∧
            (makeSteps next rest).run (disk.put next .directory) = (.ok (), after))) := by
  cases moved : step place piece with
  | error problem =>
    have failed : (makeSteps place (piece :: rest)).run disk = (.error problem, disk) := by
      simp only [makeSteps, moved]
      rfl
    rw [failed]
    refine iff_of_false (fun same => ?_) ?_
    · cases congrArg Prod.fst same
    · rintro ⟨next, same, _⟩
      cases same
  | ok next =>
    rw [makeSteps_cons moved]
    cases here : disk.at? next with
    | none => simp [here]
    | some entry =>
      cases entry with
      | directory => simp [here]
      | file bytes =>
        refine iff_of_false (fun same => ?_) (by simp [here])
        cases congrArg Prod.fst same

/-- A new directory in one that holds nothing holds nothing. -/
theorem at?_new (sound : disk.IsSound) (nothing : disk.at? next = none) (below : next ≠ [])
    (rest : Place) (nonempty : rest ≠ []) :
    (disk.put next .directory).at? (next ++ rest) = none := by
  rw [at?_put below, if_neg (by simpa using nonempty),
    sound.below (by simp [nothing]) rest nonempty]

theorem Made.of_put (made : Made (disk.put next .directory) home after) (below : next ≠ [])
    (nothing : disk.at? next = none) (leads : next <+: home) : Made disk home after where
  sound := made.sound
  each place := by
    rcases made.each place with same | ⟨onWay, absent, new⟩
    · rw [at?_put below] at same
      split at same
      · rename_i here
        exact .inr ⟨here ▸ leads, here ▸ nothing, same⟩
      · exact .inl same
    · rw [at?_put below] at absent
      split at absent
      · cases absent
      · exact .inr ⟨onWay, absent, new⟩

theorem IsSettled.put (settled : disk.IsSettled place) (below : place ++ [piece] ≠ []) :
    (disk.put (place ++ [piece]) .directory).IsSettled (place ++ [piece]) := by
  intro upper start
  rw [at?_put below]
  split
  · rfl
  · rename_i other
    exact settled upper ((List.prefix_concat_iff.mp start).resolve_left other)

/-- Making a directory in one that holds nothing makes all that is missing. -/
theorem makeSteps_below (sound : disk.IsSound) (settled : disk.IsSettled place)
    (empty : ∀ rest, rest ≠ [] → disk.at? (place ++ rest) = none) (down : ".." ∉ pieces)
    (ran : (makeSteps place pieces).run disk = (.ok (), after)) :
    ∃ home, place <+: home ∧ after.enter place pieces = .ok home ∧ Made disk home after := by
  induction pieces generalizing disk place with
  | nil =>
    cases ran
    exact ⟨place, List.prefix_rfl, rfl, sound, fun _ => .inl rfl⟩
  | cons piece rest ih =>
    obtain ⟨other, down⟩ := not_or.mp (mt List.mem_cons.mpr down)
    obtain ⟨next, moved, onward⟩ := makeSteps_cons_eq_ok.mp ran
    rcases step_cases moved with ⟨_, rfl⟩ | ⟨up, _⟩ | ⟨_, rfl⟩
    · rcases onward with ⟨_, further⟩ | ⟨nothing, _⟩
      · obtain ⟨home, leads, entered, made⟩ := ih sound settled empty down further
        exact ⟨home, leads,
          enter_cons_eq_ok.mpr ⟨next, moved, made.directory settled.here, entered⟩, made⟩
      · cases nothing.symm.trans settled.here
    · exact (other up.symm).elim
    · have nothing : disk.at? (place ++ [piece]) = none := empty [piece] (by simp)
      have below : place ++ [piece] ≠ [] := by simp
      have further := (onward.resolve_left fun found => by cases nothing.symm.trans found.1).2
      have above : disk.at? (place ++ [piece]).dropLast = some .directory := by
        rw [List.dropLast_concat]
        exact settled.here
      have grown := settled.put below
      obtain ⟨home, leads, entered, made⟩ :=
        ih (sound.put below above) grown (at?_new sound nothing below) down further
      have here : after.at? (place ++ [piece]) = some .directory := made.directory grown.here
      exact ⟨home, (List.prefix_append _ _).trans leads,
        enter_cons_eq_ok.mpr ⟨_, moved, here, entered⟩, made.of_put below nothing leads⟩

/-- Making directories finds them all, or makes those from the first that is missing. -/
theorem makeSteps_cases (sound : disk.IsSound) (settled : disk.IsSettled place)
    (descends : disk.Descends place pieces)
    (ran : (makeSteps place pieces).run disk = (.ok (), after)) :
    (after = disk ∧ ∃ home, disk.enter place pieces = .ok home) ∨
      (disk.enter place pieces = .error .absent ∧ ∃ home, after.enter place pieces = .ok home ∧
        disk.at? home = none ∧ Made disk home after) := by
  induction pieces generalizing place with
  | nil =>
    cases ran
    exact .inl ⟨rfl, place, rfl⟩
  | cons piece rest ih =>
    obtain ⟨next, moved, onward⟩ := makeSteps_cons_eq_ok.mp ran
    obtain ⟨missing, present⟩ := descends next moved
    rcases onward with ⟨here, further⟩ | ⟨nothing, further⟩
    · rcases ih (settled.step moved here) (present here) further with
        ⟨same, home, entered⟩ | ⟨lost, home, entered, absent, made⟩
      · exact .inl ⟨same, home, enter_cons_eq_ok.mpr ⟨next, moved, here, entered⟩⟩
      · refine .inr ⟨?_, home, enter_cons_eq_ok.mpr ⟨next, moved, made.directory here, entered⟩,
          absent, made⟩
        rw [enter, moved, ok_bind, here]
        exact lost
    · -- What is missing is an entry, as the place itself and the one above are directories.
      rcases step_cases moved with ⟨_, rfl⟩ | ⟨_, rfl⟩ | ⟨_, rfl⟩
      · cases nothing.symm.trans settled.here
      · cases nothing.symm.trans (settled _ (List.dropLast_prefix place))
      · have below : place ++ [piece] ≠ [] := by simp
        have above : disk.at? (place ++ [piece]).dropLast = some .directory := by
          rw [List.dropLast_concat]
          exact settled.here
        obtain ⟨home, leads, entered, made⟩ := makeSteps_below (sound.put below above)
          (settled.put below) (at?_new sound nothing below) (missing nothing) further
        have here : after.at? (place ++ [piece]) = some .directory :=
          made.directory (settled.put below).here
        refine .inr ⟨?_, home, enter_cons_eq_ok.mpr ⟨_, moved, here, entered⟩, ?_,
          made.of_put below nothing leads⟩
        · rw [enter, moved, ok_bind, nothing]
        · obtain ⟨more, rfl⟩ := leads
          by_cases last : more = []
          · rw [last, List.append_nil, nothing]
          · exact sound.below (by simp [nothing]) more last

theorem makeSteps_split (ran : (makeSteps place (before ++ rest)).run disk = (.ok (), after)) :
    ∃ between, (makeSteps place before).run disk = (.ok (), between) := by
  induction before generalizing disk place with
  | nil => exact ⟨disk, rfl⟩
  | cons piece before ih =>
    obtain ⟨next, moved, onward⟩ := makeSteps_cons_eq_ok.mp ran
    rcases onward with ⟨here, further⟩ | ⟨nothing, further⟩
    · obtain ⟨between, first⟩ := ih further
      exact ⟨between, makeSteps_cons_eq_ok.mpr ⟨next, moved, .inl ⟨here, first⟩⟩⟩
    · obtain ⟨between, first⟩ := ih further
      exact ⟨between, makeSteps_cons_eq_ok.mpr ⟨next, moved, .inr ⟨nothing, first⟩⟩⟩

theorem makeSteps_append (ran : (makeSteps place before).run disk = (.ok (), after))
    (entered : after.enter place before = .ok home) (rest : List String) :
    (makeSteps place (before ++ rest)).run disk = (makeSteps home rest).run after := by
  induction before generalizing disk place with
  | nil =>
    cases ran
    cases entered
    rfl
  | cons piece before ih =>
    obtain ⟨next, moved, _, entered⟩ := enter_cons_eq_ok.mp entered
    obtain ⟨_, same, ran⟩ := makeSteps_cons_eq_ok.mp ran
    cases moved.symm.trans same
    rw [List.cons_append, makeSteps_cons moved]
    rcases ran with ⟨here, ran⟩ | ⟨nothing, ran⟩
    · rw [here]
      exact ih ran entered
    · rw [nothing]
      exact ih ran entered

/-- A file or directory that gets another path was there, and no directory was at the new path. -/
theorem rename_ok (ran : (rename source target).run disk = (.ok (), after)) :
    ∃ start goal, disk.locate source = .ok start ∧ disk.locate target = .ok goal ∧
      disk.at? goal ≠ some .directory ∧ after = disk.move start goal := by
  cases start : disk.locate source with
  | error problem =>
    rw [rename, placeOf_of_error start] at ran
    cases ran
  | ok first =>
    cases goal : disk.locate target with
    | error problem =>
      rw [rename, placeOf_of_ok start, placeOf_of_error goal] at ran
      cases ran
    | ok last =>
      rw [rename_of_ok start goal] at ran
      refine ⟨first, last, rfl, rfl, ?_⟩
      split at ran
      · cases ran
      · rename_i file
        cases ran
        exact ⟨by simp [file], rfl⟩
      · cases ran
      · rename_i nothing
        cases ran
        exact ⟨by simp [nothing], rfl⟩

theorem locate_of_write (ran : (write path bytes).run disk = (.ok (), after)) :
    ∃ place, disk.locate path = .ok place := by
  cases found : disk.locate path with
  | error problem =>
    rw [write_of_error found] at ran
    cases ran
  | ok place => exact ⟨place, rfl⟩

end Disk

namespace Generation

open Disk

variable {disk after : Disk} {directory : Path} {home : Place} {output : Output}

/-- Steps that end are made of steps that end. -/
theorem run_bind_ok {first : Steps α} {next : α → Steps β} :
    (first >>= next).run disk = (.ok b, after) ↔
      ∃ a between, first.run disk = (.ok a, between) ∧ (next a).run between = (.ok b, after) := by
  rw [run_bind]
  rcases first.run disk with ⟨result, between⟩
  cases result with
  | ok a =>
    refine ⟨fun ran => ⟨a, between, rfl, ran⟩, ?_⟩
    rintro ⟨_, _, ⟨⟩, ran⟩
    exact ran
  | error cause =>
    refine ⟨nofun, ?_⟩
    rintro ⟨_, _, ⟨⟩, _⟩

theorem run_at_ok {path : Path} {action : Disk.Action α} :
    (Steps.at path action).run disk = (.ok a, after) ↔ action.run disk = (.ok a, after) := by
  rw [run_at]
  rcases action.run disk with ⟨result, between⟩
  cases result with
  | ok value => constructor <;> rintro ⟨⟩ <;> rfl
  | error cause => exact ⟨nofun, nofun⟩

/-- A path of a name that is stored to leads to the entry of the directory. -/
theorem place_of_join {other : Disk} (entered : other.enter [] directory.leading = .ok home)
    (name : IsPlainName spelled)
    (located : disk.locate (Path.join directory spelled) = .ok place) :
    disk.enter [] directory.leading = .ok home ∧ place = home ++ [spelled] := by
  have split : (Path.join directory spelled).pieces = directory.leading ++ [spelled] := by
    rw [Path.pieces_join (Path.isRooted_of_plain name.plain), Path.pieces_of_plain name.plain]
  obtain ⟨_, _, final, again, moved⟩ := (locate_eq_ok split).mp located
  cases enter_unique entered again
  rw [step_of_name name.named] at moved
  cases moved
  exact ⟨again, rfl⟩

/-- An output is stored only where the path does not lead through what is replaced. -/
theorem apart_of_store {other : Disk} (entered : other.enter [] directory.leading = .ok home)
    (ran : (output.store directory).run disk = (.ok (), after)) :
    ∀ place ∈ passed [] directory.leading,
      isWithin place (home ++ [unitDirectory]) = false ∧
        isWithin place (home ++ [stagingDirectory]) = false := by
  intro place onWay
  rw [store_eq] at ran
  obtain ⟨_, staged, _, ran⟩ := run_bind_ok.mp ran
  obtain ⟨_, moved, adopted, ran⟩ := run_bind_ok.mp ran
  obtain ⟨_, emptied, _, adopted⟩ := run_bind_ok.mp adopted
  obtain ⟨_, drafted, wrote, _⟩ := run_bind_ok.mp ran
  obtain ⟨start, goal, source, target, free, rfl⟩ := rename_ok (run_at_ok.mp adopted)
  obtain ⟨before, rfl⟩ := place_of_join entered isPlainName_stagingDirectory source
  obtain ⟨_, rfl⟩ := place_of_join entered isPlainName_unitDirectory target
  obtain ⟨_, draft⟩ := locate_of_write (run_at_ok.mp wrote)
  obtain ⟨later, _⟩ := place_of_join entered isPlainName_draft draft
  constructor
  · -- The units could not have been moved to a directory on the way.
    apply Bool.eq_false_iff.mpr
    intro inside
    exact free (isSettled_of_passed (isSettled_nil _) before onWay _ (isWithin_iff.mp inside))
  · -- Nothing is left of the staging directory when the draft is written.
    apply Bool.eq_false_iff.mpr
    intro inside
    obtain ⟨rest, rfl⟩ := isWithin_iff.mp inside
    have here := at?_of_passed later onWay
    rw [at?_move (below_ne_nil _ _) (below_ne_nil _ _),
      if_neg (by rw [apart_of_ne home (by decide)]; exact nofun), if_pos inside] at here
    cases here

/-- Staging fails where the path of its directory is rooted or too long. -/
theorem shape_of_stage (ran : (stage (Path.join directory stagingDirectory) units).run disk =
    (.ok (), after)) :
    (Path.join directory stagingDirectory).utf8ByteSize ≤ longestPath ∧
      directory.isRooted = false := by
  rw [stage_eq] at ran
  obtain ⟨_, cleared, _, ran⟩ := run_bind_ok.mp ran
  obtain ⟨_, made, making, _⟩ := run_bind_ok.mp ran
  have making := run_at_ok.mp making
  unfold makeDirectories at making
  split at making
  · cases making
  · rename_i fine
    rw [Bool.or_eq_true, not_or, decide_eq_true_eq, Bool.not_eq_true, Path.isRooted_join,
      Path.isRooted_of_plain isPlainName_stagingDirectory.plain, Bool.or_false] at fine
    exact ⟨Nat.not_lt.mp fine.1, fine.2⟩

/-- Staging starts by making the directories on the way, or finds them. -/
theorem stage_of_made (sound : disk.IsSound) (descends : disk.Descends [] directory.leading)
    (ran : (stage (Path.join directory stagingDirectory) units).run disk = (.ok (), after)) :
    ∃ home between, between.enter [] directory.leading = .ok home ∧
      (stage (Path.join directory stagingDirectory) units).run between = (.ok (), after) ∧
      (between = disk ∨ disk.at? home = none ∧ Made disk home between) := by
  obtain ⟨short, relative⟩ := shape_of_stage ran
  have name := isPlainName_stagingDirectory
  have split : (Path.join directory stagingDirectory).pieces =
      directory.leading ++ [stagingDirectory] := by
    rw [Path.pieces_join (Path.isRooted_of_plain name.plain), Path.pieces_of_plain name.plain]
  have whole : (Path.join directory stagingDirectory).isRooted = false := by
    rw [Path.isRooted_join, relative, Path.isRooted_of_plain name.plain]
    rfl
  cases entered : disk.enter [] directory.leading with
  | ok home => exact ⟨home, disk, entered, ran, .inl rfl⟩
  | error problem =>
    have makes : makeDirectories (Path.join directory stagingDirectory) =
        makeSteps [] (directory.leading ++ [stagingDirectory]) := by
      rw [makeDirectories, if_neg (by simp [whole, short]), split]
    rw [stage_eq, makes] at ran ⊢
    obtain ⟨_, cleared, clearing, ran⟩ := run_bind_ok.mp ran
    obtain ⟨_, made, making, wrote⟩ := run_bind_ok.mp ran
    have making := run_at_ok.mp making
    have lost : disk.locate (Path.join directory stagingDirectory) = .error problem := by
      rw [locate_of_concat short whole split, entered]
      rfl
    -- Clearing takes a missing directory for a missing staging directory.
    have same : cleared = disk := by
      have ended := (clearDirectory_of_error lost).symm.trans (run_at_ok.mp clearing)
      exact (Prod.mk.inj ended).2.symm
    subst same
    obtain ⟨between, first⟩ := makeSteps_split making
    rcases makeSteps_cases sound (isSettled_nil _) descends first with
      ⟨_, home, found⟩ | ⟨_, home, found, absent, grown⟩
    · cases entered.symm.trans found
    · have free : between.at? (home ++ [stagingDirectory]) = none := by
        rcases grown.each (home ++ [stagingDirectory]) with kept | ⟨inside, _⟩
        · rw [kept]
          exact sound.below (by simp [absent]) _ (by simp)
        · have longer := inside.length_le
          simp at longer
      have located : between.locate (Path.join directory stagingDirectory) =
          .ok (home ++ [stagingDirectory]) :=
        (locate_eq_ok split).mpr ⟨short, whole, home, found, step_of_name name.named home⟩
      have clear : (Disk.clearDirectory (Path.join directory stagingDirectory)).run between =
          (.ok (), between) := by
        rw [clearDirectory_of_ok located, free]
      have make : (makeSteps [] (directory.leading ++ [stagingDirectory])).run between =
          (.ok (), made) := by
        rw [makeSteps_of_enter found, ← makeSteps_append first found, making]
      refine ⟨home, between, found, ?_, .inr ⟨absent, grown⟩⟩
      exact run_bind_ok.mpr ⟨_, _, run_at_ok.mpr clear,
        run_bind_ok.mpr ⟨_, _, run_at_ok.mpr make, wrote⟩⟩

/-- A file name that is a single step of a path. -/
structure IsFileName (name : String) : Prop where
  plain : '/' ∉ name.toList
  moves : Path.isIdle name = false
  down : name ≠ ".."

/-- What is found where an output was stored at a directory, and what is as it was before. -/
structure Replaced (disk : Disk) (directory : Path) (home : Place) (output : Output)
    (after : Disk) : Prop where
  /-- The directory of the units holds a file for each. -/
  units : ∀ unit ∈ output.units, after.at? (home ++ [unitDirectory] ++ [unit.name]) =
    some (.file unit.contents.toUTF8)
  folder : after.at? (home ++ [unitDirectory]) = some .directory
  nothingElse : ∀ rest, rest ≠ [] → (∀ unit ∈ output.units, rest ≠ [unit.name]) →
    after.at? (home ++ [unitDirectory] ++ rest) = none
  staging : ∀ rest, after.at? (home ++ [stagingDirectory] ++ rest) = none
  draft : after.at? (home ++ [indexFile ++ ".tmp"]) = none
  /-- The index is the header and a line for each unit, with its path as a string literal. -/
  index : ∃ literals, after.at? (home ++ [indexFile]) = some (.file (header ++ "\n" ++
      String.join (literals.map fun literal => "include!(" ++ literal ++ ");\n")).toUTF8) ∧
    List.Forall₂ (fun literal unit => Literal.Denotes literal
      (Path.join (Path.join directory unitDirectory) unit.name)) literals output.units
  /-- All else is as it was, but for directories on the way that were missing. -/
  same : ∀ place, (∀ name ∈ [unitDirectory, stagingDirectory, indexFile, indexFile ++ ".tmp"],
      isWithin place (home ++ [name]) = false) →
    after.at? place = disk.at? place ∨
      (place <+: home ∧ disk.at? place = none ∧ after.at? place = some .directory)

theorem unitsAt_of_mem {units : List GeneratedUnit} (distinct : (units.map (·.name)).Nodup)
    (member : unit ∈ units) : unitsAt units [unit.name] = some (.file unit.contents.toUTF8) := by
  rw [unitsAt]
  cases found : units.reverse.find? (·.name == unit.name) with
  | none =>
    have other := List.find?_eq_none.mp found unit (List.mem_reverse.mpr member)
    exact (other (beq_self_eq_true _)).elim
  | some other =>
    have same : other.name = unit.name := by simpa using List.find?_some found
    have present := List.mem_reverse.mp (List.mem_of_find?_eq_some found)
    rw [List.inj_on_of_nodup_map distinct present member same]
    rfl

theorem unitsAt_eq_none {units : List GeneratedUnit} (nonempty : rest ≠ [])
    (other : ∀ unit ∈ units, rest ≠ [unit.name]) : unitsAt units rest = none := by
  match rest with
  | [] => exact (nonempty rfl).elim
  | [name] =>
    rw [unitsAt, Option.map_eq_none_iff, List.find?_eq_none]
    intro unit member same
    have own : [name] = [unit.name] := congrArg (fun name => [name]) (beq_iff_eq.mp same).symm
    exact other unit (List.mem_reverse.mp member) own
  | _ :: _ :: _ => rfl

/-- The lines of the index, each with a literal of the path that it is for. -/
theorem indexText_eq (folder : Path) (units : List GeneratedUnit) :
    ∃ literals, indexText folder units = header ++ "\n" ++
        String.join (literals.map fun literal => "include!(" ++ literal ++ ");\n") ∧
      List.Forall₂ (fun literal unit => Literal.Denotes literal (Path.join folder unit.name))
        literals units := by
  refine ⟨units.map fun unit => Text.quote (Path.join folder unit.name), ?_, ?_⟩
  · rw [indexText, List.map_map]
    rfl
  · rw [List.forall₂_map_left_iff, List.forall₂_same]
    exact fun unit _ => Literal.denotes_quote _

/-- A disk that an output is stored on holds it, and is otherwise as it was. -/
theorem StoredUnits.replaced (stored : StoredUnits disk directory home output after)
    (distinct : (output.units.map (·.name)).Nodup) :
    Replaced disk directory home output after where
  units unit member := (stored.units _).trans (unitsAt_of_mem distinct member)
  folder := by simpa [unitsAt] using stored.units []
  nothingElse rest nonempty other := (stored.units rest).trans (unitsAt_eq_none nonempty other)
  staging := stored.staging
  draft := stored.draft
  index := by
    obtain ⟨literals, text, denote⟩ :=
      indexText_eq (Path.join directory unitDirectory) output.units
    exact ⟨literals, text ▸ stored.index, denote⟩
  same place apart := .inl (stored.same place apart)

/-- Directories that were made on the way before count as missing. -/
theorem Replaced.of_made {between : Disk} (replaced : Replaced between directory home output after)
    (made : Made disk home between) : Replaced disk directory home output after where
  units := replaced.units
  folder := replaced.folder
  nothingElse := replaced.nothingElse
  staging := replaced.staging
  draft := replaced.draft
  index := replaced.index
  same place apart := by
    rcases replaced.same place apart with same | ⟨onWay, nothing, new⟩
    · rcases made.each place with kept | ⟨onWay, nothing, new⟩
      · exact .inl (same.trans kept)
      · exact .inr ⟨onWay, nothing, same.trans new⟩
    · rcases made.each place with kept | ⟨_, _, there⟩
      · exact .inr ⟨onWay, kept ▸ nothing, new⟩
      · cases nothing.symm.trans there

/-- The path of the directory leads there still. -/
theorem StoredUnits.enter (stored : StoredUnits disk directory home output after)
    (site : Home disk directory home) (free : ∀ cause, ¬IsBlocked disk directory home cause) :
    after.enter [] directory.leading = .ok home := by
  rw [enter_congr, site.entered]
  intro place onWay
  apply stored.same
  have settled := isSettled_of_passed (isSettled_nil disk) site.entered onWay
  have unblocked (name : String) (own : name ∈ [indexFile ++ ".tmp", indexFile]) :
      isWithin place (home ++ [name]) = false := by
    apply Bool.eq_false_iff.mpr
    intro inside
    exact free _ ⟨name, own, rfl, settled _ (isWithin_iff.mp inside)⟩
  simp only [List.forall_mem_cons]
  exact ⟨(site.apart place onWay).1, (site.apart place onWay).2, unblocked _ (by simp),
    unblocked _ (by simp), by simp⟩

/-- Storing an output replaces an earlier one, with whatever it left, and nothing else. -/
theorem store_replaces (distinct : (output.units.map (·.name)).Nodup)
    (named : ∀ unit ∈ output.units, IsFileName unit.name) (sound : disk.IsSound)
    (descends : disk.Descends [] directory.leading)
    (ran : (output.store directory).run disk = (.ok (), after)) :
    ∃ home, after.enter [] directory.leading = .ok home ∧
      Replaced disk directory home output after := by
  obtain ⟨_, staged, staging, later⟩ := run_bind_ok.mp (store_eq output directory ▸ ran)
  obtain ⟨home, between, entered, staging, found⟩ := stage_of_made sound descends staging
  have again : (output.store directory).run between = (.ok (), after) :=
    run_bind_ok.mpr ⟨_, _, staging, later⟩
  have soundThere : between.IsSound := by
    rcases found with rfl | ⟨_, made⟩
    · exact sound
    · exact made.sound
  have site : Home between directory home :=
    ⟨(shape_of_stage staging).2, entered, apart_of_store entered again⟩
  have steps (unit : GeneratedUnit) (member : unit ∈ output.units) : IsUnitName unit.name :=
    .step (named unit member).plain (named unit member).moves (named unit member).down
  rcases store_outcome site soundThere steps again with ⟨_, free, stored⟩ | ⟨_, failed, _⟩
  · refine ⟨home, stored.enter site free, ?_⟩
    rcases found with rfl | ⟨_, made⟩
    · exact stored.replaced distinct
    · exact (stored.replaced distinct).of_made made
  · cases failed

/-- An output of two units. -/
def twoUnits : Output :=
  ⟨[], [], [⟨"A.operators.rs", .operators, "struct A;"⟩, ⟨"A \"b\".rs", .parsing, ""⟩], []⟩

/-- A directory with a stale unit, a staging directory that was left, an older index and a file of
another kind. -/
def staleDisk : Disk := ⟨[
  (["out"], .directory),
  (["out", "valuegen"], .directory),
  (["out", "valuegen", "B.operators.rs"], .file "struct B;".toUTF8),
  (["out", ".valuegen.staging"], .directory),
  (["out", ".valuegen.staging", "C.operators.rs"], .file "struct C;".toUTF8),
  (["out", "valuegen.rs"], .file "include!".toUTF8),
  (["out", "kept"], .file "kept".toUTF8)]⟩

theorem store_replaces_stale :
    (twoUnits.units.map (·.name)).Nodup ∧ (∀ unit ∈ twoUnits.units, IsFileName unit.name) ∧
      staleDisk.IsSound ∧ staleDisk.Descends [] (Path.leading "out/") ∧
      ∃ after, (twoUnits.store "out/").run staleDisk = (.ok (), after) ∧
        ∃ home, after.enter [] (Path.leading "out/") = .ok home ∧
          Replaced staleDisk "out/" home twoUnits after := by
  have distinct : (twoUnits.units.map (·.name)).Nodup := by decide
  have named : ∀ unit ∈ twoUnits.units, IsFileName unit.name := by
    simp only [twoUnits, List.forall_mem_cons]
    exact ⟨⟨by decide, by decide, by decide⟩, ⟨by decide, by decide, by decide⟩, List.forall_mem_nil _⟩
  have sound : staleDisk.IsSound := by
    intro entry member
    simp only [staleDisk, List.mem_cons, List.not_mem_nil, or_false] at member
    rcases member with rfl | rfl | rfl | rfl | rfl | rfl | rfl <;> rfl
  have site : Home staleDisk "out/" ["out"] := ⟨rfl, rfl, by decide⟩
  have descends := descends_of_enter site.entered
  have plain : ∀ unit ∈ twoUnits.units, BeginsPlain unit.name := by
    simp only [twoUnits, List.forall_mem_cons]
    exact ⟨⟨'A', _, rfl, by decide, by decide⟩, ⟨'A', _, rfl, by decide, by decide⟩,
      List.forall_mem_nil _⟩
  have writable : ∀ unit ∈ twoUnits.units, IsWritable "out/" unit.name := by
    simp only [twoUnits, List.forall_mem_cons]
    exact ⟨⟨by decide, by decide, by decide⟩, ⟨by decide, by decide, by decide⟩, List.forall_mem_nil _⟩
  have staging : staleDisk.at? (["out"] ++ [stagingDirectory]) = some .directory := rfl
  have target : staleDisk.at? (["out"] ++ [unitDirectory]) = some .directory := rfl
  have index : staleDisk.at? (["out"] ++ [indexFile]) = some (.file "include!".toUTF8) := rfl
  have draft : staleDisk.at? (["out"] ++ [indexFile ++ ".tmp"]) = none := rfl
  have can : CanAdopt staleDisk "out/" ["out"] twoUnits.units :=
    ⟨⟨by decide, by rw [staging]; simp, writable⟩, by rw [target]; simp⟩
  obtain ⟨after, ran, _⟩ :=
    store_ends site sound plain can (not_isBlocked (by rw [draft]; simp) (by rw [index]; simp))
  exact ⟨distinct, named, sound, descends, after, ran,
    store_replaces distinct named sound descends ran⟩

/-- A staging directory that was left where the path of the output directory leads by way of a
missing directory. -/
def leftoverDisk : Disk := ⟨[
  ([".valuegen.staging"], .directory),
  ([".valuegen.staging", "C.operators.rs"], .file "struct C;".toUTF8)]⟩

/-- What was left counts as a unit: the staging directory was not found before the missing directory
was made, and is not cleared. -/
theorem leftover_adopted :
    ∃ after, ((⟨[], [], [], []⟩ : Output).store "a/..").run leftoverDisk = (.ok (), after) ∧
      after.enter [] (Path.leading "a/..") = .ok [] ∧
      after.at? [unitDirectory, "C.operators.rs"] = some (.file "struct C;".toUTF8) :=
  ⟨_, rfl, rfl, rfl⟩

end Generation

end ValueObjects
