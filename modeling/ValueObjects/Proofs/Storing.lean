import ValueObjects.Generation.Storing
import ValueObjects.Proofs.Changes
import ValueObjects.Proofs.UnitNames
/-!
What storing an output leaves on the disk. Until all units are staged nothing outside of the staging
directory changes; after that only the draft of the index can fail.
-/
namespace ValueObjects.Generation

open Disk

/-- What a directory of just the units holds at the names that lead to a place in it. Of units of
one name it holds the last. -/
def unitsAt (units : List GeneratedUnit) : List String → Option Node
  | [] => some .directory
  | [name] => (units.reverse.find? (·.name == name)).map fun unit => .file unit.contents.toUTF8
  | _ => none

/-- A disk after the units are written into a directory. -/
def written (place : Place) (units : List GeneratedUnit) (disk : Disk) : Disk :=
  units.foldl (fun disk unit => disk.put (place ++ [unit.name]) (.file unit.contents.toUTF8)) disk

/-- The directory that an output is stored in: its path does not lead through what is replaced. -/
structure Home (disk : Disk) (directory : Path) (home : Place) : Prop where
  relative : directory.isRooted = false
  entered : disk.enter [] directory.leading = .ok home
  apart : ∀ place ∈ passed [] directory.leading,
    isWithin place (home ++ [unitDirectory]) = false ∧
      isWithin place (home ++ [stagingDirectory]) = false

/-- A name that the storing of an output uses beside the names of the units. -/
structure IsPlainName (name : String) : Prop where
  plain : '/' ∉ name.toList
  named : IsName name
  short : name.utf8ByteSize ≤ stagingDirectory.utf8ByteSize

theorem isPlainName_unitDirectory : IsPlainName unitDirectory :=
  ⟨by decide, ⟨by decide, by decide, by decide⟩, by decide⟩

theorem isPlainName_stagingDirectory : IsPlainName stagingDirectory :=
  ⟨by decide, ⟨by decide, by decide, by decide⟩, by decide⟩

theorem isPlainName_indexFile : IsPlainName indexFile :=
  ⟨by decide, ⟨by decide, by decide, by decide⟩, by decide⟩

theorem isPlainName_draft : IsPlainName (indexFile ++ ".tmp") :=
  ⟨by decide, ⟨by decide, by decide, by decide⟩, by decide⟩

variable {disk after : Disk} {directory : Path} {home : Place} {units : List GeneratedUnit}
  {output : Output}

/-- The directory stays where it is if all on the way to it does. -/
theorem Home.congr (site : Home disk directory home)
    (same : ∀ place, isWithin place (home ++ [unitDirectory]) = false →
      isWithin place (home ++ [stagingDirectory]) = false → after.at? place = disk.at? place) :
    Home after directory home where
  relative := site.relative
  apart := site.apart
  entered := by
    rw [enter_congr, site.entered]
    intro place onWay
    obtain ⟨noUnits, noStaging⟩ := site.apart place onWay
    exact same place noUnits noStaging

theorem Home.of_sameOutside (site : Home disk directory home)
    (replaced : region = home ++ [unitDirectory] ∨ region = home ++ [stagingDirectory])
    (same : SameOutside region disk after) : Home after directory home := by
  apply site.congr
  intro place noUnits noStaging
  rcases replaced with rfl | rfl
  · exact same place noUnits
  · exact same place noStaging

theorem size_join (plain : '/' ∉ name.toList) (otherPlain : '/' ∉ other.toList)
    (short : name.utf8ByteSize ≤ other.utf8ByteSize) :
    (Path.join directory name).utf8ByteSize ≤ (Path.join directory other).utf8ByteSize := by
  simp only [Path.join, Path.isRooted_of_plain plain, Path.isRooted_of_plain otherPlain,
    Bool.false_or]
  split
  · exact short
  · split
    · simpa using short
    · simpa using short

/-- The paths that are stored to lead into the directory, unless they are too long. -/
theorem Home.entry (site : Home disk directory home) (name : IsPlainName spelled)
    (short : (Path.join directory stagingDirectory).utf8ByteSize ≤ longestPath) :
    disk.IsEntry (Path.join directory spelled) directory.leading home spelled where
  split := by
    rw [Path.pieces_join (Path.isRooted_of_plain name.plain), Path.pieces_of_plain name.plain]
  short := (size_join name.plain isPlainName_stagingDirectory.plain name.short).trans short
  relative := by
    rw [Path.isRooted_join, site.relative, Path.isRooted_of_plain name.plain]
    rfl
  named := name.named
  entered := site.entered

theorem run_at (path : Path) (action : Disk.Action α) (disk : Disk) :
    (Steps.at path action).run disk =
      match action.run disk with
      | (.ok value, after) => (.ok value, after)
      | (.error _, after) => (.error (.io path), after) :=
  rfl

/-- Writes units into a directory, one after another. -/
def writeAll (staging : Path) : List GeneratedUnit → Steps Unit
  | [] => pure ()
  | unit :: rest => do
    Steps.at (Path.join staging unit.name)
      (Disk.write (Path.join staging unit.name) unit.contents.toUTF8)
    writeAll staging rest

theorem stage_eq (staging : Path) (units : List GeneratedUnit) :
    stage staging units = (do
      Steps.at staging (Disk.clearDirectory staging)
      Steps.at staging (Disk.makeDirectories staging)
      writeAll staging units) := by
  have loop : forIn units PUnit.unit (fun unit _ => do
      Steps.at (Path.join staging unit.name)
        (Disk.write (Path.join staging unit.name) unit.contents.toUTF8)
      pure (ForInStep.yield PUnit.unit)) = writeAll staging units := by
    induction units with
    | nil => rfl
    | cons unit rest ih =>
      rw [writeAll, ← ih]
      simp
  unfold stage
  simp only [loop, bind_pure_unit]

/-- A staging directory that holds no directory. -/
structure Staged (disk : Disk) (directory : Path) (home : Place) : Prop where
  site : Home disk directory home
  made : disk.at? (home ++ [stagingDirectory]) = some .directory
  flat : ∀ name, disk.at? (home ++ [stagingDirectory] ++ [name]) ≠ some .directory

theorem Staged.enter (staged : Staged disk directory home) :
    disk.enter [] (Path.join directory stagingDirectory).leading =
      .ok (home ++ [stagingDirectory]) := by
  have name := isPlainName_stagingDirectory
  rw [Path.leading_join (Path.isRooted_of_plain name.plain), enter_append, staged.site.entered,
    ok_bind]
  exact enter_cons_eq_ok.mpr ⟨_, step_of_name name.named home, staged.made, rfl⟩

theorem step_of_beginsPlain (plain : BeginsPlain piece) (moved : step place piece = .ok next) :
    next = place ++ [piece] := by
  obtain ⟨c, rest, spelled, noDot, _⟩ := plain
  rcases step_cases moved with ⟨idle, _⟩ | ⟨rfl, _⟩ | ⟨_, rfl⟩
  · simp only [Path.isIdle, Bool.or_eq_true, beq_iff_eq] at idle
    rcases idle with rfl | rfl
    · cases spelled
    · cases spelled
      exact (noDot rfl).elim
  · cases spelled
    exact (noDot rfl).elim
  · rfl

/-- A unit's name: it begins plainly, as that of every emitted unit does, or is a single step. -/
inductive IsUnitName (name : String) : Prop where
  | begins (plain : BeginsPlain name)
  | step (plain : '/' ∉ name.toList) (moves : Path.isIdle name = false) (down : name ≠ "..")

/-- A unit's file is an entry of the staging directory, or it cannot be written. -/
theorem Staged.locate (staged : Staged disk directory home) (named : IsUnitName name)
    (located : disk.locate (Path.join (Path.join directory stagingDirectory) name) = .ok place) :
    place = home ++ [stagingDirectory] ++ [name] := by
  obtain ⟨before, piece, cut⟩ := pieces_concat name
  have relative : Path.isRooted name = false := by
    obtain ⟨_, _, split⟩ := pieces_concat (Path.join (Path.join directory stagingDirectory) name)
    have whole := ((locate_eq_ok split).mp located).2.1
    rw [Path.isRooted_join, Bool.or_eq_false_iff] at whole
    exact whole.2
  have split : (Path.join (Path.join directory stagingDirectory) name).pieces =
      (Path.join directory stagingDirectory).leading ++ before ++ [piece] := by
    rw [Path.pieces_join relative, cut, List.append_assoc]
  obtain ⟨_, _, inner, entered, moved⟩ := (locate_eq_ok split).mp located
  rw [enter_append, staged.enter, ok_bind] at entered
  cases before with
  | nil =>
    cases entered
    have whole : name = piece := Path.eq_of_pieces_singleton cut
    subst whole
    cases named with
    | begins plain => exact step_of_beginsPlain plain moved
    | step _ moves down =>
      rcases step_cases moved with ⟨idle, _⟩ | ⟨up, _⟩ | ⟨_, here⟩
      · cases moves.symm.trans idle
      · exact (down up).elim
      · exact here
  | cons first more =>
    -- The first of several names would have to be that of a directory.
    obtain ⟨next, down, here, _⟩ := enter_cons_eq_ok.mp entered
    have plain : BeginsPlain name := by
      cases named with
      | begins plain => exact plain
      | step plain =>
        rw [Path.pieces_of_plain plain] at cut
        simp at cut
    obtain ⟨c, rest, spelled, noDot, noColon⟩ := plain
    have noSlash : c ≠ '/' := by
      rintro rfl
      simp [Path.isRooted, spelled] at relative
    obtain ⟨tail, others, start⟩ := Path.pieces_of_cons spelled noSlash
    rw [start, List.cons_append, List.cons.injEq] at cut
    have begins : BeginsPlain first := ⟨c, tail, by simp [← cut.1], noDot, noColon⟩
    rw [step_of_beginsPlain begins down] at here
    exact (staged.flat first here).elim

/-- Whether a unit's name can be that of a file in the staging directory. -/
structure IsWritable (directory : Path) (name : String) : Prop where
  plain : '/' ∉ name.toList
  size : name.utf8ByteSize ≤ longestName
  short : (Path.join (Path.join directory stagingDirectory) name).utf8ByteSize ≤ longestPath

theorem isName_of_beginsPlain (plain : BeginsPlain name) (size : name.utf8ByteSize ≤ longestName) :
    IsName name := by
  obtain ⟨c, rest, spelled, noDot, _⟩ := plain
  refine ⟨?_, ?_, size⟩
  · rw [Path.isIdle, Bool.or_eq_false_iff, beq_eq_false_iff_ne, beq_eq_false_iff_ne]
    refine ⟨?_, ?_⟩ <;> rintro rfl <;> cases spelled
    exact noDot rfl
  · rintro rfl
    cases spelled
    exact noDot rfl

theorem IsUnitName.isName (named : IsUnitName name) (size : name.utf8ByteSize ≤ longestName) :
    IsName name := by
  cases named with
  | begins plain => exact isName_of_beginsPlain plain size
  | step _ moves down => exact ⟨moves, down, size⟩

theorem Staged.entry (staged : Staged disk directory home) (name : IsUnitName spelled)
    (writable : IsWritable directory spelled) :
    disk.IsEntry (Path.join (Path.join directory stagingDirectory) spelled)
      (Path.join directory stagingDirectory).leading (home ++ [stagingDirectory]) spelled where
  split := by
    rw [Path.pieces_join (Path.isRooted_of_plain writable.plain),
      Path.pieces_of_plain writable.plain]
  short := writable.short
  relative := by
    rw [Path.isRooted_join, Path.isRooted_join, staged.site.relative,
      Path.isRooted_of_plain writable.plain,
      Path.isRooted_of_plain isPlainName_stagingDirectory.plain]
    rfl
  named := name.isName writable.size
  entered := staged.enter

theorem below_ne_nil (home : Place) (name : String) : home ++ [name] ≠ [] := by
  simp

theorem Staged.put (staged : Staged disk directory home) :
    Staged (disk.put (home ++ [stagingDirectory] ++ [name]) (.file bytes)) directory home where
  site := staged.site.of_sameOutside (.inr rfl)
    (sameOutside_put (below_ne_nil _ _) (isWithin_append _ _) _)
  made := by
    rw [at?_put (below_ne_nil _ _), if_neg (by simp), staged.made]
  flat other := by
    rw [at?_put (below_ne_nil _ _)]
    split
    · exact nofun
    · exact staged.flat other

/-- Writing a unit puts its file into the staging directory, or changes nothing and fails. -/
theorem Staged.write (staged : Staged disk directory home) (named : IsUnitName name)
    (bytes : ByteArray) :
    (Disk.write (Path.join (Path.join directory stagingDirectory) name) bytes).run disk =
        (.ok (), disk.put (home ++ [stagingDirectory] ++ [name]) (.file bytes)) ∨
      ¬IsWritable directory name ∧ ∃ problem,
        (Disk.write (Path.join (Path.join directory stagingDirectory) name) bytes).run disk =
          (.error problem, disk) := by
  cases located : disk.locate (Path.join (Path.join directory stagingDirectory) name) with
  | error problem =>
    refine .inr ⟨fun writable => ?_, problem, write_of_error located⟩
    cases located.symm.trans (staged.entry named writable).locate
  | ok place =>
    have here := staged.locate named located
    subst here
    exact .inl (write_of_other located (staged.flat name))

theorem sameOutside_written (home : Place) (units : List GeneratedUnit) (disk : Disk) :
    SameOutside (home ++ [stagingDirectory]) disk
      (written (home ++ [stagingDirectory]) units disk) := by
  induction units generalizing disk with
  | nil => exact .refl _ _
  | cons unit rest ih =>
    exact (sameOutside_put (below_ne_nil _ _) (isWithin_append _ _) _).trans (ih _)

/-- Writing units goes on until one cannot be written. -/
theorem Staged.writeAll (staged : Staged disk directory home)
    (named : ∀ unit ∈ units, IsUnitName unit.name) :
    ∃ done rest result, units = done ++ rest ∧
      (writeAll (Path.join directory stagingDirectory) units).run disk =
        (result, written (home ++ [stagingDirectory]) done disk) ∧
      (result = .ok () ∧ rest = [] ∨
        (∃ cause, result = .error cause) ∧ ∃ unit ∈ units, ¬IsWritable directory unit.name) := by
  induction units generalizing disk with
  | nil => exact ⟨[], [], .ok (), rfl, rfl, .inl ⟨rfl, rfl⟩⟩
  | cons unit units ih =>
    rw [Generation.writeAll, run_bind, run_at]
    rcases staged.write (named unit List.mem_cons_self) unit.contents.toUTF8 with
      wrote | ⟨unwritable, problem, failed⟩
    · obtain ⟨done, rest, result, split, later, ended⟩ :=
        ih staged.put fun other member => named other (List.mem_cons_of_mem _ member)
      rw [wrote]
      refine ⟨unit :: done, rest, result, by simp [split], later, ?_⟩
      rcases ended with ended | ⟨cause, other, member, unwritable⟩
      · exact .inl ended
      · exact .inr ⟨cause, other, List.mem_cons_of_mem _ member, unwritable⟩
    · rw [failed]
      exact ⟨[], unit :: units, _, rfl, rfl,
        .inr ⟨⟨_, rfl⟩, unit, List.mem_cons_self, unwritable⟩⟩

/-- What the directory of the written units holds. -/
theorem at?_written (place : Place) (units : List GeneratedUnit) (disk : Disk) (rest : Place) :
    (written place units disk).at? (place ++ rest) =
      match rest with
      | [name] =>
        ((units.reverse.find? (·.name == name)).map fun unit =>
          .file unit.contents.toUTF8).or (disk.at? (place ++ [name]))
      | _ => disk.at? (place ++ rest) := by
  induction units generalizing disk with
  | nil =>
    simp only [written, List.foldl_nil, List.reverse_nil, List.find?_nil, Option.map_none,
      Option.none_or]
    split <;> rfl
  | cons unit units ih =>
    have first := ih (disk.put (place ++ [unit.name]) (.file unit.contents.toUTF8))
    rw [written, List.foldl_cons, ← written, first]
    simp only [List.reverse_cons, List.find?_append]
    split
    · rename_i name
      rw [at?_put (below_ne_nil _ _)]
      by_cases own : name = unit.name
      · subst own
        cases units.reverse.find? (·.name == unit.name) <;> simp
      · have other : (unit.name == name) = false := beq_eq_false_iff_ne.mpr (Ne.symm own)
        cases units.reverse.find? (·.name == name) <;> simp [own, other]
    · rename_i other
      rw [at?_put (below_ne_nil _ _), if_neg]
      rintro same
      exact other unit.name (List.append_cancel_left same)

/-- A new directory holds just the units that are written into it. -/
theorem written_of_new (new : ∀ rest,
    disk.at? (place ++ rest) = if rest = [] then some .directory else none) (rest : Place) :
    (written place units disk).at? (place ++ rest) = unitsAt units rest := by
  rw [at?_written]
  match rest with
  | [] => simpa [unitsAt] using new []
  | [name] => simp [unitsAt, new]
  | first :: second :: more => simp [unitsAt, new]

/-- What staging needs: a free place for its directory, and names that its files can have. -/
structure CanStage (disk : Disk) (directory : Path) (home : Place) (units : List GeneratedUnit) :
    Prop where
  short : (Path.join directory stagingDirectory).utf8ByteSize ≤ longestPath
  free : ∀ bytes, disk.at? (home ++ [stagingDirectory]) ≠ some (.file bytes)
  names : ∀ unit ∈ units, IsWritable directory unit.name

/-- A disk on which nothing but the staging directory has changed, which holds just the units. -/
structure StagedUnits (disk : Disk) (home : Place) (units : List GeneratedUnit) (after : Disk) :
    Prop where
  same : SameOutside (home ++ [stagingDirectory]) disk after
  holds : ∀ rest, after.at? (home ++ [stagingDirectory] ++ rest) = unitsAt units rest

/-- Staging ends exactly if it can, and it changes nothing outside of its directory. -/
theorem stage_cases (site : Home disk directory home) (sound : disk.IsSound)
    (named : ∀ unit ∈ units, IsUnitName unit.name)
    (ran : (stage (Path.join directory stagingDirectory) units).run disk = (result, after)) :
    (result = .ok () ∧ (Path.join directory stagingDirectory).utf8ByteSize ≤ longestPath ∧
        StagedUnits disk home units after) ∨
      ((∃ cause, result = .error cause) ∧ ¬CanStage disk directory home units ∧
        SameOutside (home ++ [stagingDirectory]) disk after) := by
  rw [stage_eq, run_bind, run_at] at ran
  by_cases short : (Path.join directory stagingDirectory).utf8ByteSize ≤ longestPath
  · have entry := site.entry isPlainName_stagingDirectory short
    rcases cleared : (Disk.clearDirectory (Path.join directory stagingDirectory)).run disk with
      ⟨ended, empty⟩
    rw [cleared] at ran
    rcases clearDirectory_cases entry.locate (below_ne_nil _ _) sound.below cleared with
      ⟨problem, rfl, rfl, bytes, file⟩ | ⟨rfl, same, nothing⟩
    · cases ran
      exact .inr ⟨⟨_, rfl⟩, fun can => can.free bytes file, .refl _ _⟩
    · have emptySite := site.of_sameOutside (.inr rfl) same
      have emptyEntry := emptySite.entry isPlainName_stagingDirectory short
      have absent := nothing []
      rw [List.append_nil] at absent
      have new (rest : Place) : (empty.put (home ++ [stagingDirectory]) .directory).at?
          (home ++ [stagingDirectory] ++ rest) = if rest = [] then some .directory else none := by
        rw [at?_put (below_ne_nil _ _), nothing]
        simp
      have made : SameOutside (home ++ [stagingDirectory]) empty
          (empty.put (home ++ [stagingDirectory]) .directory) :=
        sameOutside_put (below_ne_nil _ _) (isWithin_iff.mpr List.prefix_rfl) _
      have staged : Staged (empty.put (home ++ [stagingDirectory]) .directory) directory home :=
        ⟨emptySite.of_sameOutside (.inr rfl) made, by simpa using new [],
          fun name => by rw [new]; simp⟩
      obtain ⟨done, rest, ended, split, wrote, outcome⟩ := staged.writeAll named
      have outside := (same.trans made).trans (sameOutside_written home done _)
      simp only at ran
      rw [run_bind, run_at, makeDirectories_of_entry emptyEntry, absent] at ran
      simp only at ran
      rw [wrote] at ran
      cases ran
      rcases outcome with ⟨rfl, rfl⟩ | ⟨failed, unit, member, unwritable⟩
      · rw [List.append_nil] at split
        rw [split]
        exact .inl ⟨rfl, short, outside, written_of_new new⟩
      · exact .inr ⟨failed, fun can => unwritable (can.names unit member), outside⟩
  · -- A path that is too long fails before anything is changed.
    have lost : disk.locate (Path.join directory stagingDirectory) = .error .unusable := by
      rw [Disk.locate, if_pos (by omega)]
    rw [clearDirectory_of_error lost] at ran
    cases ran
    exact .inr ⟨⟨_, rfl⟩, fun can => short can.short, .refl _ _⟩

theorem apart_of_ne (home : Place) (other : name ≠ region) (rest : Place) :
    isWithin (home ++ [name] ++ rest) (home ++ [region]) = false := by
  rw [Bool.eq_false_iff, ne_eq, isWithin_iff, List.append_assoc, List.prefix_append_right_inj]
  rintro ⟨more, same⟩
  exact other (List.cons.inj same).1.symm

theorem apart_entry (home : Place) (other : name ≠ region) :
    isWithin (home ++ [name]) (home ++ [region]) = false := by
  rw [← List.append_nil (home ++ [name])]
  exact apart_of_ne home other []

theorem entry_ne (home : Place) (other : name ≠ region) : home ++ [name] ≠ home ++ [region] := by
  simpa using other

/-- A disk on which units have taken the place of the earlier ones. -/
structure Adopted (disk : Disk) (home : Place) (units : List GeneratedUnit) (after : Disk) :
    Prop where
  units : ∀ rest, after.at? (home ++ [unitDirectory] ++ rest) = unitsAt units rest
  gone : ∀ rest, after.at? (home ++ [stagingDirectory] ++ rest) = none
  same : ∀ place, isWithin place (home ++ [unitDirectory]) = false →
    isWithin place (home ++ [stagingDirectory]) = false → after.at? place = disk.at? place

theorem Adopted.kept (adopted : Adopted disk home units after) (noUnits : name ≠ unitDirectory)
    (noStaging : name ≠ stagingDirectory) :
    after.at? (home ++ [name]) = disk.at? (home ++ [name]) :=
  adopted.same _ (apart_entry home noUnits) (apart_entry home noStaging)

/-- Staged units take the place of the earlier ones. Only if a file is there nothing changes. -/
theorem adopted (site : Home disk directory home) (sound : disk.IsSound)
    (short : (Path.join directory stagingDirectory).utf8ByteSize ≤ longestPath)
    (outcome : StagedUnits disk home units staged)
    (ran : (adopt (Path.join directory stagingDirectory) (Path.join directory unitDirectory)).run
      staged = (result, after)) :
    (result = .ok () ∧ Adopted disk home units after) ∨
      ((∃ cause, result = .error cause) ∧ after = staged ∧
        ∃ bytes, disk.at? (home ++ [unitDirectory]) = some (.file bytes)) := by
  have stagedSite := site.of_sameOutside (.inr rfl) outcome.same
  have entry := stagedSite.entry isPlainName_unitDirectory short
  have earlier (rest : Place) : staged.at? (home ++ [unitDirectory] ++ rest) =
      disk.at? (home ++ [unitDirectory] ++ rest) :=
    outcome.same _ (apart_of_ne home (by decide) rest)
  have here := earlier []
  rw [List.append_nil] at here
  -- Staging has changed nothing at the target, so as before nothing lies below it if it is a file.
  have closed : staged.at? (home ++ [unitDirectory]) ≠ some .directory → ∀ rest, rest ≠ [] →
      staged.at? (home ++ [unitDirectory] ++ rest) = none := by
    intro other rest nonempty
    rw [earlier]
    exact sound.below (here ▸ other) rest nonempty
  rw [adopt, run_bind, run_at] at ran
  rcases cleared : (Disk.clearDirectory (Path.join directory unitDirectory)).run staged with
    ⟨ended, empty⟩
  rw [cleared] at ran
  rcases clearDirectory_cases entry.locate (below_ne_nil _ _) closed cleared with
    ⟨problem, rfl, rfl, file⟩ | ⟨rfl, same, nothing⟩
  · cases ran
    exact .inr ⟨⟨_, rfl⟩, rfl, here ▸ file⟩
  · have emptySite := stagedSite.of_sameOutside (.inl rfl) same
    have start := (emptySite.entry isPlainName_stagingDirectory short).locate
    have goal := (emptySite.entry isPlainName_unitDirectory short).locate
    have apart (rest : Place) : empty.at? (home ++ [stagingDirectory] ++ rest) =
        staged.at? (home ++ [stagingDirectory] ++ rest) :=
      same _ (apart_of_ne home (by decide) rest)
    have still := apart []
    have made := outcome.holds []
    have absent := nothing []
    rw [List.append_nil] at still made absent
    simp only at ran
    rw [run_at, rename_of_ok start goal, still, made, absent] at ran
    cases ran
    refine .inl ⟨rfl, fun rest => ?_, fun rest => ?_, fun place outside beside => ?_⟩
    · rw [at?_move (below_ne_nil _ _) (below_ne_nil _ _), if_pos (isWithin_append _ _),
        List.drop_left, apart rest, outcome.holds]
    · rw [at?_move (below_ne_nil _ _) (below_ne_nil _ _),
        if_neg (by rw [apart_of_ne home (by decide)]; exact nofun), if_pos (isWithin_append _ _)]
    · rw [at?_move (below_ne_nil _ _) (below_ne_nil _ _), if_neg (by simp [outside]),
        if_neg (by simp [beside]), same place outside, outcome.same place beside]

/-- Writes the index by way of its draft. -/
def storeIndex (directory : Path) (bytes : ByteArray) : Steps Unit := do
  Steps.at (Path.join directory (indexFile ++ ".tmp"))
    (Disk.write (Path.join directory (indexFile ++ ".tmp")) bytes)
  Steps.at (Path.join directory indexFile)
    (Disk.rename (Path.join directory (indexFile ++ ".tmp")) (Path.join directory indexFile))

theorem store_eq (output : Output) (directory : Path) :
    output.store directory = (do
      stage (Path.join directory stagingDirectory) output.units
      adopt (Path.join directory stagingDirectory) (Path.join directory unitDirectory)
      storeIndex directory (indexText (Path.join directory unitDirectory) output.units).toUTF8) :=
  rfl

/-- A directory that stands at the place of the index or its draft. -/
def IsBlocked (disk : Disk) (directory : Path) (home : Place) (cause : Failure) : Prop :=
  ∃ name ∈ [indexFile ++ ".tmp", indexFile],
    cause = .io (Path.join directory name) ∧ disk.at? (home ++ [name]) = some .directory

theorem not_isBlocked (draft : disk.at? (home ++ [indexFile ++ ".tmp"]) ≠ some .directory)
    (index : disk.at? (home ++ [indexFile]) ≠ some .directory) (cause : Failure) :
    ¬IsBlocked disk directory home cause := by
  rintro ⟨name, own, -, blocked⟩
  simp only [List.mem_cons, List.not_mem_nil, or_false] at own
  rcases own with rfl | rfl
  · exact draft blocked
  · exact index blocked

/-- Writing the index fails exactly if a directory stands at its place or at that of its draft. -/
theorem storeIndex_cases (site : Home disk directory home)
    (short : (Path.join directory stagingDirectory).utf8ByteSize ≤ longestPath)
    (ran : (storeIndex directory bytes).run disk = (result, after)) :
    (result = .ok () ∧ (∀ cause, ¬IsBlocked disk directory home cause) ∧
        after = (disk.put (home ++ [indexFile ++ ".tmp"]) (.file bytes)).move
          (home ++ [indexFile ++ ".tmp"]) (home ++ [indexFile])) ∨
      ∃ cause, result = .error cause ∧ IsBlocked disk directory home cause ∧
        ∀ place, place ≠ home ++ [indexFile ++ ".tmp"] → after.at? place = disk.at? place := by
  have draft := site.entry isPlainName_draft short
  rw [storeIndex, run_bind, run_at] at ran
  by_cases other : disk.at? (home ++ [indexFile ++ ".tmp"]) = some .directory
  · rw [write_of_ok draft.locate, other] at ran
    cases ran
    exact .inr ⟨_, rfl, ⟨_, List.mem_cons_self, rfl, other⟩, fun _ _ => rfl⟩
  · rw [write_of_other draft.locate other] at ran
    have drafted : Home (disk.put (home ++ [indexFile ++ ".tmp"]) (.file bytes)) directory home :=
      ⟨site.relative, enter_put site.entered (below_ne_nil _ _) other _, site.apart⟩
    have start := (drafted.entry isPlainName_draft short).locate
    have goal := (drafted.entry isPlainName_indexFile short).locate
    have file : (disk.put (home ++ [indexFile ++ ".tmp"]) (.file bytes)).at?
        (home ++ [indexFile ++ ".tmp"]) = some (.file bytes) := by
      rw [at?_put (below_ne_nil _ _), if_pos rfl]
    have earlier : (disk.put (home ++ [indexFile ++ ".tmp"]) (.file bytes)).at?
        (home ++ [indexFile]) = disk.at? (home ++ [indexFile]) := by
      rw [at?_put (below_ne_nil _ _), if_neg (entry_ne home (by decide))]
    simp only at ran
    rw [run_at] at ran
    by_cases there : disk.at? (home ++ [indexFile]) = some .directory
    · rw [rename_of_ok start goal, file, earlier, there] at ran
      cases ran
      refine .inr ⟨_, rfl, ⟨indexFile, by simp, rfl, there⟩, fun place elsewhere => ?_⟩
      rw [at?_put (below_ne_nil _ _), if_neg elsewhere]
    · rw [rename_of_file start goal file (earlier ▸ there)] at ran
      cases ran
      exact .inl ⟨rfl, not_isBlocked other there, rfl⟩

/-- What is left where storing fails after the units were adopted: a directory stands in the way of
the index or its draft, and the earlier index goes with the new units. -/
structure Mixed (disk : Disk) (directory : Path) (home : Place) (units : List GeneratedUnit)
    (cause : Failure) (after : Disk) : Prop where
  blocked : IsBlocked disk directory home cause
  units : ∀ rest, after.at? (home ++ [unitDirectory] ++ rest) = unitsAt units rest
  index : after.at? (home ++ [indexFile]) = disk.at? (home ++ [indexFile])

/-- What the adoption of units needs beside staging: that no file is at their directory's place. -/
structure CanAdopt (disk : Disk) (directory : Path) (home : Place) (units : List GeneratedUnit) :
    Prop extends CanStage disk directory home units where
  target : ∀ bytes, disk.at? (home ++ [unitDirectory]) ≠ some (.file bytes)

/-- A disk that an output is stored on. -/
structure StoredUnits (disk : Disk) (directory : Path) (home : Place) (output : Output)
    (after : Disk) : Prop where
  units : ∀ rest, after.at? (home ++ [unitDirectory] ++ rest) = unitsAt output.units rest
  index : after.at? (home ++ [indexFile]) =
    some (.file (indexText (Path.join directory unitDirectory) output.units).toUTF8)
  staging : ∀ rest, after.at? (home ++ [stagingDirectory] ++ rest) = none
  draft : after.at? (home ++ [indexFile ++ ".tmp"]) = none
  same : ∀ place, (∀ name ∈ [unitDirectory, stagingDirectory, indexFile, indexFile ++ ".tmp"],
    isWithin place (home ++ [name]) = false) → after.at? place = disk.at? place

theorem Adopted.stored {moved : Disk} (adopted : Adopted disk home output.units moved) :
    StoredUnits disk directory home output ((moved.put (home ++ [indexFile ++ ".tmp"])
      (.file (indexText (Path.join directory unitDirectory) output.units).toUTF8)).move
        (home ++ [indexFile ++ ".tmp"]) (home ++ [indexFile])) := by
  have elsewhere (place : Place) (index : isWithin place (home ++ [indexFile]) = false)
      (draft : isWithin place (home ++ [indexFile ++ ".tmp"]) = false) (bytes : ByteArray) :
      ((moved.put (home ++ [indexFile ++ ".tmp"]) (.file bytes)).move
        (home ++ [indexFile ++ ".tmp"]) (home ++ [indexFile])).at? place = moved.at? place := by
    rw [at?_move (below_ne_nil _ _) (below_ne_nil _ _), if_neg (by simp [index]),
      if_neg (by simp [draft]), sameOutside_put (below_ne_nil _ _)
        (isWithin_iff.mpr List.prefix_rfl) _ place draft]
  have aside {name : String} (rest : Place) (index : name ≠ indexFile)
      (draft : name ≠ indexFile ++ ".tmp") :=
    elsewhere (home ++ [name] ++ rest) (apart_of_ne home index rest) (apart_of_ne home draft rest)
  constructor
  case units =>
    intro rest
    rw [aside rest (by decide) (by decide), adopted.units]
  case index =>
    rw [at?_move (below_ne_nil _ _) (below_ne_nil _ _), if_pos (isWithin_iff.mpr List.prefix_rfl),
      List.drop_length, List.append_nil, at?_put (below_ne_nil _ _), if_pos rfl]
  case staging =>
    intro rest
    rw [aside rest (by decide) (by decide), adopted.gone]
  case draft =>
    have apart : isWithin (home ++ [indexFile ++ ".tmp"]) (home ++ [indexFile]) = false :=
      apart_entry home (by decide)
    rw [at?_move (below_ne_nil _ _) (below_ne_nil _ _), if_neg (by simp [apart]),
      if_pos (isWithin_iff.mpr List.prefix_rfl)]
  case same =>
    intro place apart
    rw [elsewhere place (apart _ (by simp)) (apart _ (by simp)),
      adopted.same place (apart _ (by simp)) (apart _ (by simp))]

theorem Adopted.isBlocked_iff (adopted : Adopted disk home units after) :
    IsBlocked after directory home cause ↔ IsBlocked disk directory home cause := by
  have kept (name : String) (own : name ∈ [indexFile ++ ".tmp", indexFile]) :
      after.at? (home ++ [name]) = disk.at? (home ++ [name]) := by
    simp only [List.mem_cons, List.not_mem_nil, or_false] at own
    rcases own with rfl | rfl
    · exact adopted.kept (by decide) (by decide)
    · exact adopted.kept (by decide) (by decide)
  constructor
  · rintro ⟨name, own, named, blocked⟩
    exact ⟨name, own, named, kept name own ▸ blocked⟩
  · rintro ⟨name, own, named, blocked⟩
    exact ⟨name, own, named, (kept name own).trans blocked⟩

/-- Storing an output ends unless something is in its way, which is found before the units take the
place of the earlier ones if it is not a directory at the place of the index or its draft. -/
theorem store_outcome (site : Home disk directory home) (sound : disk.IsSound)
    (named : ∀ unit ∈ output.units, IsUnitName unit.name)
    (ran : (output.store directory).run disk = (result, after)) :
    (result = .ok () ∧ (∀ cause, ¬IsBlocked disk directory home cause) ∧
        StoredUnits disk directory home output after) ∨
      ∃ cause, result = .error cause ∧
        (¬CanAdopt disk directory home output.units ∧
            SameOutside (home ++ [stagingDirectory]) disk after ∨
          Mixed disk directory home output.units cause after) := by
  rw [store_eq, run_bind] at ran
  rcases staging : (stage (Path.join directory stagingDirectory) output.units).run disk with
    ⟨ended, staged⟩
  rw [staging] at ran
  rcases stage_cases site sound named staging with ⟨rfl, short, outcome⟩ | ⟨⟨_, rfl⟩, cannot, same⟩
  · simp only at ran
    rw [run_bind] at ran
    rcases adopting : (adopt (Path.join directory stagingDirectory)
      (Path.join directory unitDirectory)).run staged with ⟨ended, moved⟩
    rw [adopting] at ran
    rcases adopted site sound short outcome adopting with
      ⟨rfl, adopted⟩ | ⟨⟨_, rfl⟩, rfl, bytes, file⟩
    · rcases storeIndex_cases (site.congr adopted.same) short ran with
        ⟨rfl, free, rfl⟩ | ⟨cause, rfl, blocked, same⟩
      · exact .inl ⟨rfl, fun cause blocked => free cause (adopted.isBlocked_iff.mpr blocked),
          adopted.stored⟩
      · refine .inr ⟨cause, rfl, .inr ⟨adopted.isBlocked_iff.mp blocked, fun rest => ?_, ?_⟩⟩
        · rw [same, adopted.units]
          intro draft
          have inside := isWithin_append (home ++ [unitDirectory]) rest
          rw [draft, ← List.append_nil (home ++ [_]), apart_of_ne home (by decide)] at inside
          cases inside
        · rw [same _ (entry_ne home (by decide)), adopted.kept (by decide) (by decide)]
    · cases ran
      exact .inr ⟨_, rfl, .inl ⟨fun can => can.target bytes file, outcome.same⟩⟩
  · cases ran
    exact .inr ⟨_, rfl, .inl ⟨fun can => cannot can.toCanStage, same⟩⟩

theorem store_cases (site : Home disk directory home) (sound : disk.IsSound)
    (plain : ∀ unit ∈ output.units, BeginsPlain unit.name)
    (ran : (output.store directory).run disk = (result, after)) :
    (result = .ok () ∧ (∀ cause, ¬IsBlocked disk directory home cause) ∧
        StoredUnits disk directory home output after) ∨
      ∃ cause, result = .error cause ∧
        (¬CanAdopt disk directory home output.units ∧
            SameOutside (home ++ [stagingDirectory]) disk after ∨
          Mixed disk directory home output.units cause after) :=
  store_outcome site sound (fun unit member => .begins (plain unit member)) ran

theorem store_ends (site : Home disk directory home) (sound : disk.IsSound)
    (plain : ∀ unit ∈ output.units, BeginsPlain unit.name)
    (can : CanAdopt disk directory home output.units)
    (free : ∀ cause, ¬IsBlocked disk directory home cause) :
    ∃ after, (output.store directory).run disk = (.ok (), after) ∧
      StoredUnits disk directory home output after := by
  rcases ran : (output.store directory).run disk with ⟨result, after⟩
  rcases store_cases site sound plain ran with
    ⟨rfl, -, stored⟩ | ⟨cause, rfl, ⟨cannot, -⟩ | mixed⟩
  · exact ⟨after, rfl, stored⟩
  · exact (cannot can).elim
  · exact (free cause mixed.blocked).elim

theorem store_blocked (site : Home disk directory home) (sound : disk.IsSound)
    (plain : ∀ unit ∈ output.units, BeginsPlain unit.name)
    (can : CanAdopt disk directory home output.units)
    (blocked : IsBlocked disk directory home cause) :
    ∃ cause after, (output.store directory).run disk = (.error cause, after) ∧
      Mixed disk directory home output.units cause after := by
  rcases ran : (output.store directory).run disk with ⟨result, after⟩
  rcases store_cases site sound plain ran with
    ⟨-, free, -⟩ | ⟨found, rfl, ⟨cannot, -⟩ | mixed⟩
  · exact (free cause blocked).elim
  · exact (cannot can).elim
  · exact ⟨found, after, rfl, mixed⟩

/-- A file at the place of the staging directory makes storing fail at once. -/
theorem store_obstructed (site : Home disk directory home)
    (short : (Path.join directory stagingDirectory).utf8ByteSize ≤ longestPath)
    (file : disk.at? (home ++ [stagingDirectory]) = some (.file bytes)) :
    (output.store directory).run disk =
      (.error (.io (Path.join directory stagingDirectory)), disk) := by
  have entry := site.entry isPlainName_stagingDirectory short
  rw [store_eq, run_bind, stage_eq, run_bind, run_at, clearDirectory_of_ok entry.locate, file]

/-- When storing an output fails, nothing outside of the staging directory has changed, unless a
directory stands at the place of the index or its draft. -/
theorem store_failure (emitted : emit config descriptors properties = .ok output)
    (sound : disk.IsSound) (site : Home disk directory home)
    (failed : (output.store directory).run disk = (.error cause, after)) :
    SameOutside (home ++ [stagingDirectory]) disk after ∨
      Mixed disk directory home output.units cause after := by
  rcases store_cases site sound (fun unit => beginsPlain_of_emit emitted) failed with
    ⟨ended, -⟩ | ⟨found, same, ⟨-, unchanged⟩ | mixed⟩
  · cases ended
  · exact .inl unchanged
  · cases same
    exact .inr mixed

/-- A unit of an earlier output. -/
def earlierUnit : GeneratedUnit := ⟨"A.operators.rs", .operators, header ++ "\n\n"⟩

/-- A disk with an earlier output of one unit, and a directory at the place of the draft. -/
def blockedDisk : Disk := ⟨[
  (["out"], .directory),
  (["out", "valuegen"], .directory),
  (["out", "valuegen", "A.operators.rs"], .file earlierUnit.contents.toUTF8),
  (["out", "valuegen.rs"], .file (indexText "out/valuegen" [earlierUnit]).toUTF8),
  (["out", "valuegen.rs.tmp"], .directory)]⟩

private theorem blocked_site : Home blockedDisk "out" ["out"] where
  relative := rfl
  entered := rfl
  apart := by decide

private theorem blocked_sound : blockedDisk.IsSound := by
  intro entry member
  simp only [blockedDisk, List.mem_cons, List.not_mem_nil, or_false] at member
  rcases member with rfl | rfl | rfl | rfl | rfl <;> rfl

private theorem blocked_store (plain : ∀ unit ∈ output.units, BeginsPlain unit.name)
    (writable : ∀ unit ∈ output.units, IsWritable "out" unit.name) :
    ∃ cause after, (output.store "out").run blockedDisk = (.error cause, after) ∧
      Mixed blockedDisk "out" ["out"] output.units cause after :=
  store_blocked blocked_site blocked_sound plain ⟨⟨by decide, nofun, writable⟩, nofun⟩
    ⟨_, List.mem_cons_self, rfl, rfl⟩

/-- A wrapper of small numbers. -/
def smallWrapper : Descriptor := ⟨"B", "u8", none, false, true⟩

private theorem smallWrapper_run :
    (groups [smallWrapper]).map Emit.Group.name = ["U8"] ∧
    (∀ group ∈ groups [smallWrapper], Emit.isWord (Emit.Extension.traitName group) = true) ∧
    ((wrapperUnits {} [smallWrapper] smallWrapper)[1]?.bind Except.toOption).isSome = true := by
  decide +kernel

/-- A pass over the wrapper comes to its end with units that can be written. -/
theorem emit_smallWrapper :
    ∃ output, emit {} [smallWrapper] [] = .ok output ∧ output.units ≠ [] ∧
      ∀ unit ∈ output.units, IsWritable "out" unit.name := by
  obtain ⟨names, words, reading⟩ := smallWrapper_run
  obtain ⟨output, emitted⟩ := emit_ends {} [] words
  refine ⟨output, emitted, ?_, fun unit present => ?_⟩
  · obtain ⟨extensions, _, all, parts, rfl⟩ := emit_parts emitted
    obtain ⟨unit, found⟩ := Option.isSome_iff_exists.mp reading
    obtain ⟨attempt, second, made⟩ := Option.bind_eq_some_iff.mp found
    have attempted : .ok unit ∈ wrapperUnits {} [smallWrapper] smallWrapper :=
      toOption_eq_some.mp made ▸ List.mem_of_getElem? second
    have present : unit ∈ unitsOf all := by
      rw [mem_unitsOf, parts]
      simp [attempted]
    exact List.ne_nil_of_mem present
  · rcases names_of_emit emitted present with
      ⟨descriptor, member, _, named⟩ | ⟨group, member, named⟩ | ⟨property, member, _⟩ | named
    · cases List.mem_singleton.mp member
      rw [named]
      cases unit.kind <;> exact ⟨by decide, by decide, by decide⟩
    · have only : group.name = "U8" := by
        have listed : group.name ∈ (groups [smallWrapper]).map Emit.Group.name :=
          List.mem_map_of_mem member
        rwa [names, List.mem_singleton] at listed
      rw [named, only]
      exact ⟨by decide, by decide, by decide⟩
    · cases member
    · rw [named]
      exact ⟨by decide, by decide, by decide⟩

theorem store_failure_blocked :
    ∃ output cause after, emit {} [smallWrapper] [] = .ok output ∧ output.units ≠ [] ∧
      (output.store "out").run blockedDisk = (.error cause, after) ∧
      (SameOutside (["out"] ++ [stagingDirectory]) blockedDisk after ∨
        Mixed blockedDisk "out" ["out"] output.units cause after) := by
  obtain ⟨output, emitted, filled, writable⟩ := emit_smallWrapper
  obtain ⟨cause, after, failed, _⟩ :=
    blocked_store (fun _ => beginsPlain_of_emit emitted) writable
  exact ⟨output, cause, after, emitted, filled, failed,
    store_failure emitted blocked_sound blocked_site failed⟩

/-- The earlier unit is gone, and the index still includes it. -/
theorem earlier_unit_lost :
    ∃ output cause after, emit ⟨false, false⟩ [] [] = .ok output ∧
      (output.store "out").run blockedDisk = (.error cause, after) ∧
      blockedDisk.at? ["out", "valuegen", earlierUnit.name] =
        some (.file earlierUnit.contents.toUTF8) ∧
      after.at? ["out", "valuegen", earlierUnit.name] = none ∧
      after.at? ["out", "valuegen.rs"] =
        some (.file (indexText "out/valuegen" [earlierUnit]).toUTF8) := by
  have none (unit : GeneratedUnit) : unit ∉ (⟨[], [], [], []⟩ : Output).units := List.not_mem_nil
  obtain ⟨cause, after, failed, mixed⟩ :=
    blocked_store (fun unit present => (none unit present).elim) fun unit present =>
      (none unit present).elim
  exact ⟨⟨[], [], [], []⟩, cause, after, rfl, failed, rfl, mixed.units [earlierUnit.name],
    mixed.index⟩

end ValueObjects.Generation
