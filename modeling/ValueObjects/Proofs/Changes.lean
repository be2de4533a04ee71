import ValueObjects.Proofs.Places

namespace ValueObjects.Disk

theorem isWithin_iff : isWithin place above = true ↔ above <+: place :=
  List.isPrefixOf_iff_prefix

theorem isWithin_append (above rest : Place) : isWithin (above ++ rest) above = true :=
  isWithin_iff.mpr (List.prefix_append above rest)

theorem drop_of_isWithin (inside : isWithin place above = true) :
    above ++ place.drop above.length = place :=
  List.prefix_iff_eq_append.mp (isWithin_iff.mp inside)

section Nodes

variable {disk : Disk} {place : Place}

private theorem lookup_filter (keep : Place → Bool) (nodes : List (Place × Node)) (place : Place) :
    (nodes.filter (keep ·.1)).lookup place = if keep place then nodes.lookup place else none := by
  induction nodes with
  | nil => simp
  | cons entry rest ih =>
    obtain ⟨key, node⟩ := entry
    rw [List.filter_cons, List.lookup_cons]
    by_cases same : place = key
    · subst same
      cases kept : keep place with
      | true => simp
      | false => simp [kept, ih]
    · rw [beq_eq_false_iff_ne.mpr same]
      cases kept : keep key with
      | true => simp [List.lookup_cons, beq_eq_false_iff_ne.mpr same, ih]
      | false => simp [ih]

private theorem lookup_append (first second : List (Place × Node)) (place : Place) :
    (first ++ second).lookup place = (first.lookup place).or (second.lookup place) := by
  induction first with
  | nil => simp
  | cons entry rest ih =>
    rw [List.cons_append, List.lookup_cons, List.lookup_cons]
    split
    · rfl
    · exact ih

/-- What stands at a place among the nodes below a source, each moved below a target. -/
private theorem lookup_moved (source target : Place) (nodes : List (Place × Node)) (place : Place) :
    ((nodes.filter fun entry => isWithin entry.1 source).map fun entry =>
      (target ++ entry.1.drop source.length, entry.2)).lookup place =
      if isWithin place target then nodes.lookup (source ++ place.drop target.length)
      else none := by
  induction nodes with
  | nil => simp
  | cons entry rest ih =>
    obtain ⟨key, node⟩ := entry
    cases inside : isWithin key source with
    | false =>
      have other : (source ++ place.drop target.length == key) = false := by
        rw [beq_eq_false_iff_ne]
        rintro rfl
        rw [isWithin_append] at inside
        cases inside
      simp [inside, ih, List.lookup_cons, other]
    | true =>
      rw [List.filter_cons_of_pos (by simpa using inside), List.map_cons, List.lookup_cons,
        List.lookup_cons, ih]
      by_cases same : place = target ++ key.drop source.length
      · subst same
        simp [isWithin_append, drop_of_isWithin inside]
      · have moved : (place == target ++ key.drop source.length) = false :=
          beq_eq_false_iff_ne.mpr same
        simp only [moved]
        cases reached : isWithin place target with
        | false => simp
        | true =>
          have other : (source ++ place.drop target.length == key) = false := by
            rw [beq_eq_false_iff_ne]
            rintro rfl
            apply same
            rw [List.drop_left, drop_of_isWithin reached]
          simp [other]

@[simp] theorem at?_nil (disk : Disk) : disk.at? [] = some .directory :=
  rfl

theorem at?_of_ne (below : place ≠ []) : disk.at? place = disk.nodes.lookup place := by
  simp [at?, below]

theorem at?_put (below : target ≠ []) (node : Node) :
    (disk.put target node).at? place = if place = target then some node else disk.at? place := by
  by_cases root : place = []
  · subst root
    simp [below.symm]
  · rw [at?_of_ne root, at?_of_ne root, put, List.lookup_cons]
    by_cases same : place = target
    · simp [same]
    · simp [beq_eq_false_iff_ne.mpr same, lookup_filter (· != target), same]

theorem isWithin_nil (below : above ≠ []) : isWithin [] above = false := by
  rw [Bool.eq_false_iff, ne_eq, isWithin_iff, List.prefix_nil]
  exact below

theorem at?_erase (below : target ≠ []) :
    (disk.erase target).at? place = if isWithin place target then none else disk.at? place := by
  by_cases root : place = []
  · subst root
    simp [isWithin_nil below]
  · rw [at?_of_ne root, at?_of_ne root, erase, lookup_filter (!isWithin · target)]
    cases isWithin place target <;> simp

theorem at?_move (start : source ≠ []) (goal : target ≠ []) :
    (disk.move source target).at? place =
      if isWithin place target then disk.at? (source ++ place.drop target.length)
      else if isWithin place source then none
      else disk.at? place := by
  by_cases root : place = []
  · subst root
    simp [isWithin_nil start, isWithin_nil goal]
  · have below : source ++ place.drop target.length ≠ [] := by simp [start]
    rw [at?_of_ne root, at?_of_ne root, at?_of_ne below, move, lookup_append, lookup_moved]
    simp only [erase]
    rw [lookup_filter (!isWithin · target), lookup_filter (!isWithin · source)]
    cases isWithin place target <;> cases isWithin place source <;> simp

/-- Whether a disk is as another outside of a place. -/
def SameOutside (region : Place) (before after : Disk) : Prop :=
  ∀ place, isWithin place region = false → after.at? place = before.at? place

theorem SameOutside.refl (region : Place) (disk : Disk) : SameOutside region disk disk :=
  fun _ _ => rfl

theorem SameOutside.trans (first : SameOutside region before between)
    (second : SameOutside region between after) : SameOutside region before after :=
  fun place outside => (second place outside).trans (first place outside)

theorem sameOutside_put (below : target ≠ []) (inside : isWithin target region = true)
    (node : Node) : SameOutside region disk (disk.put target node) := by
  intro place outside
  have other : place ≠ target := by
    rintro rfl
    cases inside.symm.trans outside
  rw [at?_put below, if_neg other]

/-- Pieces still lead through the same directories when another place is written. -/
theorem enter_put (entered : disk.enter start steps = .ok final) (below : target ≠ [])
    (other : disk.at? target ≠ some .directory) (node : Node) :
    (disk.put target node).enter start steps = .ok final := by
  rw [enter_congr, entered]
  intro next onWay
  rw [at?_put below, if_neg]
  rintro rfl
  exact other (at?_of_passed entered onWay)

theorem sameOutside_erase (below : target ≠ []) : SameOutside target disk (disk.erase target) := by
  intro place outside
  rw [at?_erase below, if_neg (by simp [outside])]

end Nodes

section Actions

/-- A step after another runs on what the first leaves. -/
theorem run_bind (first : ExceptT ε (StateM σ) α) (next : α → ExceptT ε (StateM σ) β) (state : σ) :
    (first >>= next).run state =
      match first.run state with
      | (.ok value, after) => (next value).run after
      | (.error cause, after) => (.error cause, after) := by
  change ExceptT.bindCont next (first.run state).1 (first.run state).2 = _
  rcases first.run state with ⟨result, after⟩
  cases result with
  | ok value => rfl
  | error cause => rfl

variable {disk : Disk} {path : Path}

theorem run_get_bind (next : Disk → Action α) (disk : Disk) :
    (get >>= next).run disk = (next disk).run disk :=
  rfl

theorem run_placeOf (path : Path) (disk : Disk) :
    (placeOf path).run disk = (disk.locate path, disk) := by
  rw [placeOf, run_get_bind]
  cases disk.locate path with
  | ok place => rfl
  | error problem => rfl

theorem placeOf_of_error (lost : disk.locate path = .error problem) (next : Place → Action α) :
    (placeOf path >>= next).run disk = (.error problem, disk) := by
  rw [run_bind, run_placeOf, lost]

theorem placeOf_of_ok (found : disk.locate path = .ok place) (next : Place → Action α) :
    (placeOf path >>= next).run disk = (next place).run disk := by
  rw [run_bind, run_placeOf, found]

theorem write_of_error (lost : disk.locate path = .error problem) :
    (write path bytes).run disk = (.error problem, disk) :=
  placeOf_of_error lost _

/-- A file is written unless a directory is there. -/
theorem write_of_ok (found : disk.locate path = .ok place) :
    (write path bytes).run disk =
      match disk.at? place with
      | some .directory => (.error .unusable, disk)
      | _ => (.ok (), disk.put place (.file bytes)) := by
  rw [write, placeOf_of_ok found, run_get_bind]
  match disk.at? place with
  | some .directory => rfl
  | some (.file _) => rfl
  | none => rfl

theorem write_of_other (found : disk.locate path = .ok place)
    (other : disk.at? place ≠ some .directory) :
    (write path bytes).run disk = (.ok (), disk.put place (.file bytes)) := by
  rw [write_of_ok found]
  match here : disk.at? place with
  | some .directory => exact (other here).elim
  | some (.file _) => rfl
  | none => rfl

theorem removeDirectory_of_ok (found : disk.locate path = .ok place) :
    (removeDirectory path).run disk =
      match disk.at? place with
      | some .directory => (.ok (), disk.erase place)
      | some (.file _) => (.error .unusable, disk)
      | none => (.error .absent, disk) := by
  rw [removeDirectory, placeOf_of_ok found, run_get_bind]
  match disk.at? place with
  | some .directory => rfl
  | some (.file _) => rfl
  | none => rfl

theorem run_clearDirectory (path : Path) (disk : Disk) :
    (clearDirectory path).run disk =
      match (removeDirectory path).run disk with
      | (.error .absent, after) => (.ok (), after)
      | ended => ended := by
  rcases ran : removeDirectory path disk with ⟨result, after⟩
  simp only [clearDirectory, tryCatch, tryCatchThe, MonadExceptOf.tryCatch, ExceptT.tryCatch,
    ExceptT.run, ExceptT.mk, bind, ExceptT.bind, StateT.bind]
  rw [ran]
  match result with
  | .ok _ => rfl
  | .error .absent => rfl
  | .error .unusable => rfl

theorem clearDirectory_of_error (lost : disk.locate path = .error problem) :
    (clearDirectory path).run disk =
      (if problem = .absent then .ok () else .error .unusable, disk) := by
  have removed : (removeDirectory path).run disk = (.error problem, disk) := placeOf_of_error lost _
  rw [run_clearDirectory, removed]
  cases problem with
  | absent => rfl
  | unusable => rfl

/-- A directory is taken away with everything in it; only a file is in the way. -/
theorem clearDirectory_of_ok (found : disk.locate path = .ok place) :
    (clearDirectory path).run disk =
      match disk.at? place with
      | some .directory => (.ok (), disk.erase place)
      | some (.file _) => (.error .unusable, disk)
      | none => (.ok (), disk) := by
  rw [run_clearDirectory, removeDirectory_of_ok found]
  match disk.at? place with
  | some .directory => rfl
  | some (.file _) => rfl
  | none => rfl

/-- Clearing fails on a file and changes nothing, or it leaves nothing at the place and all else
as it is. -/
theorem clearDirectory_cases (found : disk.locate path = .ok place) (below : place ≠ [])
    (closed : disk.at? place ≠ some .directory → ∀ rest, rest ≠ [] →
      disk.at? (place ++ rest) = none)
    (ran : (clearDirectory path).run disk = (result, after)) :
    (∃ problem, result = .error problem ∧ after = disk ∧
        ∃ bytes, disk.at? place = some (.file bytes)) ∨
      result = .ok () ∧ SameOutside place disk after ∧
        ∀ rest, after.at? (place ++ rest) = none := by
  rw [clearDirectory_of_ok found] at ran
  match here : disk.at? place with
  | some .directory =>
    rw [here] at ran
    cases ran
    refine .inr ⟨rfl, sameOutside_erase below, fun rest => ?_⟩
    rw [at?_erase below, if_pos (isWithin_append place rest)]
  | some (.file bytes) =>
    rw [here] at ran
    cases ran
    exact .inl ⟨_, rfl, rfl, bytes, rfl⟩
  | none =>
    rw [here] at ran
    cases ran
    refine .inr ⟨rfl, .refl _ _, fun rest => ?_⟩
    by_cases empty : rest = []
    · rw [empty, List.append_nil, here]
    · exact closed (by simp [here]) rest empty

theorem rename_of_ok (start : disk.locate source = .ok first)
    (goal : disk.locate target = .ok last) :
    (rename source target).run disk =
      match disk.at? first, disk.at? last with
      | none, _ => (.error .absent, disk)
      | some (.file _), some (.file _) => (.ok (), disk.move first last)
      | some _, some _ => (.error .unusable, disk)
      | some _, none => (.ok (), disk.move first last) := by
  rw [rename, placeOf_of_ok start, placeOf_of_ok goal, run_get_bind, run_get_bind]
  match disk.at? first, disk.at? last with
  | none, _ => rfl
  | some (.file _), some (.file _) => rfl
  | some (.file _), some .directory => rfl
  | some .directory, some _ => rfl
  | some (.file _), none => rfl
  | some .directory, none => rfl

/-- A file takes any place that is not a directory's. -/
theorem rename_of_file (start : disk.locate source = .ok first) (goal : disk.locate target = .ok last)
    (file : disk.at? first = some (.file bytes)) (other : disk.at? last ≠ some .directory) :
    (rename source target).run disk = (.ok (), disk.move first last) := by
  rw [rename_of_ok start goal, file]
  match here : disk.at? last with
  | some .directory => exact (other here).elim
  | some (.file _) => rfl
  | none => rfl

theorem makeSteps_cons_of_directory (moved : step place piece = .ok next)
    (here : disk.at? next = some .directory) :
    (makeSteps place (piece :: rest)).run disk = (makeSteps next rest).run disk := by
  simp only [makeSteps, moved]
  rw [run_get_bind, here]

/-- Directories that are there already are left as they are. -/
theorem makeSteps_of_enter (entered : disk.enter place before = .ok home) (rest : List String) :
    (makeSteps place (before ++ rest)).run disk = (makeSteps home rest).run disk := by
  induction before generalizing place with
  | nil =>
    cases entered
    rfl
  | cons piece before ih =>
    obtain ⟨next, moved, here, later⟩ := enter_cons_eq_ok.mp entered
    rw [List.cons_append, makeSteps_cons_of_directory moved here, ih later]

theorem makeDirectories_of_entry (entry : disk.IsEntry path before home name) :
    (makeDirectories path).run disk =
      match disk.at? (home ++ [name]) with
      | some .directory => (.ok (), disk)
      | some (.file _) => (.error .unusable, disk)
      | none => (.ok (), disk.put (home ++ [name]) .directory) := by
  have short : (decide (longestPath < path.utf8ByteSize) || path.isRooted) = false := by
    simp [entry.relative, entry.short]
  rw [makeDirectories, short, if_neg (by simp), entry.split, makeSteps_of_enter entry.entered]
  simp only [makeSteps, step_of_name entry.named]
  rw [run_get_bind]
  cases disk.at? (home ++ [name]) with
  | none => rfl
  | some node =>
    cases node with
    | file => rfl
    | directory => rfl

end Actions

end ValueObjects.Disk
