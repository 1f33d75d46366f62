import CodeBehind.Proofs.FileSystem.Scratch

/-!
# Saving is all or nothing

Whatever goes wrong while a file is saved, the tree afterwards is the old one, and if nothing goes wrong it is
the old one with the new file in it.

Between the first step and the last the tree differs from the old one by the scratch file only, with whatever
it holds by then. So the whole argument is about trees of the form `files.set place (.file content mode)` with
a free `place`. Such a tree has the directories of the old one, so the scratch path still leads to its file and
taking it away restores the old tree (`discard_set_of_leadsTo`). And the target path leads where it led before,
because it does not mention the scratch file (`writesTo_set_scratch`). So the mode that is looked up and the
place that is moved to are those of the old tree.

`WritesTo` says of a tree what a write to a path would do. It is stated on what the path leads to, and
`movePlace_eq_ok_iff` ties the lookup that moving makes to it.

## Main definitions

* `WritesTo`: A path can be written, with the place and the mode of the written file.
* `fileMode?`: The mode of a file that is written at a place.

## Theorems

* `writesTo_iff`: Writing to a path needs a place it leads to and a mode there.
* `stat_of_writesTo`: A path that has been written leads to what was put there.
* `movePlace_eq_ok_iff`: A file can be moved to where a path can be written.
* `save_cases`: A save is all or nothing.
* `save_of_writesTo`: A save succeeds when there is a scratch file and the path can be written.
-/

namespace CodeBehind

namespace FileSystem

/-- A path leads to a file with a mode, or to nothing in a directory, where a new file would get the mode. -/
def WritesTo (files : FileSystem) (path : String) (place : Place) (mode : Nat) : Prop :=
  (∃ content, files.follow path = .ok (.entry place (.file content mode))) ∨
    (files.follow path = .ok (.free place) ∧ mode = files.createdMode openMode)

/-- The mode of a file that is written at a place; none can be written where a directory is. -/
def fileMode? (files : FileSystem) (place : Place) : Option Nat :=
  match files.get? place with
  | some (.file _ mode) => some mode
  | some .directory => none
  | none => some (files.createdMode openMode)

theorem fileMode?_eq_none_iff (files : FileSystem) (place : Place) :
    files.fileMode? place = none ↔ files.get? place = some .directory := by
  rw [fileMode?]
  cases hentry : files.get? place with
  | none => simp only [reduceCtorEq]
  | some entry =>
      cases entry with
      | directory => simp only
      | file content mode => simp only [reduceCtorEq, Option.some.injEq]

theorem writesTo_iff (files : FileSystem) (path : String) (place : Place) (mode : Nat) :
    files.WritesTo path place mode ↔ files.LeadsTo path place ∧ files.fileMode? place = some mode := by
  constructor
  · rintro (⟨content, hfollow⟩ | ⟨hfollow, rfl⟩)
    · rcases leadsTo_of_follow_file files path place content mode hfollow with ⟨hleads, hentry⟩
      exact ⟨hleads, by rw [fileMode?, hentry]⟩
    · rcases leadsTo_of_follow_free files path place hfollow with ⟨hleads, hfree⟩
      exact ⟨hleads, by rw [fileMode?, hfree]⟩
  · rintro ⟨hleads, hmode⟩
    have hfollow := follow_of_leadsTo files path place hleads
    rw [destination] at hfollow
    rw [fileMode?] at hmode
    -- What lies there decides whether a file is replaced or made.
    cases hentry : files.get? place with
    | none =>
        simp only [hentry, Option.some.injEq] at hmode hfollow
        exact Or.inr ⟨hfollow, hmode.symm⟩
    | some entry =>
        cases entry with
        | directory => simp only [hentry, reduceCtorEq] at hmode
        | file content found =>
            simp only [hentry, Option.some.injEq] at hmode hfollow
            exact Or.inl ⟨content, by rw [hfollow, hmode]⟩

/-- A path is written with one mode at one place. -/
theorem writesTo_unique (files : FileSystem) (path : String) (place other : Place) (mode mode' : Nat)
    (h : files.WritesTo path place mode) (h' : files.WritesTo path other mode') : place = other ∧ mode = mode' := by
  rcases (writesTo_iff files path place mode).mp h with ⟨hleads, hmode⟩
  rcases (writesTo_iff files path other mode').mp h' with ⟨hleads', hmode'⟩
  have hplace := leadsTo_unique files path place other hleads hleads'
  rw [← hplace, hmode, Option.some.injEq] at hmode'
  exact ⟨hplace, hmode'⟩

/-- A path that can be written ends with a name, so all its steps are names and dots between slashes. -/
theorem pathNames_of_leadsTo (files : FileSystem) (path : String) (place : Place) (h : files.LeadsTo path place) :
    ¬ path.toList.getLast? = some '/' ∧ pathSteps path = pathNames path := by
  rcases h with ⟨_, before, name, directory, hsteps, _, ⟨hdot, _⟩, _⟩
  have hend : ¬ path.toList.getLast? = some '/' := by
    intro hslash
    rw [pathSteps, if_pos hslash] at hsteps
    rcases List.append_inj' hsteps rfl with ⟨_, hname⟩
    exact hdot (List.singleton_inj.mp hname).symm
  exact ⟨hend, by rw [pathSteps, if_neg hend]⟩

/-- A file can be moved to where a path can be written. -/
theorem movePlace_eq_ok_iff (files : FileSystem) (path : String) (place : Place) :
    files.movePlace path = .ok place ↔ ∃ mode, files.WritesTo path place mode := by
  constructor
  · intro h
    rw [movePlace] at h
    cases hfault : pathFault? path with
    | some fault => simp only [hfault, reduceCtorEq] at h
    | none =>
        simp only [hfault, walk_append files _ (pathNames path).dropLast ["."] (List.cons_ne_nil _ _)] at h
        -- The directory has to be there, and then every check on the last name has to pass.
        cases henter : files.enter (files.base path) (pathNames path).dropLast with
        | error fault => simp only [henter, reduceCtorEq] at h
        | ok directory =>
            simp only [henter, walk_dot] at h
            cases hlast : (pathNames path).getLast? with
            | none => simp only [hlast, reduceCtorEq] at h
            | some name =>
                simp only [hlast, Bool.or_eq_true, decide_eq_true_eq] at h
                by_cases hdots : name = "." ∨ name = ".."
                · simp only [if_pos hdots, reduceCtorEq] at h
                by_cases hlong : nameLimit < name.utf8ByteSize
                · simp only [if_neg hdots, if_pos hlong, reduceCtorEq] at h
                by_cases hend : path.toList.getLast? = some '/'
                · simp only [if_neg hdots, if_neg hlong, if_pos hend, reduceCtorEq] at h
                simp only [if_neg hdots, if_neg hlong, if_neg hend] at h
                have hsteps : pathSteps path = (pathNames path).dropLast ++ [name] := by
                  rcases List.getLast?_eq_some_iff.mp hlast with ⟨init, hinit⟩
                  rw [pathSteps, if_neg hend, hinit, List.dropLast_concat]
                have hname : IsEntryName name :=
                  ⟨fun hdot => hdots (Or.inl hdot), fun hup => hdots (Or.inr hup), by omega⟩
                have hleads : files.LeadsTo path (directory ++ [name]) :=
                  ⟨hfault, _, name, directory, hsteps, henter, hname, rfl⟩
                have hfile : files.get? (directory ++ [name]) ≠ some .directory := by
                  intro hdir
                  simp only [hdir, reduceCtorEq] at h
                have hplace : directory ++ [name] = place := by
                  split at h
                  · simp only [reduceCtorEq] at h
                  · exact Except.ok.inj h
                rw [hplace] at hleads hfile
                rcases Option.ne_none_iff_exists'.mp (mt (fileMode?_eq_none_iff files place).mp hfile) with ⟨mode, hmode⟩
                exact ⟨mode, (writesTo_iff files path place mode).mpr ⟨hleads, hmode⟩⟩
  · rintro ⟨mode, h⟩
    rcases (writesTo_iff files path place mode).mp h with ⟨hleads, hmode⟩
    rcases pathNames_of_leadsTo files path place hleads with ⟨hend, hnames⟩
    rcases hleads with ⟨hsound, before, name, directory, hsteps, henter, ⟨hdot, hup, hshort⟩, rfl⟩
    -- None of the checks on the last name stops a name that an entry can have.
    rw [hnames] at hsteps
    have hfile : files.get? (directory ++ [name]) ≠ some .directory := by
      intro hdir
      rw [(fileMode?_eq_none_iff files _).mpr hdir] at hmode
      simp only [reduceCtorEq] at hmode
    have hdots : ¬ (name = "." ∨ name = "..") := not_or.mpr ⟨hdot, hup⟩
    simp only [movePlace, hsound, hsteps, List.dropLast_concat, List.getLast?_concat,
      walk_append files _ before ["."] (List.cons_ne_nil _ _), henter, walk_dot, Bool.or_eq_true, decide_eq_true_eq,
      if_neg hdots, if_neg (show ¬ nameLimit < name.utf8ByteSize by omega), if_neg hend]

theorem modeFor_of_writesTo (files : FileSystem) (path : String) (place : Place) (mode : Nat)
    (h : files.WritesTo path place mode) : files.modeFor path = .ok mode := by
  rcases h with ⟨content, hfollow⟩ | ⟨hfollow, rfl⟩
  · simp only [modeFor, stat, hfollow]
  · simp only [modeFor, stat, hfollow, if_true]

/-- A file at a free place with a name that the path does not mention has no say in where the path leads. -/
theorem writesTo_set_scratch (files : FileSystem) (path name : String) (place target : Place) (content : ByteArray)
    (mode mode' : Nat) (hfree : files.get? place = none) (hlast : place.getLast? = some name)
    (hfresh : name ∉ pathSteps path) :
    (files.set place (.file content mode)).WritesTo path target mode' ↔ files.WritesTo path target mode' := by
  have hp : place ≠ [] := fun h => by simp only [h, List.getLast?_nil, reduceCtorEq] at hlast
  have hsame : files.SameDirectories (files.set place (.file content mode)) :=
    sameDirectories_set_file files place content mode hp (by rw [hfree]; exact Option.some_ne_none _ |>.symm)
  rw [writesTo_iff, writesTo_iff]
  -- The target ends with the last step of the path, so it is another place.
  have hmodes : files.LeadsTo path target →
      (files.set place (.file content mode)).fileMode? target = files.fileMode? target := by
    intro hleads
    have hne : target ≠ place := by
      intro heq
      have hstep := getLast?_of_leadsTo files path target hleads
      rw [heq, hlast] at hstep
      exact hfresh (List.mem_of_getLast? hstep.symm)
    rw [fileMode?, fileMode?, get?_set_ne files place target _ hne]
    rfl
  constructor
  · rintro ⟨hleads, hmode⟩
    have hleads' := leadsTo_congr _ files (sameDirectories_symm _ _ hsame) path target hleads
    exact ⟨hleads', by rw [← hmodes hleads', hmode]⟩
  · rintro ⟨hleads, hmode⟩
    exact ⟨leadsTo_congr files _ hsame path target hleads, by rw [hmodes hleads, hmode]⟩

/-- A path leads to the file that was put where it led to nothing. -/
theorem stat_set_of_leadsTo (files : FileSystem) (path : String) (place : Place) (content : ByteArray) (mode : Nat)
    (hleads : files.LeadsTo path place) (hfile : files.get? place ≠ some .directory) :
    (files.set place (.file content mode)).stat path = .ok (place, .file content mode) := by
  have hp := leadsTo_ne_nil files path place hleads
  have hsame := sameDirectories_set_file files place content mode hp hfile
  have hfollow := follow_of_leadsTo _ path place (leadsTo_congr files _ hsame path place hleads)
  rw [destination, get?_set_self files place _ hp] at hfollow
  rw [stat, hfollow]

/-- A path that has been written leads to the file that was put there. -/
theorem stat_of_writesTo (files : FileSystem) (path : String) (place : Place) (content : ByteArray) (mode : Nat)
    (h : files.WritesTo path place mode) :
    place ≠ [] ∧ (files.set place (.file content mode)).stat path = .ok (place, .file content mode) := by
  rcases (writesTo_iff files path place mode).mp h with ⟨hleads, hmode⟩
  have hfile : files.get? place ≠ some .directory := by
    rw [Ne, ← fileMode?_eq_none_iff, hmode]
    exact Option.some_ne_none mode
  exact ⟨leadsTo_ne_nil files path place hleads, stat_set_of_leadsTo files path place content mode hleads hfile⟩

/-- Taking away a scratch file by its path restores the tree. -/
theorem discard_set_of_leadsTo (files : FileSystem) (path : String) (place : Place) (content : ByteArray)
    (mode : Nat) (hleads : files.LeadsTo path place) (hfree : files.get? place = none) :
    (files.set place (.file content mode)).discard path = files := by
  have hfile : files.get? place ≠ some .directory := by rw [hfree]; exact (Option.some_ne_none _).symm
  rw [discard, stat_set_of_leadsTo files path place content mode hleads hfile]
  exact erase_set_of_free files place _ hfree

/-- A step that went well on a device would have gone well without it. -/
theorem perform_eq_ok {α : Type} (device : Device) (step : SaveStep) (path : String) (result : Except FileError α)
    (value : α) (h : device.perform step path result = .ok value) : result = .ok value := by
  by_cases hbusy : device.busyAt step = true
  · simp only [Device.perform, if_pos hbusy, reduceCtorEq] at h
  · simpa only [Device.perform, if_neg hbusy] using h

/-- A device that is never busy lets every step be. -/
theorem perform_ready {α : Type} (step : SaveStep) (path : String) (result : Except FileError α) :
    Device.perform {} step path result = result := rfl

/-- Once there is a scratch file, either the target is written as the old tree has it written, or the old tree
    is there with some scratch file in it. -/
theorem complete_cases (files : FileSystem) (device : Device) (scratch name path text : String) (place : Place)
    (hfree : files.get? place = none) (hlast : place.getLast? = some name) (hfresh : name ∉ pathSteps path) :
    (∃ target mode, files.WritesTo path target mode ∧
      (files.set place (.file .empty scratchMode)).complete device scratch place path text =
        (files.set target (.file text.toUTF8 mode), .ok (target, .file text.toUTF8 mode))) ∨
    ∃ content mode error,
      (files.set place (.file .empty scratchMode)).complete device scratch place path text =
        (files.set place (.file content mode), .error error) := by
  rw [complete]
  simp only [set_set]
  -- Until the last step the tree is the old one with the scratch file in it, so each step may fail.
  cases hfill : device.perform .fill scratch (.ok (files.set place (.file text.toUTF8 scratchMode))) with
  | error error => exact Or.inr ⟨_, _, error, rfl⟩
  | ok filled =>
      have hfilled := Except.ok.inj (perform_eq_ok device _ _ _ _ hfill)
      rw [← hfilled]
      simp only [set_set]
      cases hinspect : device.perform .inspect path
          ((files.set place (.file text.toUTF8 scratchMode)).modeFor path) with
      | error error => exact Or.inr ⟨_, _, error, rfl⟩
      | ok mode =>
          have hmode := perform_eq_ok device _ _ _ _ hinspect
          simp only
          cases hsetMode : device.perform .setMode scratch (.ok (files.set place (.file text.toUTF8 mode))) with
          | error error => exact Or.inr ⟨_, _, error, rfl⟩
          | ok moded =>
              have hmoded := Except.ok.inj (perform_eq_ok device _ _ _ _ hsetMode)
              rw [← hmoded]
              simp only
              cases hmove : device.perform .move scratch ((files.set place (.file text.toUTF8 mode)).replace scratch
                  place (.file text.toUTF8 mode) path) with
              | error error => exact Or.inr ⟨_, _, error, rfl⟩
              | ok moved =>
                  rcases moved with ⟨target, saved⟩
                  have hreplace := perform_eq_ok device _ _ _ _ hmove
                  rw [replace] at hreplace
                  cases hplace : (files.set place (.file text.toUTF8 mode)).movePlace path with
                  | error fault => simp only [hplace, reduceCtorEq] at hreplace
                  | ok found =>
                      -- Moving takes the scratch file away before it puts the file in place.
                      simp only [hplace, erase_set_of_free files place _ hfree, Except.ok.injEq, Prod.mk.injEq]
                        at hreplace
                      rcases hreplace with ⟨rfl, rfl⟩
                      rcases (movePlace_eq_ok_iff _ path found).mp hplace with ⟨mode', hwrites⟩
                      rw [writesTo_set_scratch files path name place found _ _ _ hfree hlast hfresh] at hwrites
                      -- The mode was looked up in another tree, but the scratch file made no difference there.
                      have hfilledWrites := (writesTo_set_scratch files path name place found text.toUTF8 scratchMode
                        mode' hfree hlast hfresh).mpr hwrites
                      rw [modeFor_of_writesTo _ path found mode' hfilledWrites, Except.ok.injEq] at hmode
                      rw [hmode] at hwrites
                      exact Or.inl ⟨found, mode, hwrites, rfl⟩

/-- A save is all or nothing, on every device: the path is written as the tree has it written, or nothing has
    happened to the tree. -/
theorem save_cases (files : FileSystem) (path text : String) (device : Device) :
    (∃ place mode, files.WritesTo path place mode ∧
      files.save path text device =
        (files.set place (.file text.toUTF8 mode), .ok (place, .file text.toUTF8 mode))) ∨
    ∃ error, files.save path text device = (files, .error error) := by
  rw [save]
  cases hcreate : device.perform .create path (files.createScratch path) with
  | error error => exact Or.inr ⟨error, rfl⟩
  | ok made =>
      rcases made with ⟨scratch, place, created⟩
      have hscratch := perform_eq_ok device _ _ _ _ hcreate
      rcases createScratch_eq_ok files created path scratch place hscratch with ⟨hleads, hfree, rfl, n, hlast, hfresh⟩
      rcases complete_cases files device scratch (scratchName n) path text place hfree hlast hfresh with
        ⟨target, mode, hwrites, hdone⟩ | ⟨content, mode, error, hfailed⟩
      · exact Or.inl ⟨target, mode, hwrites, by simp only [hdone]⟩
      · refine Or.inr ⟨error, ?_⟩
        simp only [hfailed, discard_set_of_leadsTo files scratch place content mode hleads hfree]

/-- With a scratch file at hand, a path that can be written is written. -/
theorem save_of_writesTo (files created : FileSystem) (scratch path text : String) (place target : Place)
    (mode : Nat) (hcreate : files.createScratch path = .ok (scratch, place, created))
    (hwrites : files.WritesTo path target mode) :
    files.save path text = (files.set target (.file text.toUTF8 mode), .ok (target, .file text.toUTF8 mode)) := by
  rcases createScratch_eq_ok files created path scratch place hcreate with ⟨_, hfree, rfl, n, hlast, hfresh⟩
  -- The target is looked up twice, for its mode and for its place, with the scratch file there.
  have hfilled := (writesTo_set_scratch files path _ place target text.toUTF8 scratchMode mode hfree hlast
    hfresh).mpr hwrites
  have hmoded := (writesTo_set_scratch files path _ place target text.toUTF8 mode mode hfree hlast hfresh).mpr hwrites
  have hmove := (movePlace_eq_ok_iff _ path target).mpr ⟨mode, hmoded⟩
  simp only [save, perform_ready, hcreate, complete, set_set, modeFor_of_writesTo _ path target mode hfilled, replace,
    hmove, erase_set_of_free files place _ hfree]

end FileSystem

end CodeBehind
