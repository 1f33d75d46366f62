import CodeBehind.Proofs.FileSystem.Entries

/-!
# Following paths

Where a path leads, taken apart into a directory and a last name.

`FileSystem.walk` decides at every step whether it is the last one, which makes it awkward to reason about: a
file in the way is an answer at the end and a fault before. `enter` is the part of a walk that is always the
same, a row of steps each of which has to lead to a directory, and `pass` is one such step. What a step does to
a walk is said once (`step_cases`), and what a walk comes to follows by induction (`walk_cases`). Every walk that
ends at a file or at a free place is an `enter` and one name more, and that is `LeadsTo`. So what a path leads to
depends on the directories of the tree alone, and the last name of the place is the last step of the path.

Both follow from there. Files may come and go without any effect on where paths lead (`leadsTo_congr`), and
a place can only be reached by a path that mentions its name (`getLast?_of_leadsTo`).

## Main definitions

* `pass`, `enter`: The directory that a step leads to, and that a row of steps leads to.
* `destination`: What a path leads to that ends at a place.
* `LeadsTo`: A path ends with a name in a directory that is there.
* `SameDirectories`: Two trees that have their directories in common.

## Theorems

* `step_cases`, `walk_cases`: What a step does to a walk, and what a walk comes to.
* `walk_append`: A walk enters a directory and goes on from there.
* `walk_eq_ok`, `walk_eq_directory_iff`, `fault_of_walk`: The ends of a walk.
* `enter_keeps`: What every step keeps is kept by all of them.
* `follow_of_leadsTo`, `leadsTo_of_follow`: Following a path in terms of `LeadsTo`.
* `leadsTo_of_follow_free`, `leadsTo_of_follow_file`: The ends of a path at which a file can be.
* `stat_eq_ok_iff`, `walk_of_stat`: A path that leads to an entry.
* `pass_congr`, `enter_congr`, `leadsTo_congr`: Only directories matter on the way.
* `leadsTo_unique`: A path leads to one place.
* `getLast?_of_leadsTo`: The name of the place is the last step of the path.
-/

namespace CodeBehind

namespace FileSystem

/-- The directory that a step leads to, if it leads to one. -/
def pass (files : FileSystem) (place : Place) (name : String) : Except FileFault Place :=
  if name = "." then .ok place
  else if name = ".." then .ok place.dropLast
  else if nameLimit < name.utf8ByteSize then .error .nameTooLong
  else
    match files.get? (place ++ [name]) with
    | some .directory => .ok (place ++ [name])
    | some (.file ..) => .error .notDirectory
    | none => .error .missing

/-- The directory that steps lead to, if every one of them leads to a directory. -/
def enter (files : FileSystem) (place : Place) : List String → Except FileFault Place
  | [] => .ok place
  | name :: rest =>
    if name = "." then files.enter place rest
    else if name = ".." then files.enter place.dropLast rest
    else if nameLimit < name.utf8ByteSize then .error .nameTooLong
    else
      match files.get? (place ++ [name]) with
      | some .directory => files.enter (place ++ [name]) rest
      | some (.file ..) => .error .notDirectory
      | none => .error .missing

/-- A step that names an entry of a directory. -/
def IsEntryName (name : String) : Prop :=
  name ≠ "." ∧ name ≠ ".." ∧ name.utf8ByteSize ≤ nameLimit

/-- What a path leads to that ends at a place. -/
def destination (files : FileSystem) (place : Place) : Destination :=
  match files.get? place with
  | some entry => .entry place entry
  | none => .free place

/-! ## One step -/

theorem enter_cons (files : FileSystem) (place : Place) (name : String) (rest : List String) :
    files.enter place (name :: rest) = (files.pass place name).bind (files.enter · rest) := by
  rw [enter, pass]
  split
  · rfl
  split
  · rfl
  split
  · rfl
  split <;> rfl

/-- A step leads back to the directory, to the one above it or to one in it. -/
theorem pass_eq_ok (files : FileSystem) (place next : Place) (name : String) (h : files.pass place name = .ok next) :
    next = place ∨ next = place.dropLast ∨ next = place ++ [name] ∧ files.get? next = some .directory := by
  rw [pass] at h
  split at h
  · exact Or.inl (Except.ok.inj h).symm
  split at h
  · exact Or.inr (Or.inl (Except.ok.inj h).symm)
  split at h
  · simp only [reduceCtorEq] at h
  split at h
  · next hentry =>
      rw [← Except.ok.inj h]
      exact Or.inr (Or.inr ⟨rfl, hentry⟩)
  · simp only [reduceCtorEq] at h
  · simp only [reduceCtorEq] at h

theorem pass_of_directory (files : FileSystem) (place : Place) (name : String) (h : IsEntryName name)
    (hentry : files.get? (place ++ [name]) = some .directory) : files.pass place name = .ok (place ++ [name]) := by
  rcases h with ⟨hdot, hup, hshort⟩
  rw [pass, if_neg hdot, if_neg hup, if_neg (by omega), hentry]

/-- What a step does to a walk: it leads on, its name is too long, or it is the name of no directory, where a walk may
    end but not go on. -/
theorem step_cases (files : FileSystem) (place : Place) (name : String) :
    (∃ next, files.pass place name = .ok next ∧ ∀ rest, files.walk place (name :: rest) = files.walk next rest) ∨
      (files.pass place name = .error .nameTooLong ∧
        ∀ rest, files.walk place (name :: rest) = .error .nameTooLong) ∨
      ∃ fault, files.pass place name = .error fault ∧ (fault = .missing ∨ fault = .notDirectory) ∧ IsEntryName name ∧
        files.get? (place ++ [name]) ≠ some .directory ∧
        ∀ rest, files.walk place (name :: rest) =
          if rest.isEmpty then .ok (files.destination (place ++ [name])) else .error fault := by
  by_cases hdot : name = "."
  · exact Or.inl ⟨place, by rw [pass, if_pos hdot], fun rest => by rw [walk, if_pos hdot]⟩
  by_cases hup : name = ".."
  · exact Or.inl ⟨place.dropLast, by rw [pass, if_neg hdot, if_pos hup], fun rest => by
      rw [walk, if_neg hdot, if_pos hup]⟩
  by_cases hlong : nameLimit < name.utf8ByteSize
  · exact Or.inr (Or.inl ⟨by rw [pass, if_neg hdot, if_neg hup, if_pos hlong], fun rest => by
      rw [walk, if_neg hdot, if_neg hup, if_pos hlong]⟩)
  have hname : IsEntryName name := ⟨hdot, hup, by omega⟩
  -- What there is under the name decides.
  simp only [pass, walk, if_neg hdot, if_neg hup, if_neg hlong, destination]
  cases hentry : files.get? (place ++ [name]) with
  | none => exact Or.inr (Or.inr ⟨.missing, rfl, Or.inl rfl, hname, by simp, fun _ => rfl⟩)
  | some entry =>
      cases entry with
      | directory => exact Or.inl ⟨_, rfl, fun _ => rfl⟩
      | file content mode => exact Or.inr (Or.inr ⟨.notDirectory, rfl, Or.inr rfl, hname, by simp, fun _ => rfl⟩)

/-! ## Walks -/

/-- A walk goes on from where a step leads. -/
theorem walk_of_pass (files : FileSystem) (place next : Place) (name : String) (rest : List String)
    (h : files.pass place name = .ok next) : files.walk place (name :: rest) = files.walk next rest := by
  rcases files.step_cases place name with ⟨other, hpass, hwalk⟩ | ⟨hpass, _⟩ | ⟨fault, hpass, _⟩
  · rw [hpass, Except.ok.injEq] at h
    rw [hwalk, h]
  · simp only [hpass, reduceCtorEq] at h
  · simp only [hpass, reduceCtorEq] at h

/-- A walk enters a directory and goes on from there, as long as there is a step to go on with. -/
theorem walk_append (files : FileSystem) (place : Place) (before rest : List String) (h : rest ≠ []) :
    files.walk place (before ++ rest) =
      match files.enter place before with
      | .ok directory => files.walk directory rest
      | .error fault => .error fault := by
  induction before generalizing place with
  | nil => rfl
  | cons name before ih =>
      rw [List.cons_append, enter_cons]
      rcases files.step_cases place name with ⟨next, hpass, hwalk⟩ | ⟨hpass, hwalk⟩ | ⟨fault, hpass, _, _, _, hwalk⟩
      · rw [hwalk, hpass]
        exact ih next
      · rw [hwalk, hpass]
        rfl
      · -- No step of the first part is the last one, so a file or a free place is a fault there.
        have hrest : (before ++ rest).isEmpty = false :=
          List.isEmpty_eq_false_iff.mpr (List.append_ne_nil_of_right_ne_nil before h)
        rw [hwalk, hpass, hrest]
        rfl

/-- A dot at the end asks for a directory. -/
theorem walk_dot (files : FileSystem) (place : Place) : files.walk place ["."] = .ok (.entry place .directory) :=
  rfl

/-- A single name leads to its place in the directory. -/
theorem walk_name (files : FileSystem) (place : Place) (name : String) (h : IsEntryName name) :
    files.walk place [name] = .ok (files.destination (place ++ [name])) := by
  rcases h with ⟨hdot, hup, hshort⟩
  rw [walk, if_neg hdot, if_neg hup, if_neg (by omega), destination]
  cases hentry : files.get? (place ++ [name]) with
  | none => simp only [hentry, List.isEmpty_nil, if_true]
  | some entry =>
      cases entry with
      | directory => simp only [hentry, walk]
      | file content mode => simp only [hentry, List.isEmpty_nil, if_true]

/-- What a walk comes to: the directory that its steps enter, a name that is too long, or something that is no
    directory. That is where it ends, if the name is the last one, and else a fault. -/
theorem walk_cases (files : FileSystem) (place : Place) (steps : List String) :
    (∃ directory, files.enter place steps = .ok directory ∧
        files.walk place steps = .ok (.entry directory .directory)) ∨
      (files.enter place steps = .error .nameTooLong ∧ files.walk place steps = .error .nameTooLong) ∨
      ∃ fault, files.enter place steps = .error fault ∧ (fault = .missing ∨ fault = .notDirectory) ∧
        (files.walk place steps = .error fault ∨
          ∃ before name directory, steps = before ++ [name] ∧ files.enter place before = .ok directory ∧
            IsEntryName name ∧ files.get? (directory ++ [name]) ≠ some .directory ∧
            files.walk place steps = .ok (files.destination (directory ++ [name]))) := by
  induction steps generalizing place with
  | nil => exact Or.inl ⟨place, rfl, rfl⟩
  | cons name rest ih =>
      rcases files.step_cases place name with ⟨next, hpass, hwalk⟩ | ⟨hpass, hwalk⟩ |
        ⟨fault, hpass, hkind, hname, hentry, hwalk⟩
      -- The first step leads into a directory, and what becomes of the rest is what becomes of all.
      · have henter : ∀ steps, files.enter place (name :: steps) = files.enter next steps := fun steps => by
          rw [enter_cons, hpass]
          rfl
        rw [henter, hwalk]
        rcases ih next with hdirectory | hlong | ⟨stop, hstop, hkind, hmid | ⟨before, last, directory, hsteps,
          hbefore, hlast⟩⟩
        · exact Or.inl hdirectory
        · exact Or.inr (Or.inl hlong)
        · exact Or.inr (Or.inr ⟨stop, hstop, hkind, Or.inl hmid⟩)
        · refine Or.inr (Or.inr ⟨stop, hstop, hkind, Or.inr ⟨name :: before, last, directory, ?_, ?_, hlast⟩⟩)
          · rw [hsteps, List.cons_append]
          · rw [henter, hbefore]
      · refine Or.inr (Or.inl ⟨?_, hwalk rest⟩)
        rw [enter_cons, hpass]
        rfl
      · refine Or.inr (Or.inr ⟨fault, ?_, hkind, ?_⟩)
        · rw [enter_cons, hpass]
          rfl
        -- The first step leads into no directory. That is an end of the path only if nothing follows.
        · cases rest with
          | nil => exact Or.inr ⟨[], name, place, rfl, rfl, hname, hentry, hwalk []⟩
          | cons _ _ => exact Or.inl (hwalk _)

/-- A walk ends at a directory, or it ends with a name in one. -/
theorem walk_eq_ok (files : FileSystem) (place : Place) (steps : List String) (reached : Destination)
    (h : files.walk place steps = .ok reached) :
    (∃ directory, reached = .entry directory .directory) ∨
      ∃ before name directory, steps = before ++ [name] ∧ files.enter place before = .ok directory ∧
        IsEntryName name ∧ reached = files.destination (directory ++ [name]) := by
  rcases files.walk_cases place steps with ⟨directory, _, hwalk⟩ | ⟨_, hwalk⟩ | ⟨fault, _, _, hwalk |
    ⟨before, name, directory, hsteps, henter, hname, _, hwalk⟩⟩
  · rw [hwalk, Except.ok.injEq] at h
    exact Or.inl ⟨directory, h.symm⟩
  · simp only [hwalk, reduceCtorEq] at h
  · simp only [hwalk, reduceCtorEq] at h
  · rw [hwalk, Except.ok.injEq] at h
    exact Or.inr ⟨before, name, directory, hsteps, henter, hname, h.symm⟩

/-- A walk ends at a directory if and only if each of its steps enters one. -/
theorem walk_eq_directory_iff (files : FileSystem) (place directory : Place) (steps : List String) :
    files.walk place steps = .ok (.entry directory .directory) ↔ files.enter place steps = .ok directory := by
  rcases files.walk_cases place steps with ⟨other, henter, hwalk⟩ | ⟨henter, hwalk⟩ | ⟨fault, henter, _, hwalk |
    ⟨before, name, above, _, _, _, hentry, hwalk⟩⟩
  · simp only [henter, hwalk, Except.ok.injEq, Destination.entry.injEq, and_true]
  · simp only [henter, hwalk, reduceCtorEq]
  · simp only [henter, hwalk, reduceCtorEq]
  · -- What the last name leads to is no directory.
    simp only [henter, hwalk, Except.ok.injEq, reduceCtorEq, iff_false]
    rw [destination]
    intro hreached
    split at hreached
    · next entry hfound =>
        rw [Destination.entry.injEq] at hreached
        exact hentry (hfound.trans (congrArg some hreached.2))
    · simp only [reduceCtorEq] at hreached

/-- A walk that does not end meets a name that is too long, or something that is no directory. -/
theorem fault_of_walk (files : FileSystem) (place : Place) (steps : List String) (fault : FileFault)
    (h : files.walk place steps = .error fault) : fault = .nameTooLong ∨ fault = .missing ∨ fault = .notDirectory := by
  rcases files.walk_cases place steps with ⟨_, _, hwalk⟩ | ⟨_, hwalk⟩ | ⟨other, _, hother, hwalk |
    ⟨_, _, _, _, _, _, _, hwalk⟩⟩
  · simp only [hwalk, reduceCtorEq] at h
  · rw [hwalk, Except.error.injEq] at h
    exact Or.inl h.symm
  · rw [hwalk, Except.error.injEq] at h
    exact Or.inr (h ▸ hother)
  · simp only [hwalk, reduceCtorEq] at h

/-- A walk meets a name that is too long if and only if its steps do on their way through directories. -/
theorem walk_eq_nameTooLong_iff (files : FileSystem) (place : Place) (steps : List String) :
    files.walk place steps = .error .nameTooLong ↔ files.enter place steps = .error .nameTooLong := by
  rcases files.walk_cases place steps with ⟨_, henter, hwalk⟩ | ⟨henter, hwalk⟩ | ⟨fault, henter, hfault, hwalk |
    ⟨_, _, _, _, _, _, _, hwalk⟩⟩
  · simp only [henter, hwalk, reduceCtorEq]
  · simp only [henter, hwalk]
  · simp only [henter, hwalk, Except.error.injEq]
  · rcases hfault with rfl | rfl <;> simp only [henter, hwalk, Except.error.injEq, reduceCtorEq]

/-- What every step keeps that leads on is kept by all steps to a directory. -/
theorem enter_keeps (files : FileSystem) (P : Place → Prop)
    (hpass : ∀ place name next, P place → files.pass place name = .ok next → P next) (place directory : Place)
    (steps : List String) (hplace : P place) (henter : files.enter place steps = .ok directory) : P directory := by
  induction steps generalizing place with
  | nil =>
      rw [← Except.ok.inj henter]
      exact hplace
  | cons name rest ih =>
      rw [enter_cons] at henter
      cases hstep : files.pass place name with
      | error fault =>
          rw [hstep] at henter
          simp only [Except.bind, reduceCtorEq] at henter
      | ok next =>
          rw [hstep] at henter
          exact ih next (hpass place name next hplace hstep) henter

/-- A path ends with a name in a directory that is there, at `place`. -/
def LeadsTo (files : FileSystem) (path : String) (place : Place) : Prop :=
  pathFault? path = none ∧
    ∃ before name directory, pathSteps path = before ++ [name] ∧
      files.enter (files.base path) before = .ok directory ∧ IsEntryName name ∧ place = directory ++ [name]

theorem follow_of_leadsTo (files : FileSystem) (path : String) (place : Place) (h : files.LeadsTo path place) :
    files.follow path = .ok (files.destination place) := by
  rcases h with ⟨hsound, before, name, directory, hsteps, henter, hname, rfl⟩
  rw [follow, hsound, hsteps]
  simp only [walk_append files _ before [name] (List.cons_ne_nil _ _), henter]
  exact walk_name files directory name hname

theorem leadsTo_of_follow (files : FileSystem) (path : String) (reached : Destination)
    (h : files.follow path = .ok reached) :
    (∃ directory, reached = .entry directory .directory) ∨
      ∃ place, files.LeadsTo path place ∧ reached = files.destination place := by
  cases hfault : pathFault? path with
  | some fault =>
      rw [follow, hfault] at h
      simp only [reduceCtorEq] at h
  | none =>
      rw [follow, hfault] at h
      rcases walk_eq_ok files _ _ reached h with hdir | ⟨before, name, directory, hsteps, henter, hname, hreached⟩
      · exact Or.inl hdir
      · exact Or.inr ⟨directory ++ [name], ⟨hfault, before, name, directory, hsteps, henter, hname, rfl⟩, hreached⟩

theorem leadsTo_of_follow_free (files : FileSystem) (path : String) (place : Place)
    (h : files.follow path = .ok (.free place)) : files.LeadsTo path place ∧ files.get? place = none := by
  rcases leadsTo_of_follow files path _ h with ⟨_, hdir⟩ | ⟨other, hleads, hother⟩
  · simp only [reduceCtorEq] at hdir
  · rw [destination] at hother
    cases hentry : files.get? other with
    | some entry => simp only [hentry, reduceCtorEq] at hother
    | none =>
        simp only [hentry, Destination.free.injEq] at hother
        rw [hother]
        exact ⟨hleads, hentry⟩

theorem leadsTo_of_follow_file (files : FileSystem) (path : String) (place : Place) (content : ByteArray)
    (mode : Nat) (h : files.follow path = .ok (.entry place (.file content mode))) :
    files.LeadsTo path place ∧ files.get? place = some (.file content mode) := by
  rcases leadsTo_of_follow files path _ h with ⟨_, hdir⟩ | ⟨other, hleads, hother⟩
  · simp only [Destination.entry.injEq, reduceCtorEq, and_false] at hdir
  · rw [destination] at hother
    cases hentry : files.get? other with
    | none => simp only [hentry, reduceCtorEq] at hother
    | some entry =>
        simp only [hentry, Destination.entry.injEq] at hother
        rcases hother with ⟨rfl, rfl⟩
        exact ⟨hleads, hentry⟩

theorem stat_eq_ok_iff (files : FileSystem) (path : String) (place : Place) (entry : Entry) :
    files.stat path = .ok (place, entry) ↔ files.follow path = .ok (.entry place entry) := by
  rw [stat]
  cases hfollow : files.follow path with
  | error fault => simp only [reduceCtorEq]
  | ok reached =>
      cases reached with
      | free other => simp only [reduceCtorEq, Except.ok.injEq]
      | entry other found => simp only [Except.ok.injEq, Prod.mk.injEq, Destination.entry.injEq]

/-- The steps of a path that leads to something lead there. -/
theorem walk_of_stat (files : FileSystem) (path : String) (place : Place) (entry : Entry)
    (h : files.stat path = .ok (place, entry)) :
    pathFault? path = none ∧ files.walk (files.base path) (pathSteps path) = .ok (.entry place entry) := by
  rw [stat_eq_ok_iff, follow] at h
  cases hfault : pathFault? path with
  | some fault => simp only [hfault, reduceCtorEq] at h
  | none =>
      simp only [hfault] at h
      exact ⟨rfl, h⟩

/-- The name of the place is the last step of the path. -/
theorem getLast?_of_leadsTo (files : FileSystem) (path : String) (place : Place) (h : files.LeadsTo path place) :
    place.getLast? = (pathSteps path).getLast? := by
  rcases h with ⟨_, before, name, directory, hsteps, _, _, rfl⟩
  rw [hsteps, List.getLast?_concat, List.getLast?_concat]

theorem leadsTo_ne_nil (files : FileSystem) (path : String) (place : Place) (h : files.LeadsTo path place) :
    place ≠ [] := by
  rcases h with ⟨_, before, name, directory, _, _, _, rfl⟩
  exact List.concat_ne_nil name directory

/-- A path leads to one place. -/
theorem leadsTo_unique (files : FileSystem) (path : String) (place other : Place)
    (h : files.LeadsTo path place) (ho : files.LeadsTo path other) : place = other := by
  rcases h with ⟨_, before, name, directory, hsteps, henter, _, rfl⟩
  rcases ho with ⟨_, before', name', directory', hsteps', henter', _, rfl⟩
  -- The steps come apart in one way only, because what is split off is a single name.
  rw [hsteps] at hsteps'
  rcases List.append_inj' hsteps' rfl with ⟨hbefore, hname⟩
  rw [hbefore, henter', Except.ok.injEq] at henter
  rw [henter, hname]

/-- Two trees that are used from the same directory and have their directories in common. -/
def SameDirectories (files other : FileSystem) : Prop :=
  other.workdir = files.workdir ∧
    ∀ place, files.get? place = some .directory ↔ other.get? place = some .directory

theorem sameDirectories_symm (files other : FileSystem) (h : files.SameDirectories other) :
    other.SameDirectories files :=
  ⟨h.1.symm, fun place => (h.2 place).symm⟩

/-- A step leads to the same in trees with the same directories, unless it meets something that is no directory. -/
theorem pass_congr (files other : FileSystem) (hsame : files.SameDirectories other) (place : Place) (name : String)
    (result : Except FileFault Place) (hmissing : result ≠ .error .missing) (hfile : result ≠ .error .notDirectory)
    (h : files.pass place name = result) : other.pass place name = result := by
  rw [pass] at h ⊢
  split
  · next hdot => rwa [if_pos hdot] at h
  next hdot =>
  rw [if_neg hdot] at h
  split
  · next hup => rwa [if_pos hup] at h
  next hup =>
  rw [if_neg hup] at h
  split
  · next hlong => rwa [if_pos hlong] at h
  next hlong =>
  rw [if_neg hlong] at h
  -- Only directories are passed, and these are the same in both trees. The faults that depend on files are excluded.
  cases hentry : files.get? (place ++ [name]) with
  | none =>
      simp only [hentry] at h
      exact absurd h.symm hmissing
  | some entry =>
      cases entry with
      | file content mode =>
          simp only [hentry] at h
          exact absurd h.symm hfile
      | directory =>
          simp only [hentry] at h
          simp only [(hsame.2 (place ++ [name])).mp hentry]
          exact h

/-- Steps lead to the same in trees with the same directories, unless one meets something that is no directory. -/
theorem enter_congr (files other : FileSystem) (hsame : files.SameDirectories other) (place : Place)
    (steps : List String) (result : Except FileFault Place)
    (hmissing : result ≠ .error .missing) (hfile : result ≠ .error .notDirectory)
    (h : files.enter place steps = result) : other.enter place steps = result := by
  induction steps generalizing place with
  | nil => exact h
  | cons name rest ih =>
      rw [enter_cons] at h ⊢
      cases hpass : files.pass place name with
      | ok next =>
          rw [hpass] at h
          rw [pass_congr files other hsame place name (.ok next) (by simp) (by simp) hpass]
          exact ih next h
      | error fault =>
          -- A step that does not lead on is the result of all of them.
          rw [hpass] at h
          have hresult : Except.error fault = result := h
          rw [← hresult] at hmissing hfile
          rw [pass_congr files other hsame place name _ hmissing hfile hpass]
          exact h

/-- Where a path leads depends on the directories of the tree alone. -/
theorem leadsTo_congr (files other : FileSystem) (hsame : files.SameDirectories other) (path : String)
    (place : Place) (h : files.LeadsTo path place) : other.LeadsTo path place := by
  rcases h with ⟨hsound, before, name, directory, hsteps, henter, hname, hplace⟩
  refine ⟨hsound, before, name, directory, hsteps, ?_, hname, hplace⟩
  have hbase : other.base path = files.base path := by rw [base, base, hsame.1]
  rw [hbase]
  exact enter_congr files other hsame _ before (.ok directory) (by simp) (by simp) henter

/-- A file put where no directory is leaves the directories as they are. -/
theorem sameDirectories_set_file (files : FileSystem) (place : Place) (content : ByteArray) (mode : Nat)
    (hp : place ≠ []) (h : files.get? place ≠ some .directory) :
    files.SameDirectories (files.set place (.file content mode)) := by
  refine ⟨rfl, fun other => ?_⟩
  by_cases ho : other = place
  · rw [ho, get?_set_self files place _ hp]
    simp only [h, Option.some.injEq, reduceCtorEq]
  · rw [get?_set_ne files place other _ ho]

end FileSystem

end CodeBehind
