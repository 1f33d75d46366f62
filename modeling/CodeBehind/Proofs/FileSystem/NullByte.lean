import CodeBehind.Proofs.FileSystem.Atomic
import CodeBehind.Proofs.Text.Pieces

/-!
# Paths without a null byte

The one fault of a path that is not reported as a problem can only come from a path that has it in its text.

A null byte is looked for in every path before it is followed, and no step of a walk reports one. The paths
that are followed while a file is saved are the target path and the path of its scratch file, and the second
is made of the working directory, the target path and a name of digits and letters. So a save that fails for a
null byte was asked to write a path that has one, or is done in a directory that has one in its name, which no
directory has.

## Theorems

* `nullByte_notMem_workdirPath`: No working directory has a null byte in its path.
* `mem_absolute`: A simplified path has no characters of its own but slashes.
* `follow_eq_nullByte`: Only a path with a null byte is refused for it.
* `save_eq_nullByte`: The same of a save.
* `save_eq_nullByte_iff`: Which saves are refused.
-/

namespace CodeBehind

namespace FileSystem

/-- The path of the working directory has no null byte if no name on it has one. -/
theorem nullByte_notMem_workdirPath (files : FileSystem) (h : ∀ name ∈ files.workdir, '\x00' ∉ name.toList) :
    '\x00' ∉ files.workdirPath.toList :=
  Text.notMem_append _ _ _ (by decide) (Text.notMem_intercalate _ "/" _ (by decide) h)

theorem mem_join (c : Char) (base rest : String) (h : c ∈ (Path.join base rest).toList) :
    c = '/' ∨ c ∈ base.toList ∨ c ∈ rest.toList := by
  rw [Path.join, String.toList_ofList, Path.joinChars] at h
  split at h
  · exact Or.inr (Or.inr h)
  · split at h
    · exact Or.inr (List.mem_append.mp h)
    · rcases List.mem_append.mp h with hbase | hrest
      · exact Or.inr (Or.inl hbase)
      · rcases List.mem_cons.mp hrest with hslash | hrest
        · exact Or.inl hslash
        · exact Or.inr (Or.inr hrest)

theorem mem_directory (c : Char) (path : String) (h : c ∈ (Path.directory path).toList) : c ∈ path.toList := by
  have hhead : Path.headChars path.toList ⊆ path.toList := by
    intro x hx
    exact List.mem_reverse.mp ((List.dropWhile_sublist _).subset (List.mem_reverse.mp hx))
  rw [Path.directory, String.toList_ofList, Path.directoryChars] at h
  split at h
  · exact hhead h
  · exact hhead (List.mem_reverse.mp ((List.dropWhile_sublist _).subset (List.mem_reverse.mp h)))

/-- Taking steps lexically only drops names. -/
theorem mem_of_mem_foldl_stepLexically (name : String) (steps names : List String)
    (h : name ∈ steps.foldl Path.stepLexically names) : name ∈ steps ∨ name ∈ names := by
  induction steps generalizing names with
  | nil => exact Or.inr h
  | cons step rest ih =>
      rcases ih _ h with hrest | hnames
      · exact Or.inl (List.mem_cons_of_mem step hrest)
      · rw [Path.stepLexically] at hnames
        split at hnames
        · exact Or.inr (List.mem_of_mem_drop hnames)
        · rcases List.mem_cons.mp hnames with heq | hnames
          · exact Or.inl (heq ▸ List.mem_cons_self ..)
          · exact Or.inr hnames

/-- A simplified path has no characters of its own but slashes. -/
theorem mem_absolute (c : Char) (workdir path : String) (h : c ∈ (Path.absolute workdir path).toList) :
    c = '/' ∨ c ∈ workdir.toList ∨ c ∈ path.toList := by
  -- The root and the separators are made of slashes.
  have hslash : ∀ text : String, text = "//" ∨ text = "/" → c ∈ text.toList → c = '/' := by
    intro text htext hc
    rcases htext with rfl | rfl
    · simpa only [String.reduceToList, List.mem_cons, List.not_mem_nil, or_false, or_self] using hc
    · simpa only [String.reduceToList, List.mem_cons, List.not_mem_nil, or_false] using hc
  rw [Path.absolute, String.toList_append, List.mem_append, String.toList_intercalate] at h
  rcases h with hroot | hnames
  · refine Or.inl (hslash _ ?_ hroot)
    split
    · exact Or.inl rfl
    · exact Or.inr rfl
  · rcases Text.mem_of_mem_intercalate _ c _ hnames with hsep | ⟨piece, hpiece, hc⟩
    · exact Or.inl (hslash "/" (Or.inr rfl) hsep)
    · -- A name of the simplified path is a piece of the joined one.
      rcases List.mem_map.mp hpiece with ⟨name, hname, rfl⟩
      rcases mem_of_mem_foldl_stepLexically name _ [] (List.mem_reverse.mp hname) with hstep | hnil
      · rcases List.mem_map.mp (List.mem_filter.mp hstep).1 with ⟨chars, hchars, rfl⟩
        rw [String.toList_ofList] at hc
        exact mem_join c workdir path (Text.mem_of_mem_splitOn c '/' chars _ hchars hc)
      · exact absurd hnil List.not_mem_nil

/-- No step of a walk reports a null byte. -/
theorem walk_ne_nullByte (files : FileSystem) (place : Place) (steps : List String) :
    files.walk place steps ≠ .error .nullByte := by
  intro h
  rcases fault_of_walk files place steps _ h with hfault | hfault | hfault <;> simp only [reduceCtorEq] at hfault

theorem pathFault?_eq_nullByte (path : String) (h : pathFault? path = some .nullByte) : '\x00' ∈ path.toList := by
  rw [pathFault?] at h
  split at h
  · next hmem => exact List.contains_iff_mem.mp hmem
  · split at h
    · simp only [Option.some.injEq, reduceCtorEq] at h
    · split at h
      · simp only [Option.some.injEq, reduceCtorEq] at h
      · simp only [reduceCtorEq] at h

/-- Only a path with a null byte is refused for it. -/
theorem follow_eq_nullByte (files : FileSystem) (path : String) (h : files.follow path = .error .nullByte) :
    '\x00' ∈ path.toList := by
  cases hfault : pathFault? path with
  | some fault =>
      simp only [follow, hfault, Except.error.injEq] at h
      exact pathFault?_eq_nullByte path (by rw [hfault, h])
  | none =>
      simp only [follow, hfault] at h
      exact absurd h (walk_ne_nullByte files _ _)

theorem stat_eq_nullByte (files : FileSystem) (path : String) (error : FileError)
    (h : files.stat path = .error error) (hnull : error.fault = .nullByte) : '\x00' ∈ path.toList := by
  cases hfollow : files.follow path with
  | error fault =>
      simp only [stat, hfollow, Except.error.injEq] at h
      rw [← h] at hnull
      have hfault : fault = .nullByte := hnull
      exact follow_eq_nullByte files path (by rw [hfollow, hfault])
  | ok reached =>
      cases reached with
      | entry _ _ => simp only [stat, hfollow, reduceCtorEq] at h
      | free _ =>
          simp only [stat, hfollow, Except.error.injEq] at h
          rw [← h] at hnull
          simp only [reduceCtorEq] at hnull

theorem modeFor_eq_nullByte (files : FileSystem) (path : String) (error : FileError)
    (h : files.modeFor path = .error error) (hnull : error.fault = .nullByte) : '\x00' ∈ path.toList := by
  rw [modeFor] at h
  split at h
  · simp only [reduceCtorEq] at h
  · simp only [reduceCtorEq] at h
  · next found hstat =>
      split at h
      · simp only [reduceCtorEq] at h
      · rw [Except.error.injEq] at h
        exact stat_eq_nullByte files path found hstat (by rw [h, hnull])

theorem movePlace_eq_nullByte (files : FileSystem) (path : String) (h : files.movePlace path = .error .nullByte) :
    '\x00' ∈ path.toList := by
  rw [movePlace] at h
  split at h
  · next fault hfault => exact pathFault?_eq_nullByte path (by rw [hfault, Except.error.inj h])
  · split at h
    · next fault hwalk => exact absurd (by rw [hwalk, Except.error.inj h]) (walk_ne_nullByte files _ _)
    · simp only [Except.error.injEq, reduceCtorEq] at h
    · -- The other faults of a place are about its name and what lies there.
      split at h
      · simp only [Except.error.injEq, reduceCtorEq] at h
      · split at h
        · simp only [Except.error.injEq, reduceCtorEq] at h
        · split at h
          · simp only [Except.error.injEq, reduceCtorEq] at h
          · split at h
            · simp only [Except.error.injEq, reduceCtorEq] at h
            · split at h <;> simp only [Except.error.injEq, reduceCtorEq] at h

/-- A name of a scratch file has no null byte. -/
theorem nullByte_notMem_scratchName (n : Nat) : '\x00' ∉ (scratchName n).toList :=
  notMem_scratchName n '\x00' (by decide) (by decide) (by decide)

/-- A scratch file is refused for a null byte only if there is one in its directory: there is always a name to try,
    and no name has one. -/
theorem nullByte_mem_scratchDirectory (files : FileSystem) (target : String) (error : FileError)
    (h : files.createScratch target = .error error) (hnull : error.fault = .nullByte) :
    '\x00' ∈ (files.scratchDirectory target).toList := by
  rcases exists_scratchPath? files target with ⟨n, _, hpath⟩
  let path := Path.join (files.scratchDirectory target) (scratchName n)
  have hmem : '\x00' ∈ path.toList := by
    -- The path of the scratch file is followed, and nothing but its null byte can be the reason.
    cases hfollow : files.follow path with
    | ok reached =>
        cases reached with
        | free place => simp only [createScratch, hpath, createFile, path, hfollow, Except.map, reduceCtorEq] at h
        | entry place entry =>
            simp only [createScratch, hpath, createFile, path, hfollow, Except.map, Except.error.injEq] at h
            rw [← h] at hnull
            simp only [reduceCtorEq] at hnull
    | error fault =>
        simp only [createScratch, hpath, createFile, path, hfollow, Except.map, Except.error.injEq] at h
        rw [← h] at hnull
        have hfault : fault = .nullByte := hnull
        exact follow_eq_nullByte files path (by rw [hfollow, hfault])
  rcases mem_join _ _ _ hmem with hslash | hdirectory | hname
  · exact absurd hslash (by decide)
  · exact hdirectory
  · exact absurd hname (nullByte_notMem_scratchName n)

/-- The directory of a scratch file is made of the working directory and the target path. -/
theorem createScratch_eq_nullByte (files : FileSystem) (target : String) (error : FileError)
    (h : files.createScratch target = .error error) (hnull : error.fault = .nullByte) :
    '\x00' ∈ files.workdirPath.toList ∨ '\x00' ∈ target.toList := by
  have hdirectory := nullByte_mem_scratchDirectory files target error h hnull
  rw [scratchDirectory] at hdirectory
  rcases mem_absolute _ _ _ hdirectory with hslash | hworkdir | htarget
  · exact absurd hslash (by decide)
  · exact Or.inl hworkdir
  · split at htarget
    · exact absurd htarget (by decide)
    · exact Or.inr (mem_directory _ target htarget)

/-- A busy device is not mistaken for a null byte. -/
theorem perform_eq_nullByte {α : Type} (device : Device) (step : SaveStep) (path : String)
    (result : Except FileError α) (error : FileError) (h : device.perform step path result = .error error)
    (hnull : error.fault = .nullByte) : result = .error error := by
  by_cases hbusy : device.busyAt step = true
  · simp only [Device.perform, if_pos hbusy, Except.error.injEq] at h
    rw [← h] at hnull
    simp only [reduceCtorEq] at hnull
  · simpa only [Device.perform, if_neg hbusy] using h

theorem complete_eq_nullByte (files left : FileSystem) (device : Device) (scratch path text : String)
    (place : Place) (error : FileError)
    (h : files.complete device scratch place path text = (left, .error error)) (hnull : error.fault = .nullByte) :
    '\x00' ∈ path.toList := by
  rw [complete] at h
  simp only at h
  -- Filling and setting the mode fail for a busy device only.
  split at h
  · next found hfill =>
      rw [Prod.mk.injEq, Except.error.injEq] at h
      have hstep := perform_eq_nullByte device _ _ _ found hfill (by rw [h.2, hnull])
      simp only [reduceCtorEq] at hstep
  · split at h
    · next found hinspect =>
        rw [Prod.mk.injEq, Except.error.injEq] at h
        have hstep := perform_eq_nullByte device _ _ _ found hinspect (by rw [h.2, hnull])
        exact modeFor_eq_nullByte _ path found hstep (by rw [h.2, hnull])
    · split at h
      · next found hsetMode =>
          rw [Prod.mk.injEq, Except.error.injEq] at h
          have hstep := perform_eq_nullByte device _ _ _ found hsetMode (by rw [h.2, hnull])
          simp only [reduceCtorEq] at hstep
      · next moded _ =>
          split at h
          · next found hmove =>
              rw [Prod.mk.injEq, Except.error.injEq] at h
              have hstep := perform_eq_nullByte device _ _ _ found hmove (by rw [h.2, hnull])
              rw [replace] at hstep
              split at hstep
              · simp only [reduceCtorEq] at hstep
              · next fault hplace =>
                  rw [Except.error.injEq] at hstep
                  have hfault : fault = .nullByte := by rw [← hnull, ← h.2, ← hstep]
                  exact movePlace_eq_nullByte moded path (by rw [hplace, hfault])
          · simp only [Prod.mk.injEq, reduceCtorEq, and_false] at h

/-- A save is refused for a null byte only if there is one in the path or in the working directory. -/
theorem save_eq_nullByte (files left : FileSystem) (path text : String) (device : Device) (error : FileError)
    (h : files.save path text device = (left, .error error)) (hnull : error.fault = .nullByte) :
    '\x00' ∈ files.workdirPath.toList ∨ '\x00' ∈ path.toList := by
  rw [save] at h
  split at h
  · next found hcreate =>
      rw [Prod.mk.injEq, Except.error.injEq] at h
      have hstep := perform_eq_nullByte device _ _ _ found hcreate (by rw [h.2, hnull])
      exact createScratch_eq_nullByte files path found hstep (by rw [h.2, hnull])
  · split at h
    · simp only [Prod.mk.injEq, reduceCtorEq, and_false] at h
    · next found hcomplete =>
        rw [Prod.mk.injEq, Except.error.injEq] at h
        exact Or.inr (complete_eq_nullByte _ _ device _ path text _ found hcomplete (by rw [h.2, hnull]))

/-! ## Which saves are refused -/

theorem pathFault?_of_nullByte (path : String) (h : '\x00' ∈ path.toList) : pathFault? path = some .nullByte := by
  rw [pathFault?, if_pos (List.contains_iff_mem.mpr h)]

theorem modeFor_of_nullByte (files : FileSystem) (path : String) (h : '\x00' ∈ path.toList) :
    files.modeFor path = .error ⟨.nullByte, path, none⟩ := by
  simp only [modeFor, stat, follow, pathFault?_of_nullByte path h, reduceCtorEq, if_false]

/-- A directory with a null byte has no scratch file. -/
theorem createScratch_of_nullByte (files : FileSystem) (target : String)
    (h : '\x00' ∈ (files.scratchDirectory target).toList) :
    ∃ error, files.createScratch target = .error error ∧ error.fault = .nullByte := by
  rcases exists_scratchPath? files target with ⟨n, _, hpath⟩
  have hhead : ¬ (scratchName n).toList.head? = some '/' :=
    fun hslash => slash_notMem_scratchName n (List.mem_of_head? hslash)
  have hmem : '\x00' ∈ (Path.join (files.scratchDirectory target) (scratchName n)).toList := by
    rw [Path.join, String.toList_ofList, Path.joinChars, if_neg hhead]
    split <;> exact List.mem_append_left _ h
  refine ⟨⟨.nullByte, Path.join (files.scratchDirectory target) (scratchName n), none⟩, ?_, rfl⟩
  simp only [createScratch, hpath, createFile, follow, pathFault?_of_nullByte _ hmem, Except.map]

/-- A save is refused for a null byte in the path where the scratch file is made before the path is looked at, and where
    the directory of the scratch file has the null byte itself. Elsewhere the save fails before, for another reason. -/
theorem save_eq_nullByte_iff (files : FileSystem) (path text : String)
    (hworkdir : '\x00' ∉ files.workdirPath.toList) :
    (∃ error, (files.save path text).2 = .error error ∧ error.fault = .nullByte) ↔
      '\x00' ∈ path.toList ∧
        ('\x00' ∈ (files.scratchDirectory path).toList ∨ ∃ made, files.createScratch path = .ok made) := by
  constructor
  · rintro ⟨error, hsave, hnull⟩
    refine ⟨(save_eq_nullByte files _ path text {} error (Prod.ext rfl hsave) hnull).resolve_left hworkdir, ?_⟩
    -- The scratch file comes first. If it was made, the path itself is to blame, and otherwise its directory.
    cases hmade : files.createScratch path with
    | ok made => exact Or.inr ⟨made, rfl⟩
    | error found =>
        simp only [save, perform_ready, hmade, Except.error.injEq] at hsave
        exact Or.inl (nullByte_mem_scratchDirectory files path found hmade (by rw [hsave, hnull]))
  · rintro ⟨hpath, hdirectory | ⟨⟨scratch, place, created⟩, hmade⟩⟩
    · rcases createScratch_of_nullByte files path hdirectory with ⟨error, hmade, hnull⟩
      exact ⟨error, by simp only [save, perform_ready, hmade], hnull⟩
    · refine ⟨⟨.nullByte, path, none⟩, ?_, rfl⟩
      simp only [save, perform_ready, hmade, complete, modeFor_of_nullByte _ path hpath]

end FileSystem

end CodeBehind
