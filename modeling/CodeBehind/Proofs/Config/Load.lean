import CodeBehind.Config.File

/-!
# How loading a configuration fails

Which failures loading a configuration can end in.

Whatever is wrong with the file itself is a problem of configuration: bytes that are no text, a text that is not well
formed, a root or a section that is no mapping. Three things pass by that. A path that is too long for the file system is
a fault of the path. A single YAML scalar can be out of place for its tag. And a number with too many digits has no text.
These are failures of their own, and nobody who waits for a problem sees them.

## Main definitions

* `LoadFault`: The failures that loading can end in.

## Theorems

* `error_of_bind`: How one step after another fails.
* `loadFault_of_load`: Loading ends in no other failure.
-/

namespace CodeBehind

namespace Config

/-- The failures that loading a configuration can end in. -/
inductive LoadFault : Failure → Prop
  | unusable (message file : String) : LoadFault (.problem (.configuration message file))
  | path (error : FileError) : LoadFault (.file error)
  | scalar (misuse : Misuse) : LoadFault (.misuse misuse)
  | numeral (fault : Decimal.NumeralFault) : LoadFault (.numeral fault)

/-- The search for a file fails for a path that cannot be looked at. -/
theorem loadFault_of_discover (files : FileSystem) (failure : Failure) (h : discover files = .error failure) :
    LoadFault failure := by
  rw [discover] at h
  generalize usualNames.map (fun name => Path.below files.workdirPath [name]) = candidates at h
  generalize candidates.getLast?.getD "" = last at h
  induction candidates with
  | nil => simp only [List.foldr_nil, reduceCtorEq] at h
  | cons file rest ih =>
      rw [List.foldr_cons] at h
      split at h
      · next error _ =>
          rw [Except.error.injEq] at h
          exact h ▸ .path error
      · simp only [reduceCtorEq] at h
      · exact ih h

theorem loadFault_of_chooseFile (files : FileSystem) (path : Option String) (failure : Failure)
    (h : chooseFile files path = .error failure) : LoadFault failure := by
  cases path with
  | none => exact loadFault_of_discover files failure h
  | some path =>
      by_cases hempty : path = ""
      · rw [chooseFile, if_pos hempty] at h
        exact loadFault_of_discover files failure h
      · rw [chooseFile, if_neg hempty] at h
        simp only [reduceCtorEq] at h

/-- A text that is not well formed is a problem; only a single scalar may be out of place. -/
theorem loadFault_of_parse (file : String) (text : List Char) (failure : Failure)
    (h : parse file text = .error failure) : LoadFault failure := by
  rw [parse] at h
  split at h
  · split at h
    · simp only [reduceCtorEq] at h
    · rw [Except.error.injEq] at h
      exact h ▸ .unusable _ file
    · next misuse _ =>
        rw [Except.error.injEq] at h
        exact h ▸ .scalar misuse
  · split at h
    · simp only [reduceCtorEq] at h
    · rw [Except.error.injEq] at h
      exact h ▸ .unusable _ file

theorem loadFault_of_readContents (files : FileSystem) (file : String) (failure : Failure)
    (h : readContents files file = .error failure) : LoadFault failure := by
  rw [readContents] at h
  split at h
  · rw [Except.error.injEq] at h
    exact h ▸ .unusable _ file
  · split at h
    · rw [Except.error.injEq] at h
      exact h ▸ .unusable _ file
    · exact loadFault_of_parse file _ failure h

/-- One step after another fails if the first does, or if it returns and the second fails then. -/
theorem error_of_bind {ε α β : Type} (first : Except ε α) (failure : ε → Failure) (next : α → Except Failure β)
    (found : Failure) (h : (first.mapError failure >>= next) = .error found) :
    (∃ error, first = .error error ∧ found = failure error) ∨ ∃ value, first = .ok value ∧ next value = .error found := by
  cases first with
  | error error => exact Or.inl ⟨error, rfl, (Except.error.inj h).symm⟩
  | ok value => exact Or.inr ⟨value, rfl, h⟩

section

variable {α : Type} (view : View α) (file : String)

theorem configuration_of_sectionEntries (root : List (Value × α)) (name : String) (problem : Problem)
    (h : sectionEntries view file root name = .error problem) : ∃ message, problem = .configuration message file := by
  rw [sectionEntries] at h
  split at h
  · simp only [reduceCtorEq] at h
  · split at h
    · simp only [reduceCtorEq] at h
    · exact ⟨_, (Except.error.inj h).symm⟩

theorem configuration_of_rootEntries (root : α) (problem : Problem) (h : rootEntries view file root = .error problem) :
    ∃ message, problem = .configuration message file := by
  rw [rootEntries] at h
  split at h
  · simp only [reduceCtorEq] at h
  · split at h
    · simp only [reduceCtorEq] at h
    · exact ⟨_, (Except.error.inj h).symm⟩

/-- Reading the sections fails for one that is no mapping, or for a number that has no text. -/
theorem loadFault_of_ofEntries (root : List (Value × α)) (failure : Failure)
    (h : ofEntries view file root = .error failure) : LoadFault failure := by
  have hsection : ∀ name problem, sectionEntries view file root name = .error problem →
      LoadFault (.problem problem) := by
    intro name problem hproblem
    rcases configuration_of_sectionEntries view file root name problem hproblem with ⟨message, rfl⟩
    exact .unusable message file
  unfold ofEntries at h
  -- The four readings come one after the other, and the first that fails is the failure.
  rcases error_of_bind _ _ _ failure h with ⟨problem, hentries, rfl⟩ | ⟨entries, _, h⟩
  · exact hsection _ problem hentries
  rcases error_of_bind _ _ _ failure h with ⟨fault, _, rfl⟩ | ⟨generator, _, h⟩
  · exact .numeral fault
  rcases error_of_bind _ _ _ failure h with ⟨problem, hentries, rfl⟩ | ⟨entries, _, h⟩
  · exact hsection _ problem hentries
  rcases error_of_bind _ _ _ failure h with ⟨fault, _, rfl⟩ | ⟨logging, _, h⟩
  · exact .numeral fault
  · simp only [pure, Except.pure, reduceCtorEq] at h

theorem loadFault_of_announce (root : α) (failure : Failure) (h : (announce view file root).2 = .error failure) :
    LoadFault failure := by
  rw [announce] at h
  split at h
  · next problem hproblem =>
      rcases configuration_of_rootEntries view file root problem hproblem with ⟨message, rfl⟩
      exact Except.error.inj h ▸ .unusable message file
  · exact loadFault_of_ofEntries view file _ failure h

end

/-- Loading a configuration ends in no other failure. -/
theorem loadFault_of_load (files : FileSystem) (path : Option String) (failure : Failure)
    (h : (load files path).2 = .error failure) : LoadFault failure := by
  rw [load] at h
  split at h
  · next found hchosen =>
      rw [Except.error.injEq] at h
      exact loadFault_of_chooseFile files path failure (h ▸ hchosen)
  · split at h
    · next error _ => exact Except.error.inj h ▸ .path error
    · simp only [reduceCtorEq] at h
    · split at h
      · next found hread =>
          rw [Except.error.injEq] at h
          exact loadFault_of_readContents files _ failure (h ▸ hread)
      · exact loadFault_of_announce _ _ _ failure h
      · exact loadFault_of_announce _ _ _ failure h

end Config

end CodeBehind
