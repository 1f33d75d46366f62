import CodeBehind.Proofs.Generation.Course

/-!
# Writing again what could not be written

A problem of persistence has everything in it that a later write needs.

A run that ends with such a problem has synthesized its text before, and the problem has the path and the text of what
was synthesized (`synthesize_of_persistence`). Synthesis looks at the document and the banner and at no tree. So a later
run for the same document, in whatever tree, comes to the same text again, and what is left of it is a write of that text
(`generate_of_synthesize`). Whoever writes the text of the problem does the same without synthesizing.

## Main results

* `retry_agrees`: Writing what a problem has kept does what generating the document again does, in every tree.

## Theorems

* `synthesize_of_persistence`: A problem of persistence keeps what was synthesized.
* `generate_of_synthesize`: A run is a write of what is synthesized.
* `exists_persistence`: A run for an accepted document that does not return ends with such a problem.
-/

namespace CodeBehind

namespace Generation

section

variable (files : FileSystem) (banner : Banner) (path : String)

/-- A problem of persistence keeps what was synthesized. -/
theorem synthesize_of_persistence (target reason text : String)
    (h : (generate files banner path false).result = .error (.problem (.persistence target reason text))) :
    synthesize path banner = .ok ⟨target, text⟩ := by
  have hcourse := course_generate files banner path false
  rcases failure_of_course files banner path false _ hcourse _ h with
    ⟨_, ⟨_, hrefused⟩ | ⟨_, rendered, error, hrendered, _, hfailure⟩⟩
  · -- A document that is refused is a problem of another kind.
    simp only [Failure.problem.injEq, reduceCtorEq] at hrefused
  · rw [writeFailure] at hfailure
    split at hfailure
    · simp only [reduceCtorEq] at hfailure
    · rw [Failure.problem.injEq, Problem.persistence.injEq] at hfailure
      rw [hrendered, hfailure.1, hfailure.2.2]

/-- A run is a write of what is synthesized. It leaves the tree that the write leaves, it puts in place what the write
    puts there, and it returns what is synthesized if the write returns. -/
theorem generate_of_synthesize (rendered : Rendered) (h : synthesize path banner = .ok rendered) :
    (generate files banner path false).files = (write files rendered).files ∧
      (generate files banner path false).result = (write files rendered).result.map (fun _ => rendered) ∧
      (generate files banner path false).events.filterMap Event.saved? =
        (write files rendered).events.filterMap Event.saved? := by
  have hattempt := attempt_of_synthesize files banner path false rendered h
  rw [if_neg Bool.false_ne_true] at hattempt
  refine ⟨?_, ?_, ?_⟩
  · simp only [generate, hattempt]
  · simp only [generate, hattempt]
  · -- Records and progress put nothing in place.
    have hsplit : ∀ ending : List Event, (opening path ++ (nameWarning ⟨path⟩ ++ (write files rendered).events) ++
        .progressCleared :: ending).filterMap Event.saved? =
          (write files rendered).events.filterMap Event.saved? ++ ending.filterMap Event.saved? := by
      intro ending
      rw [← List.append_assoc, List.append_assoc _ (write files rendered).events,
        saved_opening_append path _ _ (saved_nameWarning ⟨path⟩), List.filterMap_append]
      rfl
    rw [generate, hattempt]
    cases (write files rendered).result with
    | ok _ => exact (hsplit _).trans (List.append_nil _)
    | error _ => exact (hsplit _).trans (List.append_nil _)

/-- A run for an accepted document that does not return ends with a problem of persistence. -/
theorem exists_persistence (hname : Document.hasName path = true) (hpath : '\x00' ∉ path.toList)
    (hworkdir : ∀ name ∈ files.workdir, '\x00' ∉ name.toList)
    (h : (generate files banner path false).result.isOk = false) :
    ∃ target reason text,
      (generate files banner path false).result = .error (.problem (.persistence target reason text)) := by
  cases hresult : (generate files banner path false).result with
  | ok rendered =>
      rw [hresult] at h
      exact Bool.noConfusion h
  | error failure =>
      have hcourse := course_generate files banner path false
      rcases failure_of_course files banner path false _ hcourse failure hresult with
        ⟨_, ⟨hrefused, _⟩ | ⟨_, rendered, error, hrendered, hsave, hfailure⟩⟩
      · rw [ofPath_of_hasName path hname] at hrefused
        simp only [reduceCtorEq] at hrefused
      · rw [writeFailure_eq_problem files files banner path rendered error hpath
          (FileSystem.nullByte_notMem_workdirPath files hworkdir) hrendered hsave] at hfailure
        exact ⟨_, _, _, congrArg Except.error hfailure⟩

end

/-- Whoever writes what a problem of persistence has kept, at any later time and in any tree, does what generating the
    document again does there. Either both return, and the tree is the old one with the text where the path leads, or
    both fail with one and the same problem, which keeps the same path and the same text, and the tree is the old one.
    What the first tree was like plays no part. -/
theorem retry_agrees (files other : FileSystem) (banner : Banner) (path target reason text : String)
    (hpath : '\x00' ∉ path.toList) (hworkdir : ∀ name ∈ other.workdir, '\x00' ∉ name.toList)
    (hfailed : (generate files banner path false).result = .error (.problem (.persistence target reason text))) :
    (write other ⟨target, text⟩).files = (generate other banner path false).files ∧
      (write other ⟨target, text⟩).events.filterMap Event.saved? =
        (generate other banner path false).events.filterMap Event.saved? ∧
      ((∃ place mode, other.WritesTo target place mode ∧
          (write other ⟨target, text⟩).result = .ok () ∧
          (generate other banner path false).result = .ok ⟨target, text⟩ ∧
          (generate other banner path false).files = other.set place (.file text.toUTF8 mode)) ∨
        ∃ cause, (write other ⟨target, text⟩).result = .error (.problem (.persistence target cause text)) ∧
          (generate other banner path false).result = .error (.problem (.persistence target cause text)) ∧
          (generate other banner path false).files = other) := by
  have hrendered := synthesize_of_persistence files banner path target reason text hfailed
  rcases generate_of_synthesize other banner path _ hrendered with ⟨hfiles, hresult, hsaved⟩
  refine ⟨hfiles.symm, hsaved.symm, ?_⟩
  rw [hfiles, hresult]
  rcases write_cases other ⟨target, text⟩ {} with
    ⟨place, mode, _, hwrites, _, hwrite, htree⟩ | ⟨error, hsave, hwrite, htree⟩
  · refine Or.inl ⟨place, mode, hwrites, hwrite, ?_, htree⟩
    rw [hwrite]
    rfl
  · have hproblem := writeFailure_eq_problem other other banner path _ error hpath
      (FileSystem.nullByte_notMem_workdirPath other hworkdir) hrendered hsave
    rw [hproblem] at hwrite
    refine Or.inr ⟨error.message, hwrite, ?_, htree⟩
    rw [hwrite]
    rfl

/-- A tree with a directory where the code-behind of a document belongs. -/
def occupiedTree : FileSystem where
  entries := [(["home"], .directory), (["home", "Menu.g.cs"], .directory)]
  workdir := ["home"]
  umask := 0o022

/-- A tree with an older code-behind of the same document, which only its owner reads and writes. -/
def olderTree : FileSystem where
  entries := [(["srv"], .directory), (["srv", "Menu.g.cs"], .file "old".toUTF8 0o600)]
  workdir := ["srv"]
  umask := 0o077

/-- What could not be written in one tree is written in another, and cannot be written in the first one again. -/
theorem retry_olderTree :
    ∃ target reason text,
      (generate occupiedTree .standard "Menu.uxml" false).result =
        .error (.problem (.persistence target reason text)) ∧
      (write olderTree ⟨target, text⟩).result = .ok () ∧
      (write olderTree ⟨target, text⟩).files = (generate olderTree .standard "Menu.uxml" false).files ∧
      (∃ cause, (write occupiedTree ⟨target, text⟩).result = .error (.problem (.persistence target cause text)) ∧
        (generate occupiedTree .standard "Menu.uxml" false).result =
          .error (.problem (.persistence target cause text))) := by
  have hpath : '\x00' ∉ "Menu.uxml".toList := by decide
  have hname : Document.hasName "Menu.uxml" = true := by decide
  have hoccupied : (generate occupiedTree .standard "Menu.uxml" false).result.isOk = false := by decide +kernel
  have holder : (generate olderTree .standard "Menu.uxml" false).result.isOk = true := by decide +kernel
  rcases exists_persistence occupiedTree .standard "Menu.uxml" hname hpath (by decide) hoccupied with
    ⟨target, reason, text, hfailed⟩
  refine ⟨target, reason, text, hfailed, ?_⟩
  rcases retry_agrees occupiedTree olderTree .standard "Menu.uxml" target reason text hpath (by decide) hfailed with
    ⟨hfiles, _, ⟨_, _, _, hwritten, _⟩ | ⟨_, _, hresult, _⟩⟩
  · refine ⟨hwritten, hfiles, ?_⟩
    rcases retry_agrees occupiedTree occupiedTree .standard "Menu.uxml" target reason text hpath (by decide) hfailed with
      ⟨_, _, ⟨_, _, _, _, hresult, _⟩ | ⟨cause, hwritten, hresult, _⟩⟩
    · rw [hfailed] at hresult
      simp only [reduceCtorEq] at hresult
    · exact ⟨cause, hwritten, hresult⟩
  · rw [hresult] at holder
    exact Bool.noConfusion holder

end Generation

end CodeBehind
