import CodeBehind.Proofs.Syntax.Reference
import CodeBehind.Syntax.Source

/-!
# Trees that have a text

A tree that was written has every node in its place.

Writing goes through a tree from the outside to the inside and stops at the first node that has no meaning where it
stands. A text therefore says something about every node: each step of the writing has gone well, and the steps are
as many as there are types, members and statements. The proofs take the steps apart in the same order, one lemma
for each kind of declaration.

## Main results

* `isRenderable_of_body`: A tree with a text has its nodes in their places.

## Theorems

* `exists_of_bind_eq_ok`, `exists_of_mapM_eq_ok`: What steps that went well were made from.
* `isExpression_of_expressionText`, `isStatement_of_statementLine`: The nodes that can be written.
-/

namespace CodeBehind

namespace Syntax

/-- What a step that went well was made from. -/
theorem exists_of_bind_eq_ok {ε α β : Type} (x : Except ε α) (f : α → Except ε β) (b : β) (h : x >>= f = .ok b) :
    ∃ a, x = .ok a ∧ f a = .ok b := by
  cases x with
  | error e => exact absurd h (by simp only [bind, Except.bind, reduceCtorEq, not_false_eq_true])
  | ok a => exact ⟨a, rfl, h⟩

/-- A row of steps that went well went well in each. -/
theorem exists_of_mapM_eq_ok {ε α β : Type} (f : α → Except ε β) (xs : List α) (ys : List β)
    (h : xs.mapM f = .ok ys) : ∀ x ∈ xs, ∃ y, f x = .ok y := by
  induction xs generalizing ys with
  | nil => exact fun x hx => absurd hx List.not_mem_nil
  | cons first rest ih =>
      -- The first step, the others, and what is put together from both.
      rw [List.mapM_cons] at h
      rcases exists_of_bind_eq_ok _ _ _ h with ⟨y, hfirst, h⟩
      rcases exists_of_bind_eq_ok _ _ _ h with ⟨others, hrest, _⟩
      intro x hx
      rcases List.mem_cons.mp hx with heq | hx
      · exact ⟨y, heq ▸ hfirst⟩
      · exact ih others hrest x hx

theorem isExpression_of_expressionText (node : Node) (text : String) (h : expressionText node = .ok text) :
    node.isExpression = true := by
  cases node with
  | access _ _ _ => rfl
  | ret _ => exact absurd h (by simp only [expressionText, reduceCtorEq, not_false_eq_true])
  | block => exact absurd h (by simp only [expressionText, reduceCtorEq, not_false_eq_true])
  | datum _ => exact absurd h (by simp only [expressionText, reduceCtorEq, not_false_eq_true])

theorem isStatement_of_statementLine (node : Node) (step : Layout.Step) (h : statementLine node = .ok step) :
    node.isStatement = true := by
  cases node with
  | ret e =>
      rcases exists_of_bind_eq_ok _ _ _ h with ⟨text, htext, _⟩
      exact isExpression_of_expressionText e text htext
  | access _ _ _ => exact absurd h (by simp only [statementLine, reduceCtorEq, not_false_eq_true])
  | block => exact absurd h (by simp only [statementLine, reduceCtorEq, not_false_eq_true])
  | datum _ => exact absurd h (by simp only [statementLine, reduceCtorEq, not_false_eq_true])

theorem isStatement_of_blockSteps (body : List Node) (steps : List Layout.Step) (h : blockSteps body = .ok steps) :
    ∀ node ∈ body, node.isStatement = true := by
  rcases exists_of_bind_eq_ok _ _ _ h with ⟨written, hwritten, _⟩
  intro node hnode
  rcases exists_of_mapM_eq_ok _ _ _ hwritten node hnode with ⟨step, hstep⟩
  exact isStatement_of_statementLine node step hstep

theorem isRenderable_of_member_steps (member : Member) (steps : List Layout.Step) (h : member.steps = .ok steps) :
    member.isRenderable = true := by
  cases member with
  | field _ => rfl
  | property p =>
      -- A getter is written as a block of one return.
      rcases exists_of_bind_eq_ok _ _ _ h with ⟨getter, hgetter, _⟩
      exact isStatement_of_blockSteps _ _ hgetter (.ret p.getter) (List.mem_singleton_self _)
  | method m =>
      rcases exists_of_bind_eq_ok _ _ _ h with ⟨body, hbody, _⟩
      exact List.all_eq_true.mpr (isStatement_of_blockSteps _ _ hbody)

theorem isRenderable_of_type_steps (type : TypeDecl) (steps : List Layout.Step) (h : type.steps = .ok steps) :
    type.isRenderable = true := by
  rcases exists_of_bind_eq_ok _ _ _ h with ⟨members, hmembers, _⟩
  refine List.all_eq_true.mpr (fun member hmember => ?_)
  rcases exists_of_mapM_eq_ok _ _ _ hmembers member hmember with ⟨_, hwritten⟩
  rcases exists_of_bind_eq_ok _ _ _ hwritten with ⟨written, hsteps, _⟩
  exact isRenderable_of_member_steps member written hsteps

/-- A tree with a text has its nodes in their places. -/
theorem isRenderable_of_body (unit : CompilationUnit) (body : String) (h : unit.body = .ok body) :
    unit.isRenderable = true := by
  rcases exists_of_bind_eq_ok _ _ _ h with ⟨steps, hsteps, _⟩
  rcases exists_of_bind_eq_ok _ _ _ hsteps with ⟨types, htypes, _⟩
  refine List.all_eq_true.mpr (fun type htype => ?_)
  rcases exists_of_mapM_eq_ok _ _ _ htypes type htype with ⟨_, hwritten⟩
  rcases exists_of_bind_eq_ok _ _ _ hwritten with ⟨written, hsteps, _⟩
  exact isRenderable_of_type_steps type written hsteps

end Syntax

end CodeBehind
