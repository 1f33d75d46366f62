import CodeBehind.Proofs.Rendering
import CodeBehind.Proofs.Syntax.Refusal

/-!
# Trees that are refused

When a tree has no text, and what is said about it.

Three layers can fail: the check of the structure, a statement and an expression. The check comes first and goes
through the whole tree before anything is written, so a tree that breaks a rule is refused for that, whatever its
nodes are. The other two fail while the body is written, and the body is written as one row of statements. The
banner is made after both and is never in the way: rendering its template cannot fail.

## Main results

* `render_refused`: Which trees have a text, and for what the others are refused.

## Theorems

* `render_of_violation`, `render_of_body`: What the parts of a text make of it.
* `render_eq_error`: All refusals.
-/

namespace CodeBehind

open Syntax (CompilationUnit Node Unsupported)

/-- A tree that breaks a rule is refused for it. -/
theorem render_of_violation (unit : CompilationUnit) (banner : Banner) (violation : Syntax.Violation)
    (h : unit.violation? = some violation) : render unit banner = .error (.problem (.ofViolation violation)) := by
  rw [render, h]

/-- A tree without a body is refused for the same node. -/
theorem render_of_body (unit : CompilationUnit) (banner : Banner) (refused : Unsupported)
    (hviolation : unit.violation? = none) (hbody : unit.body = .error refused) :
    render unit banner = .error (.unsupported refused) := by
  rw [render, hviolation, hbody]

/-- The body of a tree is refused for the first statement that is none. -/
theorem body_eq_error (unit : CompilationUnit) (refused : Unsupported) :
    unit.body = .error refused ↔
      ∃ before node after, unit.statements = before ++ node :: after ∧
        (∀ earlier ∈ before, earlier.isStatement = true) ∧ node.isStatement = false ∧ refused = node.refusal := by
  rw [← Syntax.fault?_eq_some, Syntax.fault?_body, List.findSome?_eq_some_iff]
  simp only [Syntax.refusal?_eq_some, Syntax.refusal?_eq_none]
  constructor
  · rintro ⟨before, node, after, hsplit, ⟨hnode, hrefused⟩, hbefore⟩
    exact ⟨before, node, after, hsplit, hbefore, hnode, hrefused⟩
  · rintro ⟨before, node, after, hsplit, hbefore, hnode, hrefused⟩
    exact ⟨before, node, after, hsplit, ⟨hnode, hrefused⟩, hbefore⟩

/-- A tree has a body if each of its statements is one. -/
theorem exists_body_iff (unit : CompilationUnit) :
    (∃ body, unit.body = .ok body) ↔ ∀ node ∈ unit.statements, node.isStatement = true := by
  rw [← Syntax.fault?_eq_none, Syntax.fault?_body, List.findSome?_eq_none_iff]
  simp only [Syntax.refusal?_eq_none]

theorem exists_render_iff (unit : CompilationUnit) (banner : Banner) :
    (∃ text, render unit banner = .ok text) ↔ unit.violation? = none ∧ ∃ body, unit.body = .ok body := by
  constructor
  · rintro ⟨text, h⟩
    rcases exists_body_of_render unit banner text h with ⟨hviolation, body, hbody, _⟩
    exact ⟨hviolation, body, hbody⟩
  · rintro ⟨hviolation, body, hbody⟩
    rw [render, hviolation, hbody]
    exact ⟨_, rfl⟩

/-- A tree is refused for a broken rule, and if there is none for a node in its body. -/
theorem render_eq_error (unit : CompilationUnit) (banner : Banner) (failure : Failure) :
    render unit banner = .error failure ↔
      (∃ violation, unit.violation? = some violation ∧ failure = .problem (.ofViolation violation)) ∨
        unit.violation? = none ∧ ∃ refused, unit.body = .error refused ∧ failure = .unsupported refused := by
  cases hviolation : unit.violation? with
  | some violation =>
      rw [render_of_violation unit banner violation hviolation, Except.error.injEq]
      constructor
      · intro h
        exact Or.inl ⟨violation, rfl, h.symm⟩
      · rintro (⟨_, hsome, h⟩ | ⟨hnone, _⟩)
        · rw [h, Option.some.inj hsome]
        · exact absurd hnone (Option.some_ne_none _)
  | none =>
      -- No rule is broken, so it is the body that decides.
      cases hbody : unit.body with
      | error refused =>
          rw [render_of_body unit banner refused hviolation hbody, Except.error.injEq]
          constructor
          · intro h
            exact Or.inr ⟨rfl, refused, rfl, h.symm⟩
          · rintro (⟨_, hsome, _⟩ | ⟨_, _, heq, h⟩)
            · exact absurd hsome.symm (Option.some_ne_none _)
            · rw [h, Except.error.inj heq]
      | ok body =>
          rcases (exists_render_iff unit banner).mpr ⟨hviolation, body, hbody⟩ with ⟨text, htext⟩
          rw [htext]
          simp only [reduceCtorEq, false_and, exists_false, and_false, or_self]

/-- A tree has a text if it breaks no rule, each getter is an access and each statement returns one. Any other tree
    is refused: for the first rule it breaks, whatever its nodes are, and if it keeps the rules for the first node that
    has no meaning in its place, as the statements of its types and members are written one after the other. The
    banner is never what a tree is refused for, as rendering its template does not fail. -/
theorem render_refused (unit : CompilationUnit) (banner : Banner) :
    ((∃ text, render unit banner = .ok text) ↔
      unit.violation? = none ∧ ∀ type ∈ unit.types, ∀ member ∈ type.members,
        (∀ p, member = .property p → ∃ target name conditional, p.getter = .access target name conditional) ∧
        ∀ m, member = .method m → ∀ node ∈ m.body,
          ∃ target name conditional, node = .ret (.access target name conditional)) ∧
    (∀ failure, render unit banner = .error failure ↔
      (∃ violation, unit.violation? = some violation ∧ failure = .problem (.ofViolation violation)) ∨
      (unit.violation? = none ∧ ∃ before node after, unit.statements = before ++ node :: after ∧
        (∀ earlier ∈ before, earlier.isStatement = true) ∧ node.isStatement = false ∧
        failure = .unsupported node.refusal)) ∧
    ∀ files, ∃ draft, Template.renderFile files .included Template.bannerName
      [(.text "tool_name", .text banner.toolName), (.text "version", .text banner.version)] = .ok draft ∧
      banner.text = Text.normalize draft := by
  refine ⟨?_, fun failure => ?_, fun files => ?_⟩
  · rw [exists_render_iff, exists_body_iff, Syntax.forall_statements_iff]
    simp only [Syntax.isExpression_iff, Syntax.isStatement_iff]
  · rw [render_eq_error]
    simp only [body_eq_error]
    constructor
    · rintro (hviolation | ⟨hnone, refused, ⟨before, node, after, hsplit, hbefore, hnode, rfl⟩, rfl⟩)
      · exact Or.inl hviolation
      · exact Or.inr ⟨hnone, before, node, after, hsplit, hbefore, hnode, rfl⟩
    · rintro (hviolation | ⟨hnone, before, node, after, hsplit, hbefore, hnode, rfl⟩)
      · exact Or.inl hviolation
      · exact Or.inr ⟨hnone, node.refusal, ⟨before, node, after, hsplit, hbefore, hnode, rfl⟩, rfl⟩
  · exact ⟨banner.draft, Template.renderFile_banner files banner, banner.text_eq_normalize⟩

/-- A class with a sound method above a method and a property that cannot be written. -/
def misplacedUnit : CompilationUnit where
  types := [
    { name := "Menu", members := [
        .method { name := "Find", body := [.ret (.access "root" "Query" true)] },
        .method { name := "Open", body := [.ret .block, .datum .missing] },
        .property { name := "Root", typeName := "int", getter := .datum (.other "tuple") }] }]

/-- The first of three misplaced nodes is the one that is named. -/
example : (match render misplacedUnit Banner.standard with
    | .error failure => failure.message
    | .ok _ => "") = "Unsupported expression node: Block" := by
  decide +kernel

/-- A rule that is broken comes before all of them. -/
example : (match render { misplacedUnit with imports := [""] } Banner.standard with
    | .error failure => failure.message
    | .ok _ => "") = "Import names cannot be empty" := by
  decide +kernel

end CodeBehind
