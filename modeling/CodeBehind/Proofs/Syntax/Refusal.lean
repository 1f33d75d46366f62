import CodeBehind.Proofs.Syntax.Reference
import CodeBehind.Syntax.Source

/-!
# The node that stops the writing

Which trees cannot be written, and which of their nodes is to blame.

Writing is nested as the tree is, and at each level it stops at the first part that fails. What it fails with is
passed on unchanged through all levels, so the nesting can be forgotten: the fault of a file is the first one among
its statements, put in one row in the order in which they are written. A getter counts as the statement that returns
it.

Only the fault of a step matters here and never its result, so each step is looked at through `fault?`, which keeps
nothing else. It turns a sequence of steps into a search, and the searches of all levels into one.

## Main definitions

* `fault?`: The fault of a step.
* `CompilationUnit.statements`: The statements of a file, in the order in which they are written.
* `Node.refusal`: What a node that cannot be written is refused as.

## Main results

* `fault?_body`: A tree is refused for the first of its statements that cannot be written.

## Theorems

* `fault?_bind`, `fault?_mapM`: The fault of steps that follow one another.
* `fault?_statementLine`, `fault?_member_steps`, `fault?_type_steps`: The fault of a declaration.
* `isStatement_iff`, `forall_statements_iff`: The statements that can be written.
-/

namespace CodeBehind

namespace Syntax

/-- The fault of a step, if it has one. -/
def fault? {ε α : Type} : Except ε α → Option ε
  | .error fault => some fault
  | .ok _ => none

/-- The statements of a type, in the order in which they are written. -/
def TypeDecl.statements (type : TypeDecl) : List Node :=
  type.members.flatMap Member.statements

/-- The statements of a file, in the order in which they are written. -/
def CompilationUnit.statements (unit : CompilationUnit) : List Node :=
  unit.types.flatMap TypeDecl.statements

/-- What a node in the place of a statement is refused as: a return for what it should return. -/
def Node.refusal : Node → Unsupported
  | ret expression => .expression expression
  | node => .statement node

/-- The refusal of a node that cannot be written. -/
def Node.refusal? (node : Node) : Option Unsupported :=
  if node.isStatement then none else some node.refusal

/-! ## Faults of steps -/

theorem fault?_eq_some {ε α : Type} (x : Except ε α) (e : ε) : fault? x = some e ↔ x = .error e := by
  cases x with
  | error fault => rw [fault?, Option.some.injEq, Except.error.injEq]
  | ok _ => exact ⟨fun h => absurd h.symm (Option.some_ne_none e), fun h => Except.noConfusion rfl rfl (heq_of_eq h)⟩

theorem fault?_eq_none {ε α : Type} (x : Except ε α) : fault? x = none ↔ ∃ a, x = .ok a := by
  cases x with
  | error fault =>
      exact ⟨fun h => absurd h (Option.some_ne_none fault), fun ⟨_, h⟩ => Except.noConfusion rfl rfl (heq_of_eq h)⟩
  | ok a => exact ⟨fun _ => ⟨a, rfl⟩, fun _ => rfl⟩

/-- What is put together from the results of a step has no fault of its own. -/
theorem fault?_bind {ε α β : Type} (x : Except ε α) (f : α → β) :
    fault? (x >>= fun a => pure (f a)) = fault? x := by
  cases x with
  | error _ => rfl
  | ok _ => rfl

/-- The fault of a row of steps is the fault of the first step that has one. -/
theorem fault?_mapM {ε α β : Type} (f : α → Except ε β) (xs : List α) :
    fault? (xs.mapM f) = xs.findSome? fun x => fault? (f x) := by
  induction xs with
  | nil => rfl
  | cons x rest ih =>
      rw [List.mapM_cons, List.findSome?_cons, ← ih]
      -- Behind a step with a result the fault is that of the rest, whatever is made of the results.
      cases f x with
      | error _ => rfl
      | ok y => exact fault?_bind (rest.mapM f) (y :: ·)

/-- A search through rows of rows is one through a single row. -/
theorem findSome?_flatMap {α β γ : Type} (f : α → List β) (g : β → Option γ) (xs : List α) :
    (xs.flatMap f).findSome? g = xs.findSome? fun x => (f x).findSome? g := by
  induction xs with
  | nil => rfl
  | cons x rest ih =>
      rw [List.flatMap_cons, List.findSome?_append, List.findSome?_cons, ih]
      cases (f x).findSome? g with
      | none => rfl
      | some _ => rfl

/-! ## Faults of declarations -/

theorem fault?_statementLine (node : Node) : fault? (statementLine node) = node.refusal? := by
  cases node with
  | ret e =>
      rw [statementLine, fault?_bind]
      -- A return is as good as what it returns.
      cases e <;> rfl
  | access _ _ _ => rfl
  | block => rfl
  | datum _ => rfl

theorem fault?_blockSteps (statements : List Node) :
    fault? (blockSteps statements) = statements.findSome? Node.refusal? := by
  rw [blockSteps, fault?_bind, fault?_mapM, funext fault?_statementLine]

theorem fault?_member_steps (member : Member) : fault? member.steps = member.statements.findSome? Node.refusal? := by
  cases member with
  | field _ => rfl
  | property p =>
      rw [Member.steps, Property.steps, fault?_bind, fault?_blockSteps]
      rfl
  | method m =>
      rw [Member.steps, Method.steps, fault?_bind, fault?_blockSteps]
      rfl

theorem fault?_type_steps (type : TypeDecl) : fault? type.steps = type.statements.findSome? Node.refusal? := by
  rw [TypeDecl.steps, fault?_bind, fault?_mapM, TypeDecl.statements, findSome?_flatMap]
  simp only [fault?_bind, fault?_member_steps]

/-- A tree is refused for the first of its statements that cannot be written. -/
theorem fault?_body (unit : CompilationUnit) : fault? unit.body = unit.statements.findSome? Node.refusal? := by
  rw [CompilationUnit.body, fault?_bind, CompilationUnit.steps, fault?_bind, fault?_mapM,
    CompilationUnit.statements, findSome?_flatMap]
  simp only [fault?_bind, fault?_type_steps]

/-! ## Nodes in their places -/

theorem refusal?_eq_none (node : Node) : node.refusal? = none ↔ node.isStatement = true := by
  by_cases h : node.isStatement = true
  · rw [Node.refusal?, if_pos h]
    exact ⟨fun _ => h, fun _ => rfl⟩
  · rw [Node.refusal?, if_neg h]
    exact ⟨fun hnone => absurd hnone (Option.some_ne_none _), fun hstatement => absurd hstatement h⟩

theorem refusal?_eq_some (node : Node) (refused : Unsupported) :
    node.refusal? = some refused ↔ node.isStatement = false ∧ refused = node.refusal := by
  by_cases h : node.isStatement = true
  · rw [Node.refusal?, if_pos h, h]
    exact ⟨fun hsome => absurd hsome.symm (Option.some_ne_none _), fun hfalse => absurd hfalse.1.symm Bool.false_ne_true⟩
  · rw [Node.refusal?, if_neg h, Option.some.injEq]
    exact ⟨fun heq => ⟨Bool.eq_false_iff.mpr h, heq.symm⟩, fun heq => heq.2.symm⟩

theorem isExpression_iff (node : Node) :
    node.isExpression = true ↔ ∃ target member nullConditional, node = .access target member nullConditional := by
  cases node with
  | access target member nullConditional => exact ⟨fun _ => ⟨target, member, nullConditional, rfl⟩, fun _ => rfl⟩
  | ret _ => simp only [Node.isExpression, Bool.false_eq_true, reduceCtorEq, exists_false]
  | block => simp only [Node.isExpression, Bool.false_eq_true, reduceCtorEq, exists_false]
  | datum _ => simp only [Node.isExpression, Bool.false_eq_true, reduceCtorEq, exists_false]

theorem isStatement_iff (node : Node) :
    node.isStatement = true ↔
      ∃ target member nullConditional, node = .ret (.access target member nullConditional) := by
  cases node with
  | ret e =>
      simp only [Node.ret.injEq]
      exact isExpression_iff e
  | access _ _ _ => simp only [Node.isStatement, Bool.false_eq_true, reduceCtorEq, exists_false]
  | block => simp only [Node.isStatement, Bool.false_eq_true, reduceCtorEq, exists_false]
  | datum _ => simp only [Node.isStatement, Bool.false_eq_true, reduceCtorEq, exists_false]

/-- The statements of a file are the getters of its properties and the bodies of its methods. -/
theorem forall_statements_iff (unit : CompilationUnit) :
    (∀ node ∈ unit.statements, node.isStatement = true) ↔
      ∀ type ∈ unit.types, ∀ member ∈ type.members,
        (∀ p, member = .property p → p.getter.isExpression = true) ∧
        ∀ m, member = .method m → ∀ node ∈ m.body, node.isStatement = true := by
  simp only [CompilationUnit.statements, TypeDecl.statements, List.mem_flatMap]
  constructor
  · intro h type htype member hmember
    constructor
    · rintro p rfl
      exact h (.ret p.getter) ⟨type, htype, _, hmember, List.mem_singleton_self _⟩
    · rintro m rfl node hnode
      exact h node ⟨type, htype, _, hmember, hnode⟩
  · rintro h node ⟨type, htype, member, hmember, hnode⟩
    -- A field has no statements, so it adds nothing.
    rcases h type htype member hmember with ⟨hgetter, hbody⟩
    cases member with
    | field _ => exact absurd hnode List.not_mem_nil
    | property p =>
        rw [List.mem_singleton.mp hnode]
        exact hgetter p rfl
    | method m => exact hbody m rfl node hnode

end Syntax

end CodeBehind
