import CodeBehind.Proofs.Syntax.Reference
import CodeBehind.Proofs.Text.Margins
import CodeBehind.Syntax.Source

/-!
# The lines that are written

What writing a tree leaves behind, before the canonical pass.

A tree is turned into steps, and the steps into lines while a depth is carried along. A declaration opens as
many blocks as it closes, so its steps come back to the depth they began at and their lines do not depend on
what follows. `LaysOut` says this of some steps and their lines. It is closed under putting steps in a row and
between braces, and that is all declarations do with them.

The lines come out as the layout has them, but for the blanks: there is one after each member, one after each
type and one after the imports, needed or not.

## Main definitions

* `LaysOut`: Some steps come out as some lines, whatever follows.
* `TypeDecl.written`, `CompilationUnit.written`: The lines of a class and of a file, surplus blanks included.

## Theorems

* `laysOut_braced`: Steps in a block come out one level deeper.
* `exists_member_steps`, `exists_type_steps`, `exists_steps`: Declarations that can be written, and as which lines.
-/

namespace CodeBehind

namespace Syntax

open Text (indentUnit paragraphs tidyLine)
open Layout (Step lineAt linesAt)

/-- Some steps that begin at a depth come out as some lines and lead back to it. -/
def LaysOut (depth : Nat) (steps : List Step) (ls : List (List Char)) : Prop :=
  ∀ rest, linesAt indentUnit.toList depth (steps ++ rest) = ls ++ linesAt indentUnit.toList depth rest

/-- The lines a class is written as. -/
def TypeDecl.written (type : TypeDecl) : List (List Char) :=
  indented 0 (" ".intercalate type.headWords) ::
    braced 0 (type.members.flatMap fun member => member.lines 1 ++ [[]])

/-- The lines a file is written as. -/
def CompilationUnit.written (unit : CompilationUnit) : List (List Char) :=
  importLines unit.imports ++ [] :: unit.types.flatMap fun type => type.written ++ [[]]

theorem lineAt_eq_indented (depth : Nat) (text : String) (htext : text.toList ≠ []) :
    lineAt indentUnit.toList depth text.toList = indented depth text := by
  have hempty : text.toList.isEmpty = false := List.isEmpty_eq_false_iff.mpr htext
  rw [lineAt, hempty, Text.repeated_indentUnit]
  rfl

theorem laysOut_nil (depth : Nat) : LaysOut depth [] [] :=
  fun _ => rfl

theorem laysOut_append (depth : Nat) (steps steps' : List Step) (ls ls' : List (List Char))
    (h : LaysOut depth steps ls) (h' : LaysOut depth steps' ls') : LaysOut depth (steps ++ steps') (ls ++ ls') := by
  intro rest
  rw [List.append_assoc, h, h', List.append_assoc]

theorem laysOut_line (depth : Nat) (text : String) (htext : text.toList ≠ []) :
    LaysOut depth [.line text] [indented depth text] := by
  intro rest
  rw [List.singleton_append, linesAt, lineAt_eq_indented depth text htext]
  rfl

theorem laysOut_blank (depth : Nat) : LaysOut depth [.line ""] [[]] :=
  fun _ => rfl

theorem laysOut_lines (depth : Nat) (texts : List String) (htexts : ∀ text ∈ texts, text.toList ≠ []) :
    LaysOut depth (texts.map .line) (texts.map (indented depth)) := by
  induction texts with
  | nil => exact laysOut_nil depth
  | cons text rest ih =>
      exact laysOut_append depth _ _ _ _ (laysOut_line depth text (htexts text (List.mem_cons_self ..)))
        (ih (fun t ht => htexts t (List.mem_cons_of_mem text ht)))

/-- Steps in a block come out one level deeper. -/
theorem laysOut_braced (depth : Nat) (steps : List Step) (ls : List (List Char)) (h : LaysOut (depth + 1) steps ls) :
    LaysOut depth (.openBlock :: (steps ++ [.closeBlock])) (braced depth ls) := by
  intro rest
  -- The depth is an integer that goes up and comes back.
  have hback : ((depth + 1 : Nat) : Int) - 1 = depth := by omega
  have hopen : lineAt indentUnit.toList depth ['{'] = indented depth "\x7b" :=
    lineAt_eq_indented depth "\x7b" (by decide)
  have hclose : lineAt indentUnit.toList depth ['}'] = indented depth "\x7d" :=
    lineAt_eq_indented depth "\x7d" (by decide)
  have hinner := h (.closeBlock :: rest)
  rw [linesAt, hback, hclose] at hinner
  rw [List.cons_append, List.append_assoc, List.singleton_append, linesAt, hopen, ← Int.natCast_succ, hinner]
  rw [braced, List.cons_append, List.append_assoc, List.singleton_append]

/-- Declarations that are written one after the other. -/
theorem laysOut_mapM {α : Type} (depth : Nat) (write : α → Except Unsupported (List Step))
    (ls : α → List (List Char)) (xs : List α)
    (h : ∀ x ∈ xs, ∃ steps, write x = .ok steps ∧ LaysOut depth steps (ls x)) :
    ∃ all, xs.mapM write = .ok all ∧ LaysOut depth all.flatten (xs.flatMap ls) := by
  induction xs with
  | nil => exact ⟨[], rfl, laysOut_nil depth⟩
  | cons x rest ih =>
      rcases h x (List.mem_cons_self ..) with ⟨steps, hsteps, hlays⟩
      rcases ih (fun y hy => h y (List.mem_cons_of_mem x hy)) with ⟨all, hall, hrest⟩
      refine ⟨steps :: all, ?_, laysOut_append depth _ _ _ _ hlays hrest⟩
      rw [List.mapM_cons, hsteps, hall]
      rfl

/-- An expression in its place is written. -/
theorem expressionText_eq (node : Node) (h : node.isExpression = true) : expressionText node = .ok node.expression := by
  cases node with
  | access _ _ _ => rfl
  | ret _ => exact absurd h Bool.false_ne_true
  | block => exact absurd h Bool.false_ne_true
  | datum _ => exact absurd h Bool.false_ne_true

/-- A statement in its place is written as one line. -/
theorem statementLine_eq (node : Node) (h : node.isStatement = true) :
    statementLine node = .ok (.line node.statement) := by
  rcases exists_ret_of_isStatement node h with ⟨e, rfl, he⟩
  rw [statementLine, expressionText_eq e he]
  rfl

theorem statement_ne_nil (node : Node) (h : node.isStatement = true) : node.statement.toList ≠ [] := by
  rcases exists_ret_of_isStatement node h with ⟨e, rfl, _⟩
  rw [Node.statement, String.toList_append]
  exact List.append_ne_nil_of_right_ne_nil _ (by decide)

theorem mapM_statementLine (body : List Node) (h : ∀ node ∈ body, node.isStatement = true) :
    body.mapM statementLine = .ok ((body.map Node.statement).map .line) := by
  induction body with
  | nil => rfl
  | cons node rest ih =>
      rw [List.mapM_cons, statementLine_eq node (h node (List.mem_cons_self ..)),
        ih (fun n hn => h n (List.mem_cons_of_mem node hn))]
      rfl

/-- Statements in their place are written as a block. -/
theorem exists_blockSteps (depth : Nat) (body : List Node) (h : ∀ node ∈ body, node.isStatement = true) :
    ∃ steps, blockSteps body = .ok steps ∧
      LaysOut depth steps (braced depth (body.map fun node => indented (depth + 1) node.statement)) := by
  have htexts : ∀ text ∈ body.map Node.statement, text.toList ≠ [] := by
    intro text htext
    rcases List.mem_map.mp htext with ⟨node, hnode, heq⟩
    rw [← heq]
    exact statement_ne_nil node (h node hnode)
  have hlines : body.map (fun node => indented (depth + 1) node.statement) =
      (body.map Node.statement).map (indented (depth + 1)) := by
    rw [List.map_map]
    rfl
  refine ⟨.openBlock :: ((body.map Node.statement).map .line ++ [.closeBlock]), ?_, ?_⟩
  · rw [blockSteps, mapM_statementLine body h]
    rfl
  · rw [hlines]
    exact laysOut_braced depth _ _ (laysOut_lines (depth + 1) _ htexts)

theorem declared_eq (visibility : Visibility) (typeName name : String) :
    declared visibility typeName name = visibility.keyword ++ " " ++ typeName ++ " " ++ name := by
  rw [declared, String.intercalate_cons_cons, String.intercalate_cons_cons, String.intercalate_singleton]
  simp only [String.append_assoc]

theorem declared_ne_nil (visibility : Visibility) (typeName name : String) :
    (declared visibility typeName name).toList ≠ [] := by
  rw [declared_eq, String.append_assoc, String.append_assoc, String.append_assoc, String.toList_append]
  exact List.append_ne_nil_of_left_ne_nil (by cases visibility <;> decide) _

/-- The first line of a class is made of its words. -/
theorem header_eq (type : TypeDecl) : type.header = " ".intercalate type.headWords := by
  -- With and without the modifier, and with and without a base.
  rw [TypeDecl.header, TypeDecl.headWords]
  split <;> split <;>
    simp only [List.nil_append, List.cons_append, String.intercalate_cons_cons, String.intercalate_singleton,
      String.append_assoc, String.append_empty] <;> rfl

/-- A member whose nodes are in their places is written as its lines. -/
theorem exists_member_steps (depth : Nat) (member : Member) (h : member.isRenderable = true) :
    ∃ steps, member.steps = .ok steps ∧ LaysOut depth steps (member.lines depth) := by
  cases member with
  | field f =>
      have hfield : (declared f.visibility f.typeName f.name ++ ";").toList ≠ [] := by
        rw [String.toList_append]
        exact List.append_ne_nil_of_right_ne_nil _ (by decide)
      have hattributes : ∀ text ∈ f.attributes.map (fun name => "[" ++ name ++ "]"), text.toList ≠ [] := by
        intro text htext
        rcases List.mem_map.mp htext with ⟨name, _, heq⟩
        rw [← heq, String.toList_append]
        exact List.append_ne_nil_of_right_ne_nil _ (by decide)
      refine ⟨f.steps, rfl, ?_⟩
      rw [Field.steps, Member.lines, Field.lines, ← declared_eq]
      refine laysOut_append depth _ _ _ _ ?_ (laysOut_line depth _ hfield)
      have hlays := laysOut_lines depth _ hattributes
      rw [List.map_map, List.map_map] at hlays
      exact hlays
  | property p =>
      have hstatement : ∀ node ∈ [Node.ret p.getter], node.isStatement = true := by
        intro node hnode
        rw [List.mem_singleton.mp hnode]
        exact h
      rcases exists_blockSteps (depth + 1) [.ret p.getter] hstatement with ⟨getter, hgetter, hlays⟩
      -- The block of the getter stands one level deeper, in the block of the property.
      refine ⟨.line (declared p.visibility p.typeName p.name) ::
        .openBlock :: (.line "get" :: getter ++ [.closeBlock]), ?_, ?_⟩
      · rw [Member.steps, Property.steps, hgetter, declared_eq]
        rfl
      · exact laysOut_append depth _ _ [_] _ (laysOut_line depth _ (declared_ne_nil _ _ _))
          (laysOut_braced depth _ _
            (laysOut_append (depth + 1) [_] _ [_] _ (laysOut_line (depth + 1) "get" (by decide)) hlays))
  | method m =>
      rcases exists_blockSteps depth m.body (List.all_eq_true.mp h) with ⟨body, hbody, hlays⟩
      have hheader : (declared m.visibility m.returnType m.name ++ "(" ++ ", ".intercalate m.parameters ++
          ")").toList ≠ [] := by
        rw [String.toList_append]
        exact List.append_ne_nil_of_right_ne_nil _ (by decide)
      refine ⟨.line (declared m.visibility m.returnType m.name ++ "(" ++ ", ".intercalate m.parameters ++ ")") ::
        body, ?_, ?_⟩
      · rw [Member.steps, Method.steps, hbody, declared_eq]
        rfl
      · exact laysOut_append depth [_] _ [_] _ (laysOut_line depth _ hheader) hlays

/-- A part that is written as some lines is written with a blank line below them if a blank line follows it. -/
theorem exists_blank_below (depth : Nat) (part : Except Unsupported (List Step)) (ls : List (List Char))
    (h : ∃ steps, part = .ok steps ∧ LaysOut depth steps ls) :
    ∃ steps, (do return (← part) ++ [.line ""] : Except Unsupported (List Step)) = .ok steps ∧
      LaysOut depth steps (ls ++ [[]]) := by
  rcases h with ⟨steps, rfl, hlays⟩
  exact ⟨steps ++ [.line ""], rfl, laysOut_append depth _ _ _ _ hlays (laysOut_blank depth)⟩

/-- A class whose nodes are in their places is written, with a blank after each member. -/
theorem exists_type_steps (type : TypeDecl) (h : type.isRenderable = true) :
    ∃ steps, type.steps = .ok steps ∧ LaysOut 0 steps type.written := by
  have hmember : ∀ member ∈ type.members, ∃ steps,
      (do return (← member.steps) ++ [.line ""] : Except Unsupported (List Step)) = .ok steps ∧
        LaysOut 1 steps (member.lines 1 ++ [[]]) := fun member hmember =>
    exists_blank_below 1 _ _ (exists_member_steps 1 member (List.all_eq_true.mp h member hmember))
  have hheader : type.header.toList ≠ [] := by
    rw [TypeDecl.header, String.append_assoc, String.append_assoc, String.append_assoc, String.toList_append]
    exact List.append_ne_nil_of_left_ne_nil (by cases type.visibility <;> decide) _
  rcases laysOut_mapM 1 _ _ type.members hmember with ⟨all, hall, hlays⟩
  refine ⟨.line type.header :: .openBlock :: (all.flatten ++ [.closeBlock]), ?_, ?_⟩
  · rw [TypeDecl.steps, hall]
    rfl
  · rw [TypeDecl.written, ← header_eq]
    exact laysOut_append 0 [_] _ [_] _ (laysOut_line 0 _ hheader) (laysOut_braced 0 _ _ hlays)

/-- A file whose nodes are in their places is written, with a blank after its imports and each class. -/
theorem exists_steps (unit : CompilationUnit) (h : unit.isRenderable = true) :
    ∃ steps, unit.steps = .ok steps ∧ LaysOut 0 steps unit.written := by
  have htype : ∀ type ∈ unit.types, ∃ steps,
      (do return (← type.steps) ++ [.line ""] : Except Unsupported (List Step)) = .ok steps ∧
        LaysOut 0 steps (type.written ++ [[]]) := fun type htype =>
    exists_blank_below 0 _ _ (exists_type_steps type (List.all_eq_true.mp h type htype))
  have himports : ∀ text ∈ unit.imports.map (fun name => "using " ++ name ++ ";"), text.toList ≠ [] := by
    intro text htext
    rcases List.mem_map.mp htext with ⟨name, _, heq⟩
    rw [← heq, String.toList_append]
    exact List.append_ne_nil_of_right_ne_nil _ (by decide)
  rcases laysOut_mapM 0 _ _ unit.types htype with ⟨all, hall, hlays⟩
  refine ⟨unit.imports.map (fun name => .line ("using " ++ name ++ ";")) ++ .line "" :: all.flatten, ?_, ?_⟩
  · rw [CompilationUnit.steps, hall]
    rfl
  -- The imports are one line each, and then a blank one.
  · have hlines := laysOut_lines 0 _ himports
    rw [List.map_map, List.map_map] at hlines
    exact laysOut_append 0 _ _ _ _ hlines (laysOut_append 0 [_] _ [_] _ (laysOut_blank 0) hlays)

end Syntax

end CodeBehind
