import CodeBehind.Proofs.Text.Pieces
import CodeBehind.Proofs.Text.Settle
import CodeBehind.Syntax.Basic

/-!
# The layout of a source file

What the text of a tree should look like, written down directly.

The writer and the canonical pass arrive at the text of a file in two rounds: one emits too many blank lines,
the other takes some of them away. Here the lines are listed as they stand in the file, each with its depth,
and a blank line is put between two paragraphs because they are two paragraphs. Nothing is emitted that is not
kept, except that tabs in names are still expanded and blanks at the end of a line still dropped.

The layout is defined for every tree, those with a node in the wrong place included; it means something where
`isRenderable` holds.

## Main definitions

* `Node.isExpression`, `Node.isStatement`: The nodes that have a meaning in these places.
* `CompilationUnit.isRenderable`: Every node of a file is in a place where it has a meaning.
* `CompilationUnit.strings`: All the texts of a file.
* `indented`, `braced`: A line at a depth, and lines between braces.
* `Member.lines`, `TypeDecl.lines`, `CompilationUnit.lines`: The lines of declarations.
* `Member.headline`: The line of a member that its attributes are above and its block is below.
* `CompilationUnit.layout`: The text of a file.

## Theorems

* `forall_mem_member_lines`, `forall_mem_lines`: The lines of members and files, one kind after the other.
* `notMem_lines`: A control character in the lines of a file comes from its texts.
-/

namespace CodeBehind

namespace Syntax

open Text (notMem_append notMem_intercalate notMem_of_lt_space paragraphs terminate tidyLine)

/-- Whether a node has a meaning as an expression. -/
def Node.isExpression : Node → Bool
  | access .. => true
  | _ => false

/-- Whether a node has a meaning as a statement. -/
def Node.isStatement : Node → Bool
  | ret expression => expression.isExpression
  | _ => false

/-- Whether every node of a member has a meaning in its place. -/
def Member.isRenderable : Member → Bool
  | field _ => true
  | property p => p.getter.isExpression
  | method m => m.body.all Node.isStatement

/-- Whether every node of a type has a meaning in its place. -/
def TypeDecl.isRenderable (type : TypeDecl) : Bool :=
  type.members.all Member.isRenderable

/-- Whether every node of a file has a meaning in its place. -/
def CompilationUnit.isRenderable (unit : CompilationUnit) : Bool :=
  unit.types.all TypeDecl.isRenderable

/-- The texts of a node. -/
def Node.strings : Node → List String
  | access target member _ => [target, member]
  | ret expression => expression.strings
  | block => []
  | datum _ => []

/-- The texts of a member. -/
def Member.strings : Member → List String
  | field f => f.name :: f.typeName :: f.attributes
  | property p => p.name :: p.typeName :: p.getter.strings
  | method m => m.name :: m.returnType :: m.parameters ++ m.body.flatMap Node.strings

/-- The texts of a type. -/
def TypeDecl.strings (type : TypeDecl) : List String :=
  type.name :: type.baseType :: type.members.flatMap Member.strings

/-- The texts of a file. -/
def CompilationUnit.strings (unit : CompilationUnit) : List String :=
  unit.imports ++ unit.types.flatMap TypeDecl.strings

/-- A line at a depth, four spaces for each. -/
def indented (depth : Nat) (text : String) : List Char :=
  List.replicate (4 * depth) ' ' ++ text.toList

/-- Lines between braces that stand at a depth. -/
def braced (depth : Nat) (inner : List (List Char)) : List (List Char) :=
  indented depth "\x7b" :: (inner ++ [indented depth "\x7d"])

/-- An expression; empty for a node that is none. -/
def Node.expression : Node → String
  | access target member nullConditional => target ++ (if nullConditional then "?." else ".") ++ member
  | _ => ""

/-- A statement; empty for a node that is none. -/
def Node.statement : Node → String
  | ret e => "return " ++ e.expression ++ ";"
  | _ => ""

/-- The words a member is declared with. -/
def declared (visibility : Visibility) (typeName name : String) : String :=
  " ".intercalate [visibility.keyword, typeName, name]

/-- The lines of a field. -/
def Field.lines (depth : Nat) (field : Field) : List (List Char) :=
  field.attributes.map (fun name => indented depth ("[" ++ name ++ "]")) ++
    [indented depth (declared field.visibility field.typeName field.name ++ ";")]

/-- The lines of a property. -/
def Property.lines (depth : Nat) (property : Property) : List (List Char) :=
  indented depth (declared property.visibility property.typeName property.name) ::
    braced depth (indented (depth + 1) "get" ::
      braced (depth + 1) [indented (depth + 2) (Node.ret property.getter).statement])

/-- The lines of a method. -/
def Method.lines (depth : Nat) (method : Method) : List (List Char) :=
  indented depth
      (declared method.visibility method.returnType method.name ++ "(" ++ ", ".intercalate method.parameters ++ ")") ::
    braced depth (method.body.map fun node => indented (depth + 1) node.statement)

/-- The lines of a member. -/
def Member.lines (depth : Nat) : Member → List (List Char)
  | field f => f.lines depth
  | property p => p.lines depth
  | method m => m.lines depth

/-- The line of an attribute. -/
def attributeLine (depth : Nat) (name : String) : List Char :=
  indented depth ("[" ++ name ++ "]")

/-- The line below the attributes of a member. -/
def Member.headline : Member → String
  | field f => declared f.visibility f.typeName f.name ++ ";"
  | property p => declared p.visibility p.typeName p.name
  | method m => declared m.visibility m.returnType m.name ++ "(" ++ ", ".intercalate m.parameters ++ ")"

/-- The lines below that. -/
def Member.blockLines (depth : Nat) : Member → List (List Char)
  | field _ => []
  | property p => braced depth (indented (depth + 1) "get" ::
      braced (depth + 1) [indented (depth + 2) (Node.ret p.getter).statement])
  | method m => braced depth (m.body.map fun node => indented (depth + 1) node.statement)

/-- The statements in the blocks of a member. -/
def Member.statements : Member → List Node
  | field _ => []
  | property p => [.ret p.getter]
  | method m => m.body

/-- The words that begin a class. -/
def TypeDecl.headWords (type : TypeDecl) : List String :=
  type.visibility.keyword :: ((if type.isPartial then ["partial"] else []) ++
    "class" :: type.name :: (if type.baseType = "" then [] else [":", type.baseType]))

/-- The lines of a class, its members one paragraph each. -/
def TypeDecl.lines (type : TypeDecl) : List (List Char) :=
  indented 0 (" ".intercalate type.headWords) :: braced 0 (paragraphs (type.members.map (Member.lines 1)))

/-- The lines of the imports. -/
def importLines (imports : List String) : List (List Char) :=
  imports.map fun name => indented 0 ("using " ++ name ++ ";")

/-- The lines of a file: one paragraph for its imports, if there are any, and one for each type. -/
def CompilationUnit.lines (unit : CompilationUnit) : List (List Char) :=
  paragraphs ((if unit.imports = [] then [] else [importLines unit.imports]) ++ unit.types.map TypeDecl.lines)

/-- The text of a file: its lines without tabs and without blanks at their ends, a line feed after each. -/
def CompilationUnit.layout (unit : CompilationUnit) : String :=
  String.ofList (terminate (unit.lines.map tidyLine))

theorem member_lines_eq (depth : Nat) (member : Member) :
    member.lines depth =
      member.attributes.map (attributeLine depth) ++ indented depth member.headline :: member.blockLines depth := by
  cases member <;> rfl

/-- A statement is a return of an expression. -/
theorem exists_ret_of_isStatement (node : Node) (h : node.isStatement = true) :
    ∃ e, node = .ret e ∧ e.isExpression = true := by
  cases node with
  | ret e => exact ⟨e, rfl, h⟩
  | access _ _ _ => exact absurd h Bool.false_ne_true
  | block => exact absurd h Bool.false_ne_true
  | datum _ => exact absurd h Bool.false_ne_true

/-- The nodes of a member that can be written are statements. -/
theorem isStatement_of_mem_statements (member : Member) (h : member.isRenderable = true) :
    ∀ node ∈ member.statements, node.isStatement = true := by
  intro node hnode
  cases member with
  | field _ => exact absurd hnode List.not_mem_nil
  | property p =>
      rw [List.mem_singleton.mp hnode]
      exact h
  | method m => exact List.all_eq_true.mp h node hnode

theorem attributes_subset_strings (member : Member) : member.attributes ⊆ member.strings := by
  cases member with
  | field _ => exact fun _ hname => List.mem_cons_of_mem _ (List.mem_cons_of_mem _ hname)
  | property _ => exact List.nil_subset _
  | method _ => exact List.nil_subset _

/-- The texts of a statement are texts of its member. -/
theorem strings_subset_of_mem_statements (member : Member) (node : Node) (hnode : node ∈ member.statements) :
    node.strings ⊆ member.strings := by
  intro s hs
  cases member with
  | field _ => exact absurd hnode List.not_mem_nil
  | property _ =>
      rw [List.mem_singleton.mp hnode] at hs
      exact List.mem_cons_of_mem _ (List.mem_cons_of_mem _ hs)
  | method _ => exact List.mem_append_right _ (List.mem_flatMap.mpr ⟨node, hnode, hs⟩)

/-- What holds of both braces and of the lines between them holds of all lines of a block. -/
theorem forall_mem_braced (depth : Nat) (inner : List (List Char)) (P : List Char → Prop)
    (hopen : P (indented depth "\x7b")) (hclose : P (indented depth "\x7d")) (hinner : ∀ l ∈ inner, P l) :
    ∀ l ∈ braced depth inner, P l := by
  intro l hl
  rcases List.mem_cons.mp hl with heq | hrest
  · rw [heq]
    exact hopen
  · rcases List.mem_append.mp hrest with hmem | hmem
    · exact hinner l hmem
    · rw [List.mem_singleton.mp hmem]
      exact hclose

/-- What holds of the attributes, of the line below them, of the statements and of the lines that are the same
    in every member holds of all lines of a member. -/
theorem forall_mem_member_lines (depth : Nat) (member : Member) (P : List Char → Prop)
    (hopen : ∀ d, P (indented d "\x7b")) (hclose : ∀ d, P (indented d "\x7d")) (hget : ∀ d, P (indented d "get"))
    (hattribute : ∀ name ∈ member.attributes, P (attributeLine depth name))
    (hheadline : P (indented depth member.headline))
    (hstatement : ∀ node ∈ member.statements, ∀ d, P (indented d node.statement)) :
    ∀ l ∈ member.lines depth, P l := by
  -- Below the headline there are braces, for the kinds of members that have something between them.
  have hblock : ∀ l ∈ member.blockLines depth, P l := by
    cases member with
    | field _ => exact fun l hl => absurd hl List.not_mem_nil
    | property p =>
        refine forall_mem_braced depth _ P (hopen depth) (hclose depth) (fun x hx => ?_)
        rcases List.mem_cons.mp hx with heq | hx
        · rw [heq]
          exact hget _
        · -- The getter is a block of one statement inside the block of the property.
          refine forall_mem_braced (depth + 1) _ P (hopen _) (hclose _) (fun y hy => ?_) x hx
          rw [List.mem_singleton.mp hy]
          exact hstatement _ (List.mem_singleton_self _) _
    | method m =>
        refine forall_mem_braced depth _ P (hopen depth) (hclose depth) (fun x hx => ?_)
        rcases List.mem_map.mp hx with ⟨node, hnode, heq⟩
        rw [← heq]
        exact hstatement node hnode _
  intro l hl
  rw [member_lines_eq, List.mem_append, List.mem_cons] at hl
  rcases hl with hattributes | heq | hbelow
  · rcases List.mem_map.mp hattributes with ⟨name, hname, heq⟩
    rw [← heq]
    exact hattribute name hname
  · rw [heq]
    exact hheadline
  · exact hblock l hbelow

section

variable (c : Char) (hc : c < ' ')
include hc

theorem notMem_indented (depth : Nat) (text : String) (h : c ∉ text.toList) : c ∉ indented depth text := by
  rw [indented, List.mem_append, not_or]
  refine ⟨fun hmargin => ?_, h⟩
  rw [List.eq_of_mem_replicate hmargin] at hc
  exact absurd hc (by decide)

theorem notMem_keyword (visibility : Visibility) : c ∉ visibility.keyword.toList := by
  cases visibility <;> exact notMem_of_lt_space c hc _ (by decide)

theorem notMem_declared (visibility : Visibility) (typeName name : String) (htype : c ∉ typeName.toList)
    (hname : c ∉ name.toList) : c ∉ (declared visibility typeName name).toList := by
  refine notMem_intercalate c " " _ (notMem_of_lt_space c hc _ (by decide)) ?_
  intro s hs
  rcases List.mem_cons.mp hs with heq | hs
  · rw [heq]
    exact notMem_keyword c hc visibility
  · rcases List.mem_cons.mp hs with heq | hs
    · rwa [heq]
    · rwa [List.mem_singleton.mp hs]

theorem notMem_expression (node : Node) (h : ∀ s ∈ node.strings, c ∉ s.toList) : c ∉ node.expression.toList := by
  cases node with
  | access target member nullConditional =>
      refine notMem_append c _ _ (notMem_append c _ _ (h target (List.mem_cons_self ..)) ?_)
        (h member (List.mem_cons_of_mem _ (List.mem_cons_self ..)))
      cases nullConditional <;> exact notMem_of_lt_space c hc _ (by decide)
  | ret _ => exact List.not_mem_nil
  | block => exact List.not_mem_nil
  | datum _ => exact List.not_mem_nil

theorem notMem_statement (node : Node) (h : ∀ s ∈ node.strings, c ∉ s.toList) : c ∉ node.statement.toList := by
  cases node with
  | ret e =>
      exact notMem_append c _ _
        (notMem_append c _ _ (notMem_of_lt_space c hc _ (by decide)) (notMem_expression c hc e h))
        (notMem_of_lt_space c hc _ (by decide))
  | access _ _ _ => exact List.not_mem_nil
  | block => exact List.not_mem_nil
  | datum _ => exact List.not_mem_nil

/-- A control character in the line below the attributes of a member comes from its texts. -/
theorem notMem_headline (member : Member) (h : ∀ s ∈ member.strings, c ∉ s.toList) :
    c ∉ member.headline.toList := by
  -- Every headline begins with a declaration; what is behind it differs.
  have hdeclared : ∀ visibility, c ∉ (declared visibility member.typeName member.name).toList := by
    intro visibility
    refine notMem_declared c hc visibility _ _ (h _ ?_) (h _ ?_)
    · cases member <;> exact List.mem_cons_of_mem _ (List.mem_cons_self ..)
    · cases member <;> exact List.mem_cons_self ..
  cases member with
  | field f => exact notMem_append c _ _ (hdeclared f.visibility) (notMem_of_lt_space c hc _ (by decide))
  | property p => exact hdeclared p.visibility
  | method m =>
      have hparameters : c ∉ (", ".intercalate m.parameters).toList :=
        notMem_intercalate c ", " _ (notMem_of_lt_space c hc _ (by decide)) (fun s hs =>
          h s (List.mem_append_left _ (List.mem_cons_of_mem _ (List.mem_cons_of_mem _ hs))))
      exact notMem_append c _ _ (notMem_append c _ _
        (notMem_append c _ _ (hdeclared m.visibility) (notMem_of_lt_space c hc _ (by decide))) hparameters)
        (notMem_of_lt_space c hc _ (by decide))

/-- A control character in the lines of a member comes from its texts. -/
theorem notMem_member_lines (depth : Nat) (member : Member) (h : ∀ s ∈ member.strings, c ∉ s.toList) :
    ∀ l ∈ member.lines depth, c ∉ l := by
  refine forall_mem_member_lines depth member (c ∉ ·) (fun d => ?_) (fun d => ?_) (fun d => ?_) (fun name hname => ?_)
    (notMem_indented c hc depth _ (notMem_headline c hc member h)) (fun node hnode d => ?_)
  · exact notMem_indented c hc d _ (notMem_of_lt_space c hc _ (by decide))
  · exact notMem_indented c hc d _ (notMem_of_lt_space c hc _ (by decide))
  · exact notMem_indented c hc d _ (notMem_of_lt_space c hc _ (by decide))
  · have hfree := h name (attributes_subset_strings member hname)
    exact notMem_indented c hc depth _ (notMem_append c _ _
      (notMem_append c _ _ (notMem_of_lt_space c hc _ (by decide)) hfree) (notMem_of_lt_space c hc _ (by decide)))
  · exact notMem_indented c hc d _ (notMem_statement c hc node (fun s hs =>
      h s (strings_subset_of_mem_statements member node hnode hs)))

/-- A control character in the first line of a class comes from its name or that of its base. -/
theorem notMem_headWords (type : TypeDecl) (h : ∀ s ∈ type.strings, c ∉ s.toList) :
    c ∉ (" ".intercalate type.headWords).toList := by
  have hbase : c ∉ type.baseType.toList := h _ (List.mem_cons_of_mem _ (List.mem_cons_self ..))
  refine notMem_intercalate c " " _ (notMem_of_lt_space c hc _ (by decide)) ?_
  intro s hs
  rw [TypeDecl.headWords, List.mem_cons, List.mem_append, List.mem_cons, List.mem_cons] at hs
  -- The words in their order: visibility, modifier, keyword, name, and the base behind its colon.
  rcases hs with heq | hpartial | heq | heq | hs
  · rw [heq]
    exact notMem_keyword c hc type.visibility
  · split at hpartial
    · rw [List.mem_singleton.mp hpartial]
      exact notMem_of_lt_space c hc _ (by decide)
    · exact absurd hpartial List.not_mem_nil
  · rw [heq]
    exact notMem_of_lt_space c hc _ (by decide)
  · rw [heq]
    exact h _ (List.mem_cons_self ..)
  · split at hs
    · exact absurd hs List.not_mem_nil
    · rcases List.mem_cons.mp hs with heq | hs
      · rw [heq]
        exact notMem_of_lt_space c hc _ (by decide)
      · rwa [List.mem_singleton.mp hs]

/-- A control character in the lines of imports comes from their names. -/
theorem notMem_importLines (imports : List String) (h : ∀ s ∈ imports, c ∉ s.toList) :
    ∀ l ∈ importLines imports, c ∉ l := by
  intro l hl
  rcases List.mem_map.mp hl with ⟨name, hname, heq⟩
  rw [← heq]
  exact notMem_indented c hc 0 _ (notMem_append c _ _
    (notMem_append c _ _ (notMem_of_lt_space c hc _ (by decide)) (h name hname)) (notMem_of_lt_space c hc _ (by decide)))

end

/-- What holds of the lines of declarations and of an empty line holds of all lines of a file. -/
theorem forall_mem_lines (unit : CompilationUnit) (P : List Char → Prop) (hempty : P [])
    (himports : ∀ l ∈ importLines unit.imports, P l)
    (hheader : ∀ type ∈ unit.types, P (indented 0 (" ".intercalate type.headWords)))
    (hbraces : P (indented 0 "\x7b") ∧ P (indented 0 "\x7d"))
    (hmember : ∀ type ∈ unit.types, ∀ member ∈ type.members, ∀ l ∈ member.lines 1, P l) :
    ∀ l ∈ unit.lines, P l := by
  -- Between paragraphs there are empty lines and nothing else.
  have hgroups : ∀ groups : List (List (List Char)), (∀ group ∈ groups, ∀ l ∈ group, P l) →
      ∀ l ∈ paragraphs groups, P l := by
    intro groups hgroups l hl
    rcases Text.mem_of_mem_intercalate _ _ _ hl with hblank | ⟨group, hgroup, hl⟩
    · rw [List.mem_singleton.mp hblank]
      exact hempty
    · exact hgroups group hgroup l hl
  refine hgroups _ (fun group hgroup => ?_)
  rcases List.mem_append.mp hgroup with himport | htype
  · split at himport
    · exact absurd himport List.not_mem_nil
    · rw [List.mem_singleton.mp himport]
      exact himports
  · rcases List.mem_map.mp htype with ⟨type, htype, heq⟩
    rw [← heq]
    intro l hl
    rcases List.mem_cons.mp hl with heq | hbody
    · rw [heq]
      exact hheader type htype
    · refine forall_mem_braced 0 _ P hbraces.1 hbraces.2 (hgroups _ (fun group hgroup => ?_)) l hbody
      rcases List.mem_map.mp hgroup with ⟨member, hmem, heq⟩
      rw [← heq]
      exact hmember type htype member hmem

/-- A control character in the lines of a file comes from its texts. -/
theorem notMem_lines (c : Char) (hc : c < ' ') (unit : CompilationUnit) (h : ∀ s ∈ unit.strings, c ∉ s.toList) :
    ∀ l ∈ unit.lines, c ∉ l := by
  have htype : ∀ type ∈ unit.types, ∀ s ∈ type.strings, c ∉ s.toList :=
    fun type htype s hs => h s (List.mem_append_right _ (List.mem_flatMap.mpr ⟨type, htype, hs⟩))
  refine forall_mem_lines unit (c ∉ ·) List.not_mem_nil ?_ ?_ ⟨?_, ?_⟩ ?_
  · exact notMem_importLines c hc unit.imports (fun s hs => h s (List.mem_append_left _ hs))
  · exact fun type hmem => notMem_indented c hc 0 _ (notMem_headWords c hc type (htype type hmem))
  · exact notMem_indented c hc 0 _ (notMem_of_lt_space c hc _ (by decide))
  · exact notMem_indented c hc 0 _ (notMem_of_lt_space c hc _ (by decide))
  · intro type hmem member hmember
    refine notMem_member_lines c hc 1 member (fun s hs => htype type hmem s ?_)
    exact List.mem_cons_of_mem _ (List.mem_cons_of_mem _ (List.mem_flatMap.mpr ⟨member, hmember, hs⟩))

end Syntax

end CodeBehind
