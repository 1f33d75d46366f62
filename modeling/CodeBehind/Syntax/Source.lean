import CodeBehind.Layout
import CodeBehind.Syntax.Basic
import CodeBehind.Text.Canonical

/-!
# The source of a tree

How a tree is written as source text.

Every declaration is written as a few lines and blocks, with an empty line after each import list, member
and type. Those lines are more than the text keeps: the canonical pass drops an empty line at the end of a
block and of the file, so that members and types come out separated by exactly one.

A node in a place where it has no meaning stops the writing; it is the first such node in the order of the
text.

## Main definitions

* `Unsupported`: A node in a place where it has no meaning.
* `expressionText`: An expression as text.
* `Member.steps`, `TypeDecl.steps`, `CompilationUnit.steps`: Declarations as lines and blocks.
* `CompilationUnit.body`: The canonical text of a file.
-/

namespace CodeBehind

namespace Syntax

/-- A node in the place of an expression or a statement that is none. -/
inductive Unsupported where
  | expression (node : Node)
  | statement (node : Node)
  deriving DecidableEq, Repr

/-- What cannot be written. -/
def Unsupported.message : Unsupported → String
  | expression node => "Unsupported expression node: " ++ node.name
  | statement node => "Unsupported statement node: " ++ node.name

/-- An expression as text. -/
def expressionText : Node → Except Unsupported String
  | .access target member nullConditional => .ok (target ++ (if nullConditional then "?." else ".") ++ member)
  | node => .error (.expression node)

/-- A statement as a line. -/
def statementLine : Node → Except Unsupported Layout.Step
  | .ret expression => do return .line ("return " ++ (← expressionText expression) ++ ";")
  | node => .error (.statement node)

/-- Statements between braces. -/
def blockSteps (statements : List Node) : Except Unsupported (List Layout.Step) := do
  return .openBlock :: (← statements.mapM statementLine) ++ [.closeBlock]

/-- A field below its attributes. -/
def Field.steps (field : Field) : List Layout.Step :=
  field.attributes.map (fun name => .line ("[" ++ name ++ "]")) ++
    [.line (field.visibility.keyword ++ " " ++ field.typeName ++ " " ++ field.name ++ ";")]

/-- A property with its getter. -/
def Property.steps (property : Property) : Except Unsupported (List Layout.Step) := do
  let header := property.visibility.keyword ++ " " ++ property.typeName ++ " " ++ property.name
  return .line header :: .openBlock :: .line "get" :: (← blockSteps [.ret property.getter]) ++ [.closeBlock]

/-- A method with its body. -/
def Method.steps (method : Method) : Except Unsupported (List Layout.Step) := do
  let header := method.visibility.keyword ++ " " ++ method.returnType ++ " " ++ method.name ++
    "(" ++ ", ".intercalate method.parameters ++ ")"
  return .line header :: (← blockSteps method.body)

/-- A member. -/
def Member.steps : Member → Except Unsupported (List Layout.Step)
  | field f => .ok f.steps
  | property p => p.steps
  | method m => m.steps

/-- The line that begins a class. -/
def TypeDecl.header (type : TypeDecl) : String :=
  type.visibility.keyword ++ (if type.isPartial then " partial" else "") ++ " class " ++ type.name ++
    (if type.baseType = "" then "" else " : " ++ type.baseType)

/-- A class with its members, an empty line after each. -/
def TypeDecl.steps (type : TypeDecl) : Except Unsupported (List Layout.Step) := do
  let members ← type.members.mapM fun member => do return (← member.steps) ++ [.line ""]
  return .line type.header :: .openBlock :: members.flatten ++ [.closeBlock]

/-- A file: its imports, and its types with an empty line after each. -/
def CompilationUnit.steps (unit : CompilationUnit) : Except Unsupported (List Layout.Step) := do
  let types ← unit.types.mapM fun type => do return (← type.steps) ++ [.line ""]
  return unit.imports.map (fun name => .line ("using " ++ name ++ ";")) ++ .line "" :: types.flatten

/-- The canonical text of a file. -/
def CompilationUnit.body (unit : CompilationUnit) : Except Unsupported String := do
  return Text.normalize (Layout.write Text.indentUnit (← unit.steps))

end Syntax

end CodeBehind
