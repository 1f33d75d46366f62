import CodeBehind.Text.Quoted

/-!
# The tree of a source file

What generated source is made of, before it is text: a file of imports and types, types of members, members
of names, types and statements.

Only two nodes have a meaning inside a member: a member access is an expression, and a return of one is a
statement. The tree can nevertheless hold any node in either place, and things that are no nodes at all,
because a tree may be put together by hand. What stands in the wrong place is refused when the tree is laid
out and not before, so checking the structure of a tree never looks at expressions.

## Main definitions

* `Visibility`, `MemberKind`: Who may use a declaration, and what kind of member it is, each with the word
  for it.
* `Node`: What may stand where an expression or a statement is expected.
* `Field`, `Property`, `Method`, `Member`: The members of a type.
* `TypeDecl`, `CompilationUnit`: A class and a source file.
-/

namespace CodeBehind

namespace Syntax

/-- Who may use a declaration. -/
inductive Visibility where
  | publicAccess
  | privateAccess
  deriving DecidableEq, Repr, Inhabited

/-- The variants of a member. -/
inductive MemberKind where
  | field
  | property
  | method
  deriving DecidableEq, Repr, Inhabited

/-- A word that names no visibility or no kind of member. -/
inductive UnknownWord where
  | visibility (word : String)
  | memberKind (word : String)
  deriving DecidableEq, Repr

/-- What is wrong with the word. -/
def UnknownWord.message : UnknownWord → String
  | visibility word => Text.quoted word ++ " is not a valid Visibility"
  | memberKind word => Text.quoted word ++ " is not a valid MemberKind"

/-- The modifier written before a declaration. -/
def Visibility.keyword : Visibility → String
  | publicAccess => "public"
  | privateAccess => "private"

/-- The visibility that a modifier names. -/
def Visibility.ofKeyword : String → Except UnknownWord Visibility
  | "public" => .ok publicAccess
  | "private" => .ok privateAccess
  | word => .error (.visibility word)

/-- The word for a kind of member. -/
def MemberKind.word : MemberKind → String
  | field => "field"
  | property => "property"
  | method => "method"

/-- The kind of member that a word names. -/
def MemberKind.ofWord : String → Except UnknownWord MemberKind
  | "field" => .ok field
  | "property" => .ok property
  | "method" => .ok method
  | word => .error (.memberKind word)

/-- What is no node in the place of one: plain data, or anything else by the name of its kind. -/
inductive Datum where
  | text
  | integer
  | real
  | truth
  | missing
  | sequence
  | mapping
  | other (kind : String)
  deriving DecidableEq, Repr, Inhabited

/-- What may stand where an expression or a statement is expected. -/
inductive Node where
  | access (target member : String) (nullConditional : Bool)
  | ret (expression : Node)
  | block
  | datum (sort : Datum)
  deriving DecidableEq, Repr, Inhabited

/-- The name by which a message refers to what is no node. -/
def Datum.name : Datum → String
  | text => "str"
  | integer => "int"
  | real => "float"
  | truth => "bool"
  | missing => "NoneType"
  | sequence => "list"
  | mapping => "dict"
  | other kind => kind

/-- The name by which a message refers to a node. -/
def Node.name : Node → String
  | access .. => "MemberAccess"
  | ret _ => "ReturnStatement"
  | block => "Block"
  | datum sort => sort.name

/-- A field of one variable, below its attributes. -/
structure Field where
  name : String
  typeName : String
  visibility : Visibility := .privateAccess
  attributes : List String := []
  deriving DecidableEq, Repr

/-- A property that can only be read and whose getter returns an expression. -/
structure Property where
  name : String
  typeName : String
  getter : Node
  visibility : Visibility := .publicAccess
  deriving DecidableEq, Repr

/-- A method with a body of statements. -/
structure Method where
  name : String
  returnType : String := "void"
  visibility : Visibility := .publicAccess
  parameters : List String := []
  body : List Node := []
  deriving DecidableEq, Repr

/-- A member of a type. -/
inductive Member where
  | field (field : Field)
  | property (property : Property)
  | method (method : Method)
  deriving DecidableEq, Repr

/-- The kind of a member. -/
def Member.kind : Member → MemberKind
  | field _ => .field
  | property _ => .property
  | method _ => .method

/-- The name of a member. -/
def Member.name : Member → String
  | field f => f.name
  | property p => p.name
  | method m => m.name

/-- The type a member is declared with. -/
def Member.typeName : Member → String
  | field f => f.typeName
  | property p => p.typeName
  | method m => m.returnType

/-- The attributes written above a member. -/
def Member.attributes : Member → List String
  | field f => f.attributes
  | property _ => []
  | method _ => []

/-- A class; an empty base type means that there is none. -/
structure TypeDecl where
  name : String
  baseType : String := ""
  members : List Member := []
  visibility : Visibility := .publicAccess
  isPartial : Bool := true
  deriving DecidableEq, Repr

/-- A source file. -/
structure CompilationUnit where
  imports : List String := []
  types : List TypeDecl := []
  deriving DecidableEq, Repr

end Syntax

end CodeBehind
