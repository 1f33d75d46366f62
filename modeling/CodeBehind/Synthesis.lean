import CodeBehind.Document
import CodeBehind.Failure
import CodeBehind.Syntax.Imports

/-!
# Synthesis

From the path of a UI document to its code-behind, without touching a file.

A request is a document path that has been looked at: the document has a name. The class that is declared for
it always has the same three members, and only its name depends on the document. Rendering checks the tree
again, because a tree may come from elsewhere; for a tree built here that check is the same as the one on the
request.

## Main definitions

* `Request`, `Request.ofPath`: A document path with a usable name.
* `Declaration.unit`: The tree declared for a document.
* `render`: The text of a tree with its banner.
* `Rendered`: A text and the path where it belongs.
* `synthesize`: All of it.
-/

namespace CodeBehind

/-- A document for which code is asked. -/
structure Request where
  documentPath : String
  deriving DecidableEq, Repr

/-- A generated text and the path where it belongs. -/
structure Rendered where
  path : String
  text : String
  deriving DecidableEq, Repr

namespace Request

/-- The request for a document, refused if its name shows nothing. -/
def ofPath (path : String) : Except Failure Request :=
  if Document.hasName path then .ok ⟨path⟩
  else .error (.problem (.invalidRequest path "document file name is empty"))

/-- The name of the type to declare. -/
def typeName (request : Request) : String :=
  Document.typeName request.documentPath

/-- The path of the file to generate. -/
def outputPath (request : Request) : String :=
  Document.outputPath request.documentPath

end Request

namespace Declaration

/-- The name of the field that holds the document. -/
def fieldName : String := "_document"

/-- The name of the property for the root of the document. -/
def propertyName : String := "Root"

/-- The member of a document that is its root. -/
def rootMember : String := "rootVisualElement"

/-- The name of the method that is left to be called. -/
def methodName : String := "InitializeDocument"

/-- The type of a method without a result. -/
def voidType : String := "void"

/-- The field that a scene fills with the document. -/
def documentField : Syntax.Field where
  name := fieldName
  typeName := Syntax.documentType
  visibility := .privateAccess
  attributes := [Syntax.serializedAttribute]

/-- The property that gives the root of the document, if there is a document. -/
def rootProperty : Syntax.Property where
  name := propertyName
  typeName := Syntax.elementType
  getter := .access fieldName rootMember true
  visibility := .publicAccess

/-- The method that initializes the document, empty. -/
def initializeMethod : Syntax.Method where
  name := methodName
  returnType := voidType
  visibility := .publicAccess

/-- The members of every generated class. -/
def members : List Syntax.Member :=
  [.field documentField, .property rootProperty, .method initializeMethod]

/-- The class of a given name. -/
def type (name : String) : Syntax.TypeDecl where
  name
  baseType := Syntax.hostType
  members
  visibility := .publicAccess
  isPartial := true

/-- The tree declared for a document. -/
def unit (request : Request) : Syntax.CompilationUnit where
  imports := Syntax.collectImports (Syntax.hostType :: Syntax.referencedTypes members)
  types := [type request.typeName]

end Declaration

/-- Lay a well-formed tree out below a banner, with an empty line between them. -/
def render (unit : Syntax.CompilationUnit) (banner : Banner) : Except Failure String :=
  match unit.violation? with
  | some violation => .error (.problem (.ofViolation violation))
  | none =>
    match unit.body with
    | .error unsupported => .error (.unsupported unsupported)
    | .ok body => .ok (banner.text ++ "\n" ++ body)

/-- The code-behind of a request, whether its document has a usable name or not. -/
def synthesizeRequest (request : Request) (banner : Banner) : Except Failure Rendered := do
  return ⟨request.outputPath, ← render (Declaration.unit request) banner⟩

/-- The code-behind of a document. -/
def synthesize (path : String) (banner : Banner) : Except Failure Rendered := do
  synthesizeRequest (← Request.ofPath path) banner

end CodeBehind
