import CodeBehind.Text.Blank
import CodeBehind.Text.LowerCase
import CodeBehind.Path.Basic

/-!
# UI documents

What the path of a UI document says: the type its code-behind declares and the file that goes beside it.

The type name is the base name up to its last dot, so a name that is only an extension gives the empty name
and a hidden file has none either. The generated file lies in the directory of the document under the type
name with a suffix of its own. The name never contains a slash, so the generated file cannot leave that
directory.

## Main definitions

* `typeName`: The name of the type a document stands for.
* `outputPath`: The path of the generated file.
* `hasName`: Whether a document has a usable type name.
* `isDocument`: Whether a path carries the extension of documents.
-/

namespace CodeBehind

namespace Document

/-- The extension of UI documents. -/
def extension : String := ".uxml"

/-- What marks a generated file, before its extension. -/
def generatedSuffix : String := ".g"

/-- The extension of source files. -/
def sourceExtension : String := ".cs"

/-- A name up to its last dot; the whole name if it has none. -/
def stemChars (name : List Char) : List Char :=
  if name.contains '.' then (name.reverse.dropWhile (· ≠ '.')).tail.reverse else name

/-- The name of the type a document stands for. -/
def typeName (path : String) : String :=
  String.ofList (stemChars (Path.baseNameChars path.toList))

/-- The path of the file generated for a document. -/
def outputPath (path : String) : String :=
  Path.join (Path.directory path) (typeName path ++ generatedSuffix ++ sourceExtension)

/-- Whether a document has a type name with something to see. -/
def hasName (path : String) : Bool :=
  !Text.allBlank (typeName path)

/-- Whether a path ends in an extension, in any letter case. -/
def isDocument (path extension : String) : Bool :=
  (Text.lower extension).toList.isSuffixOf (Text.lower path).toList

end Document

end CodeBehind
