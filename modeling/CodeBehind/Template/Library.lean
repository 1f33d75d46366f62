import CodeBehind.FileSystem.Tree
import CodeBehind.Path.Tidy
import CodeBehind.Template.Render

/-!
# Template files

Templates that are looked up by name: those that come with the library, or the files of a directory.

A name is a path below the directory. It may not take a parent step, so no name leads out of the directory,
and leading slashes do not make it absolute. Whatever goes wrong with the template itself is reported as a
problem that names the file.

## Main definitions

* `Folder`: Where templates come from.
* `bannerTemplate`: The template of the banner.
* `renderText`: A template that is given as text.
* `renderFile`: A template that is given by name.
* `names`: The names of the templates there are.
-/

namespace CodeBehind

namespace Template

/-- Where templates come from. -/
inductive Folder where
  | included
  | directory (path : String)
  deriving DecidableEq, Repr

/-- The name of the folder of the templates that come with the library. -/
def includedFolder : String := "csharp"

/-- The name of the template of the banner. -/
def bannerName : String := "banner.cs.j2"

/-- The delimiters of an output around a name. -/
def placeholder (name : String) : String :=
  "\x7b\x7b " ++ name ++ " \x7d\x7d"

/-- The delimiters of a statement around its words. -/
def statement (words : String) : String :=
  "\x7b% " ++ words ++ " %\x7d"

/-- The template of the banner: the sentence is captured and shown again as a comment between two rules. -/
def bannerTemplate : String :=
  statement "set banner_body" ++ "\n" ++
    Banner.sentence (placeholder "tool_name") (placeholder "version") ++
    statement "endset" ++ "\n" ++ Banner.rule ++ "\n" ++
    placeholder "banner_body | line_comment" ++ "\n" ++ Banner.rule ++ "\n"

/-- The path of a folder. -/
def Folder.path : Folder → String
  | included => includedFolder
  | directory path => Path.tidy path

/-- The last name of a folder. -/
def Folder.name (folder : Folder) : String :=
  Path.lastName folder.path

/-- The names a template name leads through; `none` if it takes a parent step. -/
def pieces? (name : String) : Option (List String) :=
  if (Path.steps name).contains ".." then none else some (Path.steps name)

/-- The bytes of a template in a folder. -/
def content? (files : FileSystem) (folder : Folder) (pieces : List String) : Option ByteArray :=
  match folder with
  | .included => if pieces = [bannerName] then some bannerTemplate.toUTF8 else none
  | .directory _ => (files.read (pieces.foldl Path.join folder.path)).toOption

/-- Report a fault with a template, unless it is a misuse of a value or lies in a numeral. -/
def failure (sentence : String) (details : List (String × String)) : Fault → Failure
  | .misuse m => .misuse m
  | .flawed (.numeral fault) => .numeral fault
  | fault => .problem (.general (sentence ++ ": " ++ fault.message) details)

/-- The text of a template in a context. -/
def renderText (template : String) (context : List (Value × Value)) : Except Failure String :=
  (render template none context).mapError (failure "Template rendering failed" [])

/-- The text of the template of a given name in a context. -/
def renderFile (files : FileSystem) (folder : Folder) (name : String) (context : List (Value × Value)) :
    Except Failure String :=
  let report := failure "Template file rendering failed" [("template", name)]
  match pieces? name with
  | none => .error (report (.flawed (.malformed name)))
  | some pieces =>
    match content? files folder pieces with
    | none =>
      let reason := Text.quoted name ++ " not found in search path: " ++ Text.quoted folder.path
      .error (report (.flawed (.malformed reason)))
    | some content => do
      let template ← (Text.decode content).mapError .bytes
      (render template (some name) context).mapError report

/-- The names of the templates in a folder, in order. -/
def names (files : FileSystem) (folder : Folder) : List String :=
  match folder with
  | .included => [bannerName]
  | .directory _ =>
    match files.stat folder.path with
    | .ok (place, .directory) =>
      ((files.filesBelow place).map fun names => "/".intercalate names).mergeSort
    | _ => []

end Template

end CodeBehind
