import CodeBehind.Text.Blank
import CodeBehind.Text.Canonical

/-!
# Banners

The comment at the top of a generated file, and the tool identity written into it.

The tool name and the version are free texts and come from outside, so they may hold line breaks of any kind,
tabs or comment marks. What keeps them inside the comment is the order of the steps: the sentence is put
together first and every line of the result becomes a comment, where a line ends at any character that ends a
line for some reader. A banner whose name or version shows nothing cannot be made, so both always appear.

## Main definitions

* `Banner`: A tool name and a version, neither of them blank.
* `Banner.Fault`, `Banner.make`: The check of the two.
* `lineComment`: Every line of a text behind a comment mark.
* `Banner.text`: The comment block.
-/

namespace CodeBehind

/-- The identity of a tool, with something to see in both parts. -/
structure Banner where
  toolName : String
  version : String
  toolName_visible : Text.allBlank toolName = false
  version_visible : Text.allBlank version = false

namespace Banner

/-- The part of a banner that shows nothing. -/
inductive Fault where
  | emptyToolName
  | emptyVersion
  deriving DecidableEq, Repr

/-- What a banner lacks. -/
def Fault.message : Fault → String
  | emptyToolName => "Banner tool name cannot be empty"
  | emptyVersion => "Banner version cannot be empty"

/-- The banner of a tool, unless its name or its version shows nothing; the name is looked at first. -/
def make (toolName version : String) : Except Fault Banner :=
  if name_visible : Text.allBlank toolName = false then
    if version_visible : Text.allBlank version = false then
      .ok ⟨toolName, version, name_visible, version_visible⟩
    else .error .emptyVersion
  else .error .emptyToolName

/-- The version of this library. -/
def libraryVersion : String := "1.0.0"

/-- The name under which this library signs its files. -/
def defaultToolName : String := "Rosalina Code Generator"

/-- The banner of this library. -/
def standard : Banner where
  toolName := defaultToolName
  version := libraryVersion
  toolName_visible := by decide +kernel
  version_visible := by decide +kernel

/-- Put a mark before every line of a text and drop the blanks at the end of each. -/
def lineComment (mark text : List Char) : List Char :=
  Text.joinLines ((Text.commentLines text).map fun line => Text.trimEnd (mark ++ line))

/-- The mark of a line comment. -/
def commentMark : String := "// "

/-- The line above and below the comment. -/
def rule : String := "//" ++ String.ofList (List.replicate 78 '-')

/-- What the banner says. -/
def sentence (toolName version : String) : String :=
  "<auto-generated>\n    This code was generated by the " ++ toolName ++ " tool.\n    Version: " ++ version ++
    "\n\n    Changes to this file may cause incorrect behavior and will be lost if\n    the code is regenerated.\n" ++
    "</auto-generated>\n"

/-- The comment block, in canonical form. -/
def text (banner : Banner) : String :=
  let comment := lineComment commentMark.toList (sentence banner.toolName banner.version).toList
  Text.normalize (rule ++ "\n" ++ String.ofList comment ++ "\n" ++ rule ++ "\n")

end Banner

end CodeBehind
