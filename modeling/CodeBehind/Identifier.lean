/-!
# Identifiers

Whether a name can be used as the name of a C# class.

A name is an optional at sign, a letter or underscore, and letters, digits and underscores, all ASCII. A
single line feed at the very end is let pass. Without the at sign the name must not be a reserved word; with
a line feed at its end it is not one.

## Main definitions

* `reservedWords`: The words that need an at sign.
* `isIdentifier`: The check.
-/

namespace CodeBehind

namespace Identifier

/-- The reserved words of the language. -/
def reservedWords : List String := [
  "abstract", "as", "base", "bool", "break", "byte", "case", "catch", "char", "checked", "class", "const",
  "continue", "decimal", "default", "delegate", "do", "double", "else", "enum", "event", "explicit",
  "extern", "false", "finally", "fixed", "float", "for", "foreach", "goto", "if", "implicit", "in", "int",
  "interface", "internal", "is", "lock", "long", "namespace", "new", "null", "object", "operator", "out",
  "override", "params", "private", "protected", "public", "readonly", "ref", "return", "sbyte",
  "sealed", "short", "sizeof", "stackalloc", "static", "string", "struct", "switch", "this", "throw",
  "true", "try", "typeof", "uint", "ulong", "unchecked", "unsafe", "ushort", "using", "virtual", "void",
  "volatile", "while"]

/-- The characters a name may begin with. -/
def isStart (c : Char) : Bool :=
  c.isAlpha || c = '_'

/-- The characters a name may go on with. -/
def isPart (c : Char) : Bool :=
  c.isAlphanum || c = '_'

/-- A text without the at sign that may stand before a name. -/
def dropAt : List Char → List Char
  | '@' :: cs => cs
  | cs => cs

/-- A text without one line feed at its end. -/
def dropFinalNewline (cs : List Char) : List Char :=
  if cs.getLast? = some '\n' then cs.dropLast else cs

/-- Whether a text is a start character followed by part characters. -/
def isWord : List Char → Bool
  | [] => false
  | c :: cs => isStart c && cs.all isPart

/-- Whether a name can be used as the name of a class. -/
def isIdentifier (name : String) : Bool :=
  isWord (dropFinalNewline (dropAt name.toList)) &&
    (name.toList.head? == some '@' || !reservedWords.contains name)

end Identifier

end CodeBehind
