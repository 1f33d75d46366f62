/-!
# Paths

Taking slash-separated paths apart and putting them together, on the text alone.

A path is a text; nothing here asks a file system. The last slash divides a path into a directory part and a
base name. The directory part loses its trailing slashes, except when it consists of slashes only, so the
two parts name the same file again when they are joined. `absolute` is the lexical reading against a working
directory: dots and doubled slashes vanish and a parent step cancels the name before it, whatever the
directory tree looks like.

## Main definitions

* `baseName`, `directory`: The two parts of a path.
* `join`: A path read relative to a directory.
* `steps`: The names a path walks through.
* `absolute`: The lexically simplified path below a working directory.
-/

namespace CodeBehind

namespace Path

/-- What follows the last slash. -/
def baseNameChars (cs : List Char) : List Char :=
  (cs.reverse.takeWhile (· ≠ '/')).reverse

/-- What precedes the base name, slashes included. -/
def headChars (cs : List Char) : List Char :=
  (cs.reverse.dropWhile (· ≠ '/')).reverse

/-- The directory part: the head without trailing slashes, unless it is nothing but slashes. -/
def directoryChars (cs : List Char) : List Char :=
  let head := headChars cs
  if head.all (· = '/') then head else (head.reverse.dropWhile (· = '/')).reverse

/-- One path read relative to another. -/
def joinChars (base rest : List Char) : List Char :=
  if rest.head? = some '/' then rest
  else if base.isEmpty || base.getLast? = some '/' then base ++ rest
  else base ++ '/' :: rest

/-- The last name of a path. -/
def baseName (path : String) : String :=
  String.ofList (baseNameChars path.toList)

/-- The directory part of a path. -/
def directory (path : String) : String :=
  String.ofList (directoryChars path.toList)

/-- A path relative to a directory; an absolute path stays itself. -/
def join (base rest : String) : String :=
  String.ofList (joinChars base.toList rest.toList)

/-- Whether a path starts at the root. -/
def isAbsolute (path : String) : Bool :=
  path.toList.head? == some '/'

/-- The names between the slashes, without the empty ones and the dots. -/
def steps (path : String) : List String :=
  ((path.toList.splitOn '/').map String.ofList).filter fun name => name ≠ "" && name ≠ "."

/-- Take a step lexically, where `names` are the names passed, last first: a parent step undoes the name
    before it, and stays at the root if there is none. -/
def stepLexically (names : List String) (name : String) : List String :=
  if name = ".." then names.drop 1 else name :: names

/-- The lexically simplified path that `path` denotes below the absolute path `workdir`. -/
def absolute (workdir path : String) : String :=
  let whole := join workdir path
  let names := ((steps whole).foldl stepLexically []).reverse
  let root := if whole.startsWith "//" && !whole.startsWith "///" then "//" else "/"
  root ++ "/".intercalate names

end Path

end CodeBehind
