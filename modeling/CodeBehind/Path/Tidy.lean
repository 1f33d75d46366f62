import CodeBehind.Path.Basic

/-!
# Tidy paths

The form in which a configuration file, a search root and the files found below it are shown.

A tidy path has no empty steps and no dots, but it keeps its parent steps, because cancelling them could name
another file. Exactly two leading slashes stay two; any other number of them becomes one. The path with no
step at all is the dot.

## Main definitions

* `root`: The leading slashes that are kept.
* `tidy`: The tidy form.
* `lastName`: The last step of a path.
* `suffix`: The extension of the last step, its dot included.
-/

namespace CodeBehind

namespace Path

/-- The slashes a tidy path begins with. -/
def root (path : String) : String :=
  match (path.toList.takeWhile (· = '/')).length with
  | 0 => ""
  | 2 => "//"
  | _ => "/"

/-- A path without empty steps and dots. -/
def tidy (path : String) : String :=
  let text := root path ++ "/".intercalate (steps path)
  if text = "" then "." else text

/-- The last step of a path, empty if it takes none. -/
def lastName (path : String) : String :=
  (steps path).getLast?.getD ""

/-- The part of the last step from its last dot on; a dot that begins or ends the name begins none. -/
def suffix (path : String) : String :=
  let name := (lastName path).toList
  let extension := (name.reverse.takeWhile (· ≠ '.')).reverse
  let stem := name.take (name.length - extension.length - 1)
  if stem.isEmpty || extension.isEmpty then "" else String.ofList ('.' :: extension)

/-- The tidy path of the file reached from `base` by further steps. -/
def below (base : String) (names : List String) : String :=
  let whole := root base ++ "/".intercalate (steps base ++ names)
  if whole = "" then "." else whole

end Path

end CodeBehind
