import CodeBehind.Document
import CodeBehind.Failure
import CodeBehind.FileSystem.Tree
import CodeBehind.Log.Record
import CodeBehind.Path.Tidy

/-!
# Finding documents

Which documents the paths on a command line stand for.

A directory stands for every document below it, in order; any other path stands for itself, spelled as it was
given. Paths that lead nowhere and files that are no documents are passed over with a warning; files inside a
directory that are no documents are passed over silently.

## Main definitions

* `find`: The documents a path stands for.
* `Collected`, `collect`: The documents several paths stand for, and the warnings.
-/

namespace CodeBehind

namespace Discovery

/-- The component that collects documents. -/
def component : String := "cli"

/-- The documents below a directory that is shown as `root`, in order. -/
def below (files : FileSystem) (place : Place) (root extension : String) : List String :=
  let found := (files.filesBelow place).map (Path.below root)
  (found.filter fun path => Document.isDocument path extension).mergeSort

/-- The documents a path stands for. -/
def find (files : FileSystem) (root extension : String) : Except Failure (List String) :=
  let path := Path.tidy root
  match files.find? path with
  | .error error => .error (.file error)
  | .ok (some .directory) =>
    match files.stat path with
    | .ok (place, _) => .ok (below files place root extension)
    | .error _ => .ok [root]
  | .ok _ => .ok [root]

/-- Documents, and the warnings about what was passed over. -/
structure Collected where
  documents : List String := []
  warnings : List Log.Record := []
  deriving DecidableEq, Repr

/-- The documents that one path stands for. -/
def collectOne (files : FileSystem) (extension path : String) : Except Failure Collected :=
  if !files.pathExists path then .ok ⟨[], [Log.skipped component path "no such file or directory"]⟩
  else do
    let found ← find files path extension
    let rejected := found.filter fun candidate => !Document.isDocument candidate extension
    return ⟨found.filter fun candidate => Document.isDocument candidate extension,
      rejected.map fun candidate => Log.skipped component candidate ("not a " ++ extension ++ " document")⟩

/-- The documents that several paths stand for. -/
def collect (files : FileSystem) (extension : String) : List String → Except Failure Collected
  | [] => .ok {}
  | path :: rest => do
    let first ← collectOne files extension path
    let others ← collect files extension rest
    return ⟨first.documents ++ others.documents, first.warnings ++ others.warnings⟩

end Discovery

end CodeBehind
