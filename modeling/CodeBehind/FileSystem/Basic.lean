import CodeBehind.Path.Basic
import CodeBehind.Text.Quoted

/-!
# File trees

Directories and files by the place where they lie, and what a path leads to.

A place is the list of names from the root down. The tree is a list of places with what lies there, so the
order of the list never shows; the root itself is always a directory. A path is followed name by name from the
root or from the working directory. Every name on the way must lead to a directory, also before a dot, a
parent step or a slash at the end, and a name that is too long is noticed only where it is looked up. So the
same missing file is reported differently by different spellings of its path, and this module is the only one
that knows how.

## Main definitions

* `Place`, `Entry`, `FileSystem`: The tree.
* `FileFault`, `FileError`: Why a path cannot be used, with the wording.
* `FileSystem.follow`: What a path leads to.
* `FileSystem.stat`, `FileSystem.read`: The entry at a path and the bytes of a file.
-/

namespace CodeBehind

/-- A position in the tree: the names from the root down. -/
abbrev Place := List String

/-- What lies at a place. -/
inductive Entry where
  | file (content : ByteArray) (mode : Nat)
  | directory

/-- A tree with the settings under which it is used. -/
structure FileSystem where
  entries : List (Place × Entry)
  workdir : Place
  umask : Nat

/-- Why a path cannot be used. -/
inductive FileFault where
  | missing
  | alreadyThere
  | busy
  | notDirectory
  | isDirectory
  | nameTooLong
  | nullByte
  deriving DecidableEq, Repr

/-- A fault with the path it concerns, and the second path where two are involved. -/
structure FileError where
  fault : FileFault
  path : String
  target : Option String := none
  deriving DecidableEq, Repr

namespace FileSystem

/-- The entry at a place. -/
def get? (files : FileSystem) (place : Place) : Option Entry :=
  if place = [] then some .directory else files.entries.lookup place

/-- Put an entry at a place, over what is there. -/
def set (files : FileSystem) (place : Place) (entry : Entry) : FileSystem :=
  let entries :=
    if (files.entries.lookup place).isSome then
      files.entries.map fun e => if e.1 = place then (place, entry) else e
    else files.entries ++ [(place, entry)]
  { files with entries }

/-- Take away what lies at a place. -/
def erase (files : FileSystem) (place : Place) : FileSystem :=
  { files with entries := files.entries.filter fun e => e.1 ≠ place }

/-- Whether nothing lies at a place. -/
def isFree (files : FileSystem) (place : Place) : Bool :=
  (files.get? place).isNone

/-- The most bytes that a name may have. -/
def nameLimit : Nat := 255

/-- The number of bytes from which on a path is too long. -/
def pathLimit : Nat := 4096

/-- Where a path ends: at an entry, or at a free place in a directory. -/
inductive Destination where
  | entry (place : Place) (entry : Entry)
  | free (place : Place)

/-- Follow steps from a directory. -/
def walk (files : FileSystem) (place : Place) : List String → Except FileFault Destination
  | [] => .ok (.entry place .directory)
  | name :: rest =>
    if name = "." then files.walk place rest
    -- The root is the directory above itself.
    else if name = ".." then files.walk place.dropLast rest
    else if nameLimit < name.utf8ByteSize then .error .nameTooLong
    else
      let next := place ++ [name]
      match files.get? next with
      | some .directory => files.walk next rest
      | some entry => if rest.isEmpty then .ok (.entry next entry) else .error .notDirectory
      | none => if rest.isEmpty then .ok (.free next) else .error .missing

/-- What stands between the slashes of a path, without the empty pieces. -/
def pathNames (path : String) : List String :=
  ((path.toList.splitOn '/').map String.ofList).filter (· ≠ "")

/-- The names and dots of a path; a slash at the end counts as a dot, since it asks for a directory too. -/
def pathSteps (path : String) : List String :=
  if path.toList.getLast? = some '/' then pathNames path ++ ["."] else pathNames path

/-- The directory from which a path is followed. -/
def base (files : FileSystem) (path : String) : Place :=
  if Path.isAbsolute path then [] else files.workdir

/-- What no path may have, whatever the tree is like. -/
def pathFault? (path : String) : Option FileFault :=
  if path.toList.contains '\x00' then some .nullByte
  else if path = "" then some .missing
  else if pathLimit ≤ path.utf8ByteSize then some .nameTooLong
  else none

/-- What a path leads to. -/
def follow (files : FileSystem) (path : String) : Except FileFault Destination :=
  match pathFault? path with
  | some fault => .error fault
  | none => files.walk (files.base path) (pathSteps path)

/-- The entry a path leads to. -/
def stat (files : FileSystem) (path : String) : Except FileError (Place × Entry) :=
  match files.follow path with
  | .ok (.entry place entry) => .ok (place, entry)
  | .ok (.free _) => .error ⟨.missing, path, none⟩
  | .error fault => .error ⟨fault, path, none⟩

/-- Whether a path leads to something; a path that cannot be followed does not. -/
def pathExists (files : FileSystem) (path : String) : Bool :=
  (files.stat path).toOption.isSome

/-- The bytes of the file a path leads to. -/
def read (files : FileSystem) (path : String) : Except FileError ByteArray :=
  match files.stat path with
  | .ok (_, .file content _) => .ok content
  | .ok (_, .directory) => .error ⟨.isDirectory, path, none⟩
  | .error error => .error error

/-- Whether a path that cannot be followed just leads nowhere, or deserves a report. -/
def FileFault.isAbsence : FileFault → Bool
  | .missing => true
  | .notDirectory => true
  | .nullByte => true
  | _ => false

/-- The entry a path leads to, if it leads to one. -/
def find? (files : FileSystem) (path : String) : Except FileError (Option Entry) :=
  match files.stat path with
  | .ok (_, entry) => .ok (some entry)
  | .error error => if FileFault.isAbsence error.fault then .ok none else .error error

/-- The working directory as a path. -/
def workdirPath (files : FileSystem) : String :=
  "/" ++ "/".intercalate files.workdir

/-- The mode of a new file that asks for `mode`. -/
def createdMode (files : FileSystem) (mode : Nat) : Nat :=
  mode - (mode &&& files.umask)

/-- The mode every new file asks for. -/
def openMode : Nat := 0o666

/-- The mode reported for a directory. -/
def directoryMode : Nat := 0o755

end FileSystem

/-- The number and the wording of a fault; a path with a null byte is refused before it gets a number. -/
def FileFault.wording : FileFault → String
  | missing => "[Errno 2] No such file or directory"
  | busy => "[Errno 16] Device or resource busy"
  | alreadyThere => "[Errno 17] File exists"
  | notDirectory => "[Errno 20] Not a directory"
  | isDirectory => "[Errno 21] Is a directory"
  | nameTooLong => "[Errno 36] File name too long"
  | nullByte => "embedded null byte"

/-- The fault with its quoted paths. -/
def FileError.message (error : FileError) : String :=
  if error.fault = .nullByte then error.fault.wording
  else
    let paths := match error.target with
      | none => Text.quoted error.path
      | some target => Text.quoted error.path ++ " -> " ++ Text.quoted target
    error.fault.wording ++ ": " ++ paths

end CodeBehind
