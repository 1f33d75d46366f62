import CodeBehind.FileSystem.Basic

/-!
# Whole directories

Looking at, and changing, everything below a place.

Searching a directory gives regular files only, at any depth and hidden ones too, as the names that lead to
them from there. Changing a tree by hand is here as well: installing a file makes the directories above it, and
removing a directory removes what is in it.

## Main definitions

* `FileSystem.filesBelow`: The regular files below a place.
* `FileSystem.install`: A file with the directories above it.
* `FileSystem.makeDirectory`, `FileSystem.removeAll`, `FileSystem.changeMode`: Changes by hand.
-/

namespace CodeBehind

namespace FileSystem

/-- The names that lead from one place to another below it. -/
def stepsBelow? (place other : Place) : Option (List String) :=
  if place.isPrefixOf other && place ≠ other then some (other.drop place.length) else none

/-- The regular files below a place, by the names that lead to them. -/
def filesBelow (files : FileSystem) (place : Place) : List (List String) :=
  files.entries.filterMap fun (other, entry) =>
    match entry with
    | .file .. => stepsBelow? place other
    | .directory => none

/-- The places above a place, from the root down, without the root. -/
def ancestors (place : Place) : List Place :=
  (List.range place.length).tail.map place.take

/-- Make a directory and those above it where there is nothing yet. -/
def makeDirectory (files : FileSystem) (place : Place) : FileSystem :=
  (ancestors place ++ [place]).foldl (fun files place =>
    if files.isFree place then files.set place .directory else files) files

/-- Put a file at a place, with the directories above it; without a mode it keeps that of the file it
    replaces. -/
def install (files : FileSystem) (place : Place) (content : ByteArray) (mode : Option Nat) : FileSystem :=
  let files := (ancestors place).foldl makeDirectory files
  let kept := match files.get? place with
    | some (.file _ mode) => mode
    | _ => files.createdMode openMode
  files.set place (.file content (mode.getD kept))

/-- Take away a place and everything below it. -/
def removeAll (files : FileSystem) (place : Place) : FileSystem :=
  { files with entries := files.entries.filter fun e => !place.isPrefixOf e.1 }

/-- Give a file another mode. -/
def changeMode (files : FileSystem) (place : Place) (mode : Nat) : FileSystem :=
  match files.get? place with
  | some (.file content _) => files.set place (.file content mode)
  | _ => files

end FileSystem

end CodeBehind
