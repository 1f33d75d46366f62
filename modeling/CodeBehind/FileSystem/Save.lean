import CodeBehind.FileSystem.Basic

/-!
# Saving files

Creating, replacing and appending, and the one way in which generated files are written.

A file is saved in steps: a scratch file is created in the directory of the target, filled, given the mode the
target is to have, and moved over the target. Any step can fail, be it that the tree does not allow it or that
the device is busy, and then the scratch file is taken away again. So whoever looks at the tree afterwards
finds either the old file or the whole new one. The scratch directory is found lexically, with parent steps
cancelled, while the target path itself is followed as it stands.

The name of a scratch file stands for one drawn at random. It is never a name that the target path mentions,
or the scratch file could be taken for a part of the target.

## Main definitions

* `scratchName`, `scratchNames`: The names that scratch files may take.
* `scratchPath?`, `createScratch`: A new scratch file.
* `modeFor`: The mode a target keeps or gets.
* `replace`: Moving a file over a target.
* `Device`: Where saving may fail for reasons that are not in the tree.
* `save`: All the steps, undone if one of them fails.
* `openFile`: The place of a file that is opened for writing.
-/

namespace CodeBehind

namespace FileSystem

/-- The n-th name a scratch file may take. -/
def scratchName (n : Nat) : String :=
  let digits := Nat.toDigits 10 n
  ".rosalina-" ++ String.ofList (List.replicate (8 - digits.length) '0' ++ digits) ++ ".tmp"

/-- The mode of a scratch file, before the mode of the target is known. -/
def scratchMode : Nat := 0o600

/-- The directory in which the scratch file for a target is created. -/
def scratchDirectory (files : FileSystem) (target : String) : String :=
  let directory := Path.directory target
  Path.absolute files.workdirPath (if directory = "" then "." else directory)

/-- The names to try for the scratch file of a target. Among as many as the tree has entries and the target
    path has steps, and one more, there is always a free one. -/
def scratchNames (files : FileSystem) (target : String) : List String :=
  let steps := pathSteps target
  let names := (List.range (files.entries.length + steps.length + 1)).map scratchName
  names.filter fun name => !steps.contains name

/-- Create an empty file where nothing is yet. -/
def createFile (files : FileSystem) (path : String) (mode : Nat) : Except FileError (Place × FileSystem) :=
  match files.follow path with
  | .ok (.free place) => .ok (place, files.set place (.file .empty mode))
  | .ok (.entry ..) => .error ⟨.alreadyThere, path, none⟩
  | .error fault => .error ⟨fault, path, none⟩

/-- The path of the scratch file for a target: the first that leads to nothing. -/
def scratchPath? (files : FileSystem) (target : String) : Option String :=
  let paths := (files.scratchNames target).map (Path.join (files.scratchDirectory target))
  paths.find? fun path => !files.pathExists path

/-- Create a scratch file for a target; the result is its path, its place and the tree with it. -/
def createScratch (files : FileSystem) (target : String) : Except FileError (String × Place × FileSystem) :=
  match files.scratchPath? target with
  | none => .error ⟨.alreadyThere, files.scratchDirectory target, none⟩
  | some path => (files.createFile path scratchMode).map fun created => (path, created)

/-- The mode that a file written to a path gets: that of the file it replaces, or that of a new file. -/
def modeFor (files : FileSystem) (path : String) : Except FileError Nat :=
  match files.stat path with
  | .ok (_, .file _ mode) => .ok mode
  | .ok (_, .directory) => .ok directoryMode
  | .error error => if error.fault = .missing then .ok (files.createdMode openMode) else .error error

/-- The place at which a path names a file to be moved there: the last name has to be a name, without a slash
    behind it, and must not lead to a directory. -/
def movePlace (files : FileSystem) (path : String) : Except FileFault Place :=
  match pathFault? path with
  | some fault => .error fault
  | none =>
    -- The dot asks for a directory above the last name before anything is said about the name.
    match files.walk (files.base path) ((pathNames path).dropLast ++ ["."]) with
    | .error fault => .error fault
    | .ok (.free _) => .error .missing
    | .ok (.entry directory _) =>
      match (pathNames path).getLast? with
      | none => .error .busy
      | some name =>
        if name = "." || name = ".." then .error .busy
        else if nameLimit < name.utf8ByteSize then .error .nameTooLong
        else if path.toList.getLast? = some '/' then .error .notDirectory
        else
          match files.get? (directory ++ [name]) with
          | some .directory => .error .isDirectory
          | _ => .ok (directory ++ [name])

/-- Move the file `entry` from the scratch place over a target. -/
def replace (files : FileSystem) (scratch : String) (place : Place) (entry : Entry) (target : String) :
    Except FileError (Place × FileSystem) :=
  match files.movePlace target with
  | .ok destination => .ok (destination, (files.erase place).set destination entry)
  | .error fault => .error ⟨fault, scratch, some target⟩

/-- Take away the file a path leads to, if it leads to one. -/
def discard (files : FileSystem) (path : String) : FileSystem :=
  match files.stat path with
  | .ok (place, _) => files.erase place
  | .error _ => files

/-- The steps of saving. -/
inductive SaveStep where
  | create
  | fill
  | inspect
  | setMode
  | move
  deriving DecidableEq, Repr

/-- What a device does with the steps of saving: it may be busy at any of them, and when it is busy while a
    file is filled, it has already taken some bytes. -/
structure Device where
  busyAt : SaveStep → Bool := fun _ => false
  taken : Nat := 0

/-- The result of a step on a device, for the path that the step is about. -/
def Device.perform (device : Device) (step : SaveStep) (path : String) (result : Except FileError α) :
    Except FileError α :=
  if device.busyAt step then .error ⟨.busy, path, none⟩ else result

/-- Fill an empty scratch file, give it the mode for the target and move it there. If a step fails, the
    scratch file stays as it is by then. -/
def complete (files : FileSystem) (device : Device) (scratch : String) (place : Place) (path text : String) :
    FileSystem × Except FileError (Place × Entry) :=
  -- What is left of the file if the device becomes busy while it is filled.
  let begun := files.set place (.file (text.toUTF8.extract 0 device.taken) scratchMode)
  match device.perform .fill scratch (.ok (files.set place (.file text.toUTF8 scratchMode))) with
  | .error error => (begun, .error error)
  | .ok filled =>
    -- The target is looked at when the scratch file is there already.
    match device.perform .inspect path (filled.modeFor path) with
    | .error error => (filled, .error error)
    | .ok mode =>
      let entry := .file text.toUTF8 mode
      match device.perform .setMode scratch (.ok (filled.set place entry)) with
      | .error error => (filled, .error error)
      | .ok moded =>
        match device.perform .move scratch (moded.replace scratch place entry path) with
        | .error error => (moded, .error error)
        | .ok (destination, saved) => (saved, .ok (destination, entry))

/-- Write a text to a path by way of a scratch file; the result is the place and the entry now there. -/
def save (files : FileSystem) (path text : String) (device : Device := {}) :
    FileSystem × Except FileError (Place × Entry) :=
  match device.perform .create path (files.createScratch path) with
  | .error error => (files, .error error)
  | .ok (scratch, place, created) =>
    match created.complete device scratch place path text with
    | (saved, .ok result) => (saved, .ok result)
    | (left, .error error) => (left.discard scratch, .error error)

/-- Open a file for writing, creating it if it is missing; the result is its place. -/
def openFile (files : FileSystem) (path : String) : Except FileError (Place × FileSystem) :=
  match files.follow path with
  | .ok (.entry place (.file ..)) => .ok (place, files)
  | .ok (.entry _ .directory) => .error ⟨.isDirectory, path, none⟩
  | .ok (.free place) => .ok (place, files.set place (.file .empty (files.createdMode openMode)))
  | .error fault => .error ⟨fault, path, none⟩

/-- Replace the bytes of the file at a place and keep its mode; anything else is left alone. -/
def fill (files : FileSystem) (place : Place) (content : ByteArray) : FileSystem :=
  match files.get? place with
  | some (.file _ mode) => files.set place (.file content mode)
  | _ => files

/-- Add bytes at the end of the file at a place. -/
def append (files : FileSystem) (place : Place) (content : ByteArray) : FileSystem :=
  match files.get? place with
  | some (.file old mode) => files.set place (.file (old ++ content) mode)
  | _ => files

end FileSystem

end CodeBehind
