import CodeBehind.CommandLine.Command
import Std.Time.Format
import Std.Time.Zoned

/-!
# The program

Running the command on the files of the machine.

The command works on a tree that is a value. The program copies the part of the machine's tree that a command
line can reach, runs the command on the copy, and then writes every file that is new or different in it. Most
of the copied files are there only because their names count. The command reads nothing but its configuration
and adds to nothing but its log file, so only these are copied with their bytes. The modes of files are left
to the machine: a file that is written over keeps its own.

## Main definitions

* `copyTree`: A copy of what lies below a place.
* `reach`: A copy of everything that some paths can lead to.
* `writeBack`: The files that are new or different are written.
* `main`: The program.
-/

namespace CodeBehind

namespace Program

/-- The path that leads to a place from the root. -/
def pathOf (place : Place) : String :=
  "/" ++ "/".intercalate place

/-- The place a path leads to from a working directory. -/
def placeOf (workdir path : String) : Place :=
  Path.steps (Path.absolute workdir path)

/-- More names than a path that is not too long can have. -/
def depthLimit : Nat := FileSystem.pathLimit

/-- What lies at a place; the bytes of a file are read only if they are needed. -/
def look (needed : List Place) (place : Place) : IO (Option Entry) := do
  let here ← IO.currentDir
  try
    let found ← (here / pathOf place).metadata
    if found.type == .dir then return some .directory
    let content ← if needed.contains place then IO.FS.readBinFile (pathOf place) else pure .empty
    return some (.file content FileSystem.openMode)
  catch _ => return none

/-- The names in the directory at a place. -/
def listing (place : Place) : IO (List String) := do
  let here ← IO.currentDir
  try
    return (← (here / pathOf place).readDir).toList.map (·.fileName)
  catch _ => return []

/-- A copy of what lies at a place and below it, down to a depth. -/
def copyTree (needed : List Place) : Nat → Place → IO (List (Place × Entry))
  | 0, place => return (← look needed place).toList.map fun entry => (place, entry)
  | depth + 1, place => do
    match ← look needed place with
    | none => return []
    | some (.file content mode) => return [(place, .file content mode)]
    | some .directory =>
      let inner ← (← listing place).mapM fun name => copyTree needed depth (place ++ [name])
      return (place, .directory) :: inner.flatten

/-- A copy of a place, of what is below it and beside it, and of the directories above it. -/
def copyAround (needed : List Place) (place : Place) : IO (List (Place × Entry)) := do
  let whole ← copyTree needed depthLimit place
  let beside ← copyTree needed 1 place.dropLast
  let above ← (FileSystem.ancestors place).mapM (copyTree needed 0)
  return whole ++ beside ++ above.flatten

/-- A copy of everything that some paths can lead to. -/
def reach (workdir : String) (needed : List Place) (paths : List String) : IO FileSystem := do
  let copies ← (paths.map (placeOf workdir)).mapM (copyAround needed)
  let none : FileSystem := { entries := [], workdir := placeOf "/" workdir, umask := 0 }
  return copies.flatten.foldl (fun files (place, entry) =>
    if files.isFree place then files.set place entry else files) none

/-- Write the files that are new or different. -/
def writeBack (before after : FileSystem) : IO Unit :=
  after.entries.forM fun (place, entry) => do
    match entry, before.get? place with
    | .file content _, some (.file old _) =>
      if content.data != old.data then IO.FS.writeBinFile (pathOf place) content
    | .file content _, _ => IO.FS.writeBinFile (pathOf place) content
    | .directory, _ => return

/-- The time as it stands at the start of a line of the log. -/
def clock : IO String := do
  let now ← Std.Time.PlainDateTime.now
  return now.format "uuuu-MM-dd HH:mm:ss,SSS"

/-- The paths that a command line names, and those that are looked at without being named. -/
def namedPaths (arguments : CommandLine.Arguments) : List String :=
  arguments.paths ++ arguments.config.toList ++ Config.usualNames

/-- The log file that is going to be used, as far as the configuration can be read. -/
def logFile (arguments : CommandLine.Arguments) (session : Session) : List String :=
  match ((CommandLine.chooseConfig arguments).run session).1 with
  | .ok config => [config.logging.logFile]
  | .error _ => []

/-- Run the command on a copy of the files and write back what it did; the result is the exit code. -/
def run (words : List String) : IO UInt32 := do
  let workdir := (← IO.currentDir).toString
  let arguments := (CommandLine.parse words).toOption.getD {}
  let configs := (arguments.config.toList ++ Config.usualNames).map (placeOf workdir)
  let clock ← clock
  let glance ← reach workdir configs (namedPaths arguments)
  let logs := logFile arguments { files := glance, clock }
  let files ← reach workdir (logs.map (placeOf workdir) ++ configs) (logs ++ namedPaths arguments)
  let (result, session) := (CommandLine.command words).run { files, clock }
  writeBack files session.files
  (← IO.getStdout).putStr session.stdout
  (← IO.getStderr).putStr session.stderr
  match result with
  | .ok code => return UInt32.ofNat code
  | .error failure =>
    (← IO.getStderr).putStr (failure.message ++ "\n")
    return UInt32.ofNat CommandLine.exitFailed

end Program

end CodeBehind

/-- The program. -/
def main (words : List String) : IO UInt32 :=
  CodeBehind.Program.run words
