import CodeBehind.Config.File
import CodeBehind.Discovery
import CodeBehind.Generation
import CodeBehind.Log.Setup

/-!
# Sessions

What is kept from one action to the next, and the actions.

A session owns the files, the log settings and the configuration that is shared by everyone who does not bring
one of their own. Everything printed is kept too, so an action is a function from a session to a result and the
next session. A failure leaves the session as it was when the action failed, since what has been logged,
printed or written by then has happened.

Generation itself knows neither the log nor the console. It tells what happens as a list of events, and
`Session.perform` is the one place where an event takes effect.

## Main definitions

* `Session`, `Action`: What is kept, and what is done with it.
* `Session.emit`: A record goes to the console and to the log file.
* `Session.perform`: An event takes effect.
* `configureLog`: New log settings.
* `loadConfig`, `sharedConfig`, `shareConfig`, `amendConfig`, `saveConfig`: The configuration.
* `generate`, `generateAll`, `write`, `collectDocuments`: Work on documents.
-/

namespace CodeBehind

/-- What is kept from one action to the next. -/
structure Session where
  files : FileSystem
  clock : String
  log : Log.Setup := {}
  shared : Option Config := none
  loads : Nat := 0
  stdout : String := ""
  stderr : String := ""

/-- Something that is done in a session; it may fail. -/
abbrev Action (α : Type) := ExceptT Failure (StateM Session) α

namespace Session

/-- Print on standard output. -/
def print (text : String) (session : Session) : Session :=
  { session with stdout := session.stdout ++ text }

/-- Print on standard error. -/
def complain (text : String) (session : Session) : Session :=
  { session with stderr := session.stderr ++ text }

/-- Add a text to the log file, if there is one that is not lost. -/
def appendLog (text : String) (session : Session) : Session :=
  match session.log.file with
  | .open place => { session with files := session.files.append place text.toUTF8 }
  | _ => session

/-- Say a record, if it passes. -/
def emit (record : Log.Record) (session : Session) : Session :=
  if session.log.passes record then
    let line := record.line session.clock
    (session.complain line).appendLog line
  else session

/-- The log file is lost if it lay at a place that is given up. -/
def losing (gone : Place → Bool) (session : Session) : Session :=
  { session with log := session.log.losing gone }

/-- The record that tells of progress. -/
def progressRecord (title info : String) (ratio : Float) : Log.Record :=
  Log.record "progress" .debug (title ++ ": " ++ info ++ " (" ++ Decimal.percent ratio ++ ")")

/-- The record that tells that no progress is shown any more. -/
def clearedRecord : Log.Record :=
  Log.record "progress" .debug "Progress cleared"

/-- Let an event take effect. -/
def perform (event : Event) (session : Session) : Session :=
  match event with
  | .logged record => session.emit record
  | .progressed title info ratio => session.emit (progressRecord title info ratio)
  | .progressCleared => session.emit clearedRecord
  | .saved place entry =>
    ({ session with files := session.files.set place entry } : Session).losing (· == place)

/-- Let events take effect in their order. -/
def performAll (events : List Event) (session : Session) : Session :=
  events.foldl (fun session event => session.perform event) session

end Session

/-- An action that cannot fail and has no result. -/
def change (f : Session → Session) : Action Unit :=
  modify f

/-- A result as an action that fails if the result is an error. -/
def settle (failure : ε → Failure) (result : Except ε α) : Action α :=
  match result with
  | .ok value => pure value
  | .error error => throw (failure error)

/-- The result of a run, after its events. -/
def carryOut (run : FileSystem → Run α) : Action α := do
  let done := run (← get).files
  change (Session.performAll done.events)
  settle id done.result

/-- Generate one document. -/
def generate (banner : Banner) (path : String) (dryRun : Bool) : Action Rendered :=
  carryOut fun files => Generation.generate files banner path dryRun

/-- Generate several documents. -/
def generateAll (banner : Banner) (paths : List String) (dryRun : Bool) : Action Report :=
  carryOut fun files => Generation.generateAll files banner dryRun paths

/-- Write a generated file. -/
def write (rendered : Rendered) : Action Unit :=
  carryOut fun files => Generation.write files rendered

/-- The documents that paths stand for, with a warning about each path that is passed over. -/
def collectDocuments (paths : List String) (extension : String) : Action (List String) := do
  let collected ← settle id (Discovery.collect (← get).files extension paths)
  change (Session.performAll (collected.warnings.map .logged))
  return collected.documents

/-- New log settings. Without a level the surroundings name one, or it is the usual one. The log file is
    opened when everything else is in place, so without it the console still works. -/
def configureLog (level surroundings file : Option String) : Action Unit := do
  let name := (level <|> surroundings).getD Log.Level.info.name
  change fun session => { session with log := { threshold := Log.thresholdOf name } }
  match file.filter (· ≠ "") with
  | none => return
  | some file =>
    let files := (← get).files
    let (place, files) ← settle .file (files.openFile (Path.absolute files.workdirPath file))
    change fun session => { session with files, log := { session.log with file := .open place } }

/-- Read a configuration: that of a file, or the one in the working directory. -/
def loadConfig (path : Option String) : Action Config := do
  let session ← get
  let (records, result) := Config.load session.files path
  change (Session.performAll (records.map .logged))
  let config ← settle id result
  change fun session => { session with loads := session.loads + 1 }
  return { config with stamp := session.loads }

/-- Share a configuration from now on, or none. -/
def shareConfig (config : Option Config) : Action Unit :=
  change fun session => { session with shared := config }

/-- The shared configuration; if there is none yet, the one in the working directory becomes it. -/
def sharedConfig : Action Config := do
  match (← get).shared with
  | some config => return config
  | none =>
    let config ← loadConfig none
    shareConfig (some config)
    return config

/-- Replace a configuration by a changed one wherever it is in use. -/
def amendConfig (config : Config) : Action Unit :=
  change fun session =>
    { session with shared := session.shared.map fun c => if c.stamp = config.stamp then config else c }

/-- Write a configuration to its file. -/
def saveConfig (config : Config) : Action Unit := do
  let (files, record) ← settle id (Config.save (← get).files config)
  change fun session => ({ session with files } : Session).emit record

end CodeBehind
