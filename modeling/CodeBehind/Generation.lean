import CodeBehind.FileSystem.Save
import CodeBehind.Identifier
import CodeBehind.Log.Record
import CodeBehind.Synthesis

/-!
# Generating files

Generating the code-behind of documents and writing it next to them.

Generating one document is synthesis followed by saving. What happens on the way is told by a list of events in
the order in which they happen: records for the log, the progress that an operator sees, and the file that was
put in place. A run never looks at the events of another, so what it does depends on its document and on the
files alone. After a problem a batch goes on with the next document; any other failure ends it.

## Main definitions

* `Event`: Something that happens during a run.
* `Run`: The events of a run, the files after it, and its result.
* `write`: Saving a generated file.
* `generate`: One document.
* `Report`, `generateAll`: Several documents.
-/

namespace CodeBehind

/-- Something that happens during a run. -/
inductive Event where
  | logged (record : Log.Record)
  | progressed (title info : String) (ratio : Float)
  | progressCleared
  | saved (place : Place) (entry : Entry)

/-- What a run does: its events, the files it leaves behind, and its result. -/
structure Run (α : Type) where
  events : List Event
  files : FileSystem
  result : Except Failure α

/-- What became of the documents of a batch. -/
structure Report where
  generated : List Rendered := []
  failures : List (String × String) := []
  deriving DecidableEq, Repr

namespace Generation

/-- The component that generates. -/
def component : String := "generator"

/-- The logger of this module. -/
def moduleLogger : String := "rosalina.generator"

/-- What the operator is shown while a document is generated. -/
def progress : Event :=
  .progressed "Generating UI code behind" "Working..." 0.25

/-- Save a generated file; a fault of the file system is a problem that keeps the text. -/
def write (files : FileSystem) (rendered : Rendered) (device : FileSystem.Device := {}) : Run Unit :=
  match files.save rendered.path rendered.text device with
  | (files, .ok (place, entry)) => ⟨[.saved place entry], files, .ok ()⟩
  | (files, .error error) =>
    let failure : Failure :=
      if error.fault = .nullByte then .file error
      else .problem (.persistence rendered.path error.message rendered.text)
    ⟨[], files, .error failure⟩

/-- The warning about a name that no class can have. -/
def nameWarning (request : Request) : List Event :=
  if Identifier.isIdentifier request.typeName then []
  else [.logged (Log.invalidIdentifier component request.typeName request.documentPath)]

/-- What is logged after a document has been generated. -/
def closing (dryRun : Bool) (output : String) : Event :=
  if dryRun then .logged (Log.record moduleLogger .info ("Dry run, not writing " ++ output))
  else .logged (Log.generationDone component output)

/-- What happens while the operator is shown progress: the name is looked at, the text is synthesized, and it
    is written unless this is a dry run. -/
def attempt (files : FileSystem) (banner : Banner) (path : String) (dryRun : Bool) : Run Rendered :=
  match Request.ofPath path with
  | .error failure => ⟨[], files, .error failure⟩
  | .ok request =>
    let warning := nameWarning request
    match synthesizeRequest request banner with
    | .error failure => ⟨warning, files, .error failure⟩
    | .ok rendered =>
      if dryRun then ⟨warning, files, .ok rendered⟩
      else
        let written := write files rendered
        ⟨warning ++ written.events, written.files, written.result.map fun _ => rendered⟩

/-- Generate one document and write it unless this is a dry run. -/
def generate (files : FileSystem) (banner : Banner) (path : String) (dryRun : Bool) : Run Rendered :=
  let opening := [.logged (Log.generationStarted component path), progress]
  let attempted := attempt files banner path dryRun
  let ending := match attempted.result with
    | .ok rendered => [closing dryRun rendered.path]
    | .error _ => []
  ⟨opening ++ attempted.events ++ .progressCleared :: ending, attempted.files, attempted.result⟩

/-- Generate several documents: problems are logged and reported, and anything else ends the batch. -/
def generateAll (files : FileSystem) (banner : Banner) (dryRun : Bool) : List String → Run Report
  | [] => ⟨[], files, .ok {}⟩
  | path :: rest =>
    let first := generate files banner path dryRun
    match first.result with
    | .ok rendered =>
      let others := generateAll first.files banner dryRun rest
      ⟨first.events ++ others.events, others.files,
        others.result.map fun report => { report with generated := rendered :: report.generated }⟩
    | .error failure =>
      match failure.problem? with
      -- The files generated so far stay, but there is no report of them.
      | none => ⟨first.events, first.files, .error failure⟩
      | some problem =>
        let others := generateAll first.files banner dryRun rest
        let logged := .logged (Log.generationFailed component path problem.message)
        ⟨first.events ++ logged :: others.events, others.files,
          others.result.map fun report =>
            { report with failures := (path, problem.message) :: report.failures }⟩

end Generation

/-- Whether every document of a batch was generated. -/
def Report.succeeded (report : Report) : Bool :=
  report.failures.isEmpty

end CodeBehind
