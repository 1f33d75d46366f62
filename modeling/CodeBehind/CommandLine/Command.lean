import CodeBehind.CommandLine.Arguments
import CodeBehind.Session

/-!
# The command

Generating the documents that a command line names.

The command reads its configuration, sets up the log, collects the documents and generates them. It ends
early, as a wrong use, if the configuration cannot be read or if there is no document; after that it ends well
if every document could be generated. Printing the generated text takes the place of writing it.

## Main definitions

* `exitDone`, `exitFailed`, `exitUsage`: How the command can end.
* `chooseConfig`, `applyLogging`: The settings of a command line.
* `command`: The command, from its arguments to its exit code.
-/

namespace CodeBehind

namespace CommandLine

/-- Every document was generated. -/
def exitDone : Nat := 0

/-- Some document was not generated. -/
def exitFailed : Nat := 1

/-- There was nothing to generate, or no way to find out. -/
def exitUsage : Nat := 2

/-- The configuration that a command line asks for. -/
def chooseConfig (arguments : Arguments) : Action Config :=
  match arguments.config.filter (· ≠ "") with
  | some file => loadConfig (some file)
  | none => sharedConfig

/-- Log as the command line and the configuration say; the command line comes first. -/
def applyLogging (arguments : Arguments) (config : Config) : Action Unit :=
  let level := (arguments.logLevel.filter (· ≠ "")).getD config.logging.level
  configureLog (some level) none (if config.logging.fileLogging then some config.logging.logFile else none)

/-- Print what became of the documents. -/
def printReport (arguments : Arguments) (report : Report) (session : Session) : Session :=
  let session := if arguments.stdout then
      report.generated.foldl (fun session rendered => session.print rendered.text) session
    else session
  report.failures.foldl (fun session (path, reason) => session.complain (path ++ ": " ++ reason ++ "\n")) session

/-- Generate the documents that are asked for, with the settings in place. -/
def generateAsked (arguments : Arguments) (config : Config) : Action Nat := do
  let documents ← collectDocuments arguments.paths config.generator.documentExtension
  if documents.isEmpty then
    change (Session.complain "error: no UI documents found\n")
    return exitUsage
  let banner ← settle .banner config.banner
  let report ← generateAll banner documents (arguments.dryRun || arguments.stdout)
  change (printReport arguments report)
  return if report.succeeded then exitDone else exitFailed

/-- Carry out what the arguments ask for. A configuration that cannot be read is complained about; other
    failures end the command. -/
def carryOutArguments (arguments : Arguments) : Action Nat := do
  match ← observing (chooseConfig arguments) with
  | .error (.problem problem) =>
    change (Session.complain ("error: " ++ problem.describe ++ "\n"))
    return exitUsage
  | .error failure => throw failure
  | .ok config =>
    shareConfig (some config)
    applyLogging arguments config
    generateAsked arguments config

/-- The command. -/
def command (words : List String) : Action Nat :=
  match parse words with
  | .error .help => do
    change (Session.print help)
    return exitDone
  | .error (.wrong reason) => do
    change (Session.complain (complaint reason))
    return exitUsage
  | .ok arguments => carryOutArguments arguments

end CommandLine

end CodeBehind
