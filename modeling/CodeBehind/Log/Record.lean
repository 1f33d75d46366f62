/-!
# Log records

What is said about a run while it goes on.

A record belongs to a logger, has a level and says one thing, which may run over several lines. The loggers
all belong to one family and are told apart by the name of the component that speaks. The sentences that the
components use are gathered here, so that the same event is always worded in the same way.

## Main definitions

* `Level`, `Record`: A record and how much it matters.
* `Record.line`: A record as it is written.
* `generationStarted` and the functions after it: The sentences of the components.
-/

namespace CodeBehind

namespace Log

/-- How much a record matters. -/
inductive Level where
  | debug
  | info
  | warning
  | error
  | critical
  deriving DecidableEq, Repr

/-- The number by which levels are compared. -/
def Level.number : Level → Nat
  | debug => 10
  | info => 20
  | warning => 30
  | error => 40
  | critical => 50

/-- The name under which a level is written. -/
def Level.name : Level → String
  | debug => "DEBUG"
  | info => "INFO"
  | warning => "WARNING"
  | error => "ERROR"
  | critical => "CRITICAL"

/-- Something that is said by a logger. -/
structure Record where
  logger : String
  level : Level
  text : String
  deriving DecidableEq, Repr

/-- The full name of the logger of a component. -/
def loggerName (component : String) : String :=
  "rosalina." ++ component

/-- A record by the logger of a component. -/
def record (component : String) (level : Level) (text : String) : Record :=
  ⟨loggerName component, level, text⟩

/-- A record as a line of the log. -/
def Record.line (clock : String) (record : Record) : String :=
  clock ++ " - " ++ record.logger ++ " - " ++ record.level.name ++ " - " ++ record.text ++ "\n"

/-- A document is about to be generated. -/
def generationStarted (component document : String) : Record :=
  record component .info ("Generating UI code behind for " ++ document)

/-- A file has been generated. -/
def generationDone (component output : String) : Record :=
  record component .info ("Done generating: " ++ output)

/-- A document could not be generated. -/
def generationFailed (component document reason : String) : Record :=
  record component .error ("Failed to generate UI code behind for " ++ document ++ ": " ++ reason)

/-- A document has a name that no class can have. -/
def invalidIdentifier (component typeName document : String) : Record :=
  record component .warning ("'" ++ typeName ++ "' is not a valid C# identifier; the code generated for " ++
    document ++ " will not compile")

/-- A path is passed over. -/
def skipped (component path reason : String) : Record :=
  record component .warning ("Skipping " ++ path ++ ": " ++ reason)

end Log

end CodeBehind
