import CodeBehind.FileSystem.Save
import CodeBehind.Log.Setup

/-!
# Loggers

How a record comes from its logger to the console and to the log file.

Loggers lie above each other. On the way up from the logger of a record, the first threshold that is set decides
whether the record is let through, and if it is, all loggers on the way pass it to their handlers, up to the first one
that does not propagate. A handler has a threshold of its own. The topmost logger belongs to the surroundings, which may
have added handlers to it, and below the logger of the library there are only loggers without settings.

New log settings concern the logger of the library. The handlers that it has are removed one by one, going through the
list as it was before the first of them was removed. Then come the new handlers, first the one for the console. A file
that cannot be opened ends this early, when the logger already has its threshold and its console.

`Setup` tells the same by one threshold and one file, and `Setup.logger` is the logger that it stands for.

## Main definitions

* `Sink`, `Handler`, `Logger`: What a record passes on its way.
* `Logger.restart`: A logger with a new threshold and the console.
* `takers`: The handlers that take a record.
* `Setup.logger`: The logger of the library.
* `Station`: The logger of the library with what its handlers write to.
* `Station.setUp`, `Station.say`: New log settings, and a record.
-/

namespace CodeBehind

namespace Log

/-- Where a handler writes. -/
inductive Sink where
  | console
  | file (place : Place)
  | lost
  deriving DecidableEq, Repr

/-- What writes the records that reach a threshold. -/
structure Handler where
  sink : Sink
  threshold : Nat
  deriving DecidableEq, Repr

/-- A logger; a threshold of zero leaves the decision to the logger above. -/
structure Logger where
  threshold : Nat := 0
  handlers : List Handler := []
  propagates : Bool := true
  deriving DecidableEq, Repr

namespace Logger

/-- Add a handler behind the others. -/
def add (logger : Logger) (handler : Handler) : Logger :=
  { logger with handlers := logger.handlers ++ [handler] }

/-- Remove a handler; of equal ones it does not matter which. -/
def remove (logger : Logger) (handler : Handler) : Logger :=
  { logger with handlers := logger.handlers.erase handler }

/-- Remove the handlers that a logger has at the beginning. -/
def clear (logger : Logger) : Logger :=
  logger.handlers.foldl remove logger

/-- Set a threshold, and put the console in the place of all handlers. -/
def restart (logger : Logger) (threshold : Nat) : Logger :=
  ({ logger with threshold } : Logger).clear.add ⟨.console, threshold⟩

end Logger

/-- The threshold that decides, of loggers from the bottom up. -/
def decisive : List Logger → Nat
  | [] => 0
  | logger :: above => if logger.threshold = 0 then decisive above else logger.threshold

/-- The handlers that are reached, of loggers from the bottom up. -/
def reached : List Logger → List Handler
  | [] => []
  | logger :: above => logger.handlers ++ if logger.propagates then reached above else []

/-- The handlers that take a record, in their order. -/
def takers (loggers : List Logger) (record : Record) : List Handler :=
  if decisive loggers ≤ record.level.number then
    (reached loggers).filter fun handler => handler.threshold ≤ record.level.number
  else []

/-- The logger of the library with those below it and the topmost one. -/
def family (depth : Nat) (library : Logger) (others : List Handler) : List Logger :=
  List.replicate depth ({} : Logger) ++ [library, { threshold := Level.warning.number, handlers := others }]

/-- Where the handler for a log file writes, if there is one. -/
def LogFile.sinks : LogFile → List Sink
  | none => []
  | .open place => [.file place]
  | lost => [.lost]

/-- The logger that a setup stands for. -/
def Setup.logger (setup : Setup) : Logger where
  threshold := setup.threshold
  handlers := (.console :: setup.file.sinks).map fun sink => ⟨sink, setup.threshold⟩
  propagates := false

/-- The logger of the library with what its handlers write to. -/
structure Station where
  logger : Logger
  files : FileSystem
  stderr : String

namespace Station

/-- A handler writes a line. -/
def write (line : String) (station : Station) (handler : Handler) : Station :=
  match handler.sink with
  | .console => { station with stderr := station.stderr ++ line }
  | .file place => { station with files := station.files.append place line.toUTF8 }
  | .lost => station

/-- New log settings. Without a level the surroundings name one, or it is the usual one. -/
def setUp (level surroundings file : Option String) (station : Station) : Station :=
  let threshold := thresholdOf ((level <|> surroundings).getD Level.info.name)
  let console := station.logger.restart threshold
  match file.filter (· ≠ "") with
  | none => { station with logger := { console with propagates := false } }
  | some file =>
    match station.files.openFile (Path.absolute station.files.workdirPath file) with
    | .error _ => { station with logger := console }
    | .ok (place, files) =>
      { station with files, logger := { console.add ⟨.file place, threshold⟩ with propagates := false } }

/-- A record by a logger with `depth` loggers between itself and that of the library, itself included, while the topmost
    logger has the handlers `others`. -/
def say (depth : Nat) (others : List Handler) (clock : String) (record : Record) (station : Station) : Station :=
  (takers (family depth station.logger others) record).foldl (write (record.line clock)) station

end Station

end Log

end CodeBehind
