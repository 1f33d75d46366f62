import CodeBehind.FileSystem.Basic
import CodeBehind.Log.Record

/-!
# Log settings

Where records go and which of them.

There is one threshold for everything, and a record either goes to the console and, if there is one, to the
log file, or it goes nowhere. A threshold is named by a level in any letter case; a name that is no level
stands for the usual one. The name of no level at all leaves the decision to the surroundings, which let
warnings pass.

A log file stays open. If the file is moved away or replaced while it is open, what is written to it is lost.

## Main definitions

* `thresholdOf`: The threshold that a name stands for.
* `LogFile`, `Setup`: The settings.
* `Setup.passes`: Whether a record goes anywhere.
-/

namespace CodeBehind

namespace Log

/-- The capital letters of a character, as far as they can occur in the name of a level. -/
def capitals (c : Char) : List Char :=
  match c with
  | '\u0131' => ['I']
  | '\u017f' => ['S']
  | '\u00df' => ['S', 'S']
  | '\ufb00' => ['F', 'F']
  | '\ufb01' => ['F', 'I']
  | '\ufb02' => ['F', 'L']
  | '\ufb03' => ['F', 'F', 'I']
  | '\ufb04' => ['F', 'F', 'L']
  | '\ufb05' => ['S', 'T']
  | '\ufb06' => ['S', 'T']
  | c => [c.toUpper]

/-- The names of thresholds. -/
def thresholds : List (String × Nat) := [
  ("CRITICAL", 50), ("FATAL", 50), ("ERROR", 40), ("WARNING", 30), ("WARN", 30), ("INFO", 20), ("DEBUG", 10),
  ("NOTSET", 0)]

/-- The threshold that is used where none is named. -/
def usualThreshold : Nat := Level.info.number

/-- The threshold that a name stands for. -/
def thresholdOf (name : String) : Nat :=
  (thresholds.lookup (String.ofList (name.toList.flatMap capitals))).getD usualThreshold

/-- The log file of a setup. -/
inductive LogFile where
  | none
  | open (place : Place)
  | lost
  deriving DecidableEq, Repr

/-- Where records go and which of them. -/
structure Setup where
  threshold : Nat := usualThreshold
  file : LogFile := .none
  deriving DecidableEq, Repr

/-- The least number a record must have. -/
def Setup.least (setup : Setup) : Nat :=
  if setup.threshold = 0 then Level.warning.number else setup.threshold

/-- Whether a record goes anywhere. -/
def Setup.passes (setup : Setup) (record : Record) : Bool :=
  setup.least ≤ record.level.number

/-- The setup after the file at a place has been moved away or replaced. -/
def Setup.losing (setup : Setup) (gone : Place → Bool) : Setup :=
  match setup.file with
  | .open place => if gone place then { setup with file := .lost } else setup
  | _ => setup

end Log

end CodeBehind
