import CodeBehind.Identifier
import CodeBehind.Text.Digit
import CodeBehind.Text.Quoted

/-!
# Command-line arguments

What the words of a command line ask for.

A word is an option or a plain argument, and which of the two it is depends on the word alone, unless it comes
after the separator: from there on every word is plain. Long options may be shortened as long as only one
begins that way. A word that merely looks like an option, such as a negative number or one with a space in it,
is plain. Paths are taken from the first run of plain words only; plain words after a later option are left
over, as are options that do not exist, and left-over words are an error once everything else has been found to
be right.

## Main definitions

* `Switch`: The options there are.
* `Word`, `classify`: A word of the command line, and what it is.
* `Arguments`: What a command line asks for.
* `Stop`: Why it asks for nothing: help was wanted, or it is wrong.
* `parse`: From the words to either.
* `usage`, `help`: The texts that explain the command.
-/

namespace CodeBehind

namespace CommandLine

/-- What a command line asks for. -/
structure Arguments where
  paths : List String := []
  config : Option String := none
  logLevel : Option String := none
  dryRun : Bool := false
  stdout : Bool := false
  deriving DecidableEq, Repr

/-- Why a command line is not carried out. -/
inductive Stop where
  | help
  | wrong (reason : String)
  deriving DecidableEq, Repr

/-- The options. -/
inductive Switch where
  | help
  | config
  | logLevel
  | dryRun
  | stdout
  deriving DecidableEq, Repr

/-- The short spelling of the option for help. -/
def shortHelp : String := "-h"

/-- The long spelling of an option. -/
def Switch.spelling : Switch → String
  | help => "--help"
  | config => "--config"
  | logLevel => "--log-level"
  | dryRun => "--dry-run"
  | stdout => "--stdout"

/-- How a message refers to an option. -/
def Switch.title : Switch → String
  | help => shortHelp ++ "/" ++ help.spelling
  | other => other.spelling

/-- All options, in the order in which they are explained. -/
def switches : List Switch := [.help, .config, .logLevel, .dryRun, .stdout]

/-- Whether a value goes with an option. -/
def Switch.takesValue : Switch → Bool
  | config => true
  | logLevel => true
  | _ => false

/-- A word of the command line: plain, an option with the value attached to it, help asked for by its short
    option with something attached to it, or an option that does not exist. -/
inductive Word where
  | plain (text : String)
  | option (switch : Switch) (attached : Option String)
  | cluster (letters : List Char)
  | unknown (text : String)
  deriving DecidableEq, Repr

/-- Whether a word is a negative number. -/
def isNegativeNumber (cs : List Char) : Bool :=
  match Identifier.dropFinalNewline cs with
  | '-' :: rest =>
    let whole := rest.takeWhile Text.isDigit
    match rest.dropWhile Text.isDigit with
    | [] => !whole.isEmpty
    | '.' :: digits => !digits.isEmpty && digits.all Text.isDigit
    | _ => false
  | _ => false

/-- A word up to its first equals sign, and what follows the sign if there is one. -/
def splitAttached (word : String) : String × Option String :=
  let cs := word.toList
  let name := String.ofList (cs.takeWhile (· ≠ '='))
  match cs.dropWhile (· ≠ '=') with
  | _ :: value => (name, some (String.ofList value))
  | [] => (name, none)

/-- The option that is spelled exactly so. -/
def exactSwitch? (name : String) : Option Switch :=
  if name = shortHelp then some .help else switches.find? fun switch => switch.spelling == name

/-- What a word is that starts like an option but is none. -/
def looksPlain (word : String) : Word :=
  if isNegativeNumber word.toList || word.toList.contains ' ' then .plain word else .unknown word

/-- What a word is, before the separator. What is attached to the short option for help stands right behind
    it or behind an equals sign that comes at once. -/
def classify (word : String) : Except Stop Word :=
  match word.toList with
  | '-' :: second :: more =>
    let (name, attached) := splitAttached word
    match exactSwitch? word, exactSwitch? name with
    | some switch, _ => .ok (.option switch none)
    | none, found =>
      if second = '-' then
        match found, switches.filter fun switch => name.toList.isPrefixOf switch.spelling.toList with
        | some switch, _ => .ok (.option switch attached)
        | none, [] => .ok (looksPlain word)
        | none, [switch] => .ok (.option switch attached)
        | none, several =>
          let spellings := ", ".intercalate (several.map Switch.spelling)
          .error (.wrong ("ambiguous option: " ++ word ++ " could match " ++ spellings))
      else if second = 'h' then
        .ok (.cluster (match more with
          | '=' :: value => value
          | letters => letters))
      else .ok (looksPlain word)
  | _ => .ok (.plain word)

/-- Complain about the value attached to an option that takes none. -/
def ignored (switch : Switch) (value : String) : Stop :=
  .wrong ("argument " ++ switch.title ++ ": ignored explicit argument " ++ Text.quoted value)

/-- What the short option for help with something attached to it leads to: every letter has to be the option
    again, and there has to be one. -/
def clusterStop (letters : List Char) : Stop :=
  match letters, letters.dropWhile (· = 'h') with
  | _ :: _, [] => .help
  | _, rest => ignored .help (String.ofList rest)

/-- How far the search for the paths has come. -/
inductive Progress where
  | before
  | within
  | after
  deriving DecidableEq, Repr

/-- What has been found so far. -/
structure Found where
  arguments : Arguments := {}
  progress : Progress := .before
  leftOver : List String := []

/-- Give an option its value. -/
def Arguments.set (arguments : Arguments) (switch : Switch) (value : String) : Arguments :=
  match switch with
  | .config => { arguments with config := some value }
  | .logLevel => { arguments with logLevel := some value }
  | _ => arguments

/-- Turn an option on. -/
def Arguments.turnOn (arguments : Arguments) (switch : Switch) : Arguments :=
  match switch with
  | .dryRun => { arguments with dryRun := true }
  | .stdout => { arguments with stdout := true }
  | _ => arguments

/-- Note that an option ends a run of plain words. -/
def Found.endRun (found : Found) : Found :=
  { found with progress := if found.progress = .before then .before else .after }

/-- Add a plain word: to the paths, or to what is left over once they have ended. -/
def Found.addPlain (found : Found) (text : String) : Found :=
  if found.progress = .after then { found with leftOver := found.leftOver ++ [text] }
  else
    { found with
      progress := .within
      arguments := { found.arguments with paths := found.arguments.paths ++ [text] } }

/-- Go through the words before the separator. -/
def collect (found : Found) : List Word → Except Stop Found
  | [] => .ok found
  | .plain text :: rest => collect (found.addPlain text) rest
  | .unknown text :: rest =>
    collect { found.endRun with leftOver := found.leftOver ++ [text] } rest
  | .cluster letters :: _ => .error (clusterStop letters)
  | .option switch (some value) :: rest =>
    if switch.takesValue then
      collect { found.endRun with arguments := found.arguments.set switch value } rest
    else .error (ignored switch value)
  | .option switch none :: rest =>
    if switch.takesValue then
      match rest with
      | .plain value :: rest => collect { found.endRun with arguments := found.arguments.set switch value } rest
      | _ => .error (.wrong ("argument " ++ switch.title ++ ": expected one argument"))
    else if switch = .help then .error .help
    else collect { found.endRun with arguments := found.arguments.turnOn switch } rest

/-- The word from which on all words are plain. -/
def separator : String := "--"

/-- Add the words after the separator; they belong to the run of plain words before it. -/
def Found.addRest (found : Found) (rest : List String) : Found :=
  if found.progress = .after then { found with leftOver := found.leftOver ++ separator :: rest }
  else { found with arguments := { found.arguments with paths := found.arguments.paths ++ rest } }

/-- What the words of a command line ask for. -/
def parse (words : List String) : Except Stop Arguments := do
  let options ← (words.takeWhile (· ≠ separator)).mapM classify
  let found ← collect {} options
  let found := match words.dropWhile (· ≠ separator) with
    | _ :: rest => found.addRest rest
    | [] => found
  if found.arguments.paths.isEmpty then .error (.wrong "the following arguments are required: paths")
  else if found.leftOver.isEmpty then return found.arguments
  else .error (.wrong ("unrecognized arguments: " ++ " ".intercalate found.leftOver))

/-- The name of the command. -/
def program : String := "rosalina-generate"

/-- The forms the command takes. -/
def usage : String :=
  "usage: " ++ program ++ " [-h] [--config CONFIG] [--log-level LOG_LEVEL]\n" ++
    "                         [--dry-run] [--stdout]\n" ++
    "                         paths [paths ...]\n"

/-- The explanation of the command. -/
def help : String :=
  usage ++ "\nGenerate C# code-behind files for Unity UI documents\n" ++
    "\npositional arguments:\n" ++
    "  paths                 UI document files or directories to search\n" ++
    "\noptions:\n" ++
    "  -h, --help            show this help message and exit\n" ++
    "  --config CONFIG       JSON or YAML configuration file\n" ++
    "  --log-level LOG_LEVEL\n" ++
    "  --dry-run             render without writing files\n" ++
    "  --stdout              print generated code instead of writing it\n"

/-- The complaint about a command line that is wrong. -/
def complaint (reason : String) : String :=
  usage ++ program ++ ": error: " ++ reason ++ "\n"

end CommandLine

end CodeBehind
