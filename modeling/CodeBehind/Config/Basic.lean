import CodeBehind.Document
import CodeBehind.Failure
import CodeBehind.Path.Tidy
import CodeBehind.Value.View

/-!
# Configurations

The settings of a run, and how they are read out of what a file holds.

A configuration has two sections. Each field is read from its own key of its own section and from nothing
else: a missing key gives the default, and whatever value is there is taken as a text, or as true or false.
Only the version tells null from a text. A missing, null or otherwise empty section is a section without keys,
and one that is neither empty nor a mapping is refused, as is such a root.

The texts are kept as characters. A file can name texts that have halves of pairs in them; these halves are replaced,
and the configuration remembers the keys of such texts.

## Main definitions

* `GeneratorSection`, `LoggingSection`, `Config`: The settings.
* `Config.halvedKeys`: The keys of texts in which halves are replaced.
* `Config.ofEntries`: The settings that the entries of a root give.
* `Config.toValue`, `Config.setField`: The settings as a value, and one setting from a value.
* `Config.banner`: The banner of generated files.
-/

namespace CodeBehind

/-- The settings of the generator; without a version of its own the banner shows that of the library. -/
structure GeneratorSection where
  toolName : String := Banner.defaultToolName
  version : Option String := none
  documentExtension : String := Document.extension
  deriving DecidableEq, Repr

/-- The settings of the log. -/
structure LoggingSection where
  level : String := "INFO"
  fileLogging : Bool := false
  logFile : String := "rosalina.log"
  deriving DecidableEq, Repr

/-- A configuration and the file it belongs to, with the keys of the texts in which halves are replaced; the stamp tells
    configurations apart that hold the same. -/
structure Config where
  file : String
  generator : GeneratorSection := {}
  logging : LoggingSection := {}
  halved : List String := []
  stamp : Nat := 0
  deriving DecidableEq, Repr

namespace Config

/-- The entries of a root; null counts as empty. -/
def rootEntries (view : View α) (file : String) (root : α) : Except Problem (List (Value × α)) :=
  if view.isNull root then .ok []
  else
    match view.entries? root with
    | some entries => .ok entries
    | none => .error (.configuration "Configuration root must be a mapping" file)

/-- The entries of a section; anything that does not count as true is an empty section. -/
def sectionEntries (view : View α) (file : String) (root : List (Value × α)) (name : String) :
    Except Problem (List (Value × α)) :=
  match (Value.lookup root name).filter view.isTrue with
  | none => .ok []
  | some value =>
    match view.entries? value with
    | some entries => .ok entries
    | none => .error (.configuration ("Configuration section '" ++ name ++ "' must be a mapping") file)

/-- The text of a key, or its default. -/
def textField (view : View α) (entries : List (Value × α)) (key default : String) :
    Except Decimal.NumeralFault String :=
  match Value.lookup entries key with
  | some value => view.text value
  | none => .ok default

/-- The text of a key that may be null. -/
def optionalField (view : View α) (entries : List (Value × α)) (key : String) :
    Except Decimal.NumeralFault (Option String) :=
  match Value.lookup entries key with
  | some value => if view.isNull value then .ok none else (view.text value).map some
  | none => .ok none

/-- Whether the value of a key counts as true, or its default. -/
def truthField (view : View α) (entries : List (Value × α)) (key : String) (default : Bool) : Bool :=
  match Value.lookup entries key with
  | some value => view.isTrue value
  | none => default

/-- The keys of the settings that are texts, in the section of the generator and in that of the log. -/
def generatorTexts : List String := ["tool_name", "version", "document_extension"]

@[inherit_doc generatorTexts]
def loggingTexts : List String := ["level", "log_file"]

/-- The keys of texts in which halves are replaced, out of some. -/
def halvedKeys (view : View α) (entries : List (Value × α)) (keys : List String) : List String :=
  keys.filter fun key => (Value.lookup entries key).any view.isHalved

/-- The settings of the generator in a section. -/
def generatorSection (view : View α) (entries : List (Value × α)) :
    Except Decimal.NumeralFault GeneratorSection := do
  let default : GeneratorSection := {}
  return {
    toolName := ← textField view entries "tool_name" default.toolName
    version := ← optionalField view entries "version"
    documentExtension := ← textField view entries "document_extension" default.documentExtension }

/-- The settings of the log in a section. -/
def loggingSection (view : View α) (entries : List (Value × α)) :
    Except Decimal.NumeralFault LoggingSection := do
  let default : LoggingSection := {}
  return {
    level := ← textField view entries "level" default.level
    fileLogging := truthField view entries "enable_file_logging" default.fileLogging
    logFile := ← textField view entries "log_file" default.logFile }

/-- The configuration that the entries of a root give; the generator comes first. -/
def ofEntries (view : View α) (file : String) (root : List (Value × α)) : Except Failure Config := do
  let entries ← (sectionEntries view file root "generator").mapError .problem
  let generator ← (generatorSection view entries).mapError .numeral
  let halved := halvedKeys view entries generatorTexts
  let entries ← (sectionEntries view file root "logging").mapError .problem
  let logging ← (loggingSection view entries).mapError .numeral
  return { file, generator, logging, halved := halved ++ halvedKeys view entries loggingTexts }

/-- A mapping with text keys. -/
def entries (pairs : List (String × Value)) : Value :=
  .mapping (pairs.map fun pair => (.text pair.1, pair.2))

/-- The settings of a configuration as a value. -/
def toValue (config : Config) : Value :=
  entries [
    ("generator", entries [
      ("tool_name", .text config.generator.toolName),
      ("version", (config.generator.version.map Value.text).getD .null),
      ("document_extension", .text config.generator.documentExtension)]),
    ("logging", entries [
      ("level", .text config.logging.level),
      ("enable_file_logging", .truth config.logging.fileLogging),
      ("log_file", .text config.logging.logFile)])]

/-- The banner of generated files; an empty version counts as none. -/
def banner (config : Config) : Except Banner.Fault Banner :=
  let version := match config.generator.version with
    | none => Banner.libraryVersion
    | some version => if version = "" then Banner.libraryVersion else version
  Banner.make config.generator.toolName version

/-- Remember whether halves are replaced in the text that a key is given. -/
def noting (config : Config) (key : String) (value : Value) : Config :=
  { config with halved := config.halved.filter (· ≠ key) ++ halvedKeys View.ofValue [(.text key, value)] [key] }

/-- Set a field by its name; names and values that do not fit change nothing. -/
def setField (config : Config) (group key : String) (value : Value) : Config :=
  let noted := config.noting key value
  match group, key, value with
  | "generator", "tool_name", value =>
    { noted with generator := { config.generator with toolName := value.display } }
  | "generator", "version", .null => { noted with generator := { config.generator with version := none } }
  | "generator", "version", value =>
    { noted with generator := { config.generator with version := some value.display } }
  | "generator", "document_extension", value =>
    { noted with generator := { config.generator with documentExtension := value.display } }
  | "logging", "level", value => { noted with logging := { config.logging with level := value.display } }
  | "logging", "enable_file_logging", value =>
    { config with logging := { config.logging with fileLogging := value.isTrue } }
  | "logging", "log_file", value => { noted with logging := { config.logging with logFile := value.display } }
  | _, _, _ => config

end Config

end CodeBehind
