import CodeBehind.Config.Basic
import CodeBehind.FileSystem.Save
import CodeBehind.Json.Reader
import CodeBehind.Json.Writer
import CodeBehind.Log.Record
import CodeBehind.Yaml.Document
import CodeBehind.Yaml.Writer

/-!
# Configuration files

Finding, reading and writing the file of a configuration.

The format follows from the extension: YAML for its two extensions and JSON for anything else. A missing file
is no problem and gives the defaults. Everything that keeps an existing file from being read is a problem that
names the file, with exceptions that are faults of the path or of a single YAML scalar and pass through.

Without a path the working directory is searched for the usual names; if none of them is there, the last name
is taken, and is missing.

## Main definitions

* `isYaml`: The format of a file.
* `discover`: The file that is used without a path.
* `load`: The configuration of a file.
* `content`: The text of a configuration.
* `save`: Writing a configuration to its file.
-/

namespace CodeBehind

namespace Config

/-- The logger of this module. -/
def moduleLogger : String := "rosalina.utils.config"

/-- The names of configuration files, in the order in which they are looked for. -/
def usualNames : List String := ["rosalina.yaml", "rosalina.yml", "rosalina.json"]

/-- The extensions of YAML files. -/
def yamlSuffixes : List String := [".yaml", ".yml"]

/-- Whether a file is in YAML. -/
def isYaml (file : String) : Bool :=
  yamlSuffixes.contains (Text.lower (Path.suffix file))

/-- The file that is used without a path. -/
def discover (files : FileSystem) : Except Failure String :=
  let candidates := usualNames.map fun name => Path.below files.workdirPath [name]
  let search (file : String) (rest : Except Failure String) : Except Failure String :=
    match files.find? file with
    | .error error => .error (.file error)
    | .ok (some _) => .ok file
    | .ok none => rest
  candidates.foldr search (.ok (candidates.getLast?.getD ""))

/-- The file that a path asks for. -/
def chooseFile (files : FileSystem) (path : Option String) : Except Failure String :=
  match path with
  | some path => if path = "" then discover files else .ok (Path.tidy path)
  | none => discover files

/-- The problem that a file cannot be read. -/
def unreadable (file reason : String) : Failure :=
  .problem (.configuration ("Failed to load configuration: " ++ reason) file)

/-- What a file holds. -/
inductive Contents where
  | json (value : Value)
  | yaml (document : Yaml.Document)

/-- What the text of a file holds. -/
def parse (file : String) (text : List Char) : Except Failure Contents :=
  if isYaml file then
    match Yaml.read text with
    | .ok document => .ok (.yaml document)
    | .error .refused => .error (unreadable file "the text is not well-formed YAML")
    | .error (.misuse misuse) => .error (.misuse misuse)
  else
    match Json.read text with
    | .ok value => .ok (.json value)
    | .error fault => .error (unreadable file (fault.message text))

/-- What a file holds that is there. -/
def readContents (files : FileSystem) (file : String) : Except Failure Contents :=
  match files.read file with
  | .error error => .error (unreadable file error.message)
  | .ok content =>
    match Text.decode content with
    | .error fault => .error (unreadable file fault.message)
    | .ok text => parse file (Text.unifyLineEndings text.toList)

/-- The configuration that a root gives, after the record that it was read. -/
def announce (view : View α) (file : String) (root : α) : List Log.Record × Except Failure Config :=
  match rootEntries view file root with
  | .error problem => ([], .error (.problem problem))
  | .ok entries =>
    ([Log.record moduleLogger .info ("Loaded configuration from " ++ file)], ofEntries view file entries)

/-- The configuration of a file, after the records about reading it. -/
def load (files : FileSystem) (path : Option String) : List Log.Record × Except Failure Config :=
  match chooseFile files path with
  | .error failure => ([], .error failure)
  | .ok file =>
    match files.find? file with
    | .error error => ([], .error (.file error))
    | .ok none =>
      let text := "Configuration file " ++ file ++ " not found, using defaults"
      ([Log.record moduleLogger .debug text], .ok { file })
    | .ok (some _) =>
      match readContents files file with
      | .error failure => ([], .error failure)
      | .ok (.json value) => announce View.ofValue file value
      | .ok (.yaml document) => announce document.view file document.root

/-- The text of a configuration in the format of its file. -/
def content (config : Config) : String :=
  if isYaml config.file then
    Yaml.write [
      ("generator", [
        ("tool_name", .text config.generator.toolName),
        ("version", (config.generator.version.map Value.text).getD .null),
        ("document_extension", .text config.generator.documentExtension)]),
      ("logging", [
        ("level", .text config.logging.level),
        ("enable_file_logging", .truth config.logging.fileLogging),
        ("log_file", .text config.logging.logFile)])]
  else Json.write config.toValue

/-- Write a configuration to its file. -/
def save (files : FileSystem) (config : Config) : Except Failure (FileSystem × Log.Record) :=
  match files.openFile config.file with
  | .ok (place, files) =>
    .ok (files.fill place config.content.toUTF8,
      Log.record moduleLogger .info ("Configuration saved to " ++ config.file))
  | .error error =>
    if error.fault = .nullByte then .error (.file error)
    else .error (.problem (.configuration ("Failed to save configuration: " ++ error.message) config.file))

end Config

end CodeBehind
