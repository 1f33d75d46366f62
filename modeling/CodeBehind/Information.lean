import CodeBehind.Session

/-!
# Information

What the library says about itself and about the configuration in use.

The configuration is the shared one, so asking for information may read it for the first time. One that cannot
be read is part of the answer; a banner that cannot be made is not, and ends the action. The report about all
this starts with its heading even if the rest fails. What it says about the surroundings comes from the caller,
who knows them.

## Main definitions

* `Installation`: The identity of the library and the configuration in use.
* `installation`: The action that finds it out.
* `report`: The printed report.
* `installedVersion`: The version of a package.
-/

namespace CodeBehind

namespace Information

/-- Who made the library. -/
def author : String := "Rosalina Team"

/-- Where to write to them. -/
def email : String := "rosalina@example.com"

/-- The configuration in use, as far as a report shows it. -/
structure Settings where
  file : String
  fileExists : Bool
  toolName : String
  bannerVersion : String
  documentExtension : String
  deriving DecidableEq, Repr

/-- Find out about the configuration in use. -/
def settings (config : Config) : Action Settings := do
  let banner ← settle .banner config.banner
  let entry ← settle .file ((← get).files.find? config.file)
  return ⟨config.file, entry.isSome, banner.toolName, banner.version, config.generator.documentExtension⟩

/-- The configuration in use, or the problem with it. -/
def inUse : Action (Except Problem Settings) := do
  match ← observing sharedConfig with
  | .error (.problem problem) => return .error problem
  | .error failure => throw failure
  | .ok config => return .ok (← settings config)

/-- The line at the top of the report, and the rule below it. -/
def heading : String :=
  "Rosalina UI Code-Behind Generator\n" ++ String.ofList (List.replicate 40 '=') ++ "\n"

/-- What the report says about a configuration file. -/
def Settings.state (settings : Settings) : String :=
  if settings.fileExists then "found" else "not found, using defaults"

/-- The lines of the report about the library and its configuration. -/
def lines (inUse : Except Problem Settings) : List String :=
  ["", "Rosalina Version: " ++ Banner.libraryVersion, "Author: " ++ author] ++
    match inUse with
    | .error problem => ["Configuration Error: " ++ problem.describe]
    | .ok settings =>
      ["Configuration: " ++ settings.file ++ " (" ++ settings.state ++ ")",
        "Banner: " ++ settings.toolName ++ " " ++ settings.bannerVersion,
        "Document Extension: " ++ settings.documentExtension]

/-- The lines of the report about the surroundings. -/
def surroundingLines (surroundings : List (String × String)) : List String :=
  "" :: surroundings.map fun (label, value) => label ++ ": " ++ value

/-- Lines of text, each with its end. -/
def unlines (lines : List String) : String :=
  String.join (lines.map (· ++ "\n"))

/-- Print the report; the result is the exit code. -/
def report (surroundings : List (String × String)) : Action Nat := do
  change (Session.print heading)
  match ← observing inUse with
  | .ok inUse =>
    change (Session.print (unlines (lines inUse ++ surroundingLines surroundings)))
    return 0
  | .error failure =>
    change (Session.print ("Error getting system information: " ++ failure.message ++ "\n"))
    return 1

/-- The signs that stand for one another in the names of packages. -/
def isJoint (c : Char) : Bool :=
  c = '-' || c = '_' || c = '.'

/-- The form of the name of a package that is the same for all its spellings: letter case does not matter, and
    a run of joints counts as one of them, where `joined` says whether one has just been passed. -/
def packageKey (joined : Bool) : List Char → List Char
  | [] => []
  | c :: rest =>
    if isJoint c then if joined then packageKey true rest else '-' :: packageKey true rest
    else c.toLower :: packageKey false rest

/-- The version of an installed package; the packages are listed by the names they give themselves. -/
def installedVersion (installed : List (String × String)) (name : String) : Except Failure String :=
  if name = "" then .error (.misuse .namelessPackage)
  else
    let key := packageKey false name.toList
    match installed.find? fun package => packageKey false package.1.toList = key with
    | some package => .ok package.2
    | none => .ok "Not installed"

end Information

end CodeBehind
