import CodeBehind.Syntax.Basic
import CodeBehind.Text.Blank

/-!
# Well-formed trees

The structural rules of a tree, and the first place where one is broken.

A file declares at least one type and imports nothing twice; every declaration has a name, every member a
type and every attribute of a field a name; no two members of a type share a name. A type name must have
something to see, a member name must only not be empty. `violation?` walks the tree in the order in which it
is written, so a tree with several faults always reports the same one.

## Main definitions

* `Violation`: A broken rule.
* `Violation.message`, `Violation.node`: The rule in words, and the declaration it concerns.
* `Member.violation?`, `TypeDecl.violation?`, `CompilationUnit.violation?`: The first broken rule.
-/

namespace CodeBehind

namespace Syntax

/-- A structural rule that a tree breaks. -/
inductive Violation where
  | noTypes
  | emptyImport
  | duplicateImports (imports : List String)
  | unnamedType
  | unnamedMember (owner : String)
  | untypedMember (member owner : String)
  | unnamedAttribute (field : String)
  | duplicateMember (member owner : String)
  deriving DecidableEq, Repr

/-- The broken rule in words. -/
def Violation.message : Violation → String
  | noTypes => "Compilation unit must declare at least one type"
  | emptyImport => "Import names cannot be empty"
  | duplicateImports imports => "Duplicate imports: " ++ Text.quotedList imports
  | unnamedType => "Type declaration name cannot be empty"
  | unnamedMember owner => "Member of type '" ++ owner ++ "' has no name"
  | untypedMember member owner => "Member '" ++ member ++ "' of type '" ++ owner ++ "' has no type"
  | unnamedAttribute field => "Field '" ++ field ++ "' has an unnamed attribute"
  | duplicateMember member owner => "Duplicate member '" ++ member ++ "' in type '" ++ owner ++ "'"

/-- The declaration a broken rule concerns; empty where it concerns the file. -/
def Violation.node : Violation → String
  | noTypes => ""
  | emptyImport => ""
  | duplicateImports _ => ""
  | unnamedType => ""
  | unnamedMember owner => owner
  | untypedMember member _ => member
  | unnamedAttribute field => field
  | duplicateMember _ owner => owner

/-- The rule that a member of the type `owner` breaks on its own. -/
def Member.violation? (owner : String) (member : Member) : Option Violation :=
  if member.name = "" then some (.unnamedMember owner)
  else if member.typeName = "" then some (.untypedMember member.name owner)
  else if member.attributes.contains "" then some (.unnamedAttribute member.name)
  else none

/-- The first rule that members of the type `owner` break, where `seen` are the names of those before. -/
def membersViolation? (owner : String) (seen : List String) : List Member → Option Violation
  | [] => none
  | member :: rest =>
    match member.violation? owner with
    | some violation => some violation
    | none =>
      if seen.contains member.name then some (.duplicateMember member.name owner)
      else membersViolation? owner (member.name :: seen) rest

/-- The first rule that a type breaks. -/
def TypeDecl.violation? (type : TypeDecl) : Option Violation :=
  if Text.allBlank type.name then some .unnamedType
  else membersViolation? type.name [] type.members

/-- The first rule that a file breaks. -/
def CompilationUnit.violation? (unit : CompilationUnit) : Option Violation :=
  if unit.types.isEmpty then some .noTypes
  else if unit.imports.contains "" then some .emptyImport
  else if ¬ unit.imports.Nodup then some (.duplicateImports unit.imports)
  else unit.types.findSome? TypeDecl.violation?

end Syntax

end CodeBehind
