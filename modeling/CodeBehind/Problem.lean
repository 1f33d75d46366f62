import CodeBehind.Syntax.Violation

/-!
# Problems

What can go wrong with a document, a tree, a file or a configuration, as it is reported to a user.

Each problem has a message, and details that name what it is about. The details follow the message in
brackets when the problem is shown in full. A problem of persistence also keeps the text that could not be
written, so that a caller can write it again without generating it again; the text is not shown.

## Main definitions

* `Problem`: A reported problem.
* `Problem.message`, `Problem.details`: Its two parts.
* `Problem.describe`: Both together.
-/

namespace CodeBehind

/-- A problem that is reported to a user. -/
inductive Problem where
  | general (message : String) (details : List (String × String))
  | invalidRequest (document reason : String)
  | malformedTree (message node : String)
  | persistence (path reason text : String)
  | configuration (message file : String)
  deriving DecidableEq, Repr

namespace Problem

/-- A sentence with the reason for it, if there is one. -/
def withReason (sentence reason : String) : String :=
  if reason = "" then sentence else sentence ++ ": " ++ reason

/-- The sentence that states the problem. -/
def message : Problem → String
  | general message _ => message
  | invalidRequest document reason => withReason ("Invalid document path '" ++ document ++ "'") reason
  | malformedTree message _ => message
  | persistence path reason _ => withReason ("Failed to write generated file '" ++ path ++ "'") reason
  | configuration message _ => message

/-- Set a detail: a new key goes to the end, a known one keeps its place. -/
def setDetail (details : List (String × String)) (key value : String) : List (String × String) :=
  if details.any (·.1 == key) then details.map fun d => if d.1 == key then (key, value) else d
  else details ++ [(key, value)]

/-- A detail that is left out if it is empty. -/
def optionalDetail (key value : String) : List (String × String) :=
  if value = "" then [] else [(key, value)]

/-- What the problem is about. -/
def details : Problem → List (String × String)
  | general _ details => details.foldl (fun found d => setDetail found d.1 d.2) []
  | invalidRequest document _ => [("document_path", document)]
  | malformedTree _ node => optionalDetail "node" node
  | persistence path _ _ => [("path", path)]
  | configuration _ file => optionalDetail "config_file" file

/-- The message, followed by the details in brackets. -/
def describe (problem : Problem) : String :=
  match problem.details with
  | [] => problem.message
  | details => problem.message ++ " (" ++ ", ".intercalate (details.map fun d => d.1 ++ "=" ++ d.2) ++ ")"

/-- The problem that a broken rule of a tree is reported as. -/
def ofViolation (violation : Syntax.Violation) : Problem :=
  malformedTree violation.message violation.node

end Problem

end CodeBehind
