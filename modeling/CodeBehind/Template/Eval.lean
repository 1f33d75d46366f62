import CodeBehind.Banner
import CodeBehind.Failure
import CodeBehind.Template.Tree

/-!
# Values in templates

What the expressions of a template stand for in a context.

A name that is not defined is a value like any other until something is asked of it: it can be assigned, but
not shown. What is not defined is told by the name under which it was first looked up. A few names have a
meaning in every template unless the context or the template gives them another, and one of them is the
template itself.

## Main definitions

* `Datum`, `Scope`: What a name stands for, and the names of a block.
* `Fault`: Why a template cannot be rendered.
* `lineComment`: The one filter of the library.
* `Expr.eval`: The value of an expression.
-/

namespace CodeBehind

namespace Template

/-- What has a meaning in every template: a kind of things by its full name, the maker of filler text, and the
    template itself, which may have a name. -/
inductive Builtin where
  | kind (path : String)
  | filler
  | itself (template : Option String)
  deriving DecidableEq, Repr

/-- What an expression evaluates to. -/
inductive Datum where
  | value (value : Value)
  | builtin (builtin : Builtin)
  | undefined (name : String)

/-- The names a block knows, the newest first; one without a value has not been assigned yet. -/
abbrev Scope := List (String × Option Datum)

/-- Why a template cannot be rendered. -/
inductive Fault where
  | flawed (flaw : Flaw)
  | undefined (name : String)
  | misuse (misuse : Misuse)
  deriving DecidableEq, Repr

/-- The fault in words. -/
def Fault.message : Fault → String
  | flawed flaw => flaw.message
  | undefined name => Text.quoted name ++ " is undefined"
  | misuse m => m.message

/-- The name of the kind of a value. -/
def kindName : Value → String
  | .null => "NoneType"
  | .truth _ => "bool"
  | .integer _ => "int"
  | .real _ => "float"
  | .text _ => "str"
  | .halved _ => "str"
  | .bytes _ => "bytes"
  | .date _ => "datetime.date"
  | .moment _ => "datetime.datetime"
  | .list _ => "list"
  | .pair .. => "tuple"
  | .collection _ => "set"
  | .mapping _ => "dict"
  | .again isMapping => if isMapping then "dict" else "list"

/-- The names that have a meaning in every template. -/
def builtins : List (String × Builtin) := [
  ("range", .kind "range"), ("dict", .kind "dict"), ("lipsum", .filler), ("cycler", .kind "jinja2.utils.Cycler"),
  ("joiner", .kind "jinja2.utils.Joiner"), ("namespace", .kind "jinja2.utils.Namespace")]

/-- The last part of the full name of a kind. -/
def shortName (path : String) : String :=
  String.ofList (path.toList.reverse.takeWhile (· ≠ '.')).reverse

/-- The name of the kind of a built-in thing. -/
def Builtin.kindName : Builtin → String
  | kind _ => "type"
  | filler => "function"
  | itself _ => "TemplateReference"

/-- A built-in thing as it is shown. -/
def Builtin.shown : Builtin → String
  | kind path => "<class '" ++ path ++ "'>"
  | filler => "<function generate_lorem_ipsum>"
  | itself template => "<TemplateReference " ++ (template.elim "None" Text.quoted) ++ ">"

/-- Complain about the use of a built-in thing as a text. -/
def Builtin.misuse (method : String) : Builtin → Misuse
  | kind path => .noKindMethod (shortName path) method
  | other => .noMethod other.kindName method

/-- What a name stands for. -/
def lookup (context : List (Value × Value)) (scope : Scope) (name : String) : Datum :=
  match scope.lookup name with
  | some (some datum) => datum
  | some none => .undefined name
  | none =>
    match Value.lookup context name with
    | some value => .value value
    | none =>
      match builtins.lookup name with
      | some builtin => .builtin builtin
      | none => .undefined name

/-- The mark that a filter puts before a line: it must be a text. -/
def markText : Datum → Except Fault (List Char)
  | .undefined name => .error (.undefined name)
  | .builtin builtin => .error (.misuse (.noSum builtin.kindName "str"))
  | .value (.text mark) => .ok mark.toList
  | .value (.halved mark) => .ok (Point.shown mark)
  | .value (.list _) => .error (.misuse (.noConcatenation "list"))
  | .value value => .error (.misuse (.noSum (kindName value) "str"))

/-- Put a mark before every line of some characters; the mark is looked at only if there is a line. -/
def commentText (mark : Datum) (text : List Char) : Except Fault Datum :=
  if (Text.commentLines text).isEmpty then .ok (.value (.text ""))
  else do return .value (.text (String.ofList (Banner.lineComment (← markText mark) text)))

/-- Put a mark before every line of a text. -/
def lineComment (subject mark : Datum) : Except Fault Datum :=
  match subject with
  | .undefined name => .error (.undefined name)
  | .builtin builtin => .error (.misuse (builtin.misuse "splitlines"))
  | .value (.text text) => commentText mark text.toList
  | .value (.halved points) => commentText mark (Point.shown points)
  | .value value => .error (.misuse (.noMethod (kindName value) "splitlines"))

/-- The name of the filter that makes line comments. -/
def lineCommentFilter : String := "line_comment"

/-- The full name of that filter in messages. -/
def lineCommentTitle : String := "TemplateRenderer._setup_custom_filters.<locals>.comment_filter"

/-- The names of the arguments of that filter, of which the first is the text it is applied to. -/
def lineCommentArguments : List String := ["text", "prefix"]

/-- What is wrong with named arguments, when so many others are given. -/
def namedFault? (plain : Nat) : List String → Option Misuse
  | [] => none
  | name :: rest =>
    if !lineCommentArguments.contains name then some (.unknownArgument lineCommentTitle name)
    else if lineCommentArguments.idxOf name < plain then some (.repeatedArgument lineCommentTitle name)
    else namedFault? plain rest

/-- The argument that the filter uses, given by position or by name; of several with its name the last. -/
def markArgument (given : List (Option String × Datum)) : Except Fault Datum :=
  let plain := 1 + (given.filter fun argument => argument.1.isNone).length
  match namedFault? plain (given.filterMap (·.1)) with
  | some misuse => .error (.misuse misuse)
  | none =>
    if lineCommentArguments.length < plain then
      .error (.misuse (.tooManyArguments lineCommentTitle 1 lineCommentArguments.length plain))
    else .ok ((given.getLast?.map (·.2)).getD (.value (.text Banner.commentMark)))

mutual

/-- The value of an expression. -/
def Expr.eval (context : List (Value × Value)) (scope : Scope) : Expr → Except Fault Datum
  | .constant value => .ok (.value value)
  | .name name => .ok (lookup context scope name)
  | .filtered inner filter given => do
    let subject ← inner.eval context scope
    let given ← evalArguments context scope given
    if filter = lineCommentFilter then lineComment subject (← markArgument given)
    else .error (.misuse (.otherFilter filter))

/-- The values of arguments. -/
def evalArguments (context : List (Value × Value)) (scope : Scope) :
    List (Option String × Expr) → Except Fault (List (Option String × Datum))
  | [] => .ok []
  | (name, expr) :: rest => do
    let datum ← expr.eval context scope
    return (name, datum) :: (← evalArguments context scope rest)

end

end Template

end CodeBehind
