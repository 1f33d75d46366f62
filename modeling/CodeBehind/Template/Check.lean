import CodeBehind.Template.Eval

/-!
# Well-formed templates

Before anything is shown, the whole template is looked through for filters that do not exist and for numbers
that are too large to be written down. An expression without names is settled at once where that is possible,
and a number inside it that leaves no trace is then no matter.

There are two readers. The one that renders leaves no trace of statements on lines of their own and knows the filter
of the library besides those that every reader knows. The one that validates keeps white space as it is and knows no
filter but the usual ones.

## Main definitions

* `standardFilters`, `isFilter`: The filters that every reader knows, and those that rendering knows.
* `Reader`: The two readers of templates.
* `parse`: The tree of a template without flaws.
* `flaw?`: What is wrong with a template for a reader.
* `isValid`: Whether a template is well formed for the reader that validates.
-/

namespace CodeBehind

namespace Template

/-- The filters that every reader of templates knows. -/
def standardFilters : List String := [
  "abs", "attr", "batch", "capitalize", "center", "count", "d", "default", "dictsort", "e", "escape",
  "filesizeformat", "first", "float", "forceescape", "format", "groupby", "indent", "int", "items", "join",
  "last", "length", "list", "lower", "map", "max", "min", "pprint", "random", "reject", "rejectattr",
  "replace", "reverse", "round", "safe", "select", "selectattr", "slice", "sort", "string", "striptags",
  "sum", "title", "tojson", "trim", "truncate", "unique", "upper", "urlencode", "urlize", "wordcount",
  "wordwrap", "xmlattr"]

/-- The filters that rendering knows. -/
def isFilter (name : String) : Bool :=
  name == lineCommentFilter || standardFilters.contains name

mutual

/-- Whether an expression has no names and its filters are that of the library. -/
def Expr.isClosed : Expr → Bool
  | .constant _ => true
  | .name _ => false
  | .filtered inner filter given => filter == lineCommentFilter && inner.isClosed && argumentsClosed given

/-- Whether no argument has a name in its expression. -/
def argumentsClosed : List (Option String × Expr) → Bool
  | [] => true
  | (_, expr) :: rest => expr.isClosed && argumentsClosed rest

end

/-- Whether an expression has a value before the template is rendered, for a reader that knows its filters. -/
def Expr.isSettled (known : String → Bool) (expr : Expr) : Bool :=
  known lineCommentFilter && expr.isClosed && (expr.eval [] []).toOption.isSome

mutual

/-- What is wrong with an expression, outer filters first. -/
def Expr.flaw? (known : String → Bool) : Expr → Option Flaw
  | .constant value => if value.isShowable then none else some (.numeral .tooLarge)
  | .name _ => none
  | .filtered inner filter given =>
    if (Expr.filtered inner filter given).isSettled known then none
    else if !known filter then some (.malformed ("No filter named " ++ Text.quoted filter ++ "."))
    else
      match inner.flaw? known with
      | some flaw => some flaw
      | none => argumentsFlaw? known given

/-- What is wrong with some arguments. -/
def argumentsFlaw? (known : String → Bool) : List (Option String × Expr) → Option Flaw
  | [] => none
  | (_, expr) :: rest =>
    match expr.flaw? known with
    | some flaw => some flaw
    | none => argumentsFlaw? known rest

end

mutual

/-- What is wrong with a node. -/
def Node.flaw? (known : String → Bool) : Node → Option Flaw
  | .plain _ => none
  | .output expr => expr.flaw? known
  | .assign _ expr => expr.flaw? known
  | .capture _ body => nodesFlaw? known body

/-- What is wrong with some nodes. -/
def nodesFlaw? (known : String → Bool) : List Node → Option Flaw
  | [] => none
  | node :: rest =>
    match node.flaw? known with
    | some flaw => some flaw
    | none => nodesFlaw? known rest

end

/-- A reader of templates: the white space that it keeps, and the filters that it knows. -/
structure Reader where
  spacing : Spacing
  known : String → Bool

/-- The reader that renders. -/
def Reader.rendering : Reader := ⟨.traceless, isFilter⟩

/-- The reader that validates, which is that of templates at large. -/
def Reader.validating : Reader := ⟨.verbatim, standardFilters.contains⟩

/-- The tree of a template without flaws. -/
def parse (reader : Reader) (template : String) : Except Flaw (List Node) := do
  let tree ← Node.ofTokens (scan reader.spacing template)
  match nodesFlaw? reader.known tree with
  | some flaw => .error flaw
  | none => return tree

/-- What is wrong with a template. -/
def flaw? (reader : Reader) (template : String) : Option Flaw :=
  match parse reader template with
  | .ok _ => none
  | .error flaw => some flaw

/-- Whether a template is well formed for the reader that validates; it gives no answer on numerals that cannot be
    taken. -/
def isValid (template : String) : Except Decimal.NumeralFault Bool :=
  match flaw? .validating template with
  | none => .ok true
  | some (.malformed _) => .ok false
  | some (.numeral fault) => .error fault

end Template

end CodeBehind
