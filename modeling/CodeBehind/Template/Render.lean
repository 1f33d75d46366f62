import CodeBehind.Template.Check

/-!
# Rendering templates

The text of a template in a context.

A capturing assignment has names of its own: what is assigned inside it is forgotten at its end. Whether a
name belongs to a block or comes from outside is decided when the block begins, by what the block does with it
first. If it is looked up first, it comes from outside; if it is assigned first, it has no value before that,
not even one from the context.

## Main definitions

* `enter`: The names of a block when it begins.
* `Node.render`, `renderNodes`: The text of nodes.
* `render`: The text of a template.
-/

namespace CodeBehind

namespace Template

mutual

/-- The names an expression looks up, in order. -/
def Expr.names : Expr → List String
  | .constant _ => []
  | .name name => [name]
  | .filtered inner _ given => inner.names ++ argumentNames given

/-- The names arguments look up. -/
def argumentNames : List (Option String × Expr) → List String
  | [] => []
  | (_, expr) :: rest => expr.names ++ argumentNames rest

end

/-- The names a node looks up and assigns itself, in order; `true` marks those it assigns. -/
def Node.uses : Node → List (String × Bool)
  | .plain _ => []
  | .output expr => expr.names.map (·, false)
  | .assign target expr => expr.names.map (·, false) ++ [(target, true)]
  | .capture target _ => [(target, true)]

/-- The names of a block when it begins: each new name is decided by what the block does with it first. -/
def enter (context : List (Value × Value)) (scope : Scope) (tree : List Node) : Scope :=
  (tree.flatMap Node.uses).foldl (fun scope (name, assigned) =>
    if (scope.lookup name).isSome then scope
    else (name, if assigned then none else some (lookup context [] name)) :: scope) scope

/-- A value as it is shown, unless it holds a number that is too large for that. -/
def shown : Datum → Except Fault String
  | .value value => if value.isShowable then .ok value.display else .error (.flawed (.numeral .tooLarge))
  | .builtin builtin => .ok builtin.shown
  | .undefined name => .error (.undefined name)

mutual

/-- The text of a node and the names after it. -/
def Node.render (context : List (Value × Value)) (scope : Scope) : Node → Except Fault (String × Scope)
  | .plain text => .ok (text, scope)
  | .output expr => do return (← shown (← expr.eval context scope), scope)
  | .assign target expr => do return ("", (target, some (← expr.eval context scope)) :: scope)
  | .capture target body => do
    let text ← renderNodes context (enter context scope body) body
    return ("", (target, some (.value (.text text))) :: scope)

/-- The text of some nodes, one after the other. -/
def renderNodes (context : List (Value × Value)) (scope : Scope) : List Node → Except Fault String
  | [] => .ok ""
  | node :: rest => do
    let (text, scope) ← node.render context scope
    return text ++ (← renderNodes context scope rest)

end

/-! ## Whole templates -/

mutual

/-- The names a node mentions, `true` marking those it gives; what is given comes before where it is taken
    from. -/
def Node.mentions : Node → List (String × Bool)
  | .plain _ => []
  | .output expr => expr.names.map (·, false)
  | .assign target expr => (target, true) :: expr.names.map (·, false)
  | .capture target body => (target, true) :: mentionsOf body

/-- The names some nodes mention. -/
def mentionsOf : List Node → List (String × Bool)
  | [] => []
  | node :: rest => node.mentions ++ mentionsOf rest

end

/-- The name under which a template knows itself. -/
def itself : String := "self"

/-- The names before a template begins: its own, if it uses that before it gives it another meaning. -/
def initialScope (name : Option String) (tree : List Node) : Scope :=
  match (mentionsOf tree).lookup itself with
  | some false => [(itself, some (.builtin (.itself name)))]
  | _ => []

/-- The text of a template, which may have a name, in a context; the context must leave the name of the template
    alone. -/
def render (template : String) (name : Option String) (context : List (Value × Value)) : Except Fault String :=
  match parse .rendering template with
  | .error flaw => .error (.flawed flaw)
  | .ok tree =>
    if (Value.lookup context itself).isSome then .error (.misuse (.repeatedArgument "Template.render" itself))
    else renderNodes context (enter context (initialScope name tree) tree) tree

end Template

end CodeBehind
