import CodeBehind.Proofs.Template.Outline

/-!
# Filters and flaws

What is wrong with a template, read off the expressions in it.

A template is nothing but its expressions when it comes to flaws, and a flaw is either a filter that the reader does
not know or a number that is too large. An expression that applies no filter has the same flaws for every reader. One
that applies the filter of the library and has no flaw for the reader that renders has one for the reader that does
not know this filter, whatever is inside it: outer filters are looked at first.

## Main definitions

* `Expr.filters`, `filtersOf`: The filters that expressions apply.
* `nodesExprs`: The expressions of a template, in order.

## Main results

* `nodesFlaw?_eq_findSome?`: The flaw of a template is that of its first expression with a flaw.
* `known_of_flaw?_eq_none`: An expression without flaws applies only filters that are known.
* `flaw?_validating_of_rendering`: What the reader that validates finds wrong where the other finds nothing.
* `parse_eq_ok_iff`: A template is read if its tree is, and no expression in it has a flaw.

## Theorems

* `nodesExprs_blank`: The expressions do not depend on the text between the tags.
* `flaw?_eq_findSome?`: Where the flaw of a node comes from.
* `filters_of_isClosed`: What is computed beforehand applies no filter but that of the library.
* `flaw?_of_filters_eq_nil`: Without filters no reader matters.
-/

namespace CodeBehind

namespace Template

/-! ## Expressions and filters of a template -/

mutual

/-- The filters that an expression applies. -/
def Expr.filters : Expr → List String
  | .constant _ => []
  | .name _ => []
  | .filtered inner filter given => filter :: (inner.filters ++ argumentFilters given)

/-- The filters that arguments apply. -/
def argumentFilters : List (Option String × Expr) → List String
  | [] => []
  | (_, expr) :: rest => expr.filters ++ argumentFilters rest

end

mutual

/-- The expressions of a node, in order. -/
def Node.exprs : Node → List Expr
  | .plain _ => []
  | .output expr => [expr]
  | .assign _ expr => [expr]
  | .capture _ body => nodesExprs body

/-- The expressions of some nodes, in order. -/
def nodesExprs : List Node → List Expr
  | [] => []
  | node :: rest => node.exprs ++ nodesExprs rest

end

mutual

theorem exprs_blank : (node : Node) → node.blank.exprs = node.exprs
  | .plain _ => rfl
  | .output _ => rfl
  | .assign _ _ => rfl
  | .capture _ body => nodesExprs_blank body

/-- The text between the tags holds no expressions. -/
theorem nodesExprs_blank : (tree : List Node) → nodesExprs (blankNodes tree) = nodesExprs tree
  | [] => rfl
  | node :: rest => by rw [blankNodes, nodesExprs, nodesExprs, exprs_blank node, nodesExprs_blank rest]

end

mutual

theorem flaw?_eq_findSome? (known : String → Bool) :
    (node : Node) → node.flaw? known = node.exprs.findSome? (Expr.flaw? known)
  | .plain _ => rfl
  | .output expr => by rw [Node.flaw?, Node.exprs, List.findSome?_singleton]
  | .assign _ expr => by rw [Node.flaw?, Node.exprs, List.findSome?_singleton]
  | .capture _ body => nodesFlaw?_eq_findSome? known body

/-- What is wrong with a template is what is wrong with the first of its expressions that has a flaw. -/
theorem nodesFlaw?_eq_findSome? (known : String → Bool) :
    (tree : List Node) → nodesFlaw? known tree = (nodesExprs tree).findSome? (Expr.flaw? known)
  | [] => rfl
  | node :: rest => by
      rw [nodesFlaw?, nodesExprs, List.findSome?_append, flaw?_eq_findSome? known node,
        nodesFlaw?_eq_findSome? known rest]
      cases node.exprs.findSome? (Expr.flaw? known) <;> rfl

end

/-- The filters that some expressions apply. -/
def filtersOf (exprs : List Expr) : List String :=
  exprs.flatMap Expr.filters

/-! ## Flaws -/

mutual

theorem filters_of_isClosed : (expr : Expr) → expr.isClosed = true → ∀ filter ∈ expr.filters, filter = lineCommentFilter
  | .constant _, _, filter, hfilter => absurd hfilter List.not_mem_nil
  | .name _, hclosed, _, _ => absurd hclosed Bool.false_ne_true
  | .filtered inner name given, hclosed, filter, hfilter => by
      rw [Expr.isClosed, Bool.and_eq_true, Bool.and_eq_true] at hclosed
      rw [Expr.filters, List.mem_cons, List.mem_append] at hfilter
      rcases hfilter with rfl | hinner | hgiven
      · exact eq_of_beq hclosed.1.1
      · exact filters_of_isClosed inner hclosed.1.2 filter hinner
      · exact filters_of_argumentsClosed given hclosed.2 filter hgiven

theorem filters_of_argumentsClosed :
    (given : List (Option String × Expr)) → argumentsClosed given = true →
      ∀ filter ∈ argumentFilters given, filter = lineCommentFilter
  | [], _, filter, hfilter => absurd hfilter List.not_mem_nil
  | (_, expr) :: rest, hclosed, filter, hfilter => by
      rw [argumentsClosed, Bool.and_eq_true] at hclosed
      rw [argumentFilters, List.mem_append] at hfilter
      rcases hfilter with hexpr | hrest
      · exact filters_of_isClosed expr hclosed.1 filter hexpr
      · exact filters_of_argumentsClosed rest hclosed.2 filter hrest

end

mutual

/-- An expression without flaws applies only filters that are known. -/
theorem known_of_flaw?_eq_none (known : String → Bool) :
    (expr : Expr) → expr.flaw? known = none → ∀ filter ∈ expr.filters, known filter = true
  | .constant _, _, filter, hfilter => absurd hfilter List.not_mem_nil
  | .name _, _, filter, hfilter => absurd hfilter List.not_mem_nil
  | .filtered inner name given, hflaw, filter, hfilter => by
      rw [Expr.flaw?] at hflaw
      split at hflaw
      -- A filtered constant is worked out in advance, and only with the filter of the library.
      · next hsettled =>
          rw [Expr.isSettled, Bool.and_eq_true, Bool.and_eq_true] at hsettled
          rw [filters_of_isClosed _ hsettled.1.2 filter hfilter]
          exact hsettled.1.1
      split at hflaw
      · cases hflaw
      -- Otherwise the name of the filter is looked at before what it is applied to.
      · next hname =>
          rw [Bool.not_eq_true, Bool.not_eq_false'] at hname
          split at hflaw
          · cases hflaw
          · next hinner =>
              rw [Expr.filters, List.mem_cons, List.mem_append] at hfilter
              rcases hfilter with rfl | hfilter | hfilter
              · exact hname
              · exact known_of_flaw?_eq_none known inner hinner filter hfilter
              · exact known_of_argumentsFlaw?_eq_none known given hflaw filter hfilter

theorem known_of_argumentsFlaw?_eq_none (known : String → Bool) :
    (given : List (Option String × Expr)) → argumentsFlaw? known given = none →
      ∀ filter ∈ argumentFilters given, known filter = true
  | [], _, filter, hfilter => absurd hfilter List.not_mem_nil
  | (_, expr) :: rest, hflaw, filter, hfilter => by
      rw [argumentsFlaw?] at hflaw
      split at hflaw
      · cases hflaw
      · next hexpr =>
          rw [argumentFilters, List.mem_append] at hfilter
          rcases hfilter with hfilter | hfilter
          · exact known_of_flaw?_eq_none known expr hexpr filter hfilter
          · exact known_of_argumentsFlaw?_eq_none known rest hflaw filter hfilter

end

/-- Which filters a reader knows makes no difference to an expression that applies none. -/
theorem flaw?_of_filters_eq_nil (known known' : String → Bool) (expr : Expr) (h : expr.filters = []) :
    expr.flaw? known = expr.flaw? known' := by
  cases expr with
  | constant value => rfl
  | name name => rfl
  | filtered inner filter given => exact absurd h (List.cons_ne_nil _ _)

/-- To the reader that validates, the filter of the library is an unknown one. -/
theorem flaw?_validating_of_rendering (expr : Expr) (hflaw : expr.flaw? isFilter = none)
    (hsupported : ∀ filter ∈ expr.filters, standardFilters.contains filter = false) :
    (expr.filters = [] ∧ expr.flaw? standardFilters.contains = none) ∨
      (lineCommentFilter ∈ expr.filters ∧
        expr.flaw? standardFilters.contains =
          some (.malformed ("No filter named " ++ Text.quoted lineCommentFilter ++ "."))) := by
  cases expr with
  | constant value => exact .inl ⟨rfl, hflaw⟩
  | name name => exact .inl ⟨rfl, rfl⟩
  | filtered inner filter given =>
      have hmem : filter ∈ (Expr.filtered inner filter given).filters := List.mem_cons_self
      have hknown := known_of_flaw?_eq_none isFilter _ hflaw filter hmem
      have hstandard := hsupported filter hmem
      rw [isFilter, hstandard, Bool.or_false, beq_iff_eq] at hknown
      -- It is the outermost filter, so it is the first flaw that this reader comes to.
      subst hknown
      refine .inr ⟨hmem, ?_⟩
      have hsettled : (Expr.filtered inner lineCommentFilter given).isSettled standardFilters.contains = false := by
        rw [Expr.isSettled, hstandard, Bool.false_and, Bool.false_and]
      rw [Expr.flaw?, hsettled, hstandard]
      rfl

/-- What is wrong with a template, read off its expressions. -/
theorem flaw?_eq (reader : Reader) (template : String) :
    flaw? reader template =
      match (Node.ofTokens (scan reader.spacing template)).map nodesExprs with
      | .ok exprs => exprs.findSome? (Expr.flaw? reader.known)
      | .error flaw => some flaw := by
  rw [flaw?, parse]
  cases Node.ofTokens (scan reader.spacing template) with
  | error flaw => rfl
  | ok tree =>
      have hflaw := nodesFlaw?_eq_findSome? reader.known tree
      simp only [Except.map]
      rw [← hflaw]
      simp only [bind, Except.bind]
      cases nodesFlaw? reader.known tree <;> rfl

/-- A template is read if its tree is, and none of its expressions has a flaw. -/
theorem parse_eq_ok_iff (reader : Reader) (template : String) (tree : List Node) :
    parse reader template = .ok tree ↔
      Node.ofTokens (scan reader.spacing template) = .ok tree ∧
        ∀ expr ∈ nodesExprs tree, expr.flaw? reader.known = none := by
  rw [parse, ← List.findSome?_eq_none_iff, ← nodesFlaw?_eq_findSome?]
  cases Node.ofTokens (scan reader.spacing template) with
  | error flaw =>
      refine iff_of_false ?_ ?_
      · intro h
        cases h
      · rintro ⟨h, _⟩
        cases h
  | ok found =>
      simp only [bind, Except.bind, Except.ok.injEq]
      -- The tokens make a tree, and what remains is to look for a flaw in its expressions.
      cases hflaw : nodesFlaw? reader.known found with
      | some flaw =>
          refine iff_of_false ?_ ?_
          · intro h
            cases h
          · rintro ⟨heq, hnone⟩
            rw [heq, hnone] at hflaw
            cases hflaw
      | none =>
          refine ⟨fun h => ?_, fun h => congrArg Except.ok h.1⟩
          obtain rfl := Except.ok.inj h
          exact ⟨rfl, hflaw⟩

end Template

end CodeBehind
