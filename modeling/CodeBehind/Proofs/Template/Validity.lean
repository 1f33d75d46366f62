import CodeBehind.Proofs.Template.Filters
import CodeBehind.Proofs.Template.Spacing
import CodeBehind.Template.Library

/-!
# Valid templates and templates that render

Whether a template is valid tells whether it renders, but for what only one of the two readers knows.

The readers differ in their white space and in their filters. White space is no matter, because both see the same
expressions. So a template without the filter of the library is valid when it renders, and a valid one renders unless
a name is not defined: without filters every expression has a value, and only the value of a name that is not
defined cannot be shown. A template with that filter is never valid, however well it renders.

## Main definitions

* `treeOf`: The tree that the reader that renders makes of a template.
* `isSupported`, `usesLineComment`: The filters that a template applies.
* `IsExpected`: How a rendering without filters may end.

## Main results

* `renderNodes_isExpected`: Without filters a rendering ends as expected.
* `isValid_of_parse`: A template that is read is valid unless it applies the filter of the library.
* `render_of_isValid`: A valid template is rendered as far as its names are defined.
* `isValid_agrees`: Both together.

## Theorems

* `map_nodesExprs_eq`: The two readers see the same expressions.
* `isSound_lookup`, `isSoundScope_enter`: Names stand for what can be shown.
* `exists_eval`, `isExpected_shown`: An expression without filters has a value, which is shown as expected.
* `parse_of_isValid`: A valid template is read, and applies no filter.
-/

namespace CodeBehind

namespace Template

/-- The tree that the reader that renders makes of a template. -/
def treeOf (template : String) : Except Flaw (List Node) :=
  Node.ofTokens (scan .traceless template)

/-- Whether a template applies no filter that every reader knows, so that the only one that does anything is that of
    the library. -/
def isSupported (template : String) : Bool :=
  match treeOf template with
  | .ok tree => (filtersOf (nodesExprs tree)).all fun filter => !standardFilters.contains filter
  | .error _ => true

/-- Whether a template applies the filter of the library. -/
def usesLineComment (template : String) : Bool :=
  match treeOf template with
  | .ok tree => (filtersOf (nodesExprs tree)).contains lineCommentFilter
  | .error _ => false

theorem standard_eq_false_of_isSupported (template : String) (tree : List Node) (htree : treeOf template = .ok tree)
    (h : isSupported template = true) (expr : Expr) (hexpr : expr ∈ nodesExprs tree) :
    ∀ filter ∈ expr.filters, standardFilters.contains filter = false := by
  intro filter hfilter
  rw [isSupported, htree] at h
  have hmem : filter ∈ filtersOf (nodesExprs tree) := List.mem_flatMap.mpr ⟨expr, hexpr, hfilter⟩
  have hunknown := List.all_eq_true.mp h filter hmem
  rwa [Bool.not_eq_true'] at hunknown

/-- The two readers see the same expressions. -/
theorem map_nodesExprs_eq (template : String) (hclosed : ¬LeavesCommentOpen template) :
    (Node.ofTokens (scan .verbatim template)).map nodesExprs = (treeOf template).map nodesExprs := by
  -- The tokens differ in the texts between the tags alone, so the trees have the same outline.
  have houtline : (Node.ofTokens (scan .verbatim template)).map blankNodes = (treeOf template).map blankNodes := by
    rw [treeOf, ← ofTokens_blank, ← ofTokens_blank, scan_spacing template hclosed]
  have hexprs (x : Except Flaw (List Node)) : x.map nodesExprs = (x.map blankNodes).map nodesExprs := by
    cases x with
    | error flaw => rfl
    | ok tree => exact congrArg Except.ok (nodesExprs_blank tree).symm
  rw [hexprs, houtline, ← hexprs]

/-! ## Rendering without filters -/

/-- A context holds a number that is too large to be shown. -/
def HoldsTooLarge (context : List (Value × Value)) : Prop :=
  ∃ entry ∈ context, entry.2.isShowable = false

/-- What stands for a name can be shown, unless the context holds what cannot. -/
def Datum.IsSound (context : List (Value × Value)) : Datum → Prop
  | .value found => found.isShowable = true ∨ HoldsTooLarge context
  | .builtin _ => True
  | .undefined _ => True

/-- All names of a block stand for what can be shown, unless the context holds what cannot. -/
def IsSoundScope (context : List (Value × Value)) (scope : Scope) : Prop :=
  ∀ name datum, (name, some datum) ∈ scope → datum.IsSound context

/-- How a rendering may end: with a text, at a name that is not defined, or at a number of the context that is too
    large to be shown. -/
def IsExpected {α : Type} (context : List (Value × Value)) : Except Fault α → Prop
  | .ok _ => True
  | .error (.undefined _) => True
  | .error (.flawed flaw) => flaw = .numeral .tooLarge ∧ HoldsTooLarge context
  | .error (.misuse _) => False

theorem isSound_lookup (context : List (Value × Value)) (scope : Scope) (hscope : IsSoundScope context scope)
    (name : String) : (lookup context scope name).IsSound context := by
  -- A name is looked for in the blocks around it, then in the context, and then among the built-in names.
  rw [lookup]
  split
  · next datum hfound =>
      rcases List.lookup_eq_some_iff.mp hfound with ⟨before, after, rfl, _⟩
      exact hscope name datum (List.mem_append_right before List.mem_cons_self)
  · exact True.intro
  · split
    · next value hfound =>
        rcases Option.map_eq_some_iff.mp hfound with ⟨entry, hentry, rfl⟩
        by_cases hshowable : entry.2.isShowable = true
        · exact Or.inl hshowable
        · exact Or.inr ⟨entry, List.mem_of_find?_eq_some hentry, Bool.eq_false_iff.mpr hshowable⟩
    · split <;> exact True.intro

theorem isSoundScope_cons (context : List (Value × Value)) (scope : Scope) (name : String) (datum : Option Datum)
    (hscope : IsSoundScope context scope) (hdatum : ∀ found, datum = some found → found.IsSound context) :
    IsSoundScope context ((name, datum) :: scope) := by
  intro other found hmem
  rcases List.mem_cons.mp hmem with heq | hmem
  · exact hdatum found (Prod.mk.inj heq).2.symm
  · exact hscope other found hmem

theorem isSoundScope_enter (context : List (Value × Value)) (scope : Scope) (tree : List Node)
    (hscope : IsSoundScope context scope) : IsSoundScope context (enter context scope tree) := by
  rw [enter]
  -- A block takes over the names that it uses one after the other, so the induction is on these.
  generalize tree.flatMap Node.uses = uses
  induction uses generalizing scope with
  | nil => exact hscope
  | cons use uses ih =>
      rw [List.foldl_cons]
      apply ih
      simp only
      split
      · exact hscope
      · refine isSoundScope_cons context scope use.1 _ hscope fun found hfound => ?_
        split at hfound
        · cases hfound
        · rw [← Option.some.inj hfound]
          exact isSound_lookup context [] (fun _ _ hmem => absurd hmem List.not_mem_nil) use.1

/-- An expression that applies no filter has a value. -/
theorem exists_eval (context : List (Value × Value)) (scope : Scope) (hscope : IsSoundScope context scope)
    (known : String → Bool) (expr : Expr) (hfilters : expr.filters = []) (hflaw : expr.flaw? known = none) :
    ∃ datum, expr.eval context scope = .ok datum ∧ datum.IsSound context := by
  cases expr with
  | constant value =>
      -- A constant that cannot be shown is a flaw of the template.
      rw [Expr.flaw?] at hflaw
      split at hflaw
      · next hshowable => exact ⟨.value value, rfl, Or.inl hshowable⟩
      · cases hflaw
  | name name => exact ⟨lookup context scope name, rfl, isSound_lookup context scope hscope name⟩
  | filtered inner filter given => exact absurd hfilters (List.cons_ne_nil _ _)

theorem isExpected_shown (context : List (Value × Value)) (datum : Datum) (h : datum.IsSound context) :
    IsExpected context (shown datum) := by
  cases datum with
  | value value =>
      rw [shown]
      split
      · trivial
      · next hshowable => exact ⟨rfl, Or.resolve_left h hshowable⟩
  | builtin builtin => trivial
  | undefined name => trivial

theorem IsExpected.bind {α β : Type} {context : List (Value × Value)} {x : Except Fault α} {f : α → Except Fault β}
    (hx : IsExpected context x) (hf : ∀ a, x = .ok a → IsExpected context (f a)) : IsExpected context (x >>= f) := by
  cases x with
  | ok a => exact hf a rfl
  | error fault =>
      change IsExpected context (.error fault)
      cases fault <;> exact hx

/-- Expressions that apply no filter and have no flaw. -/
def ArePlain (exprs : List Expr) : Prop :=
  ∀ expr ∈ exprs, expr.filters = [] ∧ expr.flaw? isFilter = none

mutual

theorem render_isExpected (context : List (Value × Value)) :
    (node : Node) → ArePlain node.exprs → ∀ scope, IsSoundScope context scope →
      IsExpected context (node.render context scope) ∧
        ∀ found, node.render context scope = .ok found → IsSoundScope context found.2
  | .plain text, _, scope, hscope => ⟨trivial, fun found hfound => by rw [← Except.ok.inj hfound]; exact hscope⟩
  | .output expr, hplain, scope, hscope => by
      rcases hplain expr List.mem_cons_self with ⟨hfilters, hflaw⟩
      rcases exists_eval context scope hscope isFilter expr hfilters hflaw with ⟨datum, hdatum, hsound⟩
      have hshown := isExpected_shown context datum hsound
      rw [Node.render, hdatum]
      -- To show the value is all that can fail here, and the names of the block stay what they are.
      change IsExpected context (shown datum >>= fun text => pure (text, scope)) ∧ _
      refine ⟨hshown.bind fun _ _ => trivial, fun found hfound => ?_⟩
      change (shown datum >>= fun text => pure (text, scope)) = .ok found at hfound
      cases hshown' : shown datum with
      | error fault => rw [hshown'] at hfound; cases hfound
      | ok text =>
          rw [hshown'] at hfound
          rw [← Except.ok.inj hfound]
          exact hscope
  | .assign target expr, hplain, scope, hscope => by
      rcases hplain expr List.mem_cons_self with ⟨hfilters, hflaw⟩
      rcases exists_eval context scope hscope isFilter expr hfilters hflaw with ⟨datum, hdatum, hsound⟩
      rw [Node.render, hdatum]
      refine ⟨trivial, fun found hfound => ?_⟩
      rw [← Except.ok.inj hfound]
      exact isSoundScope_cons context scope target (some datum) hscope fun other hother =>
        Option.some.inj hother ▸ hsound
  | .capture target body, hplain, scope, hscope => by
      -- What is captured is a text, and a text can always be shown.
      have hbody := renderNodes_isExpected context body hplain (enter context scope body)
        (isSoundScope_enter context scope body hscope)
      rw [Node.render]
      refine ⟨hbody.bind fun _ _ => trivial, fun found hfound => ?_⟩
      cases hrendered : renderNodes context (enter context scope body) body with
      | error fault => rw [hrendered] at hfound; cases hfound
      | ok text =>
          rw [hrendered] at hfound
          rw [← Except.ok.inj hfound]
          exact isSoundScope_cons context scope target _ hscope fun other hother =>
            Option.some.inj hother ▸ Or.inl rfl

theorem renderNodes_isExpected (context : List (Value × Value)) :
    (tree : List Node) → ArePlain (nodesExprs tree) → ∀ scope, IsSoundScope context scope →
      IsExpected context (renderNodes context scope tree)
  | [], _, _, _ => trivial
  | node :: rest, hplain, scope, hscope => by
      rcases List.forall_mem_append.mp hplain with ⟨hnode, hrest⟩
      rcases render_isExpected context node hnode scope hscope with ⟨hexpected, hafter⟩
      rw [renderNodes]
      refine hexpected.bind fun found hfound => ?_
      exact (renderNodes_isExpected context rest hrest found.2 (hafter found hfound)).bind fun _ _ => trivial

end

/-! ## Validity and rendering -/

theorem flaw?_validating (template : String) (hclosed : ¬LeavesCommentOpen template) :
    flaw? .validating template =
      match (treeOf template).map nodesExprs with
      | .ok exprs => exprs.findSome? (Expr.flaw? standardFilters.contains)
      | .error flaw => some flaw := by
  rw [flaw?_eq, ← map_nodesExprs_eq template hclosed]
  rfl

/-- A template that renders is valid unless it applies the filter of the library. -/
theorem isValid_of_parse (template : String) (hsupported : isSupported template = true)
    (hclosed : ¬LeavesCommentOpen template) (tree : List Node) (h : parse .rendering template = .ok tree) :
    isValid template = .ok (!usesLineComment template) := by
  rcases (parse_eq_ok_iff .rendering template tree).mp h with ⟨htree, hflaw⟩
  -- Each expression either applies no filter or has the flaw of an unknown one for the reader that validates.
  have hexpr : ∀ expr ∈ nodesExprs tree, _ := fun expr hmem =>
    flaw?_validating_of_rendering expr (hflaw expr hmem)
      (standard_eq_false_of_isSupported template tree htree hsupported expr hmem)
  rw [isValid, flaw?_validating template hclosed, usesLineComment, show treeOf template = .ok tree from htree]
  simp only [Except.map]
  -- If that reader has no flaw there is no filter, and the flaw that it has is the filter of the library.
  cases hfound : (nodesExprs tree).findSome? (Expr.flaw? standardFilters.contains) with
  | none =>
      have hunused : lineCommentFilter ∉ filtersOf (nodesExprs tree) := by
        intro hmem
        rcases List.mem_flatMap.mp hmem with ⟨expr, hmem, hfilter⟩
        rcases hexpr expr hmem with ⟨hnil, _⟩ | ⟨_, hsome⟩
        · rw [hnil] at hfilter
          exact absurd hfilter List.not_mem_nil
        · rw [List.findSome?_eq_none_iff.mp hfound expr hmem] at hsome
          cases hsome
      simp [hunused]
  | some flaw =>
      rcases List.exists_of_findSome?_eq_some hfound with ⟨expr, hmem, hsome⟩
      rcases hexpr expr hmem with ⟨_, hnone⟩ | ⟨hfilter, hmalformed⟩
      · rw [hnone] at hsome
        cases hsome
      · have hused : lineCommentFilter ∈ filtersOf (nodesExprs tree) := List.mem_flatMap.mpr ⟨expr, hmem, hfilter⟩
        rw [hmalformed] at hsome
        rw [← Option.some.inj hsome]
        simp [hused]

theorem parse_of_isValid (template : String) (hsupported : isSupported template = true)
    (hclosed : ¬LeavesCommentOpen template) (h : isValid template = .ok true) :
    ∃ tree, parse .rendering template = .ok tree ∧ ArePlain (nodesExprs tree) := by
  have hflaw : flaw? .validating template = none := by
    rw [isValid] at h
    split at h
    · next hnone => exact hnone
    · cases h
    · cases h
  rw [flaw?_validating template hclosed] at hflaw
  cases htree : treeOf template with
  | error flaw => rw [htree] at hflaw; cases hflaw
  | ok tree =>
      rw [htree] at hflaw
      have hnone := List.findSome?_eq_none_iff.mp hflaw
      have hplain : ArePlain (nodesExprs tree) := by
        intro expr hmem
        -- A filter would be known to the reader that validates, and such a filter is not supported.
        have hfilters : expr.filters = [] := by
          refine List.eq_nil_iff_forall_not_mem.mpr fun filter hfilter => ?_
          have hknown := known_of_flaw?_eq_none _ expr (hnone expr hmem) filter hfilter
          rw [standard_eq_false_of_isSupported template tree htree hsupported expr hmem filter hfilter] at hknown
          cases hknown
        exact ⟨hfilters, (flaw?_of_filters_eq_nil isFilter _ expr hfilters).trans (hnone expr hmem)⟩
      have hflaws : ∀ expr ∈ nodesExprs tree, expr.flaw? isFilter = none := fun expr hmem => (hplain expr hmem).2
      exact ⟨tree, (parse_eq_ok_iff .rendering template tree).mpr ⟨htree, hflaws⟩, hplain⟩

/-- A valid template is rendered as far as its names are defined, unless the context names the template itself. -/
theorem render_of_isValid (template : String) (hsupported : isSupported template = true)
    (hclosed : ¬LeavesCommentOpen template) (h : isValid template = .ok true) (context : List (Value × Value)) :
    (render template none context = .error (.misuse (.repeatedArgument "Template.render" itself)) ∧
        (Value.lookup context itself).isSome) ∨
      IsExpected context (render template none context) := by
  rcases parse_of_isValid template hsupported hclosed h with ⟨tree, hparse, hplain⟩
  rw [render, hparse]
  simp only
  split
  · next hself => exact .inl ⟨rfl, hself⟩
  -- At the beginning at most the template itself has a name, and it is built in.
  · have hinitial : IsSoundScope context (initialScope none tree) := by
      rw [initialScope]
      split
      · exact isSoundScope_cons context [] itself _ (fun _ _ hmem => absurd hmem List.not_mem_nil)
          fun found hfound => Option.some.inj hfound ▸ True.intro
      · exact fun _ _ hmem => absurd hmem List.not_mem_nil
    exact .inr (renderNodes_isExpected context tree hplain _ (isSoundScope_enter context _ tree hinitial))

/-- Validation agrees with rendering on templates that leave no comment open. One that renders in some context is valid
    exactly if it does not apply the filter of the library. One that is valid renders in every context, but for names
    that are not defined, for a context that names the template itself, and for numbers of the context that are too
    large to be shown. -/
theorem isValid_agrees (template : String) (hsupported : isSupported template = true)
    (hclosed : ¬LeavesCommentOpen template) :
    (∀ context text, renderText template context = .ok text → isValid template = .ok (!usesLineComment template)) ∧
      (isValid template = .ok true → ∀ context,
        (∃ text, renderText template context = .ok text) ∨
          (∃ name, renderText template context =
            .error (.problem (.general ("Template rendering failed: " ++ (Text.quoted name ++ " is undefined")) []))) ∨
          (renderText template context = .error (.misuse (.repeatedArgument "Template.render" itself)) ∧
            (Value.lookup context itself).isSome) ∨
          (renderText template context = .error (.numeral .tooLarge) ∧ HoldsTooLarge context)) := by
  refine ⟨fun context text htext => ?_, fun hvalid context => ?_⟩
  · cases hparse : parse .rendering template with
    | error flaw =>
        rw [renderText, render, hparse] at htext
        cases htext
    | ok tree => exact isValid_of_parse template hsupported hclosed tree hparse
  · rw [renderText]
    rcases render_of_isValid template hsupported hclosed hvalid context with ⟨hmisuse, hself⟩ | hexpected
    · rw [hmisuse]
      exact .inr (.inr (.inl ⟨rfl, hself⟩))
    · cases hrendered : render template none context with
      | ok text => exact .inl ⟨text, rfl⟩
      | error fault =>
          rw [hrendered] at hexpected
          cases fault with
          | undefined name => exact .inr (.inl ⟨name, rfl⟩)
          | flawed flaw =>
              obtain ⟨rfl, hlarge⟩ := hexpected
              exact .inr (.inr (.inr ⟨rfl, hlarge⟩))
          | misuse misuse => exact hexpected.elim

theorem isValid_agrees_greeting :
    isSupported "Hello \x7b\x7b name \x7d\x7d" = true ∧ ¬LeavesCommentOpen "Hello \x7b\x7b name \x7d\x7d" ∧
      renderText "Hello \x7b\x7b name \x7d\x7d" [(.text "name", .text "you")] = .ok "Hello you" ∧
      isValid "Hello \x7b\x7b name \x7d\x7d" = .ok true := by
  have hsupported : isSupported "Hello \x7b\x7b name \x7d\x7d" = true := by decide +kernel
  have hclosed : ¬LeavesCommentOpen "Hello \x7b\x7b name \x7d\x7d" := by
    -- The template does not end with a line feed.
    rintro ⟨cs, hcs, _⟩
    have hlast := congrArg List.getLast? hcs
    rw [List.getLast?_concat] at hlast
    exact absurd hlast (by decide +kernel)
  have hunused : usesLineComment "Hello \x7b\x7b name \x7d\x7d" = false := by decide +kernel
  have htext : renderText "Hello \x7b\x7b name \x7d\x7d" [(.text "name", .text "you")] = .ok "Hello you" := by
    decide +kernel
  have hvalid := (isValid_agrees _ hsupported hclosed).1 _ _ htext
  rw [hunused] at hvalid
  exact ⟨hsupported, hclosed, htext, hvalid⟩

/-- A template with the filter of the library renders but is not valid; one that leaves a comment open is valid but
    does not render, and neither does one that is given its own name. -/
theorem isValid_disagrees :
    (renderText "\x7b\x7b text | line_comment \x7d\x7d" [(.text "text", .text "a")] = .ok "// a" ∧
      isValid "\x7b\x7b text | line_comment \x7d\x7d" = .ok false) ∧
    (isValid "\x7b#\n" = .ok true ∧
      renderText "\x7b#\n" [] =
        .error (failure "Template rendering failed" [] (.flawed (.malformed "Missing end of comment tag")))) ∧
    (isValid "a" = .ok true ∧
      renderText "a" [(.text "self", .integer 1)] = .error (.misuse (.repeatedArgument "Template.render" "self"))) := by
  decide +kernel

end Template

end CodeBehind
