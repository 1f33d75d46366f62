import CodeBehind.Template.Check

/-!
# The outline of a template

What a template means apart from the text between its tags.

Readers that keep different white space see different texts between the tags, but the grammar never looks at them: a
text is one token whatever it says. Without these texts the trees of two token sequences are the same whenever the
sequences are, and so is what is wrong with them.

## Main definitions

* `Token.blank`, `Node.blank`: A token and a node without the text that stands outside of tags.
* `ReadsBlank`: What is proved of a count.

## Main results

* `ofTokens_blank`: The outline of a tree is read from the outline of its tokens.

## Theorems

* `bind_map`: One step after another, each under a change of what it is given.
* `advance_blank`, `expect_blank`: Single tokens are taken from an outline.
* `readsBlank`: Expressions are read from the outline of their tokens.
* `nodes_blank`: So are the nodes of a template.
-/

namespace CodeBehind

namespace Template

/-- A token without the text that stands outside of tags. -/
def Token.blank : Token → Token
  | .plain _ => .plain ""
  | token => token

mutual

/-- A node without the text that stands outside of tags. -/
def Node.blank : Node → Node
  | .plain _ => .plain ""
  | .output expr => .output expr
  | .assign target expr => .assign target expr
  | .capture target body => .capture target (blankNodes body)

/-- Nodes without the text that stands outside of tags. -/
def blankNodes : List Node → List Node
  | [] => []
  | node :: rest => node.blank :: blankNodes rest

end

/-- What was read, and the tokens behind it without the text that stands outside of tags. -/
def blankRest {α : Type} (found : α × List Token) : α × List Token :=
  (found.1, found.2.map Token.blank)

section Steps

variable {α β γ δ : Type}

/-- Two readers that agree on a step and on what follows it agree on both. -/
theorem bind_map {x : Except Flaw α} {g : α → β} {f : α → Except Flaw γ} {f' : β → Except Flaw δ} {k : γ → δ}
    (h : ∀ a, f' (g a) = (f a).map k) : (x.map g >>= f') = (x >>= f).map k := by
  -- A step that fails fails for both readers, with the same flaw.
  cases x with
  | error flaw => rfl
  | ok a => exact h a

theorem map_map {x : Except Flaw α} {g : α → β} {f : α → γ} {f' : β → δ} {k : γ → δ}
    (h : ∀ a, f' (g a) = k (f a)) : (x.map g).map f' = (x.map f).map k := by
  cases x with
  | error flaw => rfl
  | ok a => exact congrArg Except.ok (h a)

end Steps

@[simp] theorem describe_blank (token : Token) : token.blank.describe = token.describe := by
  cases token <;> rfl

@[simp] theorem isSame_blank (token wanted : Token) : token.blank.isSame wanted = token.isSame wanted := by
  cases token <;> rfl

@[simp] theorem current_blank (tokens : List Token) : current (tokens.map Token.blank) = (current tokens).blank := by
  cases tokens <;> rfl

theorem advance_blank (tokens : List Token) :
    advance (tokens.map Token.blank) = (advance tokens).map (List.map Token.blank) := by
  -- The last token stays where it is, and a flaw behind a token is met when that token is left.
  rcases tokens with _ | ⟨token, _ | ⟨second, rest⟩⟩
  · rfl
  · rfl
  · cases second <;> rfl

theorem mismatch_blank {α : Type} (wanted : String) (tokens : List Token) :
    mismatch (α := α) wanted (tokens.map Token.blank) = mismatch wanted tokens := by
  rw [mismatch, mismatch, current_blank]
  cases current tokens <;> rfl

theorem expect_blank (wanted : Token) (tokens : List Token) :
    expect wanted (tokens.map Token.blank) = (expect wanted tokens).map (List.map Token.blank) := by
  rw [expect, expect, current_blank, isSame_blank, advance_blank, mismatch_blank]
  split
  · rfl
  · rw [mismatch]
    cases current tokens <;> rfl

theorem expectName_blank (tokens : List Token) :
    expectName (tokens.map Token.blank) = (expectName tokens).map blankRest := by
  rw [expectName, expectName, current_blank, advance_blank, mismatch_blank]
  have hmismatch : mismatch "name" tokens = (mismatch "name" tokens).map (blankRest (α := String)) := by
    rw [mismatch]
    cases current tokens <;> rfl
  cases current tokens with
  | name word => exact map_map fun rest => rfl
  | _ => exact hmismatch

theorem dottedName_blank (fuel : Nat) (tokens : List Token) :
    dottedName fuel (tokens.map Token.blank) = (dottedName fuel tokens).map blankRest := by
  -- The induction is on the count, as the name is read.
  induction fuel generalizing tokens with
  | zero => exact expectName_blank tokens
  | succ fuel ih =>
      rw [dottedName, dottedName, expectName_blank]
      refine bind_map ?_
      rintro ⟨word, rest⟩
      simp only [blankRest, current_blank]
      cases hcurrent : current rest with
      | operator symbol =>
          simp only [Token.blank]
          split
          · rw [advance_blank]
            refine bind_map fun rest => ?_
            rw [ih]
            exact bind_map fun found => rfl
          · rfl
      | _ => rfl

theorem adjacentTexts_blank (fuel : Nat) (tokens : List Token) :
    adjacentTexts fuel (tokens.map Token.blank) = (adjacentTexts fuel tokens).map blankRest := by
  induction fuel generalizing tokens with
  | zero => rfl
  | succ fuel ih =>
      rw [adjacentTexts, adjacentTexts, current_blank]
      cases hcurrent : current tokens with
      | text piece =>
          simp only [Token.blank]
          rw [advance_blank]
          refine bind_map fun rest => ?_
          rw [ih]
          exact bind_map fun found => rfl
      | _ => rfl

theorem primary_blank (tokens : List Token) :
    primary (tokens.map Token.blank) = (primary tokens).map blankRest := by
  rw [primary, primary, current_blank, List.length_map, advance_blank, adjacentTexts_blank]
  -- Each kind of token begins an expression of its own, and a text outside of tags begins none.
  cases hcurrent : current tokens with
  | name word =>
      simp only [Token.blank]
      refine bind_map fun rest => ?_
      cases namedConstant? word <;> rfl
  | text piece => exact bind_map fun found => rfl
  | integer n => exact map_map fun rest => rfl
  | real x => exact map_map fun rest => rfl
  | _ => rfl

theorem signedPrimary_blank (tokens : List Token) :
    signedPrimary (tokens.map Token.blank) = (signedPrimary tokens).map blankRest := by
  rw [signedPrimary, signedPrimary, current_blank, advance_blank, primary_blank]
  cases hcurrent : current tokens with
  | operator symbol =>
      simp only [Token.blank]
      split
      · refine bind_map fun rest => ?_
        rw [current_blank, advance_blank]
        cases current rest with
        | integer n => exact bind_map fun more => rfl
        | real x => exact bind_map fun more => rfl
        | _ => rfl
      · rfl
  | _ => rfl

theorem blank_operator (symbol : String) : (Token.operator symbol).blank = .operator symbol :=
  rfl

theorem blank_name (name : String) : (Token.name name).blank = .name name :=
  rfl

theorem eq_operator_of_blank (token : Token) (symbol : String) (h : token.blank = .operator symbol) :
    token = .operator symbol := by
  cases token <;> first | exact h | cases h

theorem eq_name_of_blank (token : Token) (name : String) (h : token.blank = .name name) : token = .name name := by
  cases token <;> first | exact h | cases h

/-- An argument that neither is missing nor has a name. -/
theorem arguments_of_plain (fuel : Nat) (named : Bool) (tokens : List Token)
    (hclose : ∀ rest, tokens ≠ .operator ")" :: rest) (hkey : ∀ key rest, tokens ≠ .name key :: .operator "=" :: rest) :
    arguments (fuel + 1) named tokens =
      if named then malformed "invalid syntax for function call expression"
      else do
        let (value, tokens) ← expression fuel tokens
        let (rest, tokens) ← moreArguments fuel false tokens
        return ((none, value) :: rest, tokens) := by
  -- The equation for an argument without a name holds where the two patterns above it do not fit.
  rw [arguments]
  · exact hclose
  · exact hkey

/-- What is proved of a count: with it, expressions and arguments are read from the outline of their tokens. -/
def ReadsBlank (fuel : Nat) : Prop :=
  (∀ tokens, expression fuel (tokens.map Token.blank) = (expression fuel tokens).map blankRest) ∧
    (∀ inner tokens, filters fuel inner (tokens.map Token.blank) = (filters fuel inner tokens).map blankRest) ∧
    (∀ named tokens, arguments fuel named (tokens.map Token.blank) = (arguments fuel named tokens).map blankRest) ∧
    ∀ named tokens, moreArguments fuel named (tokens.map Token.blank) = (moreArguments fuel named tokens).map blankRest

section Expressions

variable (fuel : Nat) (ih : ReadsBlank fuel)
include ih

theorem filters_blank (inner : Expr) (tokens : List Token) :
    filters (fuel + 1) inner (tokens.map Token.blank) = (filters (fuel + 1) inner tokens).map blankRest := by
  rcases ih with ⟨_, hfilters, harguments, _⟩
  rw [filters, filters, current_blank, advance_blank]
  -- Only a bar lets another filter follow, and only a bracket behind its name lets arguments follow.
  cases current tokens with
  | operator symbol =>
      simp only [Token.blank]
      split
      · refine bind_map fun rest => ?_
        rw [List.length_map, dottedName_blank]
        refine bind_map ?_
        rintro ⟨name, rest⟩
        simp only [blankRest, current_blank]
        cases current rest with
        | operator symbol =>
            simp only [Token.blank]
            split
            · rw [advance_blank]
              refine bind_map fun rest => ?_
              rw [harguments]
              exact bind_map fun found => hfilters _ _
            · exact hfilters _ _
        | _ => exact hfilters _ _
      · rfl
  | _ => rfl

/-- An argument with a name: the name, the sign behind it, the value and what follows. -/
theorem namedArgument_blank (named : Bool) (key : String) (rest : List Token) :
    arguments (fuel + 1) named ((.name key :: .operator "=" :: rest).map Token.blank) =
      (arguments (fuel + 1) named (.name key :: .operator "=" :: rest)).map blankRest := by
  rcases ih with ⟨hexpression, _, _, hmore⟩
  have hadvance := advance_blank (.name key :: .operator "=" :: rest)
  rw [List.map_cons, List.map_cons, blank_name, blank_operator] at hadvance ⊢
  rw [arguments, arguments, hadvance]
  refine bind_map fun rest => ?_
  rw [advance_blank]
  refine bind_map fun rest => ?_
  rw [hexpression]
  refine bind_map ?_
  rintro ⟨value, rest⟩
  simp only [blankRest]
  rw [hmore]
  exact bind_map fun found => rfl

/-- An argument without a name; the outline of its tokens does not begin like another argument either. -/
theorem plainArgument_blank (named : Bool) (tokens : List Token) (hclose : ∀ rest, tokens ≠ .operator ")" :: rest)
    (hkey : ∀ key rest, tokens ≠ .name key :: .operator "=" :: rest) :
    arguments (fuel + 1) named (tokens.map Token.blank) = (arguments (fuel + 1) named tokens).map blankRest := by
  rcases ih with ⟨hexpression, _, _, hmore⟩
  -- An operator and a name are what they are in the outline, so the two patterns do not fit there either.
  have hclose' : ∀ rest, tokens.map Token.blank ≠ .operator ")" :: rest := by
    intro rest heq
    rcases List.map_eq_cons_iff.mp heq with ⟨token, more, rfl, htoken, _⟩
    exact hclose more (by rw [eq_operator_of_blank token _ htoken])
  have hkey' : ∀ key rest, tokens.map Token.blank ≠ .name key :: .operator "=" :: rest := by
    intro key rest heq
    rcases List.map_eq_cons_iff.mp heq with ⟨token, more, rfl, htoken, hmore⟩
    rcases List.map_eq_cons_iff.mp hmore with ⟨second, more, rfl, hsecond, _⟩
    exact hkey key more (by rw [eq_name_of_blank token _ htoken, eq_operator_of_blank second _ hsecond])
  rw [arguments_of_plain fuel named tokens hclose hkey, arguments_of_plain fuel named _ hclose' hkey', hexpression]
  split
  · rfl
  · refine bind_map fun (value, rest) => ?_
    simp only [blankRest]
    rw [hmore]
    exact bind_map fun found => rfl

theorem arguments_blank (named : Bool) (tokens : List Token) :
    arguments (fuel + 1) named (tokens.map Token.blank) = (arguments (fuel + 1) named tokens).map blankRest := by
  by_cases hclose : ∃ rest, tokens = .operator ")" :: rest
  · rcases hclose with ⟨rest, rfl⟩
    have hadvance := advance_blank (.operator ")" :: rest)
    rw [List.map_cons, blank_operator] at hadvance ⊢
    rw [arguments, arguments, hadvance]
    exact bind_map fun rest => rfl
  by_cases hkey : ∃ key rest, tokens = .name key :: .operator "=" :: rest
  · rcases hkey with ⟨key, rest, rfl⟩
    exact namedArgument_blank fuel ih named key rest
  · exact plainArgument_blank fuel ih named tokens (fun rest heq => hclose ⟨rest, heq⟩)
      fun key rest heq => hkey ⟨key, rest, heq⟩

theorem moreArguments_blank (named : Bool) (tokens : List Token) :
    moreArguments (fuel + 1) named (tokens.map Token.blank) =
      (moreArguments (fuel + 1) named tokens).map blankRest := by
  -- Without a bracket that closes, a comma has to come and arguments behind it.
  have hothers : (do arguments fuel named (← (expect (.operator ",") tokens).map (List.map Token.blank))) =
      (do arguments fuel named (← expect (.operator ",") tokens)).map blankRest :=
    bind_map fun rest => ih.2.2.1 named rest
  rw [moreArguments, moreArguments, current_blank, advance_blank, expect_blank]
  cases current tokens with
  | operator symbol =>
      simp only [Token.blank]
      split
      · exact bind_map fun rest => rfl
      · exact hothers
  | _ => exact hothers

end Expressions

/-- Expressions and arguments are read from the outline of their tokens, whatever the count is. -/
theorem readsBlank (fuel : Nat) : ReadsBlank fuel := by
  induction fuel with
  | zero => exact ⟨fun _ => rfl, fun _ _ => rfl, fun _ _ => rfl, fun _ _ => rfl⟩
  | succ fuel ih =>
      -- The four readers call each other with a smaller count, so all four are carried through one induction.
      refine ⟨fun tokens => ?_, filters_blank fuel ih, arguments_blank fuel ih, moreArguments_blank fuel ih⟩
      rw [expression, expression, signedPrimary_blank]
      exact bind_map fun found => ih.2.1 found.1 found.2

theorem wholeExpression_blank (tokens : List Token) :
    wholeExpression (tokens.map Token.blank) = (wholeExpression tokens).map blankRest := by
  -- The count depends on the number of tokens alone, and that is the same in the outline.
  have hexpression := (readsBlank (2 * tokens.length + 2)).1 tokens
  rw [wholeExpression, wholeExpression, current_blank, describe_blank, List.length_map]
  cases current tokens with
  | closing tag => rfl
  | operator symbol =>
      simp only [Token.blank]
      split
      · rfl
      · rfl
      · exact hexpression
  | _ => exact hexpression

theorem target_blank (tokens : List Token) :
    target (tokens.map Token.blank) = (target tokens).map blankRest := by
  rw [target, target, current_blank, describe_blank, primary_blank]
  cases current tokens with
  | closing tag => rfl
  | _ =>
      refine bind_map ?_
      rintro ⟨expr, rest⟩
      cases expr <;> rfl

/-- What was read, and the tokens behind it, both without the text that stands outside of tags. -/
def blankFound (found : List Node × List Token) : List Node × List Token :=
  (blankNodes found.1, found.2.map Token.blank)

section Nodes

variable (fuel : Nat) (inside : Bool)
  (ih : ∀ inside tokens, nodes fuel inside (tokens.map Token.blank) = (nodes fuel inside tokens).map blankFound)
include ih

/-- A node that is made of an expression: the expression, the end of its tag and the nodes that follow. -/
theorem expressionNode_blank (make : Expr → Node) (hmake : ∀ expr, (make expr).blank = make expr) (tag : Tag)
    (tokens : List Token) :
    (do
      let (expr, tokens) ← wholeExpression (tokens.map Token.blank)
      let (rest, tokens) ← nodes fuel inside (← expect (.closing tag) tokens)
      return (make expr :: rest, tokens) : Except Flaw (List Node × List Token)) =
    (do
      let (expr, tokens) ← wholeExpression tokens
      let (rest, tokens) ← nodes fuel inside (← expect (.closing tag) tokens)
      return (make expr :: rest, tokens) : Except Flaw (List Node × List Token)).map blankFound := by
  rw [wholeExpression_blank]
  refine bind_map ?_
  rintro ⟨expr, rest⟩
  simp only [blankRest]
  rw [expect_blank]
  refine bind_map fun rest => ?_
  rw [ih]
  refine bind_map fun found => ?_
  have hnode : blankFound (make expr :: found.1, found.2) =
      (make expr :: (blankFound found).1, (blankFound found).2) := by
    rw [blankFound, blankNodes, hmake]
    rfl
  exact congrArg Except.ok hnode.symm

/-- An assignment that captures: the nodes up to its end tag, the end of that tag and the nodes that follow. -/
theorem captureNode_blank (name : String) (tokens : List Token) :
    (do
      let (body, tokens) ← nodes fuel true (← expect (.closing .statement) (tokens.map Token.blank))
      if tokens.isEmpty then malformed ("Unexpected end of template." ++ openBlock)
      else do
        let (rest, tokens) ← nodes fuel inside (← expect (.closing .statement) (← advance tokens))
        return (.capture name body :: rest, tokens) : Except Flaw (List Node × List Token)) =
    (do
      let (body, tokens) ← nodes fuel true (← expect (.closing .statement) tokens)
      if tokens.isEmpty then malformed ("Unexpected end of template." ++ openBlock)
      else do
        let (rest, tokens) ← nodes fuel inside (← expect (.closing .statement) (← advance tokens))
        return (.capture name body :: rest, tokens) : Except Flaw (List Node × List Token)).map blankFound := by
  rw [expect_blank]
  refine bind_map fun rest => ?_
  rw [ih]
  refine bind_map ?_
  rintro ⟨body, rest⟩
  simp only [blankFound, List.isEmpty_map]
  split
  · rfl
  · rw [advance_blank]
    refine bind_map fun rest => ?_
    rw [expect_blank]
    refine bind_map fun rest => ?_
    rw [ih]
    exact bind_map fun found => rfl

end Nodes

theorem nodes_blank (fuel : Nat) (inside : Bool) (tokens : List Token) :
    nodes fuel inside (tokens.map Token.blank) = (nodes fuel inside tokens).map blankFound := by
  induction fuel generalizing inside tokens with
  | zero => rfl
  | succ fuel ih =>
      -- An assignment captures if no sign stands behind its target, so that case is met more than once below.
      have hcapture := captureNode_blank fuel inside ih
      rw [nodes, nodes, current_blank, advance_blank]
      cases current tokens with
      | plain text =>
          refine bind_map fun rest => ?_
          rw [ih]
          exact bind_map fun found => rfl
      | opening tag =>
          -- Behind an opening an expression is printed, or the first word tells which statement it is.
          cases tag with
          | print => exact bind_map fun rest => expressionNode_blank fuel inside ih .output (fun _ => rfl) .print rest
          | statement =>
              refine bind_map fun rest => ?_
              rw [current_blank, advance_blank]
              cases current rest with
              | name word =>
                  simp only [Token.blank]
                  split
                  · rfl
                  split
                  · refine bind_map fun rest => ?_
                    rw [target_blank]
                    refine bind_map ?_
                    rintro ⟨name, rest⟩
                    simp only [blankRest]
                    rw [current_blank, advance_blank]
                    cases current rest with
                    | operator symbol =>
                        simp only [Token.blank]
                        split
                        · exact bind_map fun rest =>
                            expressionNode_blank fuel inside ih (.assign name) (fun _ => rfl) .statement rest
                        · split
                          · exact bind_map fun rest => hcapture name rest
                          · exact hcapture name rest
                    | _ => exact hcapture name rest
                  split
                  · refine bind_map fun rest => ?_
                    rw [wholeExpression_blank]
                    exact bind_map fun found => rfl
                  · rfl
              | _ => rfl
      | _ => rfl

theorem ofTokens_blank (tokens : List Token) :
    Node.ofTokens (tokens.map Token.blank) = (Node.ofTokens tokens).map blankNodes := by
  have hnodes : (nodes ((tokens.map Token.blank).length + 1) false (tokens.map Token.blank)).map (·.1) =
      ((nodes (tokens.length + 1) false tokens).map (·.1)).map blankNodes := by
    rw [List.length_map, nodes_blank]
    exact map_map fun found => rfl
  rcases tokens with _ | ⟨token, rest⟩
  · rfl
  · cases token with
    | unreadable flaw => rfl
    | _ => exact hnodes

end Template

end CodeBehind
