import CodeBehind.Layout
import CodeBehind.Proofs.Text.Margins
import Mathlib.Data.List.Infix

/-!
# Blocks that are moved to their place

That steps may be written where they stand, or on their own first and indented afterwards.

The writer carries a depth along and puts a margin before each line as it goes. Indenting knows nothing of steps: it
cuts a finished text at its line feeds and puts one margin before every line with something to see. What ties the two
together is that a step written some levels deeper leaves the line it leaves otherwise, behind as many units more. This
is so at every depth but those below zero, where the writer has no margin to add to. So the depth is what the induction
carries, and steps that open each block before they close it never go below the depth they begin at.

The two also have to agree on blanks and on line ends. An empty line has no margin for either of them, but a line of
blanks gets one from the writer only, and a line with a line feed in it is two lines for the other.

## Main definitions

* `Step.text`: What a step writes.
* `Step.drop`, `Step.change`: How far a step moves the depth before it writes, and in all.
* `depth`: How deep some steps lead.
* `Step.IsPlain`: A step that leaves one line, empty or with something to see.
* `IsBalanced`: Steps that open each block before they close it, and close them all.
* `textAbove`, `textBelow`: What steps leave above and below others.

## Main results

* `write_enclosed`: Balanced steps stand in a text as their own text does when it is indented as deep.

## Theorems

* `linesAt_cons`, `linesAt_append`: The lines of steps one after the other.
* `lineAt_add`, `linesAt_add`: The same line and the same lines some levels deeper.
* `lines_write`: The lines of a text are those that were written.
* `indent_write`: Indenting what balanced steps write is writing them deeper.
* `write_append`: The text of steps among others.
-/

namespace CodeBehind

namespace Layout

open Text (allBlank indent indentLine isBlank joinLines lines repeated terminate)

/-- What a step writes. -/
def Step.text : Step → List Char
  | line text => text.toList
  | openBlock => ['{']
  | closeBlock => ['}']

/-- How far a step moves the depth before it writes. -/
def Step.drop : Step → Int
  | line _ => 0
  | openBlock => 0
  | closeBlock => -1

/-- How far a step moves the depth in all. -/
def Step.change : Step → Int
  | line _ => 0
  | openBlock => 1
  | closeBlock => -1

/-- How deep some steps lead from depth zero. -/
def depth : List Step → Int
  | [] => 0
  | step :: steps => step.change + depth steps

/-- A line that is empty, or not blank and without a line feed; a brace is always one. -/
def Step.IsPlain : Step → Prop
  | line text => text = "" ∨ allBlank text = false ∧ '\n' ∉ text.toList
  | openBlock => True
  | closeBlock => True

instance : DecidablePred Step.IsPlain
  | .line text => inferInstanceAs (Decidable (text = "" ∨ allBlank text = false ∧ '\n' ∉ text.toList))
  | .openBlock => isTrue trivial
  | .closeBlock => isTrue trivial

/-- No beginning of the steps closes more blocks than it opens, and all of them close what they open. -/
structure IsBalanced (steps : List Step) : Prop where
  opened : ∀ front, front <+: steps → front.count .closeBlock ≤ front.count .openBlock
  closed : steps.count .closeBlock = steps.count .openBlock

instance (steps : List Step) : Decidable (IsBalanced steps) :=
  decidable_of_iff
    ((∀ front ∈ steps.inits, front.count .closeBlock ≤ front.count .openBlock) ∧
      steps.count .closeBlock = steps.count .openBlock)
    ⟨fun h => ⟨fun front hfront => h.1 front ((List.mem_inits front steps).mpr hfront), h.2⟩,
      fun h => ⟨fun front hfront => h.opened front ((List.mem_inits front steps).mp hfront), h.closed⟩⟩

/-- What steps leave above others that follow: their lines, a line feed after each. -/
def textAbove (unit : String) (steps : List Step) : String :=
  String.ofList (terminate (linesAt unit.toList 0 steps))

/-- What steps that begin at a depth leave below others: their lines, a line feed before each. -/
def textBelow (unit : String) (start : Int) (steps : List Step) : String :=
  String.ofList ((linesAt unit.toList start steps).flatMap ('\n' :: ·))

/-! ## Depths -/

@[simp] theorem depth_nil : depth [] = 0 := rfl

@[simp] theorem depth_cons (step : Step) (steps : List Step) : depth (step :: steps) = step.change + depth steps := rfl

/-- Steps lead as deep as they leave blocks open. -/
theorem depth_eq_count (steps : List Step) :
    depth steps = (steps.count .openBlock : Int) - steps.count .closeBlock := by
  induction steps with
  | nil => rfl
  | cons step rest ih =>
      rw [depth_cons, ih]
      cases step with
      | line text =>
          rw [List.count_cons_of_ne (by simp), List.count_cons_of_ne (by simp), Step.change, Int.zero_add]
      | openBlock =>
          rw [List.count_cons_self, List.count_cons_of_ne (by decide), Step.change]
          omega
      | closeBlock =>
          rw [List.count_cons_self, List.count_cons_of_ne (by decide), Step.change]
          omega

/-- A step writes at the depth before it or at the one after it. -/
theorem drop_eq_zero_or (step : Step) : step.drop = 0 ∨ step.drop = step.change := by
  cases step with
  | line text => exact Or.inl rfl
  | openBlock => exact Or.inl rfl
  | closeBlock => exact Or.inr rfl

/-- Balanced steps stay at the depth they begin at or above it. -/
theorem depth_nonneg_of_isBalanced (steps : List Step) (h : IsBalanced steps) (front : List Step)
    (hfront : front <+: steps) : 0 ≤ depth front := by
  have hopened := h.opened front hfront
  rw [depth_eq_count]
  omega

/-- Balanced steps come back to the depth they begin at. -/
theorem depth_of_isBalanced (steps : List Step) (h : IsBalanced steps) : depth steps = 0 := by
  rw [depth_eq_count, h.closed, Int.sub_self]

/-! ## Lines -/

theorem linesAt_cons (unit : List Char) (start : Int) (step : Step) (steps : List Step) :
    linesAt unit start (step :: steps) =
      lineAt unit (start + step.drop) step.text :: linesAt unit (start + step.change) steps := by
  cases step with
  | line text => rw [linesAt, Step.drop, Step.change, Step.text, Int.add_zero]
  | openBlock => rw [linesAt, Step.drop, Step.change, Step.text, Int.add_zero]
  | closeBlock => rw [linesAt, Step.drop, Step.change, Step.text, Int.sub_eq_add_neg]

/-- Steps write from the depth that the steps before them lead to. -/
theorem linesAt_append (unit : List Char) (start : Int) (front back : List Step) :
    linesAt unit start (front ++ back) = linesAt unit start front ++ linesAt unit (start + depth front) back := by
  induction front generalizing start with
  | nil =>
      rw [depth_nil, Int.add_zero]
      rfl
  | cons step rest ih =>
      rw [List.cons_append, linesAt_cons, linesAt_cons, ih, depth_cons, Int.add_assoc, List.cons_append]

theorem linesAt_ne_nil (unit : List Char) (start : Int) (steps : List Step) (hne : steps ≠ []) :
    linesAt unit start steps ≠ [] := by
  rcases List.exists_cons_of_ne_nil hne with ⟨step, rest, rfl⟩
  rw [linesAt_cons]
  exact List.cons_ne_nil _ _

/-- A plain step writes nothing, or something to see and no line feed. -/
theorem text_of_isPlain (step : Step) (h : step.IsPlain) :
    step.text = [] ∨ (∃ c ∈ step.text, isBlank c = false) ∧ '\n' ∉ step.text := by
  cases step with
  | line text =>
      rcases h with hempty | ⟨hvisible, hfeed⟩
      · exact Or.inl (String.toList_eq_nil_iff.mpr hempty)
      · exact Or.inr ⟨Text.exists_visible text.toList (Bool.eq_false_iff.mp hvisible), hfeed⟩
  | openBlock => exact Or.inr ⟨⟨'{', List.mem_singleton_self _, by decide⟩, by decide⟩
  | closeBlock => exact Or.inr ⟨⟨'}', List.mem_singleton_self _, by decide⟩, by decide⟩

/-- A line some levels deeper stands behind as many units more. -/
theorem lineAt_add (unit : List Char) (start : Int) (level : Nat) (text : List Char) (hstart : 0 ≤ start)
    (htext : text = [] ∨ ∃ c ∈ text, isBlank c = false) :
    lineAt unit (start + level) text = indentLine (repeated unit level) (lineAt unit start text) := by
  rcases htext with rfl | ⟨c, hmem, hc⟩
  · rfl
  · have hempty : text.isEmpty = false := List.isEmpty_eq_false_iff.mpr (List.ne_nil_of_mem hmem)
    -- A depth that is not negative is a number of units.
    rcases Int.eq_ofNat_of_zero_le hstart with ⟨count, rfl⟩
    have hsum : (count : Int) + level = (level + count : Nat) := by omega
    have hline : ∀ d, lineAt unit d text = repeated unit d ++ text := by
      intro d
      rw [lineAt, hempty]
      rfl
    rw [hline, hline, Text.indentLine_of_visible _ _ ⟨c, List.mem_append_right _ hmem, hc⟩, hsum, Text.repeated_add,
      List.append_assoc]

/-- Steps that stay at depth zero or above leave the same lines some levels deeper, behind as many units more. -/
theorem linesAt_add (unit : List Char) (start : Int) (level : Nat) (steps : List Step)
    (hplain : ∀ step ∈ steps, step.IsPlain) (hdepth : ∀ front, front <+: steps → 0 ≤ start + depth front) :
    linesAt unit (start + level) steps = (linesAt unit start steps).map (indentLine (repeated unit level)) := by
  -- The depth moves with each step, so the induction is for all depths to begin at.
  induction steps generalizing start with
  | nil => rfl
  | cons step rest ih =>
      have hbefore : 0 ≤ start := by
        have h := hdepth [] List.nil_prefix
        rwa [depth_nil, Int.add_zero] at h
      have hafter : 0 ≤ start + step.change := by
        have h := hdepth [step] ⟨rest, rfl⟩
        rwa [depth_cons, depth_nil, Int.add_zero] at h
      have hline : lineAt unit (start + step.drop + level) step.text =
          indentLine (repeated unit level) (lineAt unit (start + step.drop) step.text) := by
        refine lineAt_add unit _ level step.text ?_ ?_
        · rcases drop_eq_zero_or step with heq | heq <;> omega
        · exact (text_of_isPlain step (hplain step (List.mem_cons_self ..))).imp_right And.left
      have hrest := ih (start + step.change) (fun s hs => hplain s (List.mem_cons_of_mem step hs)) (by
        intro front hfront
        have h := hdepth (step :: front) (List.cons_prefix_cons.mpr ⟨rfl, hfront⟩)
        rwa [depth_cons, ← Int.add_assoc] at h)
      rw [linesAt_cons, linesAt_cons, List.map_cons, Int.add_right_comm, hline, Int.add_right_comm, hrest]

theorem feed_notMem_linesAt (unit : List Char) (start : Int) (steps : List Step) (hunit : '\n' ∉ unit)
    (hplain : ∀ step ∈ steps, step.IsPlain) : ∀ l ∈ linesAt unit start steps, '\n' ∉ l := by
  induction steps generalizing start with
  | nil => exact fun l hl => absurd hl List.not_mem_nil
  | cons step rest ih =>
      rw [linesAt_cons, List.forall_mem_cons]
      refine ⟨?_, ih _ (fun s hs => hplain s (List.mem_cons_of_mem step hs))⟩
      rcases text_of_isPlain step (hplain step (List.mem_cons_self ..)) with hempty | ⟨_, hfeed⟩
      · rw [lineAt, hempty]
        exact List.not_mem_nil
      · rw [lineAt]
        split
        · exact List.not_mem_nil
        · rw [List.mem_append, not_or]
          exact ⟨Text.notMem_repeated unit _ '\n' hunit, hfeed⟩

/-! ## Texts -/

/-- The text of some steps among others. -/
theorem write_append (unit : String) (before steps after : List Step) (hne : steps ≠ []) :
    write unit (before ++ steps ++ after) =
      textAbove unit before ++ String.ofList (joinLines (linesAt unit.toList (depth before) steps)) ++
        textBelow unit (depth before + depth steps) after := by
  have hlines := linesAt_ne_nil unit.toList (depth before) steps hne
  rw [write, List.append_assoc, linesAt_append, linesAt_append, Int.zero_add,
    Text.joinLines_append _ _ (List.append_ne_nil_of_left_ne_nil hlines _), Text.joinLines_append_below _ _ hlines,
    String.ofList_append, String.ofList_append, textAbove, textBelow, String.append_assoc]

/-- The lines of a text are those that were written. -/
theorem lines_write (unit : String) (steps : List Step) (hne : steps ≠ []) (hunit : '\n' ∉ unit.toList)
    (hplain : ∀ step ∈ steps, step.IsPlain) : lines (write unit steps).toList = linesAt unit.toList 0 steps := by
  rw [write, String.toList_ofList]
  exact Text.lines_joinLines _ (linesAt_ne_nil _ 0 steps hne) (feed_notMem_linesAt _ 0 steps hunit hplain)

/-- Indenting what balanced steps write is writing them deeper. -/
theorem indent_write (unit : String) (steps : List Step) (hne : steps ≠ []) (hunit : '\n' ∉ unit.toList)
    (hplain : ∀ step ∈ steps, step.IsPlain) (hbalanced : IsBalanced steps) (level : Nat) :
    indent (write unit steps) level unit = String.ofList (joinLines (linesAt unit.toList level steps)) := by
  have hshift := linesAt_add unit.toList 0 level steps hplain (by
    intro front hfront
    rw [Int.zero_add]
    exact depth_nonneg_of_isBalanced steps hbalanced front hfront)
  rw [Int.zero_add] at hshift
  rw [indent, lines_write unit steps hne hunit hplain, hshift]

/-- Balanced steps in a block stand there as their own text does behind one unit, and wherever they are written inside
    `n` blocks they stand as that text does behind `n` units. -/
theorem write_enclosed (unit : String) (steps : List Step) (hne : steps ≠ []) (hunit : '\n' ∉ unit.toList)
    (hplain : ∀ step ∈ steps, step.IsPlain) (hbalanced : IsBalanced steps) :
    write unit (.openBlock :: steps ++ [.closeBlock]) = "\x7b\n" ++ indent (write unit steps) 1 unit ++ "\n\x7d" ∧
      ∀ (n : Nat) (before after : List Step), before.count .openBlock = before.count .closeBlock + n →
        write unit (before ++ steps ++ after) =
          textAbove unit before ++ indent (write unit steps) n unit ++ textBelow unit n after := by
  have hplace : ∀ (n : Nat) (before after : List Step), before.count .openBlock = before.count .closeBlock + n →
      write unit (before ++ steps ++ after) =
        textAbove unit before ++ indent (write unit steps) n unit ++ textBelow unit n after := by
    intro n before after hn
    have hbefore : depth before = n := by
      rw [depth_eq_count]
      omega
    rw [write_append unit before steps after hne, hbefore, depth_of_isBalanced steps hbalanced, Int.add_zero,
      indent_write unit steps hne hunit hplain hbalanced n]
  have hopen : textAbove unit [.openBlock] = "\x7b\n" := rfl
  have hclose : textBelow unit 1 [.closeBlock] = "\n\x7d" := rfl
  -- A block around the steps is one opening before them and one closing after them.
  have hblock : write unit (.openBlock :: steps ++ [.closeBlock]) =
      textAbove unit [.openBlock] ++ indent (write unit steps) 1 unit ++ textBelow unit 1 [.closeBlock] :=
    hplace 1 [.openBlock] [.closeBlock] (by decide)
  rw [hopen, hclose] at hblock
  exact ⟨hblock, hplace⟩

/-- A getter with an empty line, a tab and a carriage return in its block. -/
def getterSteps : List Step :=
  [.line "get", .openBlock, .line "", .line "\treturn\r a;", .closeBlock, .line "\u00a0set;"]

/-- Steps that lead below zero, come back and go two blocks deep. -/
def detourSteps : List Step :=
  [.closeBlock, .openBlock, .line "a", .openBlock, .openBlock]

theorem write_enclosed_getter :
    getterSteps ≠ [] ∧ '\n' ∉ "- ".toList ∧ (∀ step ∈ getterSteps, step.IsPlain) ∧ IsBalanced getterSteps ∧
      write "- " (.openBlock :: getterSteps ++ [.closeBlock]) =
        "\x7b\n- get\n- \x7b\n\n- - \treturn\r a;\n- \x7d\n- \u00a0set;\n\x7d" ∧
      detourSteps.count .openBlock = detourSteps.count .closeBlock + 2 ∧
      write "- " (detourSteps ++ getterSteps ++ [.closeBlock]) =
        "\x7d\n\x7b\na\n\x7b\n- \x7b\n- - get\n- - \x7b\n\n- - - \treturn\r a;\n- - \x7d\n- - \u00a0set;\n- \x7d" := by
  have hne : getterSteps ≠ [] := List.cons_ne_nil _ _
  have hunit : '\n' ∉ "- ".toList := by decide
  have hplain : ∀ step ∈ getterSteps, step.IsPlain := by decide
  have hbalanced : IsBalanced getterSteps := by decide
  have hcount : detourSteps.count .openBlock = detourSteps.count .closeBlock + 2 := by decide
  rcases write_enclosed "- " getterSteps hne hunit hplain hbalanced with ⟨hblock, hplace⟩
  refine ⟨hne, hunit, hplain, hbalanced, hblock.trans ?_, hcount, (hplace 2 _ [.closeBlock] hcount).trans ?_⟩
  · decide +kernel
  · decide +kernel

/-- Steps that close a block before they open it go below their depth, and there the writer has no margin. -/
example : write "- " [.openBlock, .closeBlock, .openBlock, .closeBlock] = "\x7b\n\x7d\n\x7b\n\x7d" ∧
    indent (write "- " [.closeBlock, .openBlock]) 1 "- " = "- \x7d\n- \x7b" := by decide +kernel

end Layout

end CodeBehind
