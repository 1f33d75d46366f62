import CodeBehind.Proofs.Syntax.Written

/-!
# The body of a source file

The text that comes out of writing a tree and bringing it into canonical form is the layout of the tree.

The canonical pass meets the lines that were written with their tabs expanded and their ends trimmed. Every
one of them still has something to see, whatever the names in it are, because the words and signs around the
names are visible. A line that begins a member or a class begins with its visibility or with the bracket of an
attribute, and one that ends a member or a class is a brace or ends with a semicolon. So no member and no class
looks like the end of a block at its beginning or like the beginning of one at its end, and every member and
every class is a paragraph. A name with a brace in it can make other lines look so. Those are never next to a
blank.

Line ends in names are the one thing that is not looked after: a name with a line end would be two lines.

## Main results

* `body_eq_layout`: The text of a tree that can be written is its layout.

## Theorems

* `settlesTo_member`, `settlesTo_type`: Members and classes are paragraphs.
* `settle_written`: What the canonical pass keeps of a file.
* `body_eq_normalize`: A tree whose nodes are in their places has a text.
-/

namespace CodeBehind

namespace Syntax

open Text (SettlesTo closesBlock isBlank joinLines opensBlock paragraphs settle tidyLine)

theorem closesBlock_indented (depth : Nat) (text : String) (c : Char) (htext : text.toList.head? = some c)
    (hc : isBlank c = false) : closesBlock (tidyLine (indented depth text)) = (c == '}') := by
  rcases List.head?_eq_some_iff.mp htext with ⟨rest, hrest⟩
  rw [indented, hrest]
  refine Text.closesBlock_tidyLine _ rest c (fun x hx => ?_) hc
  rw [List.eq_of_mem_replicate hx]
  decide

theorem opensBlock_indented (depth : Nat) (text : String) (c : Char) (htext : text.toList.getLast? = some c)
    (hc : isBlank c = false) : opensBlock (tidyLine (indented depth text)) = (c == '{') := by
  rcases List.getLast?_eq_some_iff.mp htext with ⟨before, hbefore⟩
  rw [indented, hbefore, ← List.append_assoc]
  exact Text.opensBlock_tidyLine _ c hc

theorem tidyLine_indented_ne_nil (depth : Nat) (text : String) (c : Char) (htext : c ∈ text.toList)
    (hc : isBlank c = false) : tidyLine (indented depth text) ≠ [] :=
  Text.tidyLine_ne_nil _ c (List.mem_append_right _ htext) hc

theorem head?_declared (visibility : Visibility) (typeName name : String) :
    (declared visibility typeName name).toList.head? = some 'p' := by
  rw [declared_eq]
  refine Text.head?_append _ _ _ (Text.head?_append _ _ _ (Text.head?_append _ _ _ (Text.head?_append _ _ _ ?_)))
  cases visibility <;> decide

theorem head?_headWords (type : TypeDecl) : (" ".intercalate type.headWords).toList.head? = some 'p' := by
  rw [← header_eq, TypeDecl.header]
  refine Text.head?_append _ _ _ (Text.head?_append _ _ _ (Text.head?_append _ _ _ (Text.head?_append _ _ _ ?_)))
  cases type.visibility <;> decide

/-- Below its attributes a member begins with its visibility. -/
theorem head?_headline (member : Member) : member.headline.toList.head? = some 'p' := by
  cases member with
  | field f => exact Text.head?_append _ _ _ (head?_declared ..)
  | property p => exact head?_declared ..
  | method m => exact Text.head?_append _ _ _ (Text.head?_append _ _ _ (Text.head?_append _ _ _ (head?_declared ..)))

theorem getLast?_braced (depth : Nat) (inner : List (List Char)) (header : List Char) :
    (header :: braced depth inner).getLast? = some (indented depth "\x7d") := by
  rw [braced, ← List.cons_append, ← List.cons_append, List.getLast?_concat]

theorem tidyLine_statement_ne_nil (depth : Nat) (node : Node) (h : node.isStatement = true) :
    tidyLine (indented depth node.statement) ≠ [] := by
  rcases exists_ret_of_isStatement node h with ⟨e, rfl, _⟩
  have hlast : (Node.ret e).statement.toList.getLast? = some ';' := Text.getLast?_append _ _ ';' (by decide)
  exact tidyLine_indented_ne_nil depth _ ';' (List.mem_of_getLast? hlast) (by decide)

/-- Every line of a member has something to see. -/
theorem tidyLine_member_ne_nil (depth : Nat) (member : Member) (h : member.isRenderable = true) :
    ∀ l ∈ member.lines depth, tidyLine l ≠ [] := by
  refine forall_mem_member_lines depth member (tidyLine · ≠ []) (fun d => ?_) (fun d => ?_) (fun d => ?_)
    (fun name _ => ?_) ?_ (fun node hnode d => ?_)
  · exact tidyLine_indented_ne_nil d _ '{' (by decide) (by decide)
  · exact tidyLine_indented_ne_nil d _ '}' (by decide) (by decide)
  · exact tidyLine_indented_ne_nil d "get" 'g' (by decide) (by decide)
  · have hlast : ("[" ++ name ++ "]").toList.getLast? = some ']' := Text.getLast?_append _ _ ']' (by decide)
    exact tidyLine_indented_ne_nil depth _ ']' (List.mem_of_getLast? hlast) (by decide)
  · exact tidyLine_indented_ne_nil depth _ 'p' (List.mem_of_head? (head?_headline member)) (by decide)
  · exact tidyLine_statement_ne_nil d node (isStatement_of_mem_statements member h node hnode)

/-- The first line of a member does not look like the end of a block. -/
theorem exists_member_first (depth : Nat) (member : Member) :
    ∃ first, (member.lines depth).head? = some first ∧ closesBlock (tidyLine first) = false := by
  rw [member_lines_eq]
  cases member.attributes with
  | nil =>
      exact ⟨_, rfl, closesBlock_indented depth _ 'p' (head?_headline member) (by decide)⟩
  | cons name rest =>
      have hbracket : ("[" ++ name ++ "]").toList.head? = some '[' :=
        Text.head?_append _ _ _ (Text.head?_append _ _ _ (by decide))
      exact ⟨_, rfl, closesBlock_indented depth _ '[' hbracket (by decide)⟩

/-- The last line of a member does not look like the beginning of a block. -/
theorem exists_member_last (depth : Nat) (member : Member) :
    ∃ last, (member.lines depth).getLast? = some last ∧ opensBlock (tidyLine last) = false := by
  have hbrace : opensBlock (tidyLine (indented depth "\x7d")) = false :=
    opensBlock_indented depth _ '}' (by decide) (by decide)
  cases member with
  | field f =>
      refine ⟨indented depth (declared f.visibility f.typeName f.name ++ ";"), List.getLast?_concat, ?_⟩
      exact opensBlock_indented depth _ ';' (Text.getLast?_append _ _ _ (by decide)) (by decide)
  | property p => exact ⟨_, getLast?_braced depth _ _, hbrace⟩
  | method m => exact ⟨_, getLast?_braced depth _ _, hbrace⟩

/-- A member is a paragraph. -/
theorem settlesTo_member (depth : Nat) (member : Member) (h : member.isRenderable = true) :
    SettlesTo ((member.lines depth).map tidyLine) ((member.lines depth).map tidyLine) false := by
  rcases exists_member_first depth member with ⟨first, hfirst, hcloses⟩
  rcases exists_member_last depth member with ⟨last, hlast, hopens⟩
  refine Text.settlesTo_solid _ (tidyLine first) (tidyLine last) ?_ ?_ hcloses hopens ?_
  · rw [List.head?_map, hfirst]
    rfl
  · rw [List.getLast?_map, hlast]
    rfl
  · intro l hl
    rcases List.mem_map.mp hl with ⟨line, hline, heq⟩
    rw [← heq]
    exact tidyLine_member_ne_nil depth member h line hline

/-- Members in a row, each with a blank after it, come out with one blank between any two. -/
theorem settlesTo_members (members : List Member) (h : ∀ member ∈ members, member.isRenderable = true) :
    (members.flatMap fun member => member.lines 1 ++ [[]]).map tidyLine = [] ∧
        (paragraphs (members.map (Member.lines 1))).map tidyLine = [] ∨
      SettlesTo ((members.flatMap fun member => member.lines 1 ++ [[]]).map tidyLine)
        ((paragraphs (members.map (Member.lines 1))).map tidyLine) true := by
  cases members with
  | nil => exact Or.inl ⟨rfl, rfl⟩
  | cons member rest =>
      refine Or.inr ?_
      rw [List.map_flatMap, Text.map_paragraphs tidyLine rfl, List.map_map]
      simp only [List.map_append]
      exact Text.settlesTo_flatMap (fun m => (m.lines 1).map tidyLine) _ member rest
        (fun m hm => settlesTo_member 1 m (h m hm))

/-- A class is a paragraph. -/
theorem settlesTo_type (type : TypeDecl) (h : type.isRenderable = true) :
    SettlesTo (type.written.map tidyLine) (type.lines.map tidyLine) false := by
  have hheader := tidyLine_indented_ne_nil 0 _ 'p' (List.mem_of_head? (head?_headWords type)) (by decide)
  have hopening : tidyLine (indented 0 "\x7b") ≠ [] := tidyLine_indented_ne_nil 0 _ '{' (by decide) (by decide)
  have hclosing : tidyLine (indented 0 "\x7d") ≠ [] := tidyLine_indented_ne_nil 0 _ '}' (by decide) (by decide)
  have hstarts := closesBlock_indented 0 _ 'p' (head?_headWords type) (by decide)
  have hcloses := closesBlock_indented 0 "\x7d" '}' (by decide) (by decide)
  have hends := opensBlock_indented 0 "\x7d" '}' (by decide) (by decide)
  have hall := Text.settlesTo_braced _ _ _ _ _ true hheader hopening hclosing hstarts hcloses hends
    (settlesTo_members type.members (List.all_eq_true.mp h))
  rw [TypeDecl.written, TypeDecl.lines, braced, braced]
  simp only [List.map_cons, List.map_append, List.map_nil]
  exact hall

/-- The imports are a paragraph, if there are any. -/
theorem settlesTo_importLines (name : String) (rest : List String) :
    SettlesTo ((importLines (name :: rest)).map tidyLine) ((importLines (name :: rest)).map tidyLine) false := by
  have hline : ∀ name : String, ("using " ++ name ++ ";").toList.getLast? = some ';' :=
    fun name => Text.getLast?_append _ _ ';' (by decide)
  have hfirst : closesBlock (tidyLine (indented 0 ("using " ++ name ++ ";"))) = false :=
    closesBlock_indented 0 _ 'u' (Text.head?_append _ _ _ (Text.head?_append _ _ _ (by decide))) (by decide)
  -- The last line is the one of the last import.
  rcases List.eq_nil_or_concat (name :: rest) with hnil | ⟨before, last, heq⟩
  · exact absurd hnil (List.cons_ne_nil name rest)
  · refine Text.settlesTo_solid _ _ (tidyLine (indented 0 ("using " ++ last ++ ";"))) rfl ?_ hfirst
      (opensBlock_indented 0 _ ';' (hline last) (by decide)) ?_
    · rw [heq, importLines, List.concat_eq_append, List.map_append, List.map_append]
      exact List.getLast?_concat
    · intro l hl
      rcases List.mem_map.mp hl with ⟨line, hmem, hl⟩
      rcases List.mem_map.mp hmem with ⟨other, _, hother⟩
      rw [← hl, ← hother]
      exact tidyLine_indented_ne_nil 0 _ ';' (List.mem_of_getLast? (hline other)) (by decide)

/-- Classes in a row, each with a blank after it, come out with one blank between any two. -/
theorem settlesTo_types (type : TypeDecl) (rest : List TypeDecl)
    (h : ∀ t ∈ type :: rest, t.isRenderable = true) :
    SettlesTo (((type :: rest).flatMap fun t => t.written ++ [[]]).map tidyLine)
      ((paragraphs ((type :: rest).map TypeDecl.lines)).map tidyLine) true := by
  rw [List.map_flatMap, Text.map_paragraphs tidyLine rfl, List.map_map]
  simp only [List.map_append]
  exact Text.settlesTo_flatMap (fun t : TypeDecl => t.written.map tidyLine) _ type rest
    (fun t ht => settlesTo_type t (h t ht))

/-- What the canonical pass keeps of a file. -/
theorem settle_written (unit : CompilationUnit) (h : unit.isRenderable = true) :
    settle none false (unit.written.map tidyLine) = unit.lines.map tidyLine := by
  have htypes := List.all_eq_true.mp h
  rcases unit with ⟨imports, types⟩
  rw [CompilationUnit.written, CompilationUnit.lines, List.map_append, List.map_cons]
  -- A blank is written after the imports in any case, but before the first line of a text none is due.
  cases imports with
  | nil =>
      cases types with
      | nil => rfl
      | cons type rest => exact Text.settle_eq_of_settlesTo _ _ true true (settlesTo_types type rest htypes)
  | cons name others =>
      have himports := Text.settlesTo_blank _ _ _ (settlesTo_importLines name others)
      rw [if_neg (List.cons_ne_nil name others), List.singleton_append]
      cases types with
      | nil =>
          rw [List.map_nil, paragraphs, List.intercalate_singleton]
          exact Text.settle_eq_of_settlesTo _ _ false true himports
      | cons type rest =>
          have hall := Text.settlesTo_append _ _ _ _ _ himports (settlesTo_types type rest htypes)
          rw [List.append_assoc, List.singleton_append] at hall
          rw [List.map_cons, Text.paragraphs_cons_cons, List.map_append, List.map_cons]
          exact Text.settle_eq_of_settlesTo _ _ false true hall

/-- A line that is written and is not blank is a line of the layout. -/
theorem mem_lines_of_mem_written (unit : CompilationUnit) (l : List Char) (hl : l ∈ unit.written) (hne : l ≠ []) :
    l ∈ unit.lines := by
  -- The blank line that is written behind each part is the only one that is not among the lines.
  have htype : ∀ type : TypeDecl, l ∈ type.written → l ∈ type.lines := by
    intro type hl
    rcases List.mem_cons.mp hl with heq | hbody
    · exact heq ▸ List.mem_cons_self ..
    · rcases List.mem_cons.mp hbody with heq | hinner
      · exact heq ▸ List.mem_cons_of_mem _ (List.mem_cons_self ..)
      · refine List.mem_cons_of_mem _ (List.mem_cons_of_mem _ (List.mem_append.mpr ?_))
        rcases List.mem_append.mp hinner with hinner | hclose
        · rcases List.mem_flatMap.mp hinner with ⟨member, hmember, hl⟩
          rcases List.mem_append.mp hl with hl | hblank
          · exact Or.inl (Text.mem_intercalate_of_mem _ l _ _ (List.mem_map_of_mem hmember) hl)
          · exact absurd (List.mem_singleton.mp hblank) hne
        · exact Or.inr hclose
  rcases List.mem_append.mp hl with himport | hrest
  · have hsome : unit.imports ≠ [] := by
      intro hnil
      rw [hnil] at himport
      exact absurd himport List.not_mem_nil
    refine Text.mem_intercalate_of_mem _ l (importLines unit.imports) _ (List.mem_append_left _ ?_) himport
    rw [if_neg hsome]
    exact List.mem_singleton_self _
  · rcases List.mem_cons.mp hrest with heq | htypes
    · exact absurd heq hne
    · rcases List.mem_flatMap.mp htypes with ⟨type, hmem, hl⟩
      rcases List.mem_append.mp hl with hl | hblank
      · exact Text.mem_intercalate_of_mem _ l type.lines _ (List.mem_append_right _ (List.mem_map_of_mem hmem))
          (htype type hl)
      · exact absurd (List.mem_singleton.mp hblank) hne

/-- Control characters in the lines that are written come from the texts of the file. -/
theorem notMem_written (unit : CompilationUnit) (c : Char) (hc : c < ' ') (h : ∀ s ∈ unit.strings, c ∉ s.toList)
    (l : List Char) (hl : l ∈ unit.written) : c ∉ l := by
  by_cases hne : l = []
  · rw [hne]
    exact List.not_mem_nil
  · exact notMem_lines c hc unit h l (mem_lines_of_mem_written unit l hl hne)

/-- What the canonical pass makes of the lines that are written. -/
theorem canonicalLines_written (unit : CompilationUnit) (hrender : unit.isRenderable = true)
    (hstrings : ∀ s ∈ unit.strings, '\n' ∉ s.toList ∧ '\r' ∉ s.toList) :
    Text.canonicalLines (joinLines unit.written) = unit.lines.map tidyLine := by
  have hfeed := notMem_written unit '\n' (by decide) (fun s hs => (hstrings s hs).1)
  have hreturn := notMem_written unit '\r' (by decide) (fun s hs => (hstrings s hs).2)
  -- No line end comes from a name, so the text splits into the lines that were written.
  have hwhole := Text.return_notMem_joinLines unit.written hreturn
  have hne : unit.written ≠ [] := List.append_ne_nil_of_right_ne_nil _ (List.cons_ne_nil _ _)
  rw [Text.canonicalLines, Text.unifyLineEndings_of_notMem _ hwhole, Text.lines_joinLines _ hne hfeed,
    settle_written unit hrender]

/-- A tree whose nodes are in their places has a text: the canonical form of the lines that are written. -/
theorem body_eq_normalize (unit : CompilationUnit) (hrender : unit.isRenderable = true) :
    unit.body = .ok (Text.normalize (String.ofList (joinLines unit.written))) := by
  rcases exists_steps unit hrender with ⟨steps, hsteps, hlays⟩
  have hlines : Layout.linesAt Text.indentUnit.toList 0 steps = unit.written := by
    have h := hlays []
    rw [List.append_nil] at h
    exact h.trans (List.append_nil _)
  rw [CompilationUnit.body, hsteps, ← hlines]
  rfl

/-- The text of a tree that can be written is its layout. -/
theorem body_eq_layout (unit : CompilationUnit) (hrender : unit.isRenderable = true)
    (hstrings : ∀ s ∈ unit.strings, '\n' ∉ s.toList ∧ '\r' ∉ s.toList) : unit.body = .ok unit.layout := by
  rw [body_eq_normalize unit hrender, Text.normalize, String.toList_ofList,
    canonicalLines_written unit hrender hstrings]
  rfl

/-- A file with braces, tabs and blanks in its names. -/
def crowdedUnit : CompilationUnit where
  imports := ["UnityEngine", "A.B"]
  types := [
    { name := "Menu", baseType := "\x7b \t", members := [
        .field { name := "a\tb", typeName := "T", attributes := ["Shown", "\x7d"] },
        .property { name := "First", typeName := "T", getter := .access "root" "first" true },
        .method { name := "Run", parameters := ["int x", "int y"], body := [.ret (.access "this" "x" false)] }] },
    { name := "\x7d", isPartial := false, visibility := .privateAccess }]

theorem body_crowdedUnit :
    crowdedUnit.isRenderable = true ∧ (∀ s ∈ crowdedUnit.strings, '\n' ∉ s.toList ∧ '\r' ∉ s.toList) ∧
      crowdedUnit.body = .ok ("\n".intercalate [
        "using UnityEngine;", "using A.B;", "", "public partial class Menu : \x7b", "\x7b", "    [Shown]", "    [\x7d]",
        "    private T a b;", "", "    public T First", "    \x7b", "        get", "        \x7b",
        "            return root?.first;", "        \x7d", "    \x7d", "", "    public void Run(int x, int y)", "    \x7b",
        "        return this.x;", "    \x7d", "\x7d", "", "private class \x7d", "\x7b", "\x7d"] ++ "\n") := by
  have hrender : crowdedUnit.isRenderable = true := by decide
  have hstrings : ∀ s ∈ crowdedUnit.strings, '\n' ∉ s.toList ∧ '\r' ∉ s.toList := by decide
  refine ⟨hrender, hstrings, ?_⟩
  rw [body_eq_layout crowdedUnit hrender hstrings]
  decide +kernel

end Syntax

end CodeBehind
