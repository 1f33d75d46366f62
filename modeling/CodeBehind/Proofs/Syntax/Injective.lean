import CodeBehind.Proofs.Syntax.Named

/-!
# Reading a file back

Two well-named trees with the same text are the same tree.

The canonical pass leaves the lines of a well-named tree alone, so the text gives the lines back, and the lines
have to give the tree. They are read from the top. What makes this work is that every declaration can be told
from its own lines, without looking at those that follow: the lines of a member are as many as its first lines
say, those of a class go on to the brace that closes it. `SelfDelimiting` is this property of a way to write
things as lines, and lists of such things, as paragraphs before a closing line, have it again.

Within a line the names are found by the signs between them, none of which belongs to words. The optional parts
are told by what stands in their place. A field ends with a semicolon, a method with a parenthesis, a property
with a name. A class without `partial` has `class` as its second word, and one without a base ends with its
name. An access with a question mark has it before its first dot. The structural rules of trees are not needed
for any of this: even trees that break them have different texts.

## Main definitions

* `SelfDelimiting`: A way to write things so that the lines show where each ends.

## Main results

* `body_injective`: Two well-named trees with the same text are equal.

## Theorems

* `paragraphs_injective`: Paragraphs before a closing line.
* `member_lines_injective`, `type_lines_injective`, `lines_injective`: Declarations and files from their lines.
-/

namespace CodeBehind

namespace Syntax

open Text (paragraphs paragraphs_cons_cons tidyLine)

/-- A way to write things as lines that shows where each ends, whatever follows. -/
def SelfDelimiting {α : Type} (code : α → List (List Char)) (P : α → Prop) : Prop :=
  ∀ x y, P x → P y → ∀ rest rest', code x ++ rest = code y ++ rest' → x = y ∧ rest = rest'

section

variable {α : Type} (P : α → Prop)

/-- Things of one line each are found again if what follows does not begin with such a line. -/
theorem map_append_injective (line : α → List Char) (hline : ∀ x y, P x → P y → line x = line y → x = y)
    (xs ys : List α) (rest rest' : List (List Char)) (hxs : ∀ x ∈ xs, P x) (hys : ∀ y ∈ ys, P y)
    (hrest : ∀ x, P x → rest.head? ≠ some (line x)) (hrest' : ∀ x, P x → rest'.head? ≠ some (line x))
    (heq : xs.map line ++ rest = ys.map line ++ rest') : xs = ys ∧ rest = rest' := by
  induction xs generalizing ys with
  | nil =>
      cases ys with
      | nil => exact ⟨rfl, heq⟩
      | cons y ys =>
          -- One row is at its end and the other is not, so a line of that one would be what follows the first.
          refine absurd ?_ (hrest y (hys y (List.mem_cons_self ..)))
          rw [List.map_nil, List.nil_append] at heq
          rw [heq]
          rfl
  | cons x xs ih =>
      cases ys with
      | nil =>
          refine absurd ?_ (hrest' x (hxs x (List.mem_cons_self ..)))
          rw [List.map_nil, List.nil_append] at heq
          rw [← heq]
          rfl
      | cons y ys =>
          rw [List.map_cons, List.map_cons, List.cons_append, List.cons_append, List.cons.injEq] at heq
          have hsame := hline x y (hxs x (List.mem_cons_self ..)) (hys y (List.mem_cons_self ..)) heq.1
          rcases ih ys (fun z hz => hxs z (List.mem_cons_of_mem x hz)) (fun z hz => hys z (List.mem_cons_of_mem y hz))
            heq.2 with ⟨hall, hlater⟩
          exact ⟨by rw [hsame, hall], hlater⟩

theorem paragraphs_cons_append (group rest : List (List Char)) (groups : List (List (List Char))) :
    paragraphs (group :: groups) ++ rest =
      group ++ (if groups = [] then rest else [] :: (paragraphs groups ++ rest)) := by
  cases groups with
  | nil => rw [paragraphs, List.intercalate_singleton, if_pos rfl]
  | cons next more =>
      rw [paragraphs_cons_cons, if_neg (List.cons_ne_nil next more), List.append_assoc, List.cons_append]

/-- Paragraphs before a closing line, when each shows where it ends and none begins like that line. -/
theorem paragraphs_injective (code : α → List (List Char)) (hcode : SelfDelimiting code P) (close : List Char)
    (hclose : close ≠ []) (hstart : ∀ x, P x → ∃ first more, code x = first :: more ∧ first ≠ close)
    (xs ys : List α) (hxs : ∀ x ∈ xs, P x) (hys : ∀ y ∈ ys, P y) (rest rest' : List (List Char))
    (heq : paragraphs (xs.map code) ++ close :: rest = paragraphs (ys.map code) ++ close :: rest') :
    xs = ys ∧ rest = rest' := by
  have hfirst : ∀ (z : α) (zs : List α) (after more : List (List Char)), P z →
      close :: after ≠ paragraphs ((z :: zs).map code) ++ more := by
    intro z zs after more hz hsame
    rcases hstart z hz with ⟨first, others, hlines, hdiffers⟩
    rw [List.map_cons, paragraphs_cons_append, hlines, List.cons_append, List.cons.injEq] at hsame
    exact hdiffers hsame.1.symm
  induction xs generalizing ys with
  | nil =>
      cases ys with
      | nil =>
          rw [List.map_nil, List.append_cancel_left_eq, List.cons.injEq] at heq
          exact ⟨rfl, heq.2⟩
      | cons y ys => exact absurd heq (hfirst y ys _ _ (hys y (List.mem_cons_self ..)))
  | cons x xs ih =>
      cases ys with
      | nil => exact absurd heq.symm (hfirst x xs _ _ (hxs x (List.mem_cons_self ..)))
      | cons y ys =>
          rw [List.map_cons, List.map_cons, paragraphs_cons_append, paragraphs_cons_append] at heq
          rcases hcode x y (hxs x (List.mem_cons_self ..)) (hys y (List.mem_cons_self ..)) _ _ heq with ⟨hsame, hafter⟩
          have hmore := ih ys (fun z hz => hxs z (List.mem_cons_of_mem x hz))
            (fun z hz => hys z (List.mem_cons_of_mem y hz))
          rw [hsame]
          -- After the first paragraph, either the closing line or a blank follows, on both sides the same.
          split at hafter
          · next hnil =>
              split at hafter
              · next hnil' =>
                  rw [List.map_eq_nil_iff.mp hnil, List.map_eq_nil_iff.mp hnil']
                  rw [List.cons.injEq] at hafter
                  exact ⟨rfl, hafter.2⟩
              · rw [List.cons.injEq] at hafter
                exact absurd hafter.1 hclose
          · split at hafter
            · rw [List.cons.injEq] at hafter
              exact absurd hafter.1.symm hclose
            · rw [List.cons.injEq] at hafter
              rcases hmore hafter.2 with ⟨hall, hlater⟩
              exact ⟨by rw [hall], hlater⟩

end

theorem indented_injective (depth : Nat) (s t : String) (heq : indented depth s = indented depth t) : s = t :=
  String.toList_inj.mp (List.append_cancel_left heq)

theorem keyword_injective (visibility visibility' : Visibility) (heq : visibility.keyword = visibility'.keyword) :
    visibility = visibility' := by
  cases visibility <;> cases visibility' <;> first | rfl | exact absurd heq (by decide)

theorem keyword_isWord (visibility : Visibility) : IsWord visibility.keyword := by
  cases visibility <;> decide

theorem isWord_of_mem_declared (visibility : Visibility) (typeName name : String) (htype : IsWord typeName)
    (hname : IsWord name) : ∀ s ∈ [visibility.keyword, typeName, name], IsWord s := by
  intro s hs
  rcases List.mem_cons.mp hs with heq | hs
  · exact heq ▸ keyword_isWord visibility
  · rcases List.mem_cons.mp hs with heq | hs
    · exact heq ▸ htype
    · exact List.mem_singleton.mp hs ▸ hname

/-- The words a member is declared with can be told apart. -/
theorem declared_injective (visibility visibility' : Visibility) (typeName typeName' name name' : String)
    (htype : IsWord typeName) (htype' : IsWord typeName') (hname : IsWord name) (hname' : IsWord name')
    (heq : declared visibility typeName name = declared visibility' typeName' name') :
    visibility = visibility' ∧ typeName = typeName' ∧ name = name' := by
  have hpiece : ∀ s : String, IsWord s → s.toList ≠ [] ∧ ' ' ∉ s.toList :=
    fun s hs => ⟨hs.1, notMem_word ' ' (by decide) s hs⟩
  have hall := Text.join_injective ' ' [] " " rfl _ _
    (fun s hs => hpiece s (isWord_of_mem_declared visibility typeName name htype hname s hs))
    (fun s hs => hpiece s (isWord_of_mem_declared visibility' typeName' name' htype' hname' s hs)) heq
  rw [List.cons.injEq, List.cons.injEq, List.cons.injEq] at hall
  exact ⟨keyword_injective _ _ hall.1, hall.2.1, hall.2.2.1⟩

/-- The parts of an access are found by its first dot. -/
theorem expression_injective (node node' : Node) (h : node.IsNamedAccess) (h' : node'.IsNamedAccess)
    (heq : node.expression = node'.expression) : node = node' := by
  have hparts : ∀ target member flag, (Node.access target member flag).expression.toList =
      (target.toList ++ if flag then ['?'] else []) ++ '.' :: member.toList := by
    intro target member flag
    rw [Node.expression, String.toList_append, String.toList_append]
    cases flag <;> simp
  have hdot : ∀ (target : String) (flag : Bool), IsWord target →
      '.' ∉ target.toList ++ if flag then ['?'] else [] := by
    intro target flag htarget
    rw [List.mem_append, not_or]
    refine ⟨notMem_word '.' (by decide) target htarget, ?_⟩
    cases flag <;> decide
  rcases exists_access_of_named node h with ⟨target, member, flag, rfl, htarget, _⟩
  rcases exists_access_of_named node' h' with ⟨target', member', flag', rfl, htarget', _⟩
  have hlists := congrArg String.toList heq
  rw [hparts, hparts] at hlists
  rcases Text.append_cons_injective '.' _ _ _ _ (hdot target flag htarget) (hdot target' flag' htarget') hlists with
    ⟨hbefore, hmember⟩
  have hmark := notMem_word '?' (by decide) target htarget
  have hmark' := notMem_word '?' (by decide) target' htarget'
  rw [String.toList_inj.mp hmember]
  -- A question mark on one side only would belong to the target on the other.
  cases flag <;> cases flag'
  · rw [List.append_cancel_right_eq] at hbefore
    rw [String.toList_inj.mp hbefore]
  · refine absurd ?_ hmark
    rw [if_neg Bool.false_ne_true, List.append_nil] at hbefore
    rw [hbefore]
    exact List.mem_append_right _ (List.mem_singleton_self '?')
  · refine absurd ?_ hmark'
    rw [if_neg Bool.false_ne_true, List.append_nil] at hbefore
    rw [← hbefore]
    exact List.mem_append_right _ (List.mem_singleton_self '?')
  · rw [List.append_cancel_right_eq] at hbefore
    rw [String.toList_inj.mp hbefore]

theorem statement_injective (node node' : Node) (h : node.IsNamedReturn) (h' : node'.IsNamedReturn)
    (heq : node.statement = node'.statement) : node = node' := by
  rcases exists_ret_of_named node h with ⟨e, rfl, he⟩
  rcases exists_ret_of_named node' h' with ⟨e', rfl, he'⟩
  have hexpression := (String.append_right_inj "return ").mp ((String.append_left_inj ";").mp heq)
  rw [expression_injective e e' he he' hexpression]

theorem attributeLine_injective (depth : Nat) (name name' : String)
    (heq : attributeLine depth name = attributeLine depth name') : name = name' :=
  (String.append_right_inj "[").mp ((String.append_left_inj "]").mp (indented_injective depth _ _ heq))

/-- The line of a declaration is not the line of an attribute. -/
theorem headline_ne_attributeLine (depth : Nat) (member : Member) (name : String) :
    indented depth member.headline ≠ attributeLine depth name := by
  intro heq
  have hhead := head?_headline member
  have hbracket : ("[" ++ name ++ "]").toList.head? = some '[' :=
    Text.head?_append _ _ _ (Text.head?_append _ _ _ (by decide))
  rw [indented_injective depth _ _ heq, hbracket] at hhead
  exact absurd hhead (by decide)

/-- The kind of the member whose declaration ends with a character. -/
def kindOfEnd (c : Char) : MemberKind :=
  if c = ';' then .field else if c = ')' then .method else .property

/-- How the line of a declaration ends shows which kind of member it declares. -/
theorem kind_of_headline (member : Member) (h : member.WellNamed) :
    member.headline.toList.getLast?.map kindOfEnd = some member.kind := by
  cases member with
  | field f =>
      have hlast : (Member.field f).headline.toList.getLast? = some ';' := Text.getLast?_append _ _ _ (by decide)
      rw [hlast]
      rfl
  | property p =>
      -- A property has no sign at its end, but a word has none of the two signs either.
      rcases exists_getLast?_word p.name h.1 with ⟨c, hlast, hc⟩
      have hsemicolon : c ≠ ';' := fun heq => absurd (heq ▸ hc) (by decide)
      have hparenthesis : c ≠ ')' := fun heq => absurd (heq ▸ hc) (by decide)
      have hheadline : (Member.property p).headline.toList.getLast? = some c := getLast?_declared _ _ _ c hlast
      rw [hheadline, Option.map_some, kindOfEnd, if_neg hsemicolon, if_neg hparenthesis]
      rfl
  | method m =>
      have hlast : (Member.method m).headline.toList.getLast? = some ')' := Text.getLast?_append _ _ _ (by decide)
      rw [hlast]
      rfl

/-- Lines between braces are found if none of them looks like the brace that closes them. -/
theorem braced_injective {α : Type} (P : α → Prop) (depth : Nat) (line : α → List Char)
    (hline : ∀ x y, P x → P y → line x = line y → x = y) (hclose : ∀ x, P x → indented depth "\x7d" ≠ line x)
    (xs ys : List α) (hxs : ∀ x ∈ xs, P x) (hys : ∀ y ∈ ys, P y) (rest rest' : List (List Char))
    (heq : braced depth (xs.map line) ++ rest = braced depth (ys.map line) ++ rest') : xs = ys ∧ rest = rest' := by
  have hstop : ∀ after x, P x → (indented depth "\x7d" :: after).head? ≠ some (line x) := by
    intro after x hx hsame
    rw [List.head?_cons, Option.some.injEq] at hsame
    exact hclose x hx hsame
  rw [braced, braced, List.cons_append, List.cons_append, List.append_assoc, List.append_assoc,
    List.singleton_append, List.singleton_append, List.cons.injEq] at heq
  rcases map_append_injective P line hline xs ys _ _ hxs hys (hstop rest) (hstop rest') heq.2 with ⟨hall, hafter⟩
  rw [List.cons.injEq] at hafter
  exact ⟨hall, hafter.2⟩

/-- A line that begins at its margin is not a line one level deeper. -/
theorem indented_ne_deeper (depth : Nat) (text text' : String) (c : Char) (h : text.toList.head? = some c)
    (hc : c ≠ ' ') : indented depth text ≠ indented (depth + 1) text' := by
  intro heq
  have hdeeper : indented (depth + 1) text' =
      List.replicate (4 * depth) ' ' ++ (List.replicate 4 ' ' ++ text'.toList) := by
    rw [indented, Nat.mul_add, Nat.mul_one, ← List.replicate_append_replicate, List.append_assoc]
  rw [hdeeper, indented, List.append_cancel_left_eq] at heq
  rw [heq, List.replicate_succ, List.cons_append, List.head?_cons, Option.some.injEq] at h
  exact hc h.symm

theorem joined_ne_nil (sep text : String) (h : IsJoined sep text) : text.toList ≠ [] := by
  rcases h with ⟨words, hne, hwords, htext⟩
  rw [htext, String.toList_intercalate]
  refine Text.intercalate_ne_nil _ _ (fun hnil => hne (List.map_eq_nil_iff.mp hnil)) (fun piece hpiece => ?_)
  rcases List.mem_map.mp hpiece with ⟨word, hword, heq⟩
  rw [← heq]
  exact (hwords word hword).1

/-- The parameters of a method are found between its parentheses. -/
theorem method_headline_injective (m m' : Method) (h : (Member.method m).WellNamed)
    (h' : (Member.method m').WellNamed) (heq : (Member.method m).headline = (Member.method m').headline) :
    declared m.visibility m.returnType m.name = declared m'.visibility m'.returnType m'.name ∧
      m.parameters = m'.parameters := by
  have hparts : ∀ m : Method, (Member.method m).headline.toList =
      (declared m.visibility m.returnType m.name).toList ++
        '(' :: ((", ".intercalate m.parameters).toList ++ [')']) := by
    intro m
    rw [Member.headline, String.toList_append, String.toList_append, String.toList_append, List.append_assoc,
      List.append_assoc]
    rfl
  have hfree : ∀ m : Method, (Member.method m).WellNamed →
      '(' ∉ (declared m.visibility m.returnType m.name).toList := by
    intro m h
    exact Text.notMem_intercalate '(' " " _ (by decide) (fun s hs =>
      notMem_word '(' (by decide) s (isWord_of_mem_declared m.visibility m.returnType m.name h.2.1 h.1 s hs))
  have hparameter : ∀ m : Method, (Member.method m).WellNamed →
      ∀ s ∈ m.parameters, s.toList ≠ [] ∧ ',' ∉ s.toList := fun m h s hs =>
    ⟨joined_ne_nil " " s (h.2.2.1 s hs), notMem_joined ',' (by decide) " " s (by decide) (h.2.2.1 s hs)⟩
  -- The first parenthesis ends the declaration, and the last one is the end of the line.
  have hlists := congrArg String.toList heq
  rw [hparts, hparts] at hlists
  rcases Text.append_cons_injective '(' _ _ _ _ (hfree m h) (hfree m' h') hlists with ⟨hdeclared, hparameters⟩
  refine ⟨String.toList_inj.mp hdeclared, ?_⟩
  exact Text.join_injective ',' [' '] ", " rfl _ _ (hparameter m h) (hparameter m' h')
    (String.toList_inj.mp (List.append_cancel_right hparameters))

theorem field_injective (f f' : Field) (h : (Member.field f).WellNamed) (h' : (Member.field f').WellNamed)
    (hattributes : f.attributes = f'.attributes)
    (heq : (Member.field f).headline = (Member.field f').headline) : f = f' := by
  rcases f with ⟨name, typeName, visibility, attributes⟩
  rcases f' with ⟨name', typeName', visibility', attributes'⟩
  rcases declared_injective _ _ _ _ _ _ h.2.1 h'.2.1 h.1 h'.1 ((String.append_left_inj ";").mp heq) with
    ⟨hvisibility, htype, hname⟩
  simp only at hattributes hvisibility htype hname
  rw [hvisibility, htype, hname, hattributes]

/-- The getter of a property is found in the block below. -/
theorem property_injective (depth : Nat) (p p' : Property) (h : (Member.property p).WellNamed)
    (h' : (Member.property p').WellNamed) (rest rest' : List (List Char))
    (heq : (Member.property p).headline = (Member.property p').headline)
    (hbelow : (Member.property p).blockLines depth ++ rest = (Member.property p').blockLines depth ++ rest') :
    p = p' ∧ rest = rest' := by
  rcases p with ⟨name, typeName, getter, visibility⟩
  rcases p' with ⟨name', typeName', getter', visibility'⟩
  rcases declared_injective _ _ _ _ _ _ h.2.1 h'.2.1 h.1 h'.1 heq with ⟨hvisibility, htype, hname⟩
  simp only [Member.blockLines, braced, List.cons_append, List.nil_append, List.cons.injEq, true_and] at hbelow
  have hreturn := statement_injective (.ret getter) (.ret getter') h.2.2 h'.2.2 (indented_injective _ _ _ hbelow.1)
  rw [Node.ret.injEq] at hreturn
  simp only at hvisibility htype hname
  exact ⟨by rw [hvisibility, htype, hname, hreturn], hbelow.2⟩

/-- The statements of a method are found in the block below. -/
theorem method_injective (depth : Nat) (m m' : Method) (h : (Member.method m).WellNamed)
    (h' : (Member.method m').WellNamed) (rest rest' : List (List Char))
    (heq : (Member.method m).headline = (Member.method m').headline)
    (hbelow : (Member.method m).blockLines depth ++ rest = (Member.method m').blockLines depth ++ rest') :
    m = m' ∧ rest = rest' := by
  rcases method_headline_injective m m' h h' heq with ⟨hdeclared, hparameters⟩
  rcases m with ⟨name, returnType, visibility, parameters, body⟩
  rcases m' with ⟨name', returnType', visibility', parameters', body'⟩
  rcases declared_injective _ _ _ _ _ _ h.2.1 h'.2.1 h.1 h'.1 hdeclared with ⟨hvisibility, htype, hname⟩
  have hclose : ∀ node : Node, indented depth "\x7d" ≠ indented (depth + 1) node.statement :=
    fun node => indented_ne_deeper depth _ _ '}' (by decide) (by decide)
  rcases braced_injective Node.IsNamedReturn depth (fun node => indented (depth + 1) node.statement)
    (fun node node' hn hn' hsame => statement_injective node node' hn hn' (indented_injective _ _ _ hsame))
    (fun node _ => hclose node) body body' h.2.2.2 h'.2.2.2 _ _ hbelow with ⟨hbody, hlater⟩
  simp only at hvisibility htype hname hparameters
  exact ⟨by rw [hvisibility, htype, hname, hparameters, hbody], hlater⟩

/-- A member is found from its lines. -/
theorem member_lines_injective (depth : Nat) : SelfDelimiting (Member.lines depth) Member.WellNamed := by
  intro member member' h h' rest rest' heq
  have hstop : ∀ (m : Member) (after : List (List Char)) (name : String), True →
      (indented depth m.headline :: after).head? ≠ some (attributeLine depth name) := by
    intro m after name _ hsame
    rw [List.head?_cons, Option.some.injEq] at hsame
    exact headline_ne_attributeLine depth m name hsame
  rw [member_lines_eq, member_lines_eq, List.append_assoc, List.append_assoc, List.cons_append,
    List.cons_append] at heq
  rcases map_append_injective (fun _ => True) (attributeLine depth)
    (fun name name' _ _ => attributeLine_injective depth name name') _ _ _ _ (fun _ _ => trivial)
    (fun _ _ => trivial) (hstop member _) (hstop member' _) heq with ⟨hattributes, hbelow⟩
  rw [List.cons.injEq] at hbelow
  -- Below the attributes, the first line tells the kind of the member.
  have hheadline := indented_injective depth _ _ hbelow.1
  -- The two members are of the same kind, so three of the nine cases are left.
  have hkind : some member.kind = some member'.kind := by
    rw [← kind_of_headline member h, ← kind_of_headline member' h', hheadline]
  cases member with
  | field f =>
      cases member' with
      | field f' => exact ⟨congrArg _ (field_injective f f' h h' hattributes hheadline), hbelow.2⟩
      | property _ => simp only [Member.kind, Option.some.injEq, reduceCtorEq] at hkind
      | method _ => simp only [Member.kind, Option.some.injEq, reduceCtorEq] at hkind
  | property p =>
      cases member' with
      | field _ => simp only [Member.kind, Option.some.injEq, reduceCtorEq] at hkind
      | property p' =>
          rcases property_injective depth p p' h h' rest rest' hheadline hbelow.2 with ⟨hsame, hlater⟩
          exact ⟨congrArg _ hsame, hlater⟩
      | method _ => simp only [Member.kind, Option.some.injEq, reduceCtorEq] at hkind
  | method m =>
      cases member' with
      | field _ => simp only [Member.kind, Option.some.injEq, reduceCtorEq] at hkind
      | property _ => simp only [Member.kind, Option.some.injEq, reduceCtorEq] at hkind
      | method m' =>
          rcases method_injective depth m m' h h' rest rest' hheadline hbelow.2 with ⟨hsame, hlater⟩
          exact ⟨congrArg _ hsame, hlater⟩

/-- Lines that begin with different characters are different. -/
theorem indented_ne_of_head (depth : Nat) (s t : String) (c d : Char) (hs : s.toList.head? = some c)
    (ht : t.toList.head? = some d) (hne : c ≠ d) : indented depth s ≠ indented depth t := by
  intro heq
  rw [indented_injective depth s t heq, ht, Option.some.injEq] at hs
  exact hne hs.symm

/-- The words that begin a class can be told apart, the optional ones included. -/
theorem headWords_injective (type type' : TypeDecl) (h : type.WellNamed) (h' : type'.WellNamed)
    (heq : " ".intercalate type.headWords = " ".intercalate type'.headWords) :
    type.visibility = type'.visibility ∧ type.isPartial = type'.isPartial ∧ type.name = type'.name ∧
      type.baseType = type'.baseType := by
  have hpieces : ∀ t : TypeDecl, t.WellNamed → ∀ s ∈ t.headWords, s.toList ≠ [] ∧ ' ' ∉ s.toList := by
    intro t ht s hs
    have hword : ∀ word : String, IsWord word → word.toList ≠ [] ∧ ' ' ∉ word.toList :=
      fun word hword => ⟨hword.1, notMem_word ' ' (by decide) word hword⟩
    rw [TypeDecl.headWords, List.mem_cons, List.mem_append, List.mem_cons, List.mem_cons] at hs
    rcases hs with heq | hpartial | heq | heq | hs
    · exact heq ▸ hword _ (keyword_isWord t.visibility)
    · split at hpartial
      · rw [List.mem_singleton.mp hpartial]
        decide
      · exact absurd hpartial List.not_mem_nil
    · rw [heq]
      decide
    · exact heq ▸ hword _ ht.name
    · split at hs
      · exact absurd hs List.not_mem_nil
      · next hbase =>
          rcases List.mem_cons.mp hs with heq | hs
          · rw [heq]
            decide
          · exact List.mem_singleton.mp hs ▸ hword _ (ht.baseType hbase)
  have hall := Text.join_injective ' ' [] " " rfl _ _ (hpieces type h) (hpieces type' h') heq
  rw [TypeDecl.headWords, TypeDecl.headWords, List.cons.injEq] at hall
  -- The second word is `class` or it is `partial`.
  have hpartial : type.isPartial = type'.isPartial := by
    have hsecond := congrArg List.head? hall.2
    cases hflag : type.isPartial <;> cases hflag' : type'.isPartial <;> rw [hflag, hflag'] at hsecond
    · exact absurd (Option.some.inj hsecond : "class" = "partial") (by decide)
    · exact absurd (Option.some.inj hsecond : "partial" = "class") (by decide)
  rw [hpartial, List.append_cancel_left_eq, List.cons.injEq, List.cons.injEq] at hall
  refine ⟨keyword_injective _ _ hall.1, hpartial, hall.2.2.1, ?_⟩
  have hbase := hall.2.2.2
  -- After the name there is nothing, or a colon and the base.
  split at hbase
  · next hnone =>
      split at hbase
      · next hnone' => rw [hnone, hnone']
      · exact absurd hbase.symm (List.cons_ne_nil _ _)
  · split at hbase
    · exact absurd hbase (List.cons_ne_nil _ _)
    · rw [List.cons.injEq, List.cons.injEq] at hbase
      exact hbase.2.1

/-- The first line of a member is deeper than the brace that closes its class. -/
theorem exists_member_start (member : Member) :
    ∃ first more, member.lines 1 = first :: more ∧ first ≠ indented 0 "\x7d" := by
  have hdeeper : ∀ text, indented 1 text ≠ indented 0 "\x7d" :=
    fun text heq => indented_ne_deeper 0 _ text '}' (by decide) (by decide) heq.symm
  rw [member_lines_eq]
  cases member.attributes with
  | nil => exact ⟨_, _, rfl, hdeeper _⟩
  | cons name rest => exact ⟨_, _, rfl, hdeeper _⟩

/-- A class is found from its lines. -/
theorem type_lines_injective : SelfDelimiting TypeDecl.lines TypeDecl.WellNamed := by
  intro type type' h h' rest rest' heq
  simp only [TypeDecl.lines, braced, List.cons_append, List.append_assoc, List.cons.injEq, true_and] at heq
  rcases headWords_injective type type' h h' (indented_injective 0 _ _ heq.1) with
    ⟨hvisibility, hpartial, hname, hbase⟩
  rcases paragraphs_injective Member.WellNamed (Member.lines 1) (member_lines_injective 1) (indented 0 "\x7d")
    (by decide) (fun member _ => exists_member_start member) _ _ h.members h'.members rest rest' heq.2 with
    ⟨hmembers, hlater⟩
  rcases type with ⟨name, baseType, members, visibility, isPartial⟩
  rcases type' with ⟨name', baseType', members', visibility', isPartial'⟩
  simp only at hvisibility hpartial hname hbase hmembers
  exact ⟨by rw [hvisibility, hpartial, hname, hbase, hmembers], hlater⟩

/-- A line that begins no import and no class. -/
def endLine : List Char :=
  indented 0 "\x7d"

/-- What follows the imports of a file, with a line that ends it. -/
def CompilationUnit.afterImports (unit : CompilationUnit) : List (List Char) :=
  if unit.imports = [] ∨ unit.types = [] then paragraphs (unit.types.map TypeDecl.lines) ++ [endLine]
  else [] :: (paragraphs (unit.types.map TypeDecl.lines) ++ [endLine])

theorem lines_append_endLine (unit : CompilationUnit) :
    unit.lines ++ [endLine] = importLines unit.imports ++ unit.afterImports := by
  -- There is a blank after the imports if there are both imports and classes.
  rw [CompilationUnit.lines, CompilationUnit.afterImports]
  by_cases himports : unit.imports = []
  · rw [if_pos himports, if_pos (Or.inl himports), himports]
    rfl
  · rw [if_neg himports, List.singleton_append, paragraphs_cons_append]
    by_cases htypes : unit.types = []
    · rw [if_pos (List.map_eq_nil_iff.mpr htypes), if_pos (Or.inr htypes), htypes]
      rfl
    · rw [if_neg (fun hnil => htypes (List.map_eq_nil_iff.mp hnil)),
        if_neg (fun hor => hor.elim himports htypes)]

/-- No import line follows the imports. -/
theorem head?_afterImports (unit : CompilationUnit) (name : String) :
    unit.afterImports.head? ≠ some (indented 0 ("using " ++ name ++ ";")) := by
  have husing : ("using " ++ name ++ ";").toList.head? = some 'u' :=
    Text.head?_append _ _ _ (Text.head?_append _ _ _ (by decide))
  -- A class begins with its visibility, and the line at the end with a brace. Neither begins as an import does.
  have htypes : (paragraphs (unit.types.map TypeDecl.lines) ++ [endLine]).head? ≠
      some (indented 0 ("using " ++ name ++ ";")) := by
    intro heq
    cases hlist : unit.types with
    | nil =>
        rw [hlist, List.map_nil, paragraphs, List.intercalate_nil, List.nil_append, List.head?_cons,
          Option.some.injEq] at heq
        exact indented_ne_of_head 0 _ _ '}' 'u' (by decide) husing (by decide) heq
    | cons type rest =>
        rw [hlist, List.map_cons, paragraphs_cons_append, TypeDecl.lines, List.cons_append, List.head?_cons,
          Option.some.injEq] at heq
        exact indented_ne_of_head 0 _ _ 'p' 'u' (head?_headWords type) husing (by decide) heq
  rw [CompilationUnit.afterImports]
  split
  · exact htypes
  · intro heq
    rw [List.head?_cons, Option.some.injEq] at heq
    rw [(List.append_eq_nil_iff.mp heq.symm).2] at husing
    exact absurd husing (by decide)

/-- The classes of a file are found from what follows its imports. -/
theorem afterImports_injective (unit unit' : CompilationUnit) (h : unit.WellNamed) (h' : unit'.WellNamed)
    (himports : unit.imports = unit'.imports) (heq : unit.afterImports = unit'.afterImports) :
    unit.types = unit'.types := by
  have hstart : ∀ type : TypeDecl, ∃ first more, type.lines = first :: more ∧ first ≠ endLine := fun type =>
    ⟨_, _, rfl, indented_ne_of_head 0 _ _ 'p' '}' (head?_headWords type) (by decide) (by decide)⟩
  have hend : endLine ≠ [] := by decide
  have hparagraphs := fun hsame => (paragraphs_injective TypeDecl.WellNamed TypeDecl.lines type_lines_injective
    endLine hend (fun type _ => hstart type) _ _ h.types h'.types [] [] hsame).1
  rw [CompilationUnit.afterImports, CompilationUnit.afterImports, ← himports] at heq
  -- A blank after the imports shows that there are classes.
  split at heq
  · next hnone =>
      split at heq
      · exact hparagraphs heq
      · next hsome =>
          rcases hnone with hnil | hnil
          · exact absurd (Or.inl hnil) hsome
          · rw [hnil, List.map_nil, paragraphs, List.intercalate_nil, List.nil_append, List.cons.injEq] at heq
            exact absurd heq.1 hend
  · next hsome =>
      split at heq
      · next hnone =>
          rcases hnone with hnil | hnil
          · exact absurd (Or.inl hnil) hsome
          · rw [hnil, List.map_nil, paragraphs, paragraphs, List.intercalate_nil, List.nil_append,
              List.cons.injEq] at heq
            exact absurd heq.1.symm hend
      · rw [List.cons.injEq] at heq
        exact hparagraphs heq.2

/-- A file is found from its lines. -/
theorem lines_injective (unit unit' : CompilationUnit) (h : unit.WellNamed) (h' : unit'.WellNamed)
    (heq : unit.lines = unit'.lines) : unit = unit' := by
  have hall : importLines unit.imports ++ unit.afterImports = importLines unit'.imports ++ unit'.afterImports := by
    rw [← lines_append_endLine, ← lines_append_endLine, heq]
  rcases map_append_injective (fun _ => True) (fun name => indented 0 ("using " ++ name ++ ";"))
    (fun name name' _ _ hsame => (String.append_right_inj "using ").mp
      ((String.append_left_inj ";").mp (indented_injective 0 _ _ hsame)))
    _ _ _ _ (fun _ _ => trivial) (fun _ _ => trivial) (fun name _ => head?_afterImports unit name)
    (fun name _ => head?_afterImports unit' name) hall with ⟨himports, hafter⟩
  have htypes := afterImports_injective unit unit' h h' himports hafter
  rcases unit with ⟨imports, types⟩
  rcases unit' with ⟨imports', types'⟩
  simp only at himports htypes
  rw [himports, htypes]

/-- Two well-named trees with the same text are equal. -/
theorem body_injective (unit unit' : CompilationUnit) (h : unit.WellNamed) (h' : unit'.WellNamed)
    (heq : unit.body = unit'.body) : unit = unit' := by
  -- The canonical pass keeps the lines as they are, so the text is the lines with a line feed after each.
  have hlayout : ∀ u : CompilationUnit, u.WellNamed → u.body = .ok (String.ofList (Text.terminate u.lines)) := by
    intro u hu
    have hfree : ∀ s ∈ u.strings, '\n' ∉ s.toList ∧ '\r' ∉ s.toList := fun s hs =>
      ⟨notMem_of_wellNamed '\n' (by decide) u hu s hs, notMem_of_wellNamed '\r' (by decide) u hu s hs⟩
    have hrender := isRenderable_of_wellNamed u hu
    rw [body_eq_normalize u hrender, Text.normalize, String.toList_ofList, canonicalLines_written u hrender hfree,
      List.map_congr_left (tidyLine_of_mem_lines u hu), List.map_id']
  have hfeed : ∀ u : CompilationUnit, u.WellNamed → ∀ l ∈ u.lines, '\n' ∉ l := fun u hu =>
    notMem_lines '\n' (by decide) u (notMem_of_wellNamed '\n' (by decide) u hu)
  rw [hlayout unit h, hlayout unit' h', Except.ok.injEq, String.ofList_inj] at heq
  exact lines_injective unit unit' h h'
    (Text.terminate_injective _ _ (hfeed unit h) (hfeed unit' h') heq)

/-- A file with every kind of member, and with and without the optional parts of a class. -/
def namedUnit : CompilationUnit where
  imports := ["UnityEngine.UIElements", "System"]
  types := [
    { name := "Menu", baseType := "MonoBehaviour", members := [
        .field { name := "_document", typeName := "UIDocument", attributes := ["SerializeField"] },
        .property { name := "Root", typeName := "VisualElement", getter := .access "_document" "root" true },
        .method { name := "Sum", returnType := "int", parameters := ["int x", "out int y"],
                  body := [.ret (.access "this" "total" false)] }] },
    { name := "Other", isPartial := false }]

/-- The same file with its imports put in order from the end. -/
def reversedUnit : CompilationUnit :=
  { namedUnit with imports := ["System", "UnityEngine.UIElements"].reverse }

theorem namedUnit_eq_reversedUnit :
    namedUnit.WellNamed ∧ reversedUnit.WellNamed ∧ namedUnit.body = reversedUnit.body ∧ namedUnit = reversedUnit := by
  have himports : ∀ name ∈ ["UnityEngine.UIElements", "System"], IsJoined "." name := by
    intro name hname
    rcases List.mem_cons.mp hname with heq | hname
    · exact ⟨["UnityEngine", "UIElements"], by decide, by decide, by rw [heq]; decide⟩
    · exact ⟨["System"], by decide, by decide, by rw [List.mem_singleton.mp hname]; decide⟩
  have hparameters : ∀ parameter ∈ ["int x", "out int y"], IsJoined " " parameter := by
    intro parameter hparameter
    rcases List.mem_cons.mp hparameter with heq | hparameter
    · exact ⟨["int", "x"], by decide, by decide, by rw [heq]; decide⟩
    · exact ⟨["out", "int", "y"], by decide, by decide, by rw [List.mem_singleton.mp hparameter]; decide⟩
  have htypes : ∀ type ∈ namedUnit.types, type.WellNamed := by
    intro type htype
    rcases List.mem_cons.mp htype with heq | htype
    · rw [heq]
      refine ⟨by decide, fun _ => by decide, fun member hmember => ?_⟩
      rcases List.mem_cons.mp hmember with heq | hmember
      · exact heq ▸ ⟨by decide, by decide, by decide⟩
      · rcases List.mem_cons.mp hmember with heq | hmember
        · exact heq ▸ ⟨by decide, by decide, by decide, by decide⟩
        · refine List.mem_singleton.mp hmember ▸ ⟨by decide, by decide, hparameters, fun node hnode => ?_⟩
          exact List.mem_singleton.mp hnode ▸ ⟨by decide, by decide⟩
    · rw [List.mem_singleton.mp htype]
      exact ⟨by decide, fun hne => absurd rfl hne, fun _ hmember => absurd hmember List.not_mem_nil⟩
  have hnamed : namedUnit.WellNamed := ⟨himports, htypes⟩
  have hreversed : reversedUnit.WellNamed := ⟨himports, htypes⟩
  have heq : namedUnit.body = reversedUnit.body := rfl
  exact ⟨hnamed, hreversed, heq, body_injective namedUnit reversedUnit hnamed hreversed heq⟩

end Syntax

end CodeBehind
