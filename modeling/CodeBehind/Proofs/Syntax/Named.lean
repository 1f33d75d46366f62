import CodeBehind.Identifier
import CodeBehind.Proofs.Syntax.Body

/-!
# Well-named trees

The trees whose names are words, and what their lines look like.

A word is made of ASCII letters, digits and underscores. None of the signs that the layout sets between names
is among them, which is why a text can be read back. Imports are words with dots between them and parameters
words with spaces between them, since a parameter is a type and a name. A tree that was made from the name of a
document is of this kind if that name is an identifier.

Nothing in such a tree is touched by the canonical pass: there are no tabs in its lines, and every line ends
with a sign or with the last character of a name.

## Main definitions

* `IsWord`, `IsJoined`: Words, and words with a separator between them.
* `CompilationUnit.WellNamed`: The names of a file are words, and its nodes in their places.

## Theorems

* `isRenderable_of_wellNamed`, `notMem_of_wellNamed`: Such a file can be written and has no control characters.
* `tidyLine_of_mem_lines`: Its lines are kept as they are.
-/

namespace CodeBehind

namespace Syntax

open Text (isBlank paragraphs tidyLine)

/-- A word: ASCII letters, digits and underscores, at least one. -/
def IsWord (text : String) : Prop :=
  text.toList ≠ [] ∧ ∀ c ∈ text.toList, Identifier.isPart c = true

theorem isWord_iff (text : String) :
    (!text.toList.isEmpty && text.toList.all Identifier.isPart) = true ↔ IsWord text := by
  rw [IsWord, Bool.and_eq_true, Bool.not_eq_true', List.isEmpty_eq_false_iff, List.all_eq_true]

instance (text : String) : Decidable (IsWord text) :=
  decidable_of_iff _ (isWord_iff text)

/-- One or more words with a separator between them. -/
def IsJoined (sep text : String) : Prop :=
  ∃ words : List String, words ≠ [] ∧ (∀ word ∈ words, IsWord word) ∧ text = sep.intercalate words

/-- An access whose names are words. -/
def Node.IsNamedAccess : Node → Prop
  | access target member _ => IsWord target ∧ IsWord member
  | _ => False

/-- A return of such an access. -/
def Node.IsNamedReturn : Node → Prop
  | ret expression => expression.IsNamedAccess
  | _ => False

/-- The names of a member are words. -/
def Member.WellNamed : Member → Prop
  | field f => IsWord f.name ∧ IsWord f.typeName ∧ ∀ name ∈ f.attributes, IsWord name
  | property p => IsWord p.name ∧ IsWord p.typeName ∧ p.getter.IsNamedAccess
  | method m => IsWord m.name ∧ IsWord m.returnType ∧ (∀ parameter ∈ m.parameters, IsJoined " " parameter) ∧
      ∀ node ∈ m.body, node.IsNamedReturn

/-- The names of a class are words; it need not have a base. -/
structure TypeDecl.WellNamed (type : TypeDecl) : Prop where
  name : IsWord type.name
  baseType : type.baseType ≠ "" → IsWord type.baseType
  members : ∀ member ∈ type.members, member.WellNamed

/-- The names of a file are words, and its imports words with dots between them. -/
structure CompilationUnit.WellNamed (unit : CompilationUnit) : Prop where
  imports : ∀ name ∈ unit.imports, IsJoined "." name
  types : ∀ type ∈ unit.types, type.WellNamed

/-- The characters of words lie between the digits and the small letters. -/
theorem toNat_of_isPart (c : Char) (hc : Identifier.isPart c = true) : 48 ≤ c.toNat ∧ c.toNat ≤ 122 := by
  have hbetween : ∀ low high : Char, 48 ≤ low.toNat → high.toNat ≤ 122 → low.val ≤ c.val ∧ c.val ≤ high.val →
      48 ≤ c.toNat ∧ c.toNat ≤ 122 := fun low high hlow hhigh h =>
    ⟨Nat.le_trans hlow (UInt32.le_iff_toNat_le.mp h.1), Nat.le_trans (UInt32.le_iff_toNat_le.mp h.2) hhigh⟩
  have hranges : ((c.isUpper || c.isLower) || c.isDigit || decide (c = '_')) = true := hc
  rw [Bool.or_eq_true, Bool.or_eq_true, Bool.or_eq_true] at hranges
  -- The line below stands between the capital letters and the small ones.
  rcases hranges with ((hupper | hlower) | hdigit) | hline
  · exact hbetween 'A' 'Z' (by decide) (by decide) (of_decide_eq_true hupper)
  · rcases Bool.and_eq_true_iff.mp hlower with ⟨hlow, hhigh⟩
    exact hbetween 'a' 'z' (by decide) (by decide) ⟨of_decide_eq_true hlow, of_decide_eq_true hhigh⟩
  · rcases Bool.and_eq_true_iff.mp hdigit with ⟨hlow, hhigh⟩
    exact hbetween '0' '9' (by decide) (by decide) ⟨of_decide_eq_true hlow, of_decide_eq_true hhigh⟩
  · rw [of_decide_eq_true hline]
    decide

/-- The characters of words are visible. -/
theorem isBlank_of_isPart (c : Char) (hc : Identifier.isPart c = true) : isBlank c = false := by
  have hrange := toNat_of_isPart c hc
  simp only [isBlank, Bool.or_eq_false_iff, Bool.and_eq_false_iff, decide_eq_false_iff_not, beq_eq_false_iff_ne]
  omega

/-- Control characters do not belong to words. -/
theorem isPart_of_lt_space (c : Char) (hc : c < ' ') : Identifier.isPart c = false := by
  cases hpart : Identifier.isPart c with
  | false => rfl
  | true =>
      have hrange := toNat_of_isPart c hpart
      have hlow : c.toNat < 32 := hc
      omega

theorem notMem_word (c : Char) (hc : Identifier.isPart c = false) (word : String) (h : IsWord word) :
    c ∉ word.toList := by
  intro hmem
  rw [h.2 c hmem] at hc
  exact absurd hc.symm Bool.false_ne_true

theorem notMem_joined (c : Char) (hc : Identifier.isPart c = false) (sep text : String) (hsep : c ∉ sep.toList)
    (h : IsJoined sep text) : c ∉ text.toList := by
  rcases h with ⟨words, _, hwords, htext⟩
  rw [htext]
  exact Text.notMem_intercalate c sep words hsep (fun word hword => notMem_word c hc word (hwords word hword))

/-- A well-named expression is an access. -/
theorem exists_access_of_named (node : Node) (h : node.IsNamedAccess) :
    ∃ target member flag, node = .access target member flag ∧ IsWord target ∧ IsWord member := by
  cases node with
  | access target member flag => exact ⟨target, member, flag, rfl, h.1, h.2⟩
  | ret _ => exact h.elim
  | block => exact h.elim
  | datum _ => exact h.elim

/-- A well-named statement is a return. -/
theorem exists_ret_of_named (node : Node) (h : node.IsNamedReturn) : ∃ e, node = .ret e ∧ e.IsNamedAccess := by
  cases node with
  | ret e => exact ⟨e, rfl, h⟩
  | access _ _ _ => exact h.elim
  | block => exact h.elim
  | datum _ => exact h.elim

theorem isNamedReturn_of_mem_statements (member : Member) (h : member.WellNamed) :
    ∀ node ∈ member.statements, node.IsNamedReturn := by
  intro node hnode
  cases member with
  | field _ => exact absurd hnode List.not_mem_nil
  | property p =>
      rw [List.mem_singleton.mp hnode]
      exact h.2.2
  | method m => exact h.2.2.2 node hnode

theorem isExpression_of_named (node : Node) (h : node.IsNamedAccess) : node.isExpression = true := by
  rcases exists_access_of_named node h with ⟨_, _, _, rfl, _⟩
  rfl

theorem isStatement_of_named (node : Node) (h : node.IsNamedReturn) : node.isStatement = true := by
  rcases exists_ret_of_named node h with ⟨e, rfl, he⟩
  exact isExpression_of_named e he

/-- A well-named file can be written. -/
theorem isRenderable_of_wellNamed (unit : CompilationUnit) (h : unit.WellNamed) : unit.isRenderable = true := by
  refine List.all_eq_true.mpr (fun type htype => List.all_eq_true.mpr (fun member hmember => ?_))
  have hnamed := (h.types type htype).members member hmember
  cases member with
  | field _ => rfl
  | property p => exact isExpression_of_named p.getter hnamed.2.2
  | method m => exact List.all_eq_true.mpr (fun node hnode => isStatement_of_named node (hnamed.2.2.2 node hnode))

section

variable (c : Char) (hc : c < ' ')
include hc

theorem notMem_word_of_lt_space (word : String) (h : IsWord word) : c ∉ word.toList :=
  notMem_word c (isPart_of_lt_space c hc) word h

theorem notMem_return_of_lt_space (node : Node) (h : node.IsNamedReturn) : ∀ s ∈ node.strings, c ∉ s.toList := by
  intro s hs
  rcases exists_ret_of_named node h with ⟨e, rfl, he⟩
  rcases exists_access_of_named e he with ⟨target, member, _, rfl, htarget, hmember⟩
  rcases List.mem_cons.mp hs with heq | hs
  · rw [heq]
    exact notMem_word_of_lt_space c hc target htarget
  · rw [List.mem_singleton.mp hs]
    exact notMem_word_of_lt_space c hc member hmember

/-- The texts of a member begin with its name and its type. -/
theorem notMem_declared_of_lt_space (name typeName : String) (others : List String) (hname : IsWord name)
    (htype : IsWord typeName) (hothers : ∀ s ∈ others, c ∉ s.toList) :
    ∀ s ∈ name :: typeName :: others, c ∉ s.toList :=
  List.forall_mem_cons.mpr ⟨notMem_word_of_lt_space c hc name hname,
    List.forall_mem_cons.mpr ⟨notMem_word_of_lt_space c hc typeName htype, hothers⟩⟩

theorem notMem_member_of_lt_space (member : Member) (h : member.WellNamed) :
    ∀ s ∈ member.strings, c ∉ s.toList := by
  cases member with
  | field f =>
      exact notMem_declared_of_lt_space c hc _ _ _ h.1 h.2.1 fun s hs => notMem_word_of_lt_space c hc s (h.2.2 s hs)
  | property p =>
      exact notMem_declared_of_lt_space c hc _ _ _ h.1 h.2.1 (notMem_return_of_lt_space c hc (.ret p.getter) h.2.2)
  | method m =>
      have hparameters : ∀ s ∈ m.parameters, c ∉ s.toList := fun s hs =>
        notMem_joined c (isPart_of_lt_space c hc) " " s (Text.notMem_of_lt_space c hc _ (by decide)) (h.2.2.1 s hs)
      refine List.forall_mem_append.mpr ⟨notMem_declared_of_lt_space c hc _ _ _ h.1 h.2.1 hparameters, ?_⟩
      intro s hs
      rcases List.mem_flatMap.mp hs with ⟨node, hnode, hs⟩
      exact notMem_return_of_lt_space c hc node (h.2.2.2 node hnode) s hs

/-- The texts of a well-named file have no control characters. -/
theorem notMem_of_wellNamed (unit : CompilationUnit) (h : unit.WellNamed) : ∀ s ∈ unit.strings, c ∉ s.toList := by
  intro s hs
  rcases List.mem_append.mp hs with himport | hs
  · exact notMem_joined c (isPart_of_lt_space c hc) "." s (Text.notMem_of_lt_space c hc _ (by decide))
      (h.imports s himport)
  · rcases List.mem_flatMap.mp hs with ⟨type, htype, hs⟩
    have hnamed := h.types type htype
    rcases List.mem_cons.mp hs with heq | hs
    · rw [heq]
      exact notMem_word_of_lt_space c hc _ hnamed.name
    · rcases List.mem_cons.mp hs with heq | hs
      · rw [heq]
        by_cases hbase : type.baseType = ""
        · rw [hbase]
          exact List.not_mem_nil
        · exact notMem_word_of_lt_space c hc _ (hnamed.baseType hbase)
      · rcases List.mem_flatMap.mp hs with ⟨member, hmember, hs⟩
        exact notMem_member_of_lt_space c hc member (hnamed.members member hmember) s hs

end

/-- A line whose last character is visible. -/
def EndsVisibly (line : List Char) : Prop :=
  ∃ c, line.getLast? = some c ∧ isBlank c = false

theorem endsVisibly_indented (depth : Nat) (text : String) (c : Char) (h : text.toList.getLast? = some c)
    (hc : isBlank c = false) : EndsVisibly (indented depth text) := by
  refine ⟨c, ?_, hc⟩
  rw [indented, List.getLast?_append, h]
  rfl

theorem exists_getLast?_word (word : String) (h : IsWord word) :
    ∃ c, word.toList.getLast? = some c ∧ Identifier.isPart c = true := by
  rcases List.eq_nil_or_concat word.toList with hnil | ⟨before, last, heq⟩
  · exact absurd hnil h.1
  · refine ⟨last, ?_, h.2 last ?_⟩
    · rw [heq, List.concat_eq_append, List.getLast?_concat]
    · rw [heq, List.concat_eq_append]
      exact List.mem_append_right _ (List.mem_singleton_self last)

theorem getLast?_declared (visibility : Visibility) (typeName name : String) (c : Char)
    (h : name.toList.getLast? = some c) : (declared visibility typeName name).toList.getLast? = some c := by
  rw [declared_eq]
  exact Text.getLast?_append _ _ c h

theorem endsVisibly_header (type : TypeDecl) (h : type.WellNamed) :
    EndsVisibly (indented 0 (" ".intercalate type.headWords)) := by
  rw [← header_eq, TypeDecl.header]
  -- The last word is the base, or the name where there is none.
  by_cases hbase : type.baseType = ""
  · rcases exists_getLast?_word type.name h.name with ⟨c, hlast, hc⟩
    rw [if_pos hbase, String.append_empty]
    exact endsVisibly_indented 0 _ c (Text.getLast?_append _ _ c hlast) (isBlank_of_isPart c hc)
  · rcases exists_getLast?_word type.baseType (h.baseType hbase) with ⟨c, hlast, hc⟩
    rw [if_neg hbase]
    exact endsVisibly_indented 0 _ c (Text.getLast?_append _ _ c (Text.getLast?_append _ _ c hlast))
      (isBlank_of_isPart c hc)

theorem endsVisibly_headline (depth : Nat) (member : Member) (h : member.WellNamed) :
    EndsVisibly (indented depth member.headline) := by
  cases member with
  | field f => exact endsVisibly_indented depth _ ';' (Text.getLast?_append _ _ ';' (by decide)) (by decide)
  | property p =>
      rcases exists_getLast?_word p.name h.1 with ⟨c, hlast, hc⟩
      exact endsVisibly_indented depth _ c (getLast?_declared _ _ _ c hlast) (isBlank_of_isPart c hc)
  | method m => exact endsVisibly_indented depth _ ')' (Text.getLast?_append _ _ ')' (by decide)) (by decide)

/-- The lines of a well-named member end with a sign or with the last character of its name. -/
theorem endsVisibly_member (depth : Nat) (member : Member) (h : member.WellNamed) :
    ∀ l ∈ member.lines depth, EndsVisibly l := by
  refine forall_mem_member_lines depth member EndsVisibly (fun d => ?_) (fun d => ?_) (fun d => ?_)
    (fun name _ => ?_) (endsVisibly_headline depth member h) (fun node hnode d => ?_)
  · exact endsVisibly_indented d _ '{' (by decide) (by decide)
  · exact endsVisibly_indented d _ '}' (by decide) (by decide)
  · exact endsVisibly_indented d "get" 't' (by decide) (by decide)
  · exact endsVisibly_indented depth _ ']' (Text.getLast?_append _ _ ']' (by decide)) (by decide)
  · rcases exists_ret_of_named node (isNamedReturn_of_mem_statements member h node hnode) with ⟨e, rfl, _⟩
    exact endsVisibly_indented d _ ';' (Text.getLast?_append _ _ ';' (by decide)) (by decide)

/-- The lines of a well-named file are kept as they are. -/
theorem tidyLine_of_mem_lines (unit : CompilationUnit) (h : unit.WellNamed) :
    ∀ l ∈ unit.lines, tidyLine l = l := by
  -- The empty lines between paragraphs have no last character, but there is nothing to drop from them.
  have hends : ∀ l ∈ unit.lines, l = [] ∨ EndsVisibly l := by
    refine forall_mem_lines unit _ (Or.inl rfl) ?_ ?_ ⟨Or.inr ?_, Or.inr ?_⟩ ?_
    · intro l hl
      rcases List.mem_map.mp hl with ⟨name, _, heq⟩
      rw [← heq]
      exact Or.inr (endsVisibly_indented 0 _ ';' (Text.getLast?_append _ _ ';' (by decide)) (by decide))
    · exact fun type htype => Or.inr (endsVisibly_header type (h.types type htype))
    · exact endsVisibly_indented 0 _ '{' (by decide) (by decide)
    · exact endsVisibly_indented 0 _ '}' (by decide) (by decide)
    · exact fun type htype member hmember l hl =>
        Or.inr (endsVisibly_member 1 member ((h.types type htype).members member hmember) l hl)
  intro l hl
  rcases hends l hl with heq | ⟨c, hlast, hc⟩
  · rw [heq]
    rfl
  · have htab := notMem_lines '\t' (by decide) unit (notMem_of_wellNamed '\t' (by decide) unit h) l hl
    exact Text.tidyLine_eq_self l htab c hlast hc

end Syntax

end CodeBehind
