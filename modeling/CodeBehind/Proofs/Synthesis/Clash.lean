import CodeBehind.Proofs.Identifier
import CodeBehind.Proofs.Syntax.Named
import CodeBehind.Proofs.Syntax.Rules
import CodeBehind.Proofs.Synthesis.Guards

/-!
# Names inside a class

Whether the members of a generated class have other names than the class.

A class must not have a member that is called like itself, and an at sign before its name makes no difference. Two
checks come close to this rule. The one on trees compares the members of a type with each other but not with the type,
and the one on identifiers looks at the name alone and knows nothing of the members. So the rule depends on the
document. The members are the same for all of them, and there are three, which leaves six names that break the rule:
that of a member, with an at sign or without. All six are identifiers, so documents that are called like this are
accepted without a warning, and they are the only ones whose class breaks the rule.

That the members differ from each other does not depend on the document. It follows from the check on trees, which the
tree of every accepted document passes.

## Main definitions

* `TypeDecl.ClashFree`: No member is called like the type.
* `Declaration.memberNames`: What the members of a generated class are called.
* `Document.IsCalled`: A path has a word for its stem, with an at sign before it or without.

## Main results

* `unwarned_clashFree`: Which documents without a warning have a class without a clash.

## Theorems

* `dropAt_eq_iff`: What a word is left of.
* `ofPath_of_isIdentifier`: A document whose type name is an identifier is accepted.
* `isIdentifier_of_isCalled`: A document that is called like a member has such a type name.
* `clashFree_type_iff`: The documents whose class has no clash.
-/

namespace CodeBehind

namespace Syntax

/-- No member has the name of the type around it, where an at sign before that name does not count. -/
def TypeDecl.ClashFree (type : TypeDecl) : Prop :=
  ∀ member ∈ type.members, Identifier.dropAt type.name.toList ≠ member.name.toList

instance (type : TypeDecl) : Decidable type.ClashFree :=
  inferInstanceAs (Decidable (∀ member ∈ type.members, Identifier.dropAt type.name.toList ≠ member.name.toList))

end Syntax

/-- The names of the members of every generated class. -/
def Declaration.memberNames : List String :=
  members.map Syntax.Member.name

/-- The base name of a path without its last extension is a word, with an at sign before it or without. -/
def Document.IsCalled (path word : String) : Prop :=
  IsStem path.toList word.toList ∨ IsStem path.toList ('@' :: word.toList)

open Declaration Identifier Syntax

/-! ## Names -/

/-- A word that does not begin with an at sign is what is left of itself, and of itself behind an at sign. -/
theorem Identifier.dropAt_eq_iff (cs word : List Char) (h : word.head? ≠ some '@') :
    dropAt cs = word ↔ cs = word ∨ cs = '@' :: word := by
  constructor
  · intro heq
    rcases dropAt_cases cs with hsign | ⟨hdrop, _⟩
    · exact .inr (heq ▸ hsign)
    · exact .inl (hdrop.symm.trans heq)
  · rintro (rfl | rfl)
    · exact dropAt_of_head? cs h
    · rfl

/-- An identifier has something to see: the first character behind the at sign. -/
theorem Identifier.not_allBlank_of_isIdentifier (name : String) (h : isIdentifier name = true) :
    Text.allBlank name = false := by
  have hvisible : ∀ word, Fits word → ∃ c ∈ word.toList, Text.isBlank c = false := by
    rintro word ⟨cs, ⟨first, rest, rfl, hfirst, _⟩, hword⟩
    have hpart : isPart first = true := (isPart_iff first).mpr (hfirst.imp_right Or.inr)
    refine ⟨first, ?_, isBlank_of_isPart first hpart⟩
    rcases hword with hword | hword
    · rw [hword]
      exact List.mem_cons_self
    · rw [hword]
      exact List.mem_cons_of_mem _ List.mem_cons_self
  rw [Text.allBlank, List.all_eq_false]
  -- A line feed at the end is blank, but there is a fitting name before it.
  rcases (isIdentifier_iff name).mp h with hname | ⟨word, hfits, rfl⟩
  · rcases hvisible name hname.1 with ⟨c, hmem, hblank⟩
    exact ⟨c, hmem, Bool.eq_false_iff.mp hblank⟩
  · rcases hvisible word hfits with ⟨c, hmem, hblank⟩
    rw [String.toList_append]
    exact ⟨c, List.mem_append_left _ hmem, Bool.eq_false_iff.mp hblank⟩

/-- A document is accepted if its type name is an identifier. -/
theorem ofPath_of_isIdentifier (path : String) (h : isIdentifier (Document.typeName path) = true) :
    Request.ofPath path = .ok ⟨path⟩ := by
  refine ofPath_of_hasName path ?_
  rw [Document.hasName, not_allBlank_of_isIdentifier _ h, Bool.not_false]

/-- The type name of a document that is called like a word is the word when an at sign is dropped. -/
theorem Document.isCalled_iff (path word : String) (h : word.toList.head? ≠ some '@') :
    IsCalled path word ↔ dropAt (typeName path).toList = word.toList := by
  rw [IsCalled, isStem_iff, isStem_iff, dropAt_eq_iff _ _ h]
  exact or_congr eq_comm eq_comm

/-! ## The members of a generated class -/

theorem head?_of_mem_memberNames (word : String) (hword : word ∈ memberNames) : word.toList.head? ≠ some '@' := by
  have hall : ∀ word ∈ memberNames, word.toList.head? ≠ some '@' := by decide
  exact hall word hword

/-- A document that is called like a member has an identifier for its type name. -/
theorem isIdentifier_of_isCalled (path word : String) (hword : word ∈ memberNames) (h : Document.IsCalled path word) :
    isIdentifier (Document.typeName path) = true := by
  have hall : ∀ word ∈ memberNames, isIdentifier word = true ∧ isIdentifier ("@" ++ word) = true := by
    decide
  have hname := hall word hword
  rcases h with hstem | hstem
  · rw [String.toList_inj.mp (Document.typeName_of_isStem path _ hstem)]
    exact hname.1
  · have hsign : '@' :: word.toList = ("@" ++ word).toList := by
      rw [String.toList_append]
      rfl
    rw [String.toList_inj.mp ((Document.typeName_of_isStem path _ hstem).trans hsign)]
    exact hname.2

/-- The class of a document has no clash if the document is not called like one of the members. -/
theorem clashFree_type_iff (path : String) :
    (Declaration.type (Document.typeName path)).ClashFree ↔
      ∀ word ∈ memberNames, ¬Document.IsCalled path word := by
  change (∀ member ∈ members, dropAt (Document.typeName path).toList ≠ member.name.toList) ↔ _
  rw [memberNames, List.forall_mem_map]
  refine forall₂_congr fun member hmember => not_congr ?_
  exact (Document.isCalled_iff path member.name (head?_of_mem_memberNames _ (List.mem_map_of_mem hmember))).symm

/-- The members of the type that is declared for an accepted document have different names. -/
theorem nodup_of_ofPath (path : String) (request : Request) (h : Request.ofPath path = .ok request) :
    ((Declaration.type request.typeName).members.map Member.name).Nodup := by
  have hwell := (violation?_first _).1.mp (violation?_unit request (ofPath_eq_ok path request h).2)
  exact (hwell.types _ (List.mem_singleton_self _)).distinct

/-! ## Documents without a warning -/

/-- A document that is accepted and whose type name is an identifier gets no warning, whatever the files and the banner
    are and whether it is written or not. One type is declared for it, which is called like the document, and its
    members have different names. None of them has the name of the type unless the document is called like a member,
    with an at sign before it or without. All documents that are called like this are accepted, and their type names
    are identifiers. -/
theorem unwarned_clashFree (path : String) :
    (∀ request, Request.ofPath path = .ok request → isIdentifier request.typeName = true →
      (∀ files banner dryRun,
        ((Generation.generate files banner path dryRun).events.filterMap Event.record?).filter
          (fun record => record.level = .warning) = []) ∧
      ∃ type, (unit request).types = [type] ∧ Document.IsStem path.toList type.name.toList ∧
        (type.members.map Member.name).Nodup ∧
        (type.ClashFree ↔ ∀ word ∈ memberNames, ¬Document.IsCalled path word)) ∧
    ∀ word ∈ memberNames, Document.IsCalled path word →
      ∃ request, Request.ofPath path = .ok request ∧ isIdentifier request.typeName = true := by
  constructor
  · intro request haccepted hname
    have hquiet := fun files banner dryRun =>
      (Generation.unwarned_iff files banner path dryRun request haccepted).mpr hname
    have hdistinct := nodup_of_ofPath path request haccepted
    rw [(ofPath_eq_ok path request haccepted).1] at hdistinct ⊢
    exact ⟨hquiet, _, rfl, (Document.isStem_iff path _).mpr rfl, hdistinct, clashFree_type_iff path⟩
  · intro word hword hcalled
    have hname := isIdentifier_of_isCalled path word hword hcalled
    exact ⟨⟨path⟩, ofPath_of_isIdentifier path hname, hname⟩

theorem unwarned_clashFree_menu :
    Request.ofPath "ui/Menu.uxml" = .ok ⟨"ui/Menu.uxml"⟩ ∧
      isIdentifier (Request.typeName ⟨"ui/Menu.uxml"⟩) = true ∧
      ∃ type, (unit ⟨"ui/Menu.uxml"⟩).types = [type] ∧ type.ClashFree := by
  have hname : isIdentifier (Request.typeName ⟨"ui/Menu.uxml"⟩) = true := by decide
  have haccepted := ofPath_of_isIdentifier "ui/Menu.uxml" hname
  have hother : ∀ word ∈ memberNames, ¬Document.IsCalled "ui/Menu.uxml" word := by
    intro word hword hcalled
    have hword' := (Document.isCalled_iff _ word (head?_of_mem_memberNames word hword)).mp hcalled
    have hall : ∀ word ∈ memberNames, dropAt (Document.typeName "ui/Menu.uxml").toList ≠ word.toList := by
      decide
    exact hall word hword hword'
  rcases ((unwarned_clashFree "ui/Menu.uxml").1 _ haccepted hname).2 with ⟨type, htypes, _, _, hfree⟩
  exact ⟨haccepted, hname, type, htypes, hfree.mpr hother⟩

/-- The document of a root panel is accepted without a warning, and its class has a member of its own name. -/
theorem clash_root :
    Request.ofPath "Root.uxml" = .ok ⟨"Root.uxml"⟩ ∧ isIdentifier (Request.typeName ⟨"Root.uxml"⟩) = true ∧
      (∀ files banner dryRun,
        ((Generation.generate files banner "Root.uxml" dryRun).events.filterMap Event.record?).filter
          (fun record => record.level = .warning) = []) ∧
      ∃ type, (unit ⟨"Root.uxml"⟩).types = [type] ∧ ¬type.ClashFree := by
  have hname : isIdentifier (Request.typeName ⟨"Root.uxml"⟩) = true := by decide
  have haccepted := ofPath_of_isIdentifier "Root.uxml" hname
  have hquiet := fun files banner dryRun =>
    (Generation.unwarned_iff files banner "Root.uxml" dryRun _ haccepted).mpr hname
  exact ⟨haccepted, hname, hquiet, _, rfl, by decide⟩

end CodeBehind
