import CodeBehind.Syntax.Violation
import Mathlib.Data.List.Basic
import Mathlib.Data.List.Nodup

/-!
# The rules of a tree

What makes a tree well-formed, and which of its faults is reported.

The rules say nothing about an order: names are there and differ. The check goes through a tree once, remembers the
names it has met and stops at the first fault, so it never sees the others. To say which one is the first, all
faults of a tree are listed: every rule is asked at every declaration, in the order in which declarations are
written, and a member is compared with the members above it, not with a set of names. The check finds the head of
this list, and the list is empty for the well-formed trees alone.

The two agree because a name has been met exactly if a member above has it. This holds for members without a fault of
their own as well as for all others, so nothing has to be said about what the check does after a fault.

## Main definitions

* `Member.WellFormed`, `TypeDecl.WellFormed`, `CompilationUnit.WellFormed`: The rules.
* `Member.violations`, `TypeDecl.violations`, `CompilationUnit.violations`: All broken rules, in order.

## Main results

* `violation?_first`: The check accepts the well-formed trees, and reports the first broken rule of the others.

## Theorems

* `head?_violations_member`, `head?_violations_type`, `head?_violations_unit`: The check finds the first broken rule.
* `violations_member_eq_nil`, `violations_type_eq_nil`, `violations_unit_eq_nil`: Well-formed trees break no rule.
-/

namespace CodeBehind

namespace Syntax

/-- A member has a name and a type, and so have its attributes a name. -/
structure Member.WellFormed (member : Member) : Prop where
  named : member.name ≠ ""
  typed : member.typeName ≠ ""
  attributes_named : ∀ mark ∈ member.attributes, mark ≠ ""

/-- A type has a name that can be seen, and its members are well-formed and of different names. -/
structure TypeDecl.WellFormed (type : TypeDecl) : Prop where
  visible : ∃ c ∈ type.name.toList, Text.isBlank c = false
  members : ∀ member ∈ type.members, member.WellFormed
  distinct : (type.members.map Member.name).Nodup

/-- A file declares a type, imports names that are not empty and differ, and its types are well-formed. -/
structure CompilationUnit.WellFormed (unit : CompilationUnit) : Prop where
  declares : unit.types ≠ []
  imports_named : ∀ name ∈ unit.imports, name ≠ ""
  imports_distinct : unit.imports.Nodup
  types : ∀ type ∈ unit.types, type.WellFormed

/-- What is to be listed for a fault: its report if it is there. -/
def listed (fault : Prop) [Decidable fault] (violation : Violation) : List Violation :=
  if fault then [violation] else []

/-- The rules that a member of the type `owner` breaks on its own, one for each attribute without a name. -/
def Member.violations (owner : String) (member : Member) : List Violation :=
  listed (member.name = "") (.unnamedMember owner) ++
    (listed (member.typeName = "") (.untypedMember member.name owner) ++
      member.attributes.flatMap fun mark => listed (mark = "") (.unnamedAttribute member.name))

/-- The rules that the member at a place below others breaks: its own, and that its name is new. -/
def violationsAt (owner : String) (members : List Member) (member : Member) (place : Nat) : List Violation :=
  member.violations owner ++
    listed (∃ earlier ∈ members.take place, earlier.name = member.name) (.duplicateMember member.name owner)

/-- All rules that a type breaks. -/
def TypeDecl.violations (type : TypeDecl) : List Violation :=
  listed (Text.allBlank type.name = true) .unnamedType ++
    type.members.zipIdx.flatMap fun entry => violationsAt type.name type.members entry.1 entry.2

/-- All rules that a file breaks. -/
def CompilationUnit.violations (unit : CompilationUnit) : List Violation :=
  listed (unit.types = []) .noTypes ++ (listed (∃ name ∈ unit.imports, name = "") .emptyImport ++
    (listed (¬ unit.imports.Nodup) (.duplicateImports unit.imports) ++ unit.types.flatMap TypeDecl.violations))

/-! ## Lists of faults -/

/-- A fault that is there is the first of a list that begins with it. -/
theorem head?_listed_append (fault : Prop) [Decidable fault] (violation : Violation) (rest : List Violation) :
    (listed fault violation ++ rest).head? = if fault then some violation else rest.head? := by
  by_cases h : fault
  · rw [listed, if_pos h, if_pos h, List.singleton_append, List.head?_cons]
  · rw [listed, if_neg h, if_neg h, List.nil_append]

theorem listed_eq_nil (fault : Prop) [Decidable fault] (violation : Violation) :
    listed fault violation = [] ↔ ¬ fault := by
  by_cases h : fault
  · rw [listed, if_pos h]
    exact ⟨fun hnil => absurd hnil (List.cons_ne_nil _ _), fun hnot => absurd h hnot⟩
  · rw [listed, if_neg h]
    exact ⟨fun _ => h, fun _ => rfl⟩

/-! ## The first fault -/

/-- However many attributes have no name, they are all reported alike. -/
theorem head?_violations_attributes (attributes : List String) (violation : Violation) :
    (attributes.flatMap fun mark => listed (mark = "") violation).head? =
      if attributes.contains "" then some violation else none := by
  induction attributes with
  | nil => rfl
  | cons mark rest ih =>
      rw [List.flatMap_cons, head?_listed_append, ih, List.contains_cons]
      by_cases h : mark = ""
      · rw [if_pos h, h, beq_self_eq_true, Bool.true_or, if_pos rfl]
      · rw [if_neg h, beq_eq_false_iff_ne.mpr (Ne.symm h), Bool.false_or]

theorem head?_violations_member (owner : String) (member : Member) :
    (member.violations owner).head? = member.violation? owner := by
  rw [Member.violations, head?_listed_append, head?_listed_append, head?_violations_attributes, Member.violation?]

/-- The names met are those of the members above, and the check goes on below them. -/
theorem head?_violations_members (owner : String) (above below : List Member) (seen : List String)
    (hseen : ∀ name, name ∈ seen ↔ ∃ earlier ∈ above, earlier.name = name) :
    ((below.zipIdx above.length).flatMap fun entry => violationsAt owner (above ++ below) entry.1 entry.2).head? =
      membersViolation? owner seen below := by
  induction below generalizing above seen with
  | nil => rfl
  | cons member rest ih =>
      have hbelow : above ++ member :: rest = (above ++ [member]) ++ rest := by
        rw [List.append_assoc, List.singleton_append]
      have hlength : above.length + 1 = (above ++ [member]).length := by
        rw [List.length_append, List.length_singleton]
      -- The name of this member is met from here on.
      have hnext : ∀ name, name ∈ member.name :: seen ↔ ∃ earlier ∈ above ++ [member], earlier.name = name := by
        intro name
        rw [List.mem_cons, hseen]
        constructor
        · rintro (heq | ⟨earlier, hmem, heq⟩)
          · exact ⟨member, List.mem_append_right _ (List.mem_singleton_self _), heq.symm⟩
          · exact ⟨earlier, List.mem_append_left _ hmem, heq⟩
        · rintro ⟨earlier, hmem, heq⟩
          rcases List.mem_append.mp hmem with hmem | hmem
          · exact Or.inr ⟨earlier, hmem, heq⟩
          · exact Or.inl (List.mem_singleton.mp hmem ▸ heq.symm)
      have hearlier : (∃ earlier ∈ (above ++ member :: rest).take above.length, earlier.name = member.name) ↔
          seen.contains member.name = true := by
        rw [List.take_left, List.contains_iff_mem, hseen]
      have hrest := ih (above ++ [member]) (member.name :: seen) hnext
      rw [← hlength, ← hbelow] at hrest
      rw [List.zipIdx_cons, List.flatMap_cons, violationsAt, List.append_assoc, List.head?_append,
        head?_violations_member, head?_listed_append, hrest, membersViolation?]
      cases member.violation? owner with
      | some _ => rfl
      | none => simp only [hearlier, Option.none_or]

theorem head?_violations_type (type : TypeDecl) : type.violations.head? = type.violation? := by
  have hmembers := head?_violations_members type.name [] type.members [] (by
    intro name
    exact ⟨fun h => absurd h List.not_mem_nil, fun ⟨_, h, _⟩ => absurd h List.not_mem_nil⟩)
  rw [List.nil_append, List.length_nil] at hmembers
  rw [TypeDecl.violations, head?_listed_append, hmembers, TypeDecl.violation?]

/-- The check of a file finds the first of all its broken rules. -/
theorem head?_violations_unit (unit : CompilationUnit) : unit.violations.head? = unit.violation? := by
  rw [CompilationUnit.violations, head?_listed_append, head?_listed_append, head?_listed_append, List.head?_flatMap,
    funext head?_violations_type, CompilationUnit.violation?]
  simp only [exists_eq_right, List.isEmpty_iff, List.contains_iff_mem]

/-! ## Trees without a fault -/

theorem violations_member_eq_nil (owner : String) (member : Member) :
    member.violations owner = [] ↔ member.WellFormed := by
  rw [Member.violations, List.append_eq_nil_iff, List.append_eq_nil_iff, listed_eq_nil, listed_eq_nil,
    List.flatMap_eq_nil_iff]
  constructor
  · rintro ⟨hname, htype, hattributes⟩
    exact ⟨hname, htype, fun mark hmem => (listed_eq_nil _ _).mp (hattributes mark hmem)⟩
  · rintro ⟨hname, htype, hattributes⟩
    exact ⟨hname, htype, fun mark hmem => (listed_eq_nil _ _).mpr (hattributes mark hmem)⟩

/-- Names that are each new below the ones above are different. -/
theorem nodup_iff_new (members : List Member) :
    (members.map Member.name).Nodup ↔
      ∀ place member, members[place]? = some member →
        ¬ ∃ earlier ∈ members.take place, earlier.name = member.name := by
  rw [List.Nodup, List.pairwise_map, List.pairwise_iff_getElem]
  constructor
  · rintro hdistinct place member hget ⟨earlier, hmem, heq⟩
    rcases List.getElem?_eq_some_iff.mp hget with ⟨hplace, rfl⟩
    rcases List.mem_take_iff_getElem.mp hmem with ⟨above, habove, rfl⟩
    exact hdistinct above place (by omega) hplace (by omega) heq
  · intro hnew above place habove hplace hlt heq
    have hmem : members[above] ∈ members.take place :=
      List.mem_take_iff_getElem.mpr ⟨above, by omega, rfl⟩
    exact hnew place members[place] (List.getElem?_eq_getElem hplace) ⟨members[above], hmem, heq⟩

theorem violations_type_eq_nil (type : TypeDecl) : type.violations = [] ↔ type.WellFormed := by
  have hvisible : (¬ Text.allBlank type.name = true) ↔ ∃ c ∈ type.name.toList, Text.isBlank c = false := by
    simp only [Text.allBlank, List.all_eq_true, not_forall, Bool.not_eq_true, exists_prop]
  -- A member is at its place, so asking all pairs is asking all members and all places.
  have hmembers : (∀ entry ∈ type.members.zipIdx, violationsAt type.name type.members entry.1 entry.2 = []) ↔
      (∀ member ∈ type.members, member.WellFormed) ∧ (type.members.map Member.name).Nodup := by
    rw [nodup_iff_new]
    simp only [violationsAt, List.append_eq_nil_iff, violations_member_eq_nil, listed_eq_nil]
    constructor
    · intro h
      constructor
      · intro member hmem
        rcases List.getElem?_of_mem hmem with ⟨place, hget⟩
        exact (h (member, place) (List.mk_mem_zipIdx_iff_getElem?.mpr hget)).1
      · intro place member hget
        exact (h (member, place) (List.mk_mem_zipIdx_iff_getElem?.mpr hget)).2
    · rintro ⟨hwell, hnew⟩ ⟨member, place⟩ hentry
      have hget := List.mk_mem_zipIdx_iff_getElem?.mp hentry
      exact ⟨hwell member (List.mem_of_getElem? hget), hnew place member hget⟩
  rw [TypeDecl.violations, List.append_eq_nil_iff, listed_eq_nil, hvisible, List.flatMap_eq_nil_iff, hmembers]
  exact ⟨fun ⟨hname, hwell, hdistinct⟩ => ⟨hname, hwell, hdistinct⟩,
    fun ⟨hname, hwell, hdistinct⟩ => ⟨hname, hwell, hdistinct⟩⟩

theorem violations_unit_eq_nil (unit : CompilationUnit) : unit.violations = [] ↔ unit.WellFormed := by
  rw [CompilationUnit.violations, List.append_eq_nil_iff, List.append_eq_nil_iff, List.append_eq_nil_iff,
    listed_eq_nil, listed_eq_nil, listed_eq_nil, List.flatMap_eq_nil_iff, not_not]
  constructor
  · rintro ⟨hdeclares, himports, hdistinct, htypes⟩
    exact ⟨hdeclares, fun name hmem heq => himports ⟨name, hmem, heq⟩, hdistinct,
      fun type hmem => (violations_type_eq_nil type).mp (htypes type hmem)⟩
  · rintro ⟨hdeclares, himports, hdistinct, htypes⟩
    exact ⟨hdeclares, fun ⟨name, hmem, heq⟩ => himports name hmem heq, hdistinct,
      fun type hmem => (violations_type_eq_nil type).mpr (htypes type hmem)⟩

instance (unit : CompilationUnit) : Decidable unit.WellFormed :=
  decidable_of_iff (unit.violations = []) (violations_unit_eq_nil unit)

/-- The check accepts exactly the well-formed trees. Of any other tree it reports the first of all broken rules: of
    the file, then of its types in order, and of a type first of its name and then of its members in order. -/
theorem violation?_first (unit : CompilationUnit) :
    (unit.violation? = none ↔ unit.WellFormed) ∧ unit.violation? = unit.violations.head? := by
  constructor
  · rw [← head?_violations_unit, List.head?_eq_none_iff, violations_unit_eq_nil]
  · exact (head?_violations_unit unit).symm

/-- Faults of the file, of an attribute and of a name that is used twice; the first of them is reported. -/
example : CompilationUnit.violations
    { imports := ["", "Menu", "Menu"],
      types := [{ name := "Menu", members := [
        .field { name := "Open", typeName := "int", attributes := ["", "Serialize"] },
        .method { name := "Open" }] }] } =
    [.emptyImport, .duplicateImports ["", "Menu", "Menu"], .unnamedAttribute "Open",
      .duplicateMember "Open" "Menu"] := by
  decide

end Syntax

end CodeBehind
