import CodeBehind.Syntax.Imports

/-!
# What is imported

The imports of a type are the namespaces of the names it mentions, and nothing else decides them.

Collecting looks at the namespaces in the order in which they are written and keeps those that some name needs. So there
are two ways to lose an import: a kind of member whose names are not all looked at, and a namespace that a name needs
and that is missing from the order. The first is ruled out by going through the places in a member where a name is
written (`mem_referencedTypes_iff`), the second by going through the table (`mem_importOrder_of_namespaceOf?`).

With both out of the way an import is there if and only if some name needs it (`mem_collectImports_iff`). Since the order
is that of the namespaces and not that of the names, the needed namespaces decide the whole list (`collectImports_congr`).
Everything about reordered, repeated, unknown and concatenated names follows from these two.

## Main definitions

* `Mentions`: The places in a member where a name is written.

## Main results

* `collectImports_exact`: What the imports are, and what they depend on.

## Theorems

* `mem_referencedTypes_iff`: No place in a member is passed over.
* `mem_importOrder_of_namespaceOf?`: Every namespace of the table has its place in the order.
* `mem_collectImports_iff`: An import is there if a name needs it.
* `collectImports_congr`: The needed namespaces decide the imports.
* `collectImports_append`: The imports of two rows of names.
-/

namespace CodeBehind

namespace Syntax

/-- A name is written in a member: in an attribute or as the type of a field, as the type of a property, or as what a
    method returns. -/
inductive Mentions : Member → String → Prop
  | fieldAttribute (f : Field) (name : String) (h : name ∈ f.attributes) : Mentions (.field f) name
  | fieldType (f : Field) : Mentions (.field f) f.typeName
  | propertyType (p : Property) : Mentions (.property p) p.typeName
  | returnType (m : Method) : Mentions (.method m) m.returnType

/-! ## The names of members -/

/-- The names of a member are those that are written in it. -/
theorem mem_referencedTypes_member_iff (member : Member) (name : String) :
    name ∈ member.referencedTypes ↔ Mentions member name := by
  rw [Member.referencedTypes, List.mem_append, List.mem_singleton]
  constructor
  · intro h
    cases member with
    | field f =>
        rcases h with hattribute | rfl
        · exact .fieldAttribute f name hattribute
        · exact .fieldType f
    | property p =>
        rcases h with hattribute | rfl
        · exact absurd hattribute List.not_mem_nil
        · exact .propertyType p
    | method m =>
        rcases h with hattribute | rfl
        · exact absurd hattribute List.not_mem_nil
        · exact .returnType m
  · intro h
    cases h with
    | fieldAttribute f name hattribute => exact Or.inl hattribute
    | fieldType f => exact Or.inr rfl
    | propertyType p => exact Or.inr rfl
    | returnType m => exact Or.inr rfl

/-- No place in a member is passed over, and no member. -/
theorem mem_referencedTypes_iff (members : List Member) (name : String) :
    name ∈ referencedTypes members ↔ ∃ member ∈ members, Mentions member name := by
  simp only [referencedTypes, List.mem_flatMap, mem_referencedTypes_member_iff]

/-! ## The needed namespaces -/

/-- Every namespace of the table has its place in the order. -/
theorem mem_importOrder_of_namespaceOf? (name needed : String) (h : namespaceOf? name = some needed) :
    needed ∈ importOrder := by
  have htable : ∀ entry ∈ knownNames, entry.2 ∈ importOrder := by decide
  rcases List.lookup_eq_some_iff.mp h with ⟨before, after, hentries, _⟩
  exact htable (name, needed) (hentries ▸ List.mem_append_right before (List.mem_cons_self ..))

/-- A namespace is imported if and only if some name needs it. -/
theorem mem_collectImports_iff (names : List String) (needed : String) :
    needed ∈ collectImports names ↔ ∃ name ∈ names, namespaceOf? name = some needed := by
  rw [collectImports, List.mem_filter, List.any_eq_true]
  simp only [beq_iff_eq]
  constructor
  · exact fun h => h.2
  · rintro ⟨name, hname, hneeded⟩
    exact ⟨mem_importOrder_of_namespaceOf? name needed hneeded, name, hname, hneeded⟩

/-- The imports are in the order of the namespaces. -/
theorem sublist_collectImports (names : List String) : (collectImports names).Sublist importOrder :=
  List.filter_sublist

/-- No namespace is imported twice. -/
theorem nodup_collectImports (names : List String) : (collectImports names).Nodup :=
  (sublist_collectImports names).nodup (by decide)

/-- What is imported is what the order keeps of it. -/
theorem filter_collectImports (names : List String) :
    importOrder.filter (fun needed => decide (needed ∈ collectImports names)) = collectImports names := by
  refine List.filter_congr (fun needed hneeded => ?_)
  rw [Bool.eq_iff_iff, decide_eq_true_iff, collectImports, List.mem_filter, and_iff_right hneeded]

/-- Rows of names that need the same namespaces have the same imports. -/
theorem collectImports_congr (names others : List String)
    (h : ∀ needed, needed ∈ collectImports others ↔ needed ∈ collectImports names) :
    collectImports others = collectImports names := by
  rw [← filter_collectImports names, ← filter_collectImports others]
  simp only [h]

/-- Names that need no import make no difference, nor do the order and the number of the others. -/
theorem collectImports_of_known (names others : List String)
    (h : ∀ name, (namespaceOf? name).isSome = true → (name ∈ others ↔ name ∈ names)) :
    collectImports others = collectImports names := by
  refine collectImports_congr names others (fun needed => ?_)
  rw [mem_collectImports_iff, mem_collectImports_iff]
  refine exists_congr (fun name => and_congr_left (fun hneeded => h name ?_))
  rw [hneeded, Option.isSome_some]

/-- Two rows of names need what the one or the other needs. -/
theorem collectImports_append (names others : List String) :
    collectImports (names ++ others) =
      importOrder.filter fun needed => needed ∈ collectImports names ∨ needed ∈ collectImports others := by
  rw [← filter_collectImports (names ++ others)]
  refine List.filter_congr (fun needed _ => decide_eq_decide.mpr ?_)
  simp only [mem_collectImports_iff, List.mem_append, or_and_right, exists_or]

/-- The imports of a type are the namespaces that the table has for its base type and for the names that are written in
    its members, each once and in the order of the namespaces. They are the same for the members in any other order and
    number, and for names in any other order and number, whatever names without a namespace are among them. Of two rows
    of names one after the other the imports are those of the first and those of the second, in the order of the
    namespaces, in which there is none missing. -/
theorem collectImports_exact (base : String) (members : List Member) :
    (∀ needed, needed ∈ collectImports (base :: referencedTypes members) ↔
        namespaceOf? base = some needed ∨
          ∃ member ∈ members, ∃ name, Mentions member name ∧ namespaceOf? name = some needed) ∧
      (collectImports (base :: referencedTypes members)).Nodup ∧
      (collectImports (base :: referencedTypes members)).Sublist importOrder ∧
      (∀ others : List Member, (∀ member, member ∈ others ↔ member ∈ members) →
        collectImports (base :: referencedTypes others) = collectImports (base :: referencedTypes members)) ∧
      (∀ names others : List String, (∀ name, (namespaceOf? name).isSome = true → (name ∈ others ↔ name ∈ names)) →
        collectImports others = collectImports names) ∧
      (∀ names others : List String, collectImports (names ++ others) =
        importOrder.filter fun needed => needed ∈ collectImports names ∨ needed ∈ collectImports others) ∧
      ∀ name needed, namespaceOf? name = some needed → needed ∈ importOrder := by
  refine ⟨fun needed => ?_, nodup_collectImports _, sublist_collectImports _, fun others hothers => ?_,
    collectImports_of_known, collectImports_append, mem_importOrder_of_namespaceOf?⟩
  · simp only [mem_collectImports_iff, List.mem_cons, exists_eq_or_imp]
    refine or_congr_right ⟨?_, ?_⟩
    · rintro ⟨name, hname, hneeded⟩
      rcases (mem_referencedTypes_iff members name).mp hname with ⟨member, hmember, hmentions⟩
      exact ⟨member, hmember, name, hmentions, hneeded⟩
    · rintro ⟨member, hmember, name, hmentions, hneeded⟩
      exact ⟨name, (mem_referencedTypes_iff members name).mpr ⟨member, hmember, hmentions⟩, hneeded⟩
  · -- The same members mention the same names.
    refine collectImports_of_known _ _ (fun name _ => ?_)
    simp only [List.mem_cons, mem_referencedTypes_iff, hothers]

end Syntax

end CodeBehind
