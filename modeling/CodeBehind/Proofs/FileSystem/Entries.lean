import CodeBehind.FileSystem.Basic

/-!
# What lies where

The tree as a map from places to entries.

A tree is stored as a list, but nothing that is done with it depends on the list: `get?` is all that is ever
asked, and this file says what putting and taking away an entry does to the answers. Two facts are about the
list itself. Putting an entry where one was put before forgets the first, and taking away what was put at a
free place gives the very same tree back. The second is what undoing a save comes down to.

## Main definitions

* `SameTree`: Two trees that have the same at every place.

## Theorems

* `get?_set_self`, `get?_set_ne`: A put entry is found, and all others are as before.
* `set_set`: Of two entries put at a place the second stays.
* `erase_set_of_free`: Taking away what was put at a free place leaves no trace.
-/

namespace CodeBehind

namespace FileSystem

/-- Two trees that have the same at every place and are used under the same settings. -/
structure SameTree (files other : FileSystem) : Prop where
  workdir : other.workdir = files.workdir
  umask : other.umask = files.umask
  entries : ∀ place, other.get? place = files.get? place

theorem sameTree_refl (files : FileSystem) : files.SameTree files :=
  ⟨rfl, rfl, fun _ => rfl⟩

theorem sameTree_trans (files other last : FileSystem) (h : files.SameTree other) (h' : other.SameTree last) :
    files.SameTree last :=
  ⟨h'.workdir.trans h.workdir, h'.umask.trans h.umask, fun place => (h'.entries place).trans (h.entries place)⟩

theorem get?_of_ne_nil (files : FileSystem) (place : Place) (h : place ≠ []) :
    files.get? place = files.entries.lookup place := by
  simp only [get?, if_neg h]

/-- The root is a directory, so a place where no directory is lies below it. -/
theorem ne_nil_of_get? (files : FileSystem) (place : Place) (h : files.get? place ≠ some .directory) : place ≠ [] := by
  intro heq
  rw [heq] at h
  exact h rfl

/-- A free place has no entry in the list, the root never being free. -/
theorem lookup_of_free (files : FileSystem) (place : Place) (h : files.get? place = none) :
    files.entries.lookup place = none := by
  by_cases hp : place = []
  · simp only [get?, if_pos hp, reduceCtorEq] at h
  · rwa [get?_of_ne_nil files place hp] at h

theorem lookup_map_replace_self (entries : List (Place × Entry)) (place : Place) (entry : Entry)
    (h : (entries.lookup place).isSome) :
    (entries.map fun e => if e.1 = place then (place, entry) else e).lookup place = some entry := by
  induction entries with
  | nil => simp only [List.lookup_nil, Option.isSome_none, Bool.false_eq_true] at h
  | cons e rest ih =>
      rcases e with ⟨key, old⟩
      by_cases hk : key = place
      · rw [List.map_cons, if_pos hk, List.lookup_cons, beq_self_eq_true]
      · have hb : (place == key) = false := beq_false_of_ne (Ne.symm hk)
        rw [List.lookup_cons, hb] at h
        rw [List.map_cons, if_neg hk, List.lookup_cons, hb]
        exact ih h

theorem lookup_map_replace_ne (entries : List (Place × Entry)) (place other : Place) (entry : Entry)
    (h : other ≠ place) :
    (entries.map fun e => if e.1 = place then (place, entry) else e).lookup other = entries.lookup other := by
  induction entries with
  | nil => rfl
  | cons e rest ih =>
      rcases e with ⟨key, old⟩
      by_cases hk : key = place
      · have hb : (other == place) = false := beq_false_of_ne h
        rw [List.map_cons, if_pos hk, List.lookup_cons, List.lookup_cons, hk, hb]
        exact ih
      · rw [List.map_cons, if_neg hk, List.lookup_cons, List.lookup_cons, ih]

/-- Where nothing is listed, an entry is put at the end of the list. -/
theorem set_of_absent (files : FileSystem) (place : Place) (entry : Entry)
    (h : files.entries.lookup place = none) :
    files.set place entry = { files with entries := files.entries ++ [(place, entry)] } := by
  simp only [set, h, Option.isSome_none, Bool.false_eq_true, if_false]

/-- Where something is listed, it is replaced. -/
theorem set_of_present (files : FileSystem) (place : Place) (entry : Entry)
    (h : (files.entries.lookup place).isSome) :
    files.set place entry =
      { files with entries := files.entries.map fun e => if e.1 = place then (place, entry) else e } := by
  simp only [set, h, if_true]

/-- A put entry is found at its place, unless that is the root, which stays a directory. -/
theorem get?_set_self (files : FileSystem) (place : Place) (entry : Entry) (hp : place ≠ []) :
    (files.set place entry).get? place = some entry := by
  rw [get?_of_ne_nil _ place hp]
  cases h : files.entries.lookup place with
  | none =>
      rw [set_of_absent files place entry h, List.lookup_append, h, Option.none_or, List.lookup_cons,
        beq_self_eq_true]
  | some old =>
      have hsome : (files.entries.lookup place).isSome := by rw [h, Option.isSome_some]
      rw [set_of_present files place entry hsome]
      exact lookup_map_replace_self files.entries place entry hsome

/-- Putting an entry at one place changes no other. -/
theorem get?_set_ne (files : FileSystem) (place other : Place) (entry : Entry) (h : other ≠ place) :
    (files.set place entry).get? other = files.get? other := by
  -- The root is a directory whatever is listed for it.
  by_cases ho : other = []
  · simp only [get?, if_pos ho]
  rw [get?_of_ne_nil _ other ho, get?_of_ne_nil _ other ho]
  cases hl : files.entries.lookup place with
  | none =>
      have hb : (other == place) = false := beq_false_of_ne h
      rw [set_of_absent files place entry hl, List.lookup_append, List.lookup_cons, hb, List.lookup_nil,
        Option.or_none]
  | some old =>
      rw [set_of_present files place entry (by rw [hl, Option.isSome_some])]
      exact lookup_map_replace_ne files.entries place other entry h

/-- A place that is missing in the list is the first component of none of its entries. -/
theorem ne_of_lookup_none (entries : List (Place × Entry)) (place : Place) (h : entries.lookup place = none)
    (e : Place × Entry) (he : e ∈ entries) : e.1 ≠ place := by
  have hne := List.lookup_eq_none_iff.mp h e he
  intro hc
  rw [hc, bne_self_eq_false] at hne
  exact Bool.false_ne_true hne

/-- Where nothing is listed, replacing does nothing. -/
theorem map_replace_of_lookup_none (entries : List (Place × Entry)) (place : Place) (entry : Entry)
    (h : entries.lookup place = none) :
    (entries.map fun e => if e.1 = place then (place, entry) else e) = entries := by
  have hid : ∀ e ∈ entries, (if e.1 = place then (place, entry) else e) = e := fun e he =>
    if_neg (ne_of_lookup_none entries place h e he)
  rw [List.map_congr_left hid, List.map_id']

/-- Of two entries put at the same place only the second is left. -/
theorem set_set (files : FileSystem) (place : Place) (first second : Entry) :
    (files.set place first).set place second = files.set place second := by
  cases h : files.entries.lookup place with
  | none =>
      -- The first entry was added at the end, and the second replaces it there.
      have hsome : ((files.entries ++ [(place, first)]).lookup place).isSome := by
        rw [List.lookup_append, h, Option.none_or, List.lookup_cons, beq_self_eq_true, Option.isSome_some]
      rw [set_of_absent files place first h, set_of_absent files place second h, set_of_present _ place second hsome]
      simp only [List.map_append, map_replace_of_lookup_none files.entries place second h, List.map_cons,
        List.map_nil, if_true]
  | some old =>
      -- Both replace what is listed, so replacing is done twice to every entry of the list.
      have hsome : (files.entries.lookup place).isSome := by rw [h, Option.isSome_some]
      rw [set_of_present files place first hsome, set_of_present files place second hsome, set_of_present]
      · simp only [List.map_map, FileSystem.mk.injEq, and_true]
        refine List.map_congr_left (fun e _ => ?_)
        by_cases he : e.1 = place
        · simp only [Function.comp_apply, if_pos he, if_true]
        · simp only [Function.comp_apply, if_neg he]
      · simp only [lookup_map_replace_self files.entries place first hsome, Option.isSome_some]

/-- Taking away what was put at a free place gives the same tree back, list and all. -/
theorem erase_set_of_free (files : FileSystem) (place : Place) (entry : Entry)
    (h : files.get? place = none) : (files.set place entry).erase place = files := by
  have hnone := lookup_of_free files place h
  -- The place is listed at the end of the list and nowhere else.
  have hkeep : files.entries.filter (fun e => e.1 ≠ place) = files.entries := by
    refine List.filter_eq_self.mpr (fun e he => ?_)
    exact decide_eq_true (ne_of_lookup_none files.entries place hnone e he)
  rw [set_of_absent files place entry hnone]
  simp only [erase, List.filter_append, hkeep, List.filter_cons, ne_eq, not_true_eq_false, decide_false,
    Bool.false_eq_true, if_false, List.filter_nil, List.append_nil]

end FileSystem

end CodeBehind
