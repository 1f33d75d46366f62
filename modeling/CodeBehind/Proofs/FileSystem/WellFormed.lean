import CodeBehind.FileSystem.Tree
import CodeBehind.Proofs.FileSystem.Steps
import CodeBehind.Proofs.FileSystem.Walk
import Mathlib.Data.List.Induction
import Mathlib.Data.List.Nodup

/-!
# Trees as they are

The trees that a real directory tree can be described by, and what lies below a place in them.

A tree is a list of entries, and not every list describes one. No place is listed twice, every name is one that an entry
can have, and whatever is listed lies in a directory. The last condition is the one that makes a difference between two
ways of saying what lies below a place. One goes down from the place, name by name, through directories (`LiesBelow`);
it is how a search walks. The other looks for places that begin with the place (`filesBelow`); it is how the list is
gone through. If everything lies in a directory, a place that begins with another one is reached by going down from
there, and the two are the same (`liesBelow_iff`).

With every place listed once, what lies somewhere is what is listed there, wherever in the list that is. So trees whose
lists differ in their order only are the same at every place.

Putting a file where no directory is keeps all of this, if there is a directory to put it in and its name is proper.

## Main definitions

* `IsProperName`: The names that an entry can have.
* `places`: The places that are listed.
* `WellFormed`: The lists that describe trees.
* `LiesBelow`: What is reached by going down from a place.

## Main results

* `liesBelow_iff`: What is reached by going down is what is listed under longer places.
* `wellFormed_set_of_leadsTo`: A file that is put where a path leads keeps a tree well-formed.

## Theorems

* `lookup_eq_some_iff`, `get?_eq_some_iff`: What lies at a place is what is listed there.
* `get?_above`: What is above an entry is a directory.
* `get?_of_perm`: The order of the list does not matter.
* `places_set`: The places that are listed when an entry was put.
* `get?_of_enter`: Steps from a directory enter a directory.
* `mem_filesBelow_iff`, `nodup_filesBelow`: The files below a place.
-/

namespace CodeBehind

namespace FileSystem

/-- A name that an entry of a directory can have. -/
def IsProperName (name : String) : Prop :=
  name ≠ "" ∧ name ≠ "." ∧ name ≠ ".." ∧ '/' ∉ name.toList

/-- The places that are listed, in the order of the list. -/
def places (files : FileSystem) : List Place :=
  files.entries.map Prod.fst

/-- A tree in which no place is listed twice, every name is proper, and everything lies in a directory. -/
structure WellFormed (files : FileSystem) : Prop where
  distinct : files.places.Nodup
  named : ∀ place ∈ files.places, ∀ name ∈ place, IsProperName name
  rooted : ∀ place ∈ files.places, files.get? place.dropLast = some .directory

/-! ## What is listed -/

/-- Where no place is listed twice, an entry is found if and only if it is listed. -/
theorem lookup_eq_some_iff (entries : List (Place × Entry)) (h : (entries.map Prod.fst).Nodup) (place : Place)
    (entry : Entry) : entries.lookup place = some entry ↔ (place, entry) ∈ entries := by
  induction entries with
  | nil => simp only [List.lookup_nil, reduceCtorEq, List.not_mem_nil]
  | cons e rest ih =>
      rcases e with ⟨key, found⟩
      rw [List.map_cons, List.nodup_cons] at h
      by_cases hkey : place = key
      · -- The entry at the head is the only one listed for its place.
        have hrest : (place, entry) ∉ rest := fun hmem => h.1 (List.mem_map.mpr ⟨_, hmem, hkey⟩)
        rw [← hkey, List.lookup_cons, beq_self_eq_true, List.mem_cons, Prod.mk.injEq, eq_self, true_and,
          Option.some.injEq, or_iff_left hrest, eq_comm]
      · have hne : (place == key) = false := beq_false_of_ne hkey
        rw [List.lookup_cons, hne, ih h.2, List.mem_cons, Prod.mk.injEq, or_iff_right (fun hhead => hkey hhead.1)]

section

variable (files : FileSystem) (h : files.WellFormed)
include h

/-- What lies at a place other than the root is what is listed there. -/
theorem get?_eq_some_iff (place : Place) (entry : Entry) (hroot : place ≠ []) :
    files.get? place = some entry ↔ (place, entry) ∈ files.entries := by
  rw [get?_of_ne_nil files place hroot, lookup_eq_some_iff files.entries h.distinct]

theorem isProperName_of_get? (place : Place) (entry : Entry) (hentry : files.get? place = some entry) :
    ∀ name ∈ place, IsProperName name := by
  by_cases hroot : place = []
  · rw [hroot]
    exact fun name hname => absurd hname List.not_mem_nil
  · exact h.named place (List.mem_map_of_mem ((get?_eq_some_iff files h place entry hroot).mp hentry))

/-- What is above an entry is a directory. -/
theorem get?_above (place : Place) (names : List String) (entry : Entry) (hnames : names ≠ [])
    (hentry : files.get? (place ++ names) = some entry) : files.get? place = some .directory := by
  induction names using List.reverseRecOn generalizing entry with
  | nil => exact absurd rfl hnames
  | append_singleton init name ih =>
      have hroot : place ++ (init ++ [name]) ≠ [] := List.append_ne_nil_of_right_ne_nil _ hnames
      have habove := h.rooted _ (List.mem_map_of_mem ((get?_eq_some_iff files h _ entry hroot).mp hentry))
      rw [← List.append_assoc, List.dropLast_concat] at habove
      by_cases hinit : init = []
      · rwa [hinit, List.append_nil] at habove
      · exact ih .directory hinit habove

end

/-- Trees that list the same entries in another order have the same at every place. -/
theorem get?_of_perm (files other : FileSystem) (h : files.WellFormed) (hperm : other.entries.Perm files.entries)
    (place : Place) : other.get? place = files.get? place := by
  by_cases hroot : place = []
  · rw [hroot]
    rfl
  · have hdistinct : other.places.Nodup := (hperm.map Prod.fst).nodup_iff.mpr h.distinct
    rw [get?_of_ne_nil other place hroot, get?_of_ne_nil files place hroot]
    refine Option.ext (fun entry => ?_)
    rw [lookup_eq_some_iff _ hdistinct, lookup_eq_some_iff _ h.distinct]
    exact hperm.mem_iff

/-- Putting an entry lists its place, unless it is listed already. -/
theorem places_set (files : FileSystem) (place : Place) (entry : Entry) :
    (files.set place entry).places = files.places ∨
      place ∉ files.places ∧ (files.set place entry).places = files.places ++ [place] := by
  cases hlisted : files.entries.lookup place with
  | none =>
      refine Or.inr ⟨fun hmem => ?_, ?_⟩
      · rcases List.mem_map.mp hmem with ⟨e, he, heq⟩
        exact ne_of_lookup_none files.entries place hlisted e he heq
      · rw [set_of_absent files place entry hlisted, places, List.map_append]
        rfl
  | some old =>
      -- What is replaced keeps its place.
      have hplace : ∀ e : Place × Entry, (if e.1 = place then (place, entry) else e).1 = e.1 := by
        intro e
        by_cases he : e.1 = place
        · rw [if_pos he, he]
        · rw [if_neg he]
      rw [set_of_present files place entry (by rw [hlisted, Option.isSome_some]), places, List.map_map]
      exact Or.inl (List.map_congr_left (fun e _ => hplace e))

/-- A file that is put in a directory, where no directory is, keeps a tree well-formed. -/
theorem wellFormed_set (files : FileSystem) (h : files.WellFormed) (place : Place) (content : ByteArray) (mode : Nat)
    (hnames : ∀ name ∈ place, IsProperName name) (habove : files.get? place.dropLast = some .directory)
    (hfree : files.get? place ≠ some .directory) : (files.set place (.file content mode)).WellFormed := by
  have hroot := ne_nil_of_get? files place hfree
  have hdirectories := (sameDirectories_set_file files place content mode hroot hfree).2
  have hrooted : ∀ other ∈ files.places,
      (files.set place (.file content mode)).get? other.dropLast = some .directory :=
    fun other hother => (hdirectories _).mp (h.rooted other hother)
  -- The entry is new or replaces one, and only a new one has to be looked at.
  rcases places_set files place (.file content mode) with hplaces | ⟨hnew, hplaces⟩
  · exact ⟨hplaces ▸ h.distinct, hplaces ▸ h.named, hplaces ▸ hrooted⟩
  · refine ⟨?_, ?_, ?_⟩
    · rw [hplaces, ← List.concat_eq_append]
      exact List.Nodup.concat hnew h.distinct
    · rw [hplaces, List.forall_mem_append]
      exact ⟨h.named, List.forall_mem_singleton.mpr hnames⟩
    · rw [hplaces, List.forall_mem_append]
      exact ⟨hrooted, List.forall_mem_singleton.mpr ((hdirectories _).mp habove)⟩

/-- Steps from a directory enter a directory. -/
theorem get?_of_enter (files : FileSystem) (h : files.WellFormed) (place directory : Place) (steps : List String)
    (hplace : files.get? place = some .directory) (henter : files.enter place steps = .ok directory) :
    files.get? directory = some .directory := by
  refine files.enter_keeps (fun place => files.get? place = some .directory) ?_ place directory steps hplace henter
  intro place name next hplace hpass
  rcases pass_eq_ok files place next name hpass with rfl | rfl | ⟨_, hentry⟩
  · exact hplace
  · -- The directory above the root is the root.
    by_cases hroot : place = []
    · rw [hroot]
      rfl
    · exact h.rooted place (List.mem_map_of_mem ((get?_eq_some_iff files h place _ hroot).mp hplace))
  · exact hentry

/-- A file that is put where a path leads, and no directory is, keeps a tree well-formed. -/
theorem wellFormed_set_of_leadsTo (files : FileSystem) (h : files.WellFormed)
    (hworkdir : files.get? files.workdir = some .directory) (path : String) (place : Place) (content : ByteArray)
    (mode : Nat) (hleads : files.LeadsTo path place) (hfree : files.get? place ≠ some .directory) :
    (files.set place (.file content mode)).WellFormed := by
  rcases hleads with ⟨_, before, name, directory, hsteps, henter, ⟨hdot, hup, _⟩, rfl⟩
  have hbase : files.get? (files.base path) = some .directory := by
    rw [base]
    split
    · rfl
    · exact hworkdir
  have habove := get?_of_enter files h _ directory before hbase henter
  -- A step that is neither of the dots is a piece of the path.
  have hname : IsProperName name := by
    rcases mem_pathSteps path name (hsteps ▸ List.mem_concat_self) with heq | ⟨hne, hslash⟩
    · exact absurd heq hdot
    · exact ⟨hne, hdot, hup, hslash⟩
  refine wellFormed_set files h _ content mode ?_ ?_ hfree
  · rw [List.forall_mem_append]
    exact ⟨isProperName_of_get? files h directory _ habove, List.forall_mem_singleton.mpr hname⟩
  · rwa [List.dropLast_concat]

/-! ## What lies below -/

/-- What is reached from a place by going down: an entry of the place, or what lies below a directory in it. -/
inductive LiesBelow (files : FileSystem) : Place → List String → Entry → Prop where
  | entry (place : Place) (name : String) (entry : Entry) (h : files.get? (place ++ [name]) = some entry) :
      LiesBelow files place [name] entry
  | deeper (place : Place) (name : String) (names : List String) (entry : Entry)
      (hdirectory : files.get? (place ++ [name]) = some .directory)
      (h : LiesBelow files (place ++ [name]) names entry) : LiesBelow files place (name :: names) entry

/-- What is reached by going down from a place is what is listed under a longer place. -/
theorem liesBelow_iff (files : FileSystem) (h : files.WellFormed) (place : Place) (names : List String)
    (entry : Entry) : files.LiesBelow place names entry ↔ names ≠ [] ∧ files.get? (place ++ names) = some entry := by
  constructor
  · intro hbelow
    induction hbelow with
    | entry place name entry hentry => exact ⟨List.cons_ne_nil _ _, hentry⟩
    | deeper place name names entry _ _ ih =>
        refine ⟨List.cons_ne_nil _ _, ?_⟩
        rw [← ih.2, List.append_assoc, List.singleton_append]
  · rintro ⟨hnames, hentry⟩
    induction names generalizing place with
    | nil => exact absurd rfl hnames
    | cons name rest ih =>
        by_cases hrest : rest = []
        · rw [hrest] at hentry ⊢
          exact .entry place name entry hentry
        · have hsplit : place ++ name :: rest = place ++ [name] ++ rest := by
            rw [List.append_assoc, List.singleton_append]
          rw [hsplit] at hentry
          -- An entry deeper below is reached through the directory that is above it in a well-formed tree.
          exact .deeper place name rest entry (get?_above files h _ rest entry hrest hentry)
            (ih (place ++ [name]) hrest hentry)

/-- The names that lead from one place to another. -/
theorem stepsBelow?_eq_some_iff (place other : Place) (names : List String) :
    stepsBelow? place other = some names ↔ names ≠ [] ∧ other = place ++ names := by
  rw [stepsBelow?]
  constructor
  · intro h
    split at h
    · next hbelow =>
        rw [Bool.and_eq_true, List.isPrefixOf_iff_prefix, decide_eq_true_eq] at hbelow
        rcases hbelow with ⟨⟨rest, rfl⟩, hne⟩
        rw [List.drop_left, Option.some.injEq] at h
        rw [← h]
        exact ⟨fun hnil => hne (by rw [hnil, List.append_nil]), rfl⟩
    · simp only [reduceCtorEq] at h
  · rintro ⟨hne, rfl⟩
    have hlonger : place ≠ place ++ names := fun heq => hne (List.self_eq_append_right.mp heq)
    rw [if_pos (by rw [Bool.and_eq_true, List.isPrefixOf_iff_prefix, decide_eq_true_eq]
                   exact ⟨List.prefix_append _ _, hlonger⟩), List.drop_left]

/-- The files below a place are those that are reached by going down. -/
theorem mem_filesBelow_iff (files : FileSystem) (h : files.WellFormed) (place : Place) (names : List String) :
    names ∈ files.filesBelow place ↔ ∃ content mode, files.LiesBelow place names (.file content mode) := by
  simp only [liesBelow_iff files h]
  rw [filesBelow, List.mem_filterMap]
  constructor
  · rintro ⟨⟨other, entry⟩, hmem, hsteps⟩
    cases entry with
    | directory => simp only [reduceCtorEq] at hsteps
    | file content mode =>
        rcases (stepsBelow?_eq_some_iff place other names).mp hsteps with ⟨hne, rfl⟩
        refine ⟨content, mode, hne, ?_⟩
        exact (get?_eq_some_iff files h _ _ (List.append_ne_nil_of_right_ne_nil _ hne)).mpr hmem
  · rintro ⟨content, mode, hne, hentry⟩
    exact ⟨_, (get?_eq_some_iff files h _ _ (List.append_ne_nil_of_right_ne_nil _ hne)).mp hentry,
      (stepsBelow?_eq_some_iff place _ names).mpr ⟨hne, rfl⟩⟩

/-- No file is met twice. -/
theorem nodup_filesBelow (files : FileSystem) (h : files.WellFormed) (place : Place) :
    (files.filesBelow place).Nodup := by
  have hdistinct : files.entries.Pairwise (fun e e' => e.1 ≠ e'.1) := List.pairwise_map.mp h.distinct
  rw [filesBelow, List.Nodup, List.pairwise_filterMap]
  refine hdistinct.imp (fun {e e'} hne names hnames names' hnames' heq => hne ?_)
  rcases e with ⟨other, entry⟩
  rcases e' with ⟨other', entry'⟩
  cases entry with
  | directory => simp only [reduceCtorEq] at hnames
  | file content mode =>
      cases entry' with
      | directory => simp only [reduceCtorEq] at hnames'
      | file content' mode' =>
          -- The place of a file is told by the names that lead there.
          have hother := ((stepsBelow?_eq_some_iff place other names).mp hnames).2
          have hother' := ((stepsBelow?_eq_some_iff place other' names').mp hnames').2
          rw [hother, hother', heq]

end FileSystem

end CodeBehind
