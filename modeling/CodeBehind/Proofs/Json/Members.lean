import CodeBehind.Proofs.Json.Grammar
import Mathlib.Data.List.Induction

/-!
# Members of objects

What belongs to a key of an object, and which changes of its members keep it.

An object is a list of members, and a key may have several. The last of them counts (`lastOf`). The entries of a mapping
are gathered from the first member to the last, where a key that comes again keeps its place and takes the new value;
so looking up a key in what was gathered finds its last member.

Three kinds of changes keep what belongs to the keys that matter: neighbours with different keys are swapped, a member
with a key that does not matter is put in, and so is a member whose key comes again behind it. Taking such members out
is the same the other way round. What one change keeps is kept by any number of them.

## Main definitions

* `lastOf`: What the last member with a key holds.
* `Edit`: One change of the members that leaves some keys as they are.

## Main results

* `lookup_gather`: The last member with a key is found.
* `lastOf_edit`: A change keeps what belongs to the keys that matter.

## Theorems

* `sameKey_text`: Only a text is the same key as a text.
* `lookup_setKey`, `lookup_setKey_text`: Setting a key changes what belongs to it and nothing else.
* `lastOf_append`, `lastOf_cons`: The last member is looked for from the end.
-/

namespace CodeBehind

namespace Value

/-! ## Keys -/

/-- Only a text is the same key as a text. -/
theorem sameKey_text (v : Value) (key : String) : sameKey v (.text key) = true ↔ v = .text key := by
  cases v with
  | text other =>
      change (other == key) = true ↔ _
      rw [beq_iff_eq, Value.text.injEq]
  | _ => simp [sameKey, size?]

theorem text_sameKey (v : Value) (key : String) : sameKey (.text key) v = true ↔ v = .text key := by
  cases v with
  | text other =>
      change (key == other) = true ↔ _
      rw [beq_iff_eq, Value.text.injEq, eq_comm]
  | _ => simp [sameKey, size?]

/-- Equal keys are the same as a text or both are not. -/
theorem sameKey_text_congr (v w : Value) (key : String) (h : sameKey v w = true) :
    sameKey v (.text key) = sameKey w (.text key) := by
  rw [Bool.eq_iff_iff, sameKey_text, sameKey_text]
  constructor
  · rintro rfl
    exact (text_sameKey w key).mp h
  · rintro rfl
    exact (sameKey_text v key).mp h

theorem lookup_cons (key v : Value) (pairs : List (Value × Value)) (name : String) :
    lookup ((key, v) :: pairs) name = if sameKey key (.text name) then some v else lookup pairs name := by
  cases key with
  | text other =>
      change _ = if (other == name) = true then some v else lookup pairs name
      rw [lookup, List.find?_cons]
      by_cases hname : other = name
      · simp only [hname, beq_self_eq_true, Option.map_some, if_true]
      · simp only [beq_eq_false_iff_ne.mpr hname, Bool.false_eq_true, if_false, lookup]
  | _ => simp [lookup, sameKey, size?]

theorem lookup_append (pairs more : List (Value × Value)) (name : String) :
    lookup (pairs ++ more) name = (lookup pairs name).or (lookup more name) := by
  rw [lookup, List.find?_append, Option.map_or, lookup, lookup]

theorem lookup_eq_none_iff (pairs : List (Value × Value)) (name : String) :
    lookup pairs name = none ↔ ∀ pair ∈ pairs, pair.1 ≠ .text name := by
  induction pairs with
  | nil => exact iff_of_true rfl (List.forall_mem_nil _)
  | cons pair rest ih =>
      rw [lookup_cons, List.forall_mem_cons, ← ih]
      by_cases hpair : sameKey pair.1 (.text name) = true
      · rw [if_pos hpair]
        exact iff_of_false (Option.some_ne_none _) fun h => h.1 ((sameKey_text _ name).mp hpair)
      · rw [if_neg hpair]
        exact (and_iff_right (mt (sameKey_text _ name).mpr hpair)).symm

/-- Replacing what belongs to a key does nothing to the texts that are not the same key. -/
theorem lookup_replace (pairs : List (Value × Value)) (key v : Value) (name : String) :
    lookup (pairs.map fun p => if sameKey p.1 key then (p.1, v) else p) name =
      if sameKey key (.text name) then (lookup pairs name).map fun _ => v else lookup pairs name := by
  induction pairs with
  | nil => exact (ite_self none).symm
  | cons pair rest ih =>
      rcases pair with ⟨found, w⟩
      rw [List.map_cons, lookup_cons]
      -- The row is one of those that are replaced, or it is kept with whatever key it has.
      by_cases hfound : sameKey found key = true
      · rw [if_pos hfound, lookup_cons, ih, sameKey_text_congr found key name hfound]
        by_cases hname : sameKey key (.text name) = true
        · rw [if_pos hname, if_pos hname, if_pos hname, Option.map_some]
        · simp only [if_neg hname]
      · rw [if_neg hfound, lookup_cons, ih]
        by_cases hname : sameKey key (.text name) = true
        · have hother : ¬sameKey found (.text name) = true := fun hsame =>
            hfound ((sameKey_text key name).mp hname ▸ hsame)
          rw [if_pos hname, if_pos hname, if_neg hother, if_neg hother]
        · rw [if_neg hname, if_neg hname]

/-- Setting a key changes what belongs to it, and nothing else that belongs to a text. -/
theorem lookup_setKey (pairs : List (Value × Value)) (key v : Value) (name : String) :
    lookup (setKey pairs key v) name = if sameKey key (.text name) then some v else lookup pairs name := by
  rw [setKey]
  split
  · next hany =>
      -- A key that is there keeps its place, so something belongs to it.
      rw [lookup_replace]
      by_cases hname : sameKey key (.text name) = true
      · rcases List.any_eq_true.mp hany with ⟨pair, hpair, hsame⟩
        have hthere : lookup pairs name ≠ none := by
          rw [ne_eq, lookup_eq_none_iff]
          intro hnone
          rw [(sameKey_text key name).mp hname] at hsame
          exact hnone pair hpair ((sameKey_text pair.1 name).mp hsame)
        rcases Option.ne_none_iff_exists'.mp hthere with ⟨w, hw⟩
        rw [if_pos hname, if_pos hname, hw, Option.map_some]
      · rw [if_neg hname, if_neg hname]
  · next hnone =>
      rw [lookup_append, lookup_cons]
      by_cases hname : sameKey key (.text name) = true
      · have hfree : lookup pairs name = none := by
          rw [lookup_eq_none_iff]
          intro pair hpair heq
          refine hnone (List.any_eq_true.mpr ⟨pair, hpair, ?_⟩)
          rw [(sameKey_text key name).mp hname]
          exact (sameKey_text pair.1 name).mpr heq
        rw [hfree, Option.none_or, if_pos hname, if_pos hname]
      · rw [if_neg hname, if_neg hname]
        exact Option.or_none

theorem lookup_setKey_text (pairs : List (Value × Value)) (key name : String) (v : Value) :
    lookup (setKey pairs (.text key) v) name = if key = name then some v else lookup pairs name := by
  rw [lookup_setKey]
  simp only [sameKey_text, Value.text.injEq]

end Value

namespace Json

/-! ## The last member -/

/-- What the last member with a key holds. -/
def lastOf (members : List (Value × Value)) (key : String) : Option Value :=
  Value.lookup members.reverse key

theorem lastOf_append (members more : List (Value × Value)) (key : String) :
    lastOf (members ++ more) key = (lastOf more key).or (lastOf members key) := by
  rw [lastOf, List.reverse_append, Value.lookup_append, lastOf, lastOf]

theorem lastOf_singleton (name v : Value) (key : String) :
    lastOf [(name, v)] key = if name.sameKey (.text key) then some v else none := by
  rw [lastOf, List.reverse_singleton, Value.lookup_cons]
  rfl

theorem lastOf_cons (name v : Value) (key : String) (members : List (Value × Value)) :
    lastOf ((name, v) :: members) key =
      (lastOf members key).or (if name.sameKey (.text key) then some v else none) := by
  rw [← List.singleton_append, lastOf_append, lastOf_singleton]

/-- In what was gathered from the members of an object, the last member with a key is found. -/
theorem lookup_gather (members : List (Value × Value)) (key : String) :
    Value.lookup (gather members) key = lastOf members key := by
  -- The members are set from the first to the last, so the induction takes the last one away.
  induction members using List.reverseRecOn with
  | nil => rfl
  | append_singleton members member ih =>
      have hset : gather (members ++ [member]) = setMember (gather members) member := by
        rw [gather, List.foldl_append, List.foldl_cons, List.foldl_nil, gather]
      rw [hset, setMember, Value.lookup_setKey, ih, lastOf_append, lastOf_singleton]
      by_cases hkey : member.1.sameKey (.text key) = true
      · rw [if_pos hkey, if_pos hkey, Option.some_or]
      · rw [if_neg hkey, if_neg hkey, Option.none_or]

/-! ## Changes -/

/-- One change of the members of an object that leaves some keys as they are: neighbours with different keys are
    swapped, a member with another key is put in, or a member whose key comes again behind it. -/
inductive Edit (keys : List String) : List (Value × Value) → List (Value × Value) → Prop
  | swap (before after : List (Value × Value)) (first second : Value × Value) (h : first.1 ≠ second.1) :
      Edit keys (before ++ first :: second :: after) (before ++ second :: first :: after)
  | unknown (before after : List (Value × Value)) (key v : Value) (h : ∀ name ∈ keys, key ≠ .text name) :
      Edit keys (before ++ after) (before ++ (key, v) :: after)
  | repeated (before after : List (Value × Value)) (key v later : Value) (h : (key, later) ∈ after) :
      Edit keys (before ++ after) (before ++ (key, v) :: after)

/-- A key that some member has belongs to something. -/
theorem lastOf_isSome (members : List (Value × Value)) (key : String) (v : Value) (h : (.text key, v) ∈ members) :
    (lastOf members key).isSome := by
  rcases List.append_of_mem h with ⟨before, after, rfl⟩
  rw [lastOf_append, lastOf_cons, if_pos ((Value.sameKey_text _ key).mpr rfl), Option.isSome_or, Option.isSome_or,
    Option.isSome_some, Bool.or_true, Bool.true_or]

/-- A member that is put in changes nothing for keys that it does not have, or if its key comes again. -/
theorem lastOf_insert (before after : List (Value × Value)) (name v : Value) (key : String)
    (h : name = .text key → (lastOf after key).isSome) :
    lastOf (before ++ (name, v) :: after) key = lastOf (before ++ after) key := by
  rw [lastOf_append, lastOf_append, lastOf_cons]
  by_cases hname : name.sameKey (.text key) = true
  · rcases Option.isSome_iff_exists.mp (h ((Value.sameKey_text name key).mp hname)) with ⟨w, hw⟩
    rw [hw, Option.some_or, Option.some_or]
  · rw [if_neg hname, Option.or_none]

/-- A change keeps what belongs to the keys that matter. -/
theorem lastOf_edit (keys : List String) (members members' : List (Value × Value)) (h : Edit keys members members')
    (key : String) (hkey : key ∈ keys) : lastOf members key = lastOf members' key := by
  cases h with
  | swap before after first second hdistinct =>
      rcases first with ⟨a, v⟩
      rcases second with ⟨b, w⟩
      rw [lastOf_append, lastOf_append, lastOf_cons, lastOf_cons, lastOf_cons, lastOf_cons]
      -- At most one of the two neighbours has the key.
      by_cases ha : a.sameKey (.text key) = true
      · have hb : ¬b.sameKey (.text key) = true := fun hb =>
          hdistinct (((Value.sameKey_text a key).mp ha).trans ((Value.sameKey_text b key).mp hb).symm)
        rw [if_neg hb, Option.or_none, Option.or_none]
      · rw [if_neg ha, Option.or_none, Option.or_none]
  | unknown before after name v hname =>
      exact (lastOf_insert before after name v key fun heq => absurd heq (hname key hkey)).symm
  | repeated before after name v later hmem =>
      exact (lastOf_insert before after name v key fun heq => lastOf_isSome after key later (heq ▸ hmem)).symm

end Json

end CodeBehind
