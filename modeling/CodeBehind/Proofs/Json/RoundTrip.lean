import CodeBehind.Proofs.Json.Strings
import CodeBehind.Proofs.Text.Pieces

/-!
# Writing and reading JSON

Plain values are read back from the text they are written as.

A value is written at a depth and read wherever it stands, so what is proved of a value is proved for every depth and
for every text behind it. A list and a mapping are written in the same way, as rows on lines of their own between
brackets. What is behind the first row is called the remainder of the block, and the two readers of rows walk along it
in the same way: a comma leads to the next row, and a bracket ends the block. Of what the rows are made of the walk
only needs to know that it is read back, which is the hypothesis of the induction over the value.

Three things could go wrong and do not. The white space between the rows is skipped by the readers, and no row begins
with any. The keys of a mapping are set one after the other, which puts each of them behind the others as long as they
are different. And the recursion of the readers is bounded by a count, of which every row takes one and gives the rest
to the row behind it; a count of the length of the text is enough.

Numbers are left out. A fraction is written with few digits and read back by rounding, and an integer with too many
digits is refused.

## Main definitions

* `IsPlain`: The values that are read back.
* `remainder`: What stands behind the first row of a block.
* `ReadsBack`: What is proved of a value and the text it is written as.

## Main results

* `read_write`: Plain values are read back from their text.

## Theorems

* `toList_block`: The text of a block.
* `elements_remainder`, `members_remainder`: The rows of a list and of a mapping are read back.
* `readsBack_of_isPlain`: Plain values are read back wherever they stand.
* `return_notMem_write`: The text of a plain value has no carriage returns.
-/

namespace CodeBehind

namespace Json

/-- The entries of a mapping with these texts as keys. -/
def textPairs (pairs : List (String × Value)) : List (Value × Value) :=
  pairs.map fun pair => (.text pair.1, pair.2)

/-- The values that a text keeps as they are: null, truth values, texts, and lists and mappings of these, where the
    keys of a mapping are different texts. -/
inductive IsPlain : Value → Prop
  | null : IsPlain .null
  | truth (b : Bool) : IsPlain (.truth b)
  | text (s : String) : IsPlain (.text s)
  | list (items : List Value) (h : ∀ item ∈ items, IsPlain item) : IsPlain (.list items)
  | mapping (pairs : List (String × Value)) (hkeys : (pairs.map Prod.fst).Nodup)
      (h : ∀ pair ∈ pairs, IsPlain pair.2) : IsPlain (.mapping (textPairs pairs))

/-! ## Blocks -/

/-- What stands behind the first row of a block that begins at a depth: the other rows, each behind a comma and on a
    line of its own, and the bracket that closes the block. -/
def remainder (depth : Nat) (close : Char) : List (List Char) → List Char
  | [] => (newline depth).toList ++ [close]
  | row :: rows => ',' :: ((newline (depth + 1)).toList ++ (row ++ remainder depth close rows))

theorem toList_newline (depth : Nat) : (newline depth).toList = '\n' :: List.replicate (2 * depth) ' ' := by
  rw [newline, String.toList_append]
  exact congrArg ('\n' :: ·) String.toList_ofList

/-- A line break is skipped with its indentation. -/
theorem skipSpace_newline (depth : Nat) (cs : List Char) : skipSpace ((newline depth).toList ++ cs) = skipSpace cs := by
  have hspaces : ∀ c ∈ (newline depth).toList, isSpace c = true := by
    intro c hc
    rw [toList_newline, List.mem_cons] at hc
    rcases hc with hfeed | hspace
    · rw [hfeed]
      decide
    · rw [List.eq_of_mem_replicate hspace]
      decide
  exact List.dropWhile_append_of_pos hspaces

theorem skipSpace_cons (c : Char) (cs : List Char) (hc : isSpace c = false) : skipSpace (c :: cs) = c :: cs :=
  List.dropWhile_cons_of_neg (Bool.eq_false_iff.mp hc)

/-- The rows of a block with what closes it: the first row, and the remainder. -/
theorem toList_block (depth : Nat) (close : Char) (row : String) (rows : List String) :
    (",".intercalate ((row :: rows).map (newline (depth + 1) ++ ·)) ++ newline depth ++
      String.singleton close).toList =
      (newline (depth + 1)).toList ++ (row.toList ++ remainder depth close (rows.map String.toList)) := by
  induction rows generalizing row with
  | nil =>
      rw [List.map_singleton, String.intercalate_singleton]
      simp only [String.toList_append, String.toList_singleton, List.append_assoc, List.map_nil, remainder]
  | cons next rest ih =>
      rw [List.map_cons, List.map_cons, String.intercalate_cons_cons, ← List.map_cons]
      have hlater := ih next
      simp only [String.toList_append, String.toList_singleton, List.append_assoc] at hlater ⊢
      -- The other rows are a block of their own behind the comma.
      rw [hlater, List.map_cons, remainder]
      rfl

/-- One row of a mapping: the key and the value. -/
def memberText (depth : Nat) (pair : String × Value) : String :=
  stringText pair.1 ++ ": " ++ writeAt depth pair.2

theorem itemsAt_eq (depth : Nat) (items : List Value) :
    itemsAt depth items = (items.map (writeAt depth)).map (newline depth ++ ·) := by
  induction items with
  | nil => rw [itemsAt, List.map_nil, List.map_nil]
  | cons item rest ih => rw [itemsAt, ih, List.map_cons, List.map_cons]

theorem pairsAt_eq (depth : Nat) (pairs : List (String × Value)) :
    pairsAt depth (textPairs pairs) = (pairs.map (memberText depth)).map (newline depth ++ ·) := by
  induction pairs with
  | nil => rw [textPairs, List.map_nil, pairsAt, List.map_nil, List.map_nil]
  | cons pair rest ih =>
      rw [textPairs, List.map_cons, ← textPairs, pairsAt, ih, List.map_cons, List.map_cons, memberText, Value.display,
        String.append_assoc, String.append_assoc, String.append_assoc]

theorem toList_writeAt_list (depth : Nat) (item : Value) (items : List Value) :
    (writeAt depth (.list (item :: items))).toList =
      '[' :: ((newline (depth + 1)).toList ++ ((writeAt (depth + 1) item).toList ++
        remainder depth ']' (items.map fun item => (writeAt (depth + 1) item).toList))) := by
  have hblock := toList_block depth ']' (writeAt (depth + 1) item) (items.map (writeAt (depth + 1)))
  rw [List.map_map] at hblock
  rw [writeAt, itemsAt_eq, List.map_cons, String.append_assoc, String.append_assoc, String.toList_append,
    ← String.append_assoc]
  · exact congrArg ('[' :: ·) hblock
  · exact List.cons_ne_nil _ _

theorem toList_writeAt_mapping (depth : Nat) (pair : String × Value) (pairs : List (String × Value)) :
    (writeAt depth (.mapping (textPairs (pair :: pairs)))).toList =
      '\x7b' :: ((newline (depth + 1)).toList ++ ((memberText (depth + 1) pair).toList ++
        remainder depth '\x7d' (pairs.map fun pair => (memberText (depth + 1) pair).toList))) := by
  have hblock := toList_block depth '\x7d' (memberText (depth + 1) pair) (pairs.map (memberText (depth + 1)))
  have hpairs := pairsAt_eq (depth + 1) (pair :: pairs)
  rw [List.map_map] at hblock
  rw [textPairs, List.map_cons] at hpairs ⊢
  rw [writeAt, hpairs, List.map_cons, String.append_assoc, String.append_assoc, String.toList_append,
    ← String.append_assoc]
  · exact congrArg ('\x7b' :: ·) hblock
  · exact List.cons_ne_nil _ _

/-! ## Reading -/

/-- The characters with which the text of a plain value begins. -/
def openers : List Char := ['n', 't', 'f', '"', '[', '\x7b']

theorem of_mem_openers (c : Char) (hc : c ∈ openers) : isSpace c = false ∧ c ≠ ']' ∧ c ≠ '\uFEFF' := by
  have hall : openers.all (fun c => !isSpace c && (c != ']' && c != '\uFEFF')) = true := by decide
  have hthis := List.all_eq_true.mp hall c hc
  rwa [Bool.and_eq_true, Bool.and_eq_true, Bool.not_eq_true', bne_iff_ne, bne_iff_ne] at hthis

/-- A value is read back from its text at any depth and before any rest, as long as the count is not less than the
    length of the text. -/
structure ReadsBack (v : Value) : Prop where
  begins : ∀ depth, ∃ c cs, (writeAt depth v).toList = c :: cs ∧ c ∈ openers
  read : ∀ depth fuel rest, (writeAt depth v).toList.length ≤ fuel →
    value fuel ((writeAt depth v).toList ++ rest) = .ok (v, rest)

/-- White space is skipped up to the text of a value and not further. -/
theorem skipSpace_writeAt (v : Value) (h : ReadsBack v) (depth : Nat) (rest : List Char) :
    skipSpace ((writeAt depth v).toList ++ rest) = (writeAt depth v).toList ++ rest := by
  rcases h.begins depth with ⟨c, cs, heq, hc⟩
  rw [heq]
  exact skipSpace_cons c _ (of_mem_openers c hc).1

theorem skipSpace_remainder_nil (depth : Nat) (close : Char) (rest : List Char) (hclose : isSpace close = false) :
    skipSpace (remainder depth close [] ++ rest) = close :: rest := by
  rw [remainder, List.append_assoc, skipSpace_newline]
  exact skipSpace_cons close rest hclose

/-- A comma and white space lead to the next row. -/
theorem skipSpace_remainder_cons (depth : Nat) (close : Char) (row : List Char) (rows : List (List Char))
    (rest : List Char) :
    skipSpace (remainder depth close (row :: rows) ++ rest) =
      ',' :: ((newline (depth + 1)).toList ++ (row ++ (remainder depth close rows ++ rest))) := by
  rw [remainder, List.cons_append, List.append_assoc, List.append_assoc]
  exact skipSpace_cons ',' _ rfl

theorem length_remainder_cons (depth : Nat) (close : Char) (row : List Char) (rows : List (List Char)) :
    row.length + (remainder depth close rows).length < (remainder depth close (row :: rows)).length := by
  rw [remainder, List.length_cons, List.length_append, List.length_append]
  omega

theorem elements_last (fuel : Nat) (cs tail rest : List Char) (v : Value) (hvalue : value fuel cs = .ok (v, tail))
    (htail : skipSpace tail = ']' :: rest) : elements (fuel + 1) cs = .ok ([v], rest) := by
  rw [elements, hvalue]
  simp only [bind, Except.bind, htail]

theorem elements_next (fuel : Nat) (cs tail more rest : List Char) (v : Value) (items : List Value)
    (hvalue : value fuel cs = .ok (v, tail)) (htail : skipSpace tail = ',' :: more)
    (hlater : elements fuel (skipSpace more) = .ok (items, rest)) :
    elements (fuel + 1) cs = .ok (v :: items, rest) := by
  rw [elements, hvalue]
  simp only [bind, Except.bind, htail, hlater, pure, Except.pure]

/-- The rows of a list are read back, one after the other. -/
theorem elements_remainder (depth : Nat) (items : List Value) (hitems : ∀ item ∈ items, ReadsBack item) (item : Value)
    (hitem : ReadsBack item) (fuel : Nat) (rest : List Char)
    (hfuel : (writeAt (depth + 1) item).toList.length +
      (remainder depth ']' (items.map fun item => (writeAt (depth + 1) item).toList)).length ≤ fuel) :
    elements fuel ((writeAt (depth + 1) item).toList ++
        (remainder depth ']' (items.map fun item => (writeAt (depth + 1) item).toList) ++ rest)) =
      .ok (item :: items, rest) := by
  induction items generalizing item fuel with
  | nil =>
      have hpositive : 0 < (remainder depth ']' []).length := by
        rw [remainder, List.length_append, List.length_singleton]
        exact Nat.succ_pos _
      rw [List.map_nil] at hfuel ⊢
      rcases Nat.exists_eq_add_one.mpr (show 0 < fuel by omega) with ⟨k, hk⟩
      rw [hk]
      have hvalue := hitem.read (depth + 1) k (remainder depth ']' [] ++ rest) (by omega)
      exact elements_last k _ _ rest item hvalue (skipSpace_remainder_nil depth ']' rest rfl)
  | cons next items ih =>
      have hnext := hitems next (List.mem_cons_self ..)
      have hlater := fun k => ih (fun item hmem => hitems item (List.mem_cons_of_mem _ hmem)) next hnext k
      rw [List.map_cons] at hfuel ⊢
      generalize items.map (fun item => (writeAt (depth + 1) item).toList) = rows at hfuel hlater ⊢
      have hless := length_remainder_cons depth ']' (writeAt (depth + 1) next).toList rows
      -- The row takes one of the count and leaves the others to the rows behind it.
      rcases Nat.exists_eq_add_one.mpr (show 0 < fuel by omega) with ⟨k, hk⟩
      rw [hk]
      have hvalue := hitem.read (depth + 1) k
        (remainder depth ']' ((writeAt (depth + 1) next).toList :: rows) ++ rest) (by omega)
      refine elements_next k _ _ _ rest item _ hvalue (skipSpace_remainder_cons depth ']' _ rows rest) ?_
      rw [skipSpace_newline, skipSpace_writeAt next hnext]
      exact hlater k (by omega)

/-! ## Mappings -/

/-- A new key goes behind the others. -/
theorem setKey_textPairs (done : List (String × Value)) (key : String) (v : Value) (h : key ∉ done.map Prod.fst) :
    Value.setKey (textPairs done) (.text key) v = textPairs (done ++ [(key, v)]) := by
  have hsame : ∀ a b, Value.sameKey (.text a) (.text b) = (a == b) := fun _ _ => rfl
  have hnew : ¬ ((textPairs done).any fun p => Value.sameKey p.1 (.text key)) = true := by
    rw [List.any_eq_true]
    rintro ⟨p, hp, hkey⟩
    rcases List.mem_map.mp hp with ⟨pair, hpair, heq⟩
    rw [← heq, hsame, beq_iff_eq] at hkey
    exact h (List.mem_map.mpr ⟨pair, hpair, hkey⟩)
  rw [Value.setKey, if_neg hnew, textPairs, textPairs, List.map_append, List.map_singleton]

/-- The reader takes the key of a member and stands at its value. -/
theorem exists_memberText (depth : Nat) (pair : String × Value) (tail : List Char) :
    ∃ cs, (memberText depth pair).toList ++ tail = '"' :: cs ∧
      string cs = .ok (Point.ofString pair.1, ':' :: ' ' :: ((writeAt depth pair.2).toList ++ tail)) := by
  refine ⟨_, ?_, string_flatMap pair.1 _⟩
  rw [memberText, String.toList_append, String.toList_append, toList_stringText]
  simp only [List.append_assoc, List.cons_append, List.nil_append]
  rfl

theorem length_memberText (depth : Nat) (pair : String × Value) :
    (writeAt depth pair.2).toList.length < (memberText depth pair).toList.length := by
  rw [memberText, String.toList_append, String.toList_append, List.length_append, List.length_append,
    toList_stringText, List.length_cons]
  omega

/-- A member is read and set. Then a brace ends the mapping, or a comma leads to the next member. -/
theorem members_row (fuel : Nat) (done : List (Value × Value)) (depth : Nat) (pair : String × Value)
    (tail : List Char) (hvalue : ReadsBack pair.2) (hfuel : (writeAt depth pair.2).toList.length ≤ fuel) :
    (∀ rest, skipSpace tail = '\x7d' :: rest →
        members (fuel + 1) done ((memberText depth pair).toList ++ tail) =
          .ok (Value.setKey done (.text pair.1) pair.2, rest)) ∧
      ∀ more, skipSpace tail = ',' :: more →
        members (fuel + 1) done ((memberText depth pair).toList ++ tail) =
          members fuel (Value.setKey done (.text pair.1) pair.2) (skipSpace more) := by
  rcases exists_memberText depth pair tail with ⟨cs, hmember, hkey⟩
  -- The space behind the colon is the only one before the value.
  have hspace : skipSpace (' ' :: ((writeAt depth pair.2).toList ++ tail)) = (writeAt depth pair.2).toList ++ tail :=
    skipSpace_writeAt pair.2 hvalue depth tail
  have hread := hvalue.read depth fuel tail hfuel
  rw [hmember, members, hkey]
  constructor
  · intro rest htail
    simp only [bind, Except.bind, skipSpace_cons ':' _ rfl, hspace, hread, htail, ofPoints_ofString]
  · intro more htail
    simp only [bind, Except.bind, skipSpace_cons ':' _ rfl, hspace, hread, htail, ofPoints_ofString]

theorem skipSpace_memberText (depth : Nat) (pair : String × Value) (tail : List Char) :
    skipSpace ((memberText depth pair).toList ++ tail) = (memberText depth pair).toList ++ tail := by
  rcases exists_memberText depth pair tail with ⟨cs, hmember, _⟩
  rw [hmember]
  exact skipSpace_cons '"' cs rfl

theorem notMem_of_nodup_keys (done pairs : List (String × Value)) (pair : String × Value)
    (h : ((done ++ pair :: pairs).map Prod.fst).Nodup) : pair.1 ∉ done.map Prod.fst := by
  rw [List.map_append, List.map_cons, List.nodup_append] at h
  intro hmem
  exact h.2.2 pair.1 hmem pair.1 (List.mem_cons_self ..) rfl

/-- The rows of a mapping are read back behind the members that have been read before. -/
theorem members_remainder (depth : Nat) (pairs : List (String × Value)) (hpairs : ∀ pair ∈ pairs, ReadsBack pair.2)
    (done : List (String × Value)) (pair : String × Value) (hpair : ReadsBack pair.2)
    (hkeys : ((done ++ pair :: pairs).map Prod.fst).Nodup) (fuel : Nat) (rest : List Char)
    (hfuel : (memberText (depth + 1) pair).toList.length +
      (remainder depth '\x7d' (pairs.map fun pair => (memberText (depth + 1) pair).toList)).length ≤ fuel) :
    members fuel (textPairs done) ((memberText (depth + 1) pair).toList ++
        (remainder depth '\x7d' (pairs.map fun pair => (memberText (depth + 1) pair).toList) ++ rest)) =
      .ok (textPairs (done ++ pair :: pairs), rest) := by
  induction pairs generalizing done pair fuel with
  | nil =>
      have hless := length_memberText (depth + 1) pair
      rcases Nat.exists_eq_add_one.mpr (show 0 < fuel by omega) with ⟨k, hk⟩
      have hrow := members_row k (textPairs done) (depth + 1) pair (remainder depth '\x7d' [] ++ rest) hpair (by omega)
      rw [hk, List.map_nil, hrow.1 rest (skipSpace_remainder_nil depth '\x7d' rest rfl),
        setKey_textPairs done pair.1 pair.2 (notMem_of_nodup_keys done [] pair hkeys)]
  | cons next pairs ih =>
      have hnext := hpairs next (List.mem_cons_self ..)
      have hdone := setKey_textPairs done pair.1 pair.2 (notMem_of_nodup_keys done (next :: pairs) pair hkeys)
      -- The member is one of those that are done when the next one is read.
      have hmoved : done ++ pair :: next :: pairs = done ++ [pair] ++ next :: pairs := by
        rw [List.append_assoc, List.singleton_append]
      rw [hmoved] at hkeys ⊢
      have hlater := fun k =>
        ih (fun pair hmem => hpairs pair (List.mem_cons_of_mem _ hmem)) (done ++ [pair]) next hnext hkeys k
      rw [List.map_cons] at hfuel ⊢
      generalize pairs.map (fun pair => (memberText (depth + 1) pair).toList) = rows at hfuel hlater ⊢
      have hless := length_memberText (depth + 1) pair
      have hrest := length_remainder_cons depth '\x7d' (memberText (depth + 1) next).toList rows
      -- The member takes one of the count and leaves the others to the members behind it.
      rcases Nat.exists_eq_add_one.mpr (show 0 < fuel by omega) with ⟨k, hk⟩
      have hrow := members_row k (textPairs done) (depth + 1) pair
        (remainder depth '\x7d' ((memberText (depth + 1) next).toList :: rows) ++ rest) hpair (by omega)
      rw [hk, hrow.2 _ (skipSpace_remainder_cons depth '\x7d' _ rows rest), hdone, skipSpace_newline,
        skipSpace_memberText]
      exact hlater k (by omega)

/-! ## Values -/

/-- A list that is not empty is read by its elements. -/
theorem value_bracket (fuel : Nat) (c : Char) (cs tail : List Char) (hcs : skipSpace cs = c :: tail)
    (hc : c ≠ ']') :
    value (fuel + 1) ('[' :: cs) = (elements fuel (c :: tail)).map fun read => (.list read.1, read.2) := by
  rw [value, hcs]
  split
  · next heq => exact absurd (List.cons.inj heq).1 hc
  · cases elements fuel (c :: tail) <;> rfl

/-- A mapping that is not empty is read by its members. -/
theorem value_brace (fuel : Nat) (c : Char) (cs tail : List Char) (hcs : skipSpace cs = c :: tail)
    (hc : c ≠ '\x7d') :
    value (fuel + 1) ('\x7b' :: cs) = (members fuel [] (c :: tail)).map fun read => (.mapping read.1, read.2) := by
  rw [value, hcs]
  split
  · next heq => exact absurd (List.cons.inj heq).1 hc
  · cases members fuel [] (c :: tail) <;> rfl

/-- A value is read back if its text is one of the names or a string, which the reader knows from the first
    character. -/
theorem readsBack_of_text (v : Value) (text : String) (c : Char) (cs : List Char)
    (hwrite : ∀ depth, writeAt depth v = text) (htext : text.toList = c :: cs) (hc : c ∈ openers)
    (hread : ∀ fuel rest, value (fuel + 1) (text.toList ++ rest) = .ok (v, rest)) : ReadsBack v where
  begins depth := ⟨c, cs, by rw [hwrite, htext], hc⟩
  read depth fuel rest hfuel := by
    rw [hwrite, htext, List.length_cons] at hfuel
    rcases Nat.exists_eq_add_one.mpr (show 0 < fuel by omega) with ⟨k, hk⟩
    rw [hwrite, hk, hread]

theorem readsBack_list (items : List Value) (h : ∀ item ∈ items, ReadsBack item) : ReadsBack (.list items) := by
  cases items with
  | nil => exact readsBack_of_text _ "[]" '[' [']'] (fun _ => by rw [writeAt]) rfl (by decide) (fun _ _ => rfl)
  | cons item items =>
      have hitem := h item (List.mem_cons_self ..)
      have hitems := fun item hmem => h item (List.mem_cons_of_mem _ hmem)
      refine ⟨fun depth => ⟨'[', _, toList_writeAt_list depth item items, by decide⟩, fun depth fuel rest hfuel => ?_⟩
      rw [toList_writeAt_list, List.length_cons, List.length_append, List.length_append] at hfuel
      rcases Nat.exists_eq_add_one.mpr (show 0 < fuel by omega) with ⟨k, hk⟩
      -- The first row does not begin with the bracket that ends an empty list.
      have hrows := elements_remainder depth items hitems item hitem k rest (by omega)
      have hskip := skipSpace_writeAt item hitem (depth + 1)
        (remainder depth ']' (items.map fun item => (writeAt (depth + 1) item).toList) ++ rest)
      rcases hitem.begins (depth + 1) with ⟨c, cs, heq, hc⟩
      rw [toList_writeAt_list, hk, List.cons_append, List.append_assoc, List.append_assoc]
      rw [heq, List.cons_append] at hrows hskip
      refine (value_bracket k c _ _ ?_ (of_mem_openers c hc).2.1).trans (congrArg (Except.map _) hrows)
      rw [skipSpace_newline, heq]
      exact hskip

theorem readsBack_mapping (pairs : List (String × Value)) (hkeys : (pairs.map Prod.fst).Nodup)
    (h : ∀ pair ∈ pairs, ReadsBack pair.2) : ReadsBack (.mapping (textPairs pairs)) := by
  cases pairs with
  | nil =>
      exact readsBack_of_text _ "\x7b\x7d" '\x7b' ['\x7d'] (fun _ => by rw [textPairs, List.map_nil, writeAt]) rfl
        (by decide) (fun _ _ => rfl)
  | cons pair pairs =>
      have hpair := h pair (List.mem_cons_self ..)
      have hpairs := fun pair hmem => h pair (List.mem_cons_of_mem _ hmem)
      refine ⟨fun depth => ⟨'\x7b', _, toList_writeAt_mapping depth pair pairs, by decide⟩,
        fun depth fuel rest hfuel => ?_⟩
      rw [toList_writeAt_mapping, List.length_cons, List.length_append, List.length_append] at hfuel
      rcases Nat.exists_eq_add_one.mpr (show 0 < fuel by omega) with ⟨k, hk⟩
      -- The rows are read back into an empty mapping, one after the other, by what is known of each value.
      have hrows := members_remainder depth pairs hpairs [] pair hpair hkeys k rest (by omega)
      rcases exists_memberText (depth + 1) pair
        (remainder depth '\x7d' (pairs.map fun pair => (memberText (depth + 1) pair).toList) ++ rest) with ⟨cs, heq, _⟩
      rw [toList_writeAt_mapping, hk, List.cons_append, List.append_assoc, List.append_assoc]
      rw [heq] at hrows ⊢
      refine (value_brace k '"' _ cs ?_ (by decide)).trans (congrArg (Except.map _) hrows)
      rw [skipSpace_newline]
      exact skipSpace_cons '"' cs rfl

/-- Plain values are read back, at any depth and before any rest. -/
theorem readsBack_of_isPlain (v : Value) (h : IsPlain v) : ReadsBack v := by
  induction h with
  | null => exact readsBack_of_text _ "null" 'n' _ (fun _ => by rw [writeAt]) rfl (by decide) (fun _ _ => rfl)
  | truth b =>
      cases b with
      | true =>
          exact readsBack_of_text _ "true" 't' _ (fun _ => by rw [writeAt]; rfl) rfl (by decide) (fun _ _ => rfl)
      | false =>
          exact readsBack_of_text _ "false" 'f' _ (fun _ => by rw [writeAt]; rfl) rfl (by decide) (fun _ _ => rfl)
  | text s =>
      refine readsBack_of_text _ (stringText s) '"' _ (fun _ => by rw [writeAt]) (toList_stringText s) (by decide) ?_
      intro fuel rest
      rw [toList_stringText, List.cons_append, List.append_assoc, List.singleton_append, value, string_flatMap]
      simp only [bind, Except.bind, pure, Except.pure, ofPoints_ofString]
  | list items _ ih => exact readsBack_list items ih
  | mapping pairs hkeys _ ih => exact readsBack_mapping pairs hkeys ih

/-- Plain values are read back from their text. -/
theorem read_write (v : Value) (h : IsPlain v) : read (write v).toList = .ok v := by
  have hback := readsBack_of_isPlain v h
  have hskip := skipSpace_writeAt v hback 0 []
  have hread := hback.read 0 (2 * (write v).toList.length + 2) [] (by rw [write]; omega)
  have hmark : ¬ (write v).toList.head? = some '\uFEFF' := by
    rcases hback.begins 0 with ⟨c, cs, heq, hc⟩
    rw [write, heq, List.head?_cons, Option.some.injEq]
    exact (of_mem_openers c hc).2.2
  rw [List.append_nil] at hskip hread
  rw [read, if_neg hmark]
  rw [← write] at hskip hread
  simp only [hskip, hread, bind, Except.bind]
  rfl

/-! ## Line ends -/

theorem return_notMem_newline (depth : Nat) : '\r' ∉ (newline depth).toList := by
  rw [toList_newline, List.mem_cons, not_or]
  exact ⟨by decide, fun hmem => absurd (List.eq_of_mem_replicate hmem) (by decide)⟩

theorem return_notMem_remainder (depth : Nat) (close : Char) (rows : List (List Char)) (hclose : '\r' ≠ close)
    (h : ∀ row ∈ rows, '\r' ∉ row) : '\r' ∉ remainder depth close rows := by
  induction rows with
  | nil =>
      rw [remainder, List.mem_append, List.mem_singleton, not_or]
      exact ⟨return_notMem_newline depth, hclose⟩
  | cons row rows ih =>
      have hrow := h row (List.mem_cons_self ..)
      have hrows := ih fun row hmem => h row (List.mem_cons_of_mem _ hmem)
      rw [remainder, List.mem_cons, List.mem_append, List.mem_append, not_or, not_or, not_or]
      exact ⟨by decide, return_notMem_newline _, hrow, hrows⟩

/-- A block has no carriage returns if its rows have none. -/
theorem return_notMem_block (depth : Nat) (opening close : Char) (row : List Char) (rows : List (List Char))
    (hopening : '\r' ≠ opening) (hclose : '\r' ≠ close) (hrow : '\r' ∉ row) (hrows : ∀ row ∈ rows, '\r' ∉ row) :
    '\r' ∉ opening :: ((newline (depth + 1)).toList ++ (row ++ remainder depth close rows)) := by
  rw [List.mem_cons, List.mem_append, List.mem_append, not_or, not_or, not_or]
  exact ⟨hopening, return_notMem_newline _, hrow, return_notMem_remainder depth close rows hclose hrows⟩

theorem return_notMem_memberText (depth : Nat) (pair : String × Value) (h : '\r' ∉ (writeAt depth pair.2).toList) :
    '\r' ∉ (memberText depth pair).toList :=
  Text.notMem_append _ _ _ (Text.notMem_append _ _ _ (return_notMem_stringText pair.1) (by decide)) h

theorem return_notMem_writeAt (v : Value) (h : IsPlain v) (depth : Nat) : '\r' ∉ (writeAt depth v).toList := by
  induction h generalizing depth with
  | null =>
      rw [writeAt]
      decide
  | truth b =>
      rw [writeAt]
      cases b <;> decide
  | text s =>
      rw [writeAt]
      exact return_notMem_stringText s
  | list items _ ih =>
      cases items with
      | nil =>
          rw [writeAt]
          decide
      | cons item items =>
          rw [toList_writeAt_list]
          -- A block takes its first row apart from the others, which follow commas.
          refine return_notMem_block depth _ _ _ _ (by decide) (by decide) (ih item (List.mem_cons_self ..) _) ?_
          intro row hrow
          rcases List.mem_map.mp hrow with ⟨other, hother, heq⟩
          rw [← heq]
          exact ih other (List.mem_cons_of_mem _ hother) _
  | mapping pairs _ _ ih =>
      cases pairs with
      | nil =>
          rw [textPairs, List.map_nil, writeAt]
          decide
      | cons pair pairs =>
          rw [toList_writeAt_mapping]
          refine return_notMem_block depth _ _ _ _ (by decide) (by decide)
            (return_notMem_memberText _ pair (ih pair (List.mem_cons_self ..) _)) ?_
          intro row hrow
          rcases List.mem_map.mp hrow with ⟨other, hother, heq⟩
          rw [← heq]
          exact return_notMem_memberText _ other (ih other (List.mem_cons_of_mem _ hother) _)

/-- The text of a plain value has no carriage returns, so unified line ends are its own. -/
theorem return_notMem_write (v : Value) (h : IsPlain v) : '\r' ∉ (write v).toList :=
  return_notMem_writeAt v h 0

end Json

end CodeBehind
