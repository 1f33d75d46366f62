import CodeBehind.Proofs.Json.Lexemes
import CodeBehind.Proofs.Json.RoundTrip

/-!
# Reading documents of JSON

The reader returns a value for the documents that denote it, and for no other text.

That every document is read is an induction on how it is composed. What is proved of a part depends on what it is
(`IsRead`): a value is read before everything that may follow it, and elements and members are read up to the bracket
behind them. In each case the count of the reader is as large as the text, and since every part is shorter than the
whole, it never runs out.

That whatever is read is a document is an induction on the count, for the three readers at once (`ReadsWritten`). The
white space that the readers skip on their way belongs to the part that comes next, so a part may be given white space
in front (`written_space_elements`, `written_space_members`).

Together they say that the grammar decides what is read (`read_eq_ok_iff`), and that no document denotes two values.

The grammar that is meant is the one with the limit of the reader on the digits of whole numbers. The first induction is
about the grammar with any limit or none, and says of every part with which fault it is refused, if it is: that of the
first number that is too long (`exists_isRead_of_written`). So a document of the grammar without a limit is read or
refused for such a number, and there is no third way.

## Main definitions

* `Follows`: What can stand behind a value.
* `IsRead`: A part of a document is read, or refused for a number with too many digits.
* `ReadsWritten`: What is read with a count is a part of a document.

## Main results

* `read_eq_ok_iff`: A text is read as a value exactly if it is a document that denotes the value.
* `isDocument_unique`: A document denotes one value.
* `not_isDocument_of_excess`: A document beyond the limit is refused.

## Theorems

* `exists_isRead_of_written`: Every part of a document is read, or refused for such a number.
* `elements_cases`, `members_cases`: One step of reading elements and members.
* `readsWritten`: Whatever is read is a part of a document.
-/

namespace CodeBehind

namespace Json

/-! ## White space -/

theorem skipSpace_append (space cs : List Char) (h : AllSpace space) : skipSpace (space ++ cs) = skipSpace cs :=
  List.dropWhile_append_of_pos h

theorem allSpace_append {space more : List Char} (h : AllSpace space) (hmore : AllSpace more) :
    AllSpace (space ++ more) :=
  List.forall_mem_append.mpr ⟨h, hmore⟩

theorem exists_skipSpace (cs : List Char) : ∃ space, AllSpace space ∧ cs = space ++ skipSpace cs :=
  ⟨cs.takeWhile isSpace, fun _ hc => List.mem_takeWhile_imp hc, List.takeWhile_append_dropWhile.symm⟩

/-- What can stand behind a value: nothing, white space, a comma or a closing bracket. -/
def Follows (rest : List Char) : Prop :=
  ∀ c cs, rest = c :: cs → isSpace c = true ∨ c = ',' ∨ c = ']' ∨ c = '\x7d'

theorem follows_nil : Follows [] :=
  fun _ _ heq => absurd heq (List.cons_ne_nil _ _).symm

theorem follows_append (space rest : List Char) (hspace : AllSpace space) (hrest : Follows rest) :
    Follows (space ++ rest) := by
  intro c cs heq
  cases space with
  | nil => exact hrest c cs heq
  | cons d space =>
      rw [List.cons_append] at heq
      rw [← (List.cons.inj heq).1]
      exact .inl (hspace d List.mem_cons_self)

theorem follows_cons (c : Char) (cs : List Char) (hc : c = ',' ∨ c = ']' ∨ c = '\x7d') : Follows (c :: cs) := by
  intro d ds heq
  rw [← (List.cons.inj heq).1]
  exact .inr hc

/-- No number goes on where a value may end. -/
theorem endsNumber_of_follows (rest : List Char) (h : Follows rest) : EndsNumber rest := by
  intro c cs heq
  have hspace : isSpace c = true → c = ' ' ∨ c = '\t' ∨ c = '\n' ∨ c = '\r' := by
    simp [isSpace, or_assoc]
  rcases h c cs heq with hc | rfl | rfl | rfl
  · rcases hspace hc with rfl | rfl | rfl | rfl <;> decide
  · decide
  · decide
  · decide

/-! ## Names -/

/-- Every name is read before any rest. -/
theorem name?_of_mem (name : String) (v : Value) (rest : List Char) (h : (name, v) ∈ names) :
    name? (name.toList ++ rest) = some (v, rest) := by
  simp only [names, List.mem_cons, Prod.mk.injEq, List.not_mem_nil, or_false] at h
  rcases h with ⟨rfl, rfl⟩ | ⟨rfl, rfl⟩ | ⟨rfl, rfl⟩ | ⟨rfl, rfl⟩ | ⟨rfl, rfl⟩ | ⟨rfl, rfl⟩ <;> rfl

theorem exists_mem_of_name? (cs rest : List Char) (v : Value) (h : name? cs = some (v, rest)) :
    ∃ name, (name, v) ∈ names ∧ cs = name.toList ++ rest := by
  rcases List.exists_of_findSome?_eq_some h with ⟨⟨name, v'⟩, hmem, hfound⟩
  simp only at hfound
  split at hfound
  · next hprefix =>
      obtain ⟨rfl, rfl⟩ := Prod.mk.inj (Option.some.inj hfound)
      rcases List.isPrefixOf_iff_prefix.mp hprefix with ⟨tail, rfl⟩
      exact ⟨name, hmem, by rw [List.drop_left]⟩
  · cases hfound

/-- A name is neither a digit nor a sign with one behind it. -/
theorem name?_of_digit (sign : Bool) (d : Char) (cs : List Char) (hd : d.isDigit = true) :
    name? (signText sign ++ d :: cs) = none := by
  -- A sign at the most stands in front of the digit, so the first two characters of a name decide.
  have hheads : ∀ name ∈ names.map Prod.fst, ∃ c c' more, name.toList = c :: c' :: more ∧ c.isDigit = false ∧
      c'.isDigit = false := by
    intro name hmem
    simp only [names, List.map_cons, List.map_nil, List.mem_cons, List.not_mem_nil, or_false] at hmem
    rcases hmem with rfl | rfl | rfl | rfl | rfl | rfl <;> exact ⟨_, _, _, rfl, by decide, by decide⟩
  refine List.findSome?_eq_none_iff.mpr fun entry hmem => ?_
  rcases hheads entry.1 (List.mem_map_of_mem hmem) with ⟨c, c', more, hname, hc, hc'⟩
  have hne (e : Char) (he : e.isDigit = false) : (e == d) = false :=
    beq_eq_false_iff_ne.mpr (ne_of_isDigit d e hd he).symm
  change (if entry.1.toList.isPrefixOf _ = true then some (entry.2, _) else none) = none
  rw [hname]
  cases sign with
  | true => simp [signText, List.isPrefixOf, hne c' hc']
  | false => simp [signText, List.isPrefixOf, hne c hc]

theorem exists_cons_of_numeral (limit : Option Nat) (w : List Char) (v : Value) (h : Numeral limit w v) :
    ∃ sign d more, w = signText sign ++ d :: more ∧ d.isDigit = true := by
  cases h with
  | whole negative ds h _ =>
      rcases exists_cons_of_isWhole ds h with ⟨d, more, rfl, hd⟩
      exact ⟨negative, d, more, rfl, hd⟩
  | real negative ds fraction decimals power exponent h _ _ _ =>
      rcases exists_cons_of_isWhole ds h with ⟨d, more, rfl, hd⟩
      exact ⟨negative, d, _, rfl, hd⟩

/-! ## Values -/

/-- A character with which a value begins. -/
def IsStarter (c : Char) : Prop :=
  isSpace c = false ∧ c ≠ ']' ∧ c ≠ '\x7d' ∧ c ≠ '\uFEFF'

/-- A value that is neither a string nor a mapping nor a list is a name or a number. -/
theorem value_scalar (fuel : Nat) (c : Char) (cs : List Char) (hquote : c ≠ '"') (hbrace : c ≠ '\x7b')
    (hbracket : c ≠ '[') :
    value (fuel + 1) (c :: cs) = (name? (c :: cs)).elim (number (c :: cs)) .ok := by
  rw [value]
  · cases name? (c :: cs) <;> rfl
  · exact fun rest heq => hquote (List.cons.inj heq).1
  · exact fun rest heq => hbrace (List.cons.inj heq).1
  · exact fun rest heq => hbracket (List.cons.inj heq).1

/-- What is proved of a part of a document and its text. A value is read before whatever may follow it, and the
    elements and the members up to the bracket that closes them, unless a number in them has too many digits. -/
def IsRead (long : Option Nat) (w : List Char) : Part → Prop
  | .value v => (∃ c cs, w = c :: cs ∧ IsStarter c) ∧
      ∀ fuel rest, w.length ≤ fuel → Follows rest → value fuel (w ++ rest) = unlessLong long (v, rest)
  | .elements items => (∀ rest, ∃ c cs, skipSpace (w ++ rest) = c :: cs ∧ IsStarter c) ∧
      ∀ fuel rest, w.length < fuel → elements fuel (skipSpace (w ++ ']' :: rest)) = unlessLong long (items, rest)
  | .members found => (∀ rest, ∃ cs, skipSpace (w ++ rest) = '"' :: cs) ∧
      ∀ fuel done rest, w.length < fuel →
        members fuel done (skipSpace (w ++ '\x7d' :: rest)) = unlessLong long (found.foldl setMember done, rest)

theorem map_unlessLong {α β : Type} (long : Option Nat) (f : α → β) (found : α) :
    (unlessLong long found).map f = unlessLong long (f found) := by
  cases long <;> rfl

/-- Of two parts the first with a number that is too long is the fault. -/
theorem bind_unlessLong {α β : Type} (long long' : Option Nat) (found : α) (found' : β) :
    ((unlessLong long found).bind fun _ => unlessLong long' found') = unlessLong (long.or long') found' := by
  cases long <;> rfl

/-- A text that begins with one of these characters and is read whatever the count is a value that is read. -/
theorem isRead_value (long : Option Nat) (c : Char) (cs : List Char) (v : Value) (hc : IsStarter c)
    (h : ∀ fuel rest, cs.length ≤ fuel → Follows rest →
      value (fuel + 1) (c :: (cs ++ rest)) = unlessLong long (v, rest)) :
    IsRead long (c :: cs) (.value v) := by
  refine ⟨⟨c, cs, rfl, hc⟩, fun fuel rest hfuel hrest => ?_⟩
  rw [List.length_cons] at hfuel
  rcases Nat.exists_eq_add_one.mpr (show 0 < fuel by omega) with ⟨k, rfl⟩
  exact h k rest (by omega) hrest

theorem isRead_text (w : List Char) (t : List Point) (h : Spells w t) :
    IsRead none ('"' :: (w ++ ['"'])) (.value (.ofPoints t)) := by
  refine isRead_value none '"' _ _ (by unfold IsStarter; decide) fun fuel rest _ _ => ?_
  rw [List.append_assoc, List.singleton_append, value, string_of_spells w rest t h]
  rfl

theorem isRead_name (name : String) (v : Value) (h : (name, v) ∈ names) : IsRead none name.toList (.value v) := by
  have hstart : ∃ c cs, name.toList = c :: cs ∧ IsStarter c ∧ c ≠ '"' ∧ c ≠ '\x7b' ∧ c ≠ '[' := by
    have hmem : name ∈ names.map Prod.fst := List.mem_map_of_mem h
    simp only [names, List.map_cons, List.map_nil, List.mem_cons, List.not_mem_nil, or_false] at hmem
    unfold IsStarter
    rcases hmem with rfl | rfl | rfl | rfl | rfl | rfl <;> exact ⟨_, _, rfl, by decide⟩
  rcases hstart with ⟨c, cs, hname, hc, hquote, hbrace, hbracket⟩
  have hread := fun rest => name?_of_mem name v rest h
  rw [hname] at hread ⊢
  refine isRead_value none c cs v hc fun fuel rest _ _ => ?_
  rw [value_scalar fuel c _ hquote hbrace hbracket, ← List.cons_append, hread, Option.elim_some]
  rfl

/-- A text that begins with a digit, or with one behind a sign, and is read as a number is a value that is read. -/
theorem isRead_of_number (long : Option Nat) (w : List Char) (v : Value)
    (hbegin : ∃ sign d more, w = signText sign ++ d :: more ∧ d.isDigit = true)
    (h : ∀ rest, EndsNumber rest → number (w ++ rest) = unlessLong long (v, rest)) : IsRead long w (.value v) := by
  rcases hbegin with ⟨sign, d, more, hw, hd⟩
  have hstart : ∃ c cs, w = c :: cs ∧ IsStarter c ∧ c ≠ '"' ∧ c ≠ '\x7b' ∧ c ≠ '[' := by
    cases sign with
    | true =>
        unfold IsStarter
        exact ⟨'-', d :: more, hw, by decide⟩
    | false =>
        refine ⟨d, more, hw, ?_⟩
        have hne (e : Char) (he : e.isDigit = false) : d ≠ e := ne_of_isDigit d e hd he
        refine ⟨⟨?_, hne _ (by decide), hne _ (by decide), hne _ (by decide)⟩, hne _ (by decide), hne _ (by decide),
          hne _ (by decide)⟩
        simp [isSpace, hne ' ' (by decide), hne '\t' (by decide), hne '\n' (by decide), hne '\r' (by decide)]
  rcases hstart with ⟨c, cs, hcs, hc, hquote, hbrace, hbracket⟩
  have hnumber := fun rest hrest => h rest (endsNumber_of_follows rest hrest)
  -- The names are tried first, and none of them is a number.
  have hname := fun rest => name?_of_digit sign d (more ++ rest) hd
  simp only [← List.cons_append, ← List.append_assoc, ← hw] at hname
  rw [hcs] at hnumber hname ⊢
  refine isRead_value long c cs v hc fun fuel rest _ hrest => ?_
  rw [value_scalar fuel c _ hquote hbrace hbracket, ← List.cons_append, hname, Option.elim_none, hnumber rest hrest]

theorem exists_isRead_number (limit : Option Nat) (w : List Char) (v : Value) (h : Numeral limit w v) :
    ∃ long, IsExcess limit long ∧ IsRead long w (.value v) := by
  rcases number_of_numeral limit w v h with ⟨long, hlong, hnumber⟩
  exact ⟨long, hlong, isRead_of_number long w v (exists_cons_of_numeral limit w v h) hnumber⟩

theorem isRead_emptyList (space : List Char) (h : AllSpace space) :
    IsRead none ('[' :: (space ++ [']'])) (.value (.list [])) := by
  refine isRead_value none '[' _ _ (by unfold IsStarter; decide) fun fuel rest _ _ => ?_
  rw [List.append_assoc, List.singleton_append, value, skipSpace_append space _ h, skipSpace_cons ']' rest rfl]
  rfl

theorem isRead_emptyMapping (space : List Char) (h : AllSpace space) :
    IsRead none ('\x7b' :: (space ++ ['\x7d'])) (.value (.mapping [])) := by
  refine isRead_value none '\x7b' _ _ (by unfold IsStarter; decide) fun fuel rest _ _ => ?_
  rw [List.append_assoc, List.singleton_append, value, skipSpace_append space _ h, skipSpace_cons '\x7d' rest rfl]
  rfl

theorem isRead_list (long : Option Nat) (w : List Char) (items : List Value) (h : IsRead long w (.elements items)) :
    IsRead long ('[' :: (w ++ [']'])) (.value (.list items)) := by
  refine isRead_value long '[' _ _ (by unfold IsStarter; decide) fun fuel rest hfuel _ => ?_
  rw [List.length_append, List.length_singleton] at hfuel
  rw [List.append_assoc, List.singleton_append]
  -- What begins with an element is not the bracket of an empty list.
  have hitems := h.2 fuel rest (by omega)
  rcases h.1 (']' :: rest) with ⟨c, cs, hcs, hc⟩
  rw [hcs] at hitems
  rw [value_bracket fuel c _ cs hcs hc.2.1, hitems, map_unlessLong]

theorem isRead_mapping (long : Option Nat) (w : List Char) (found : List (Value × Value))
    (h : IsRead long w (.members found)) :
    IsRead long ('\x7b' :: (w ++ ['\x7d'])) (.value (.mapping (gather found))) := by
  refine isRead_value long '\x7b' _ _ (by unfold IsStarter; decide) fun fuel rest hfuel _ => ?_
  rw [List.length_append, List.length_singleton] at hfuel
  rw [List.append_assoc, List.singleton_append]
  have hpairs := h.2 fuel [] rest (by omega)
  rcases h.1 ('\x7d' :: rest) with ⟨cs, hcs⟩
  rw [hcs] at hpairs
  rw [value_brace fuel '"' _ cs hcs (by decide), hpairs, map_unlessLong, gather]

theorem skipSpace_starter (c : Char) (cs : List Char) (hc : IsStarter c) : skipSpace (c :: cs) = c :: cs :=
  skipSpace_cons c cs hc.1

/-- An element is read. What follows it decides how the list goes on. -/
theorem elements_row (long : Option Nat) (fuel : Nat) (cs tail : List Char) (v : Value)
    (hvalue : value fuel cs = unlessLong long (v, tail)) :
    (∀ rest, skipSpace tail = ']' :: rest → elements (fuel + 1) cs = unlessLong long ([v], rest)) ∧
      ∀ more, skipSpace tail = ',' :: more →
        elements (fuel + 1) cs = (unlessLong long ()).bind fun _ =>
          (elements fuel (skipSpace more)).map fun read => (v :: read.1, read.2) := by
  rw [elements, hvalue]
  cases long with
  | some digits => exact ⟨fun _ _ => rfl, fun _ _ => rfl⟩
  | none =>
      constructor
      · intro rest heq
        simp only [unlessLong, bind, Except.bind, heq]
      · intro more heq
        simp only [unlessLong, bind, Except.bind, heq]
        cases elements fuel (skipSpace more) <;> rfl

theorem isRead_lastElement (long : Option Nat) (before w after : List Char) (v : Value) (hbefore : AllSpace before)
    (h : IsRead long w (.value v)) (hafter : AllSpace after) :
    IsRead long (before ++ (w ++ after)) (.elements [v]) := by
  rcases h with ⟨⟨c, cs, rfl, hc⟩, hread⟩
  have hskip (rest : List Char) : skipSpace (before ++ (c :: cs ++ after) ++ rest) = c :: cs ++ (after ++ rest) := by
    rw [List.append_assoc, skipSpace_append before _ hbefore, List.append_assoc]
    exact skipSpace_starter c _ hc
  refine ⟨fun rest => ⟨c, _, hskip rest, hc⟩, fun fuel rest hfuel => ?_⟩
  rw [List.length_append, List.length_append] at hfuel
  rcases Nat.exists_eq_add_one.mpr (show 0 < fuel by omega) with ⟨k, rfl⟩
  have hvalue := hread k (after ++ ']' :: rest) (by omega)
    (follows_append after _ hafter (follows_cons ']' rest (.inr (.inl rfl))))
  rw [hskip, (elements_row long k _ _ v hvalue).1 rest]
  rw [skipSpace_append after _ hafter, skipSpace_cons ']' rest rfl]

theorem isRead_nextElement (long long' : Option Nat) (before w after more : List Char) (v : Value)
    (items : List Value) (hbefore : AllSpace before) (h : IsRead long w (.value v)) (hafter : AllSpace after)
    (hmore : IsRead long' more (.elements items)) :
    IsRead (long.or long') (before ++ (w ++ (after ++ ',' :: more))) (.elements (v :: items)) := by
  rcases h with ⟨⟨c, cs, rfl, hc⟩, hread⟩
  have hskip (rest : List Char) : skipSpace (before ++ (c :: cs ++ (after ++ ',' :: more)) ++ rest) =
      c :: cs ++ (after ++ ',' :: (more ++ rest)) := by
    rw [List.append_assoc, skipSpace_append before _ hbefore, List.append_assoc, List.append_assoc, List.cons_append]
    exact skipSpace_starter c _ hc
  refine ⟨fun rest => ⟨c, _, hskip rest, hc⟩, fun fuel rest hfuel => ?_⟩
  rw [List.length_append, List.length_append, List.length_append] at hfuel
  -- The count is used up by one for each element, and the comma makes up for it.
  have hcomma : (',' :: more).length = more.length + 1 := rfl
  rcases Nat.exists_eq_add_one.mpr (show 0 < fuel by omega) with ⟨k, rfl⟩
  have hvalue := hread k (after ++ ',' :: (more ++ ']' :: rest)) (by omega)
    (follows_append after _ hafter (follows_cons ',' _ (.inl rfl)))
  rw [hskip, (elements_row long k _ _ v hvalue).2 (more ++ ']' :: rest), hmore.2 k rest (by omega), map_unlessLong,
    bind_unlessLong]
  rw [skipSpace_append after _ hafter, skipSpace_cons ',' _ rfl]

/-- A member is read and set. What follows it decides how the mapping goes on. -/
theorem members_row_written (long : Option Nat) (fuel : Nat) (done : List (Value × Value)) (key : List Char)
    (name : List Point) (afterKey beforeValue w tail : List Char) (v : Value) (hkey : Spells key name)
    (hafterKey : AllSpace afterKey) (hbeforeValue : AllSpace beforeValue) (h : IsRead long w (.value v))
    (hfuel : w.length ≤ fuel) (htail : Follows tail) :
    (∀ rest, skipSpace tail = '\x7d' :: rest →
        members (fuel + 1) done ('"' :: (key ++ '"' :: (afterKey ++ ':' :: (beforeValue ++ (w ++ tail))))) =
          unlessLong long (setMember done (.ofPoints name, v), rest)) ∧
      ∀ more, skipSpace tail = ',' :: more →
        members (fuel + 1) done ('"' :: (key ++ '"' :: (afterKey ++ ':' :: (beforeValue ++ (w ++ tail))))) =
          (unlessLong long ()).bind fun _ =>
            members fuel (setMember done (.ofPoints name, v)) (skipSpace more) := by
  rcases h with ⟨⟨c, cs, rfl, hc⟩, hread⟩
  -- White space may stand on both sides of the colon and behind the value.
  have hcolon : skipSpace (afterKey ++ ':' :: (beforeValue ++ (c :: cs ++ tail))) =
      ':' :: (beforeValue ++ (c :: cs ++ tail)) := by
    rw [skipSpace_append afterKey _ hafterKey, skipSpace_cons ':' _ rfl]
  have hspace : skipSpace (beforeValue ++ (c :: cs ++ tail)) = c :: cs ++ tail := by
    rw [skipSpace_append beforeValue _ hbeforeValue]
    exact skipSpace_starter c _ hc
  have hvalue := hread fuel tail hfuel htail
  rw [members, string_of_spells key _ name hkey]
  simp only [bind, Except.bind, hcolon, hspace, hvalue]
  cases long with
  | some digits => exact ⟨fun _ _ => rfl, fun _ _ => rfl⟩
  | none =>
      constructor
      · intro rest heq
        simp only [unlessLong, heq, setMember]
      · intro more heq
        simp only [unlessLong, heq, setMember]

theorem isRead_lastMember (long : Option Nat) (before key : List Char) (name : List Point)
    (afterKey beforeValue w after : List Char) (v : Value) (hbefore : AllSpace before) (hkey : Spells key name)
    (hafterKey : AllSpace afterKey) (hbeforeValue : AllSpace beforeValue) (h : IsRead long w (.value v))
    (hafter : AllSpace after) :
    IsRead long (before ++ '"' :: (key ++ '"' :: (afterKey ++ ':' :: (beforeValue ++ (w ++ after)))))
      (.members [(.ofPoints name, v)]) := by
  have hskip (rest : List Char) :
      skipSpace (before ++ '"' :: (key ++ '"' :: (afterKey ++ ':' :: (beforeValue ++ (w ++ after)))) ++ rest) =
        '"' :: (key ++ '"' :: (afterKey ++ ':' :: (beforeValue ++ (w ++ (after ++ rest))))) := by
    simp only [List.append_assoc, List.cons_append]
    rw [skipSpace_append before _ hbefore, skipSpace_cons '"' _ rfl]
  refine ⟨fun rest => ⟨_, hskip rest⟩, fun fuel done rest hfuel => ?_⟩
  simp only [List.length_append, List.length_cons] at hfuel
  rcases Nat.exists_eq_add_one.mpr (show 0 < fuel by omega) with ⟨k, rfl⟩
  have htail := follows_append after ('\x7d' :: rest) hafter (follows_cons '\x7d' rest (.inr (.inr rfl)))
  have hrow := members_row_written long k done key name afterKey beforeValue w (after ++ '\x7d' :: rest) v hkey
    hafterKey hbeforeValue h (by omega) htail
  rw [hskip, hrow.1 rest (by rw [skipSpace_append after _ hafter, skipSpace_cons '\x7d' rest rfl])]
  rfl

theorem isRead_nextMember (long long' : Option Nat) (before key : List Char) (name : List Point)
    (afterKey beforeValue w after more : List Char) (v : Value)
    (found : List (Value × Value)) (hbefore : AllSpace before) (hkey : Spells key name)
    (hafterKey : AllSpace afterKey) (hbeforeValue : AllSpace beforeValue) (h : IsRead long w (.value v))
    (hafter : AllSpace after) (hmore : IsRead long' more (.members found)) :
    IsRead (long.or long')
      (before ++ '"' :: (key ++ '"' :: (afterKey ++ ':' :: (beforeValue ++ (w ++ (after ++ ',' :: more))))))
      (.members ((.ofPoints name, v) :: found)) := by
  have hskip (rest : List Char) :
      skipSpace (before ++ '"' :: (key ++ '"' :: (afterKey ++ ':' ::
        (beforeValue ++ (w ++ (after ++ ',' :: more))))) ++ rest) =
        '"' :: (key ++ '"' :: (afterKey ++ ':' :: (beforeValue ++ (w ++ (after ++ ',' :: (more ++ rest)))))) := by
    simp only [List.append_assoc, List.cons_append]
    rw [skipSpace_append before _ hbefore, skipSpace_cons '"' _ rfl]
  refine ⟨fun rest => ⟨_, hskip rest⟩, fun fuel done rest hfuel => ?_⟩
  simp only [List.length_append, List.length_cons] at hfuel
  rcases Nat.exists_eq_add_one.mpr (show 0 < fuel by omega) with ⟨k, rfl⟩
  have htail := follows_append after (',' :: (more ++ '\x7d' :: rest)) hafter (follows_cons ',' _ (.inl rfl))
  have hrow := members_row_written long k done key name afterKey beforeValue w
    (after ++ ',' :: (more ++ '\x7d' :: rest)) v hkey hafterKey hbeforeValue h (by omega) htail
  rw [hskip, hrow.2 _ (by rw [skipSpace_append after _ hafter, skipSpace_cons ',' _ rfl]),
    hmore.2 k _ rest (by omega), bind_unlessLong, List.foldl_cons]

/-- Every part of a document is read, unless a number in it has too many digits for the reader; it keeps the limit of
    the grammar all the same. -/
theorem exists_isRead_of_written (limit : Option Nat) (w : List Char) (part : Part) (h : Written limit w part) :
    ∃ long, IsExcess limit long ∧ IsRead long w part := by
  -- One lemma for each rule of the grammar; the hypotheses are what the parts of a text are read as.
  induction h with
  | text w t h => exact ⟨none, isExcess_none limit, isRead_text w t h⟩
  | name name v h => exact ⟨none, isExcess_none limit, isRead_name name v h⟩
  | number w v h => exact exists_isRead_number limit w v h
  | emptyList space h => exact ⟨none, isExcess_none limit, isRead_emptyList space h⟩
  | list w items _ ih =>
      rcases ih with ⟨long, hlong, ih⟩
      exact ⟨long, hlong, isRead_list long w items ih⟩
  | emptyMapping space h => exact ⟨none, isExcess_none limit, isRead_emptyMapping space h⟩
  | mapping w found _ ih =>
      rcases ih with ⟨long, hlong, ih⟩
      exact ⟨long, hlong, isRead_mapping long w found ih⟩
  | lastElement before w after v hbefore _ hafter ih =>
      rcases ih with ⟨long, hlong, ih⟩
      exact ⟨long, hlong, isRead_lastElement long before w after v hbefore ih hafter⟩
  | nextElement before w after more v items hbefore _ hafter _ ih ihmore =>
      rcases ih with ⟨long, hlong, ih⟩
      rcases ihmore with ⟨long', hlong', ihmore⟩
      exact ⟨long.or long', isExcess_or limit long long' hlong hlong',
        isRead_nextElement long long' before w after more v items hbefore ih hafter ihmore⟩
  | lastMember before key name afterKey beforeValue w after v hbefore hkey hafterKey hbeforeValue _ hafter ih =>
      rcases ih with ⟨long, hlong, ih⟩
      exact ⟨long, hlong, isRead_lastMember long before key name afterKey beforeValue w after v hbefore hkey hafterKey
        hbeforeValue ih hafter⟩
  | nextMember before key name afterKey beforeValue w after more v found hbefore hkey hafterKey hbeforeValue _ hafter _
      ih ihmore =>
      rcases ih with ⟨long, hlong, ih⟩
      rcases ihmore with ⟨long', hlong', ihmore⟩
      exact ⟨long.or long', isExcess_or limit long long' hlong hlong',
        isRead_nextMember long long' before key name afterKey beforeValue w after more v found hbefore hkey hafterKey
          hbeforeValue ih hafter ihmore⟩

/-! ## What is read -/

theorem written_space_elements (space w : List Char) (items : List Value) (hspace : AllSpace space)
    (h : Written readerLimit w (.elements items)) : Written readerLimit (space ++ w) (.elements items) := by
  cases h with
  | lastElement before w after v hbefore h hafter =>
      rw [← List.append_assoc]
      exact .lastElement _ w after v (allSpace_append hspace hbefore) h hafter
  | nextElement before w after more v items hbefore h hafter hmore =>
      rw [← List.append_assoc]
      exact .nextElement _ w after more v items (allSpace_append hspace hbefore) h hafter hmore

theorem written_space_members (space w : List Char) (found : List (Value × Value)) (hspace : AllSpace space)
    (h : Written readerLimit w (.members found)) : Written readerLimit (space ++ w) (.members found) := by
  cases h with
  | lastMember before key name afterKey beforeValue w after v hbefore hkey hafterKey hbeforeValue h hafter =>
      rw [← List.append_assoc]
      exact .lastMember _ key name afterKey beforeValue w after v (allSpace_append hspace hbefore) hkey hafterKey
        hbeforeValue h hafter
  | nextMember before key name afterKey beforeValue w after more v found hbefore hkey hafterKey hbeforeValue h hafter
      hmore =>
      rw [← List.append_assoc]
      exact .nextMember _ key name afterKey beforeValue w after more v found (allSpace_append hspace hbefore) hkey
        hafterKey hbeforeValue h hafter hmore

/-- What is proved of a count: whatever is read with it is a part of a document. -/
def ReadsWritten (fuel : Nat) : Prop :=
  (∀ cs v rest, value fuel cs = .ok (v, rest) → ∃ w, cs = w ++ rest ∧ Written readerLimit w (.value v)) ∧
    (∀ done cs pairs rest, members fuel done cs = .ok (pairs, rest) →
      ∃ w found, cs = w ++ '\x7d' :: rest ∧ Written readerLimit w (.members found) ∧
        pairs = found.foldl setMember done) ∧
    ∀ cs items rest, elements fuel cs = .ok (items, rest) →
      ∃ w, cs = w ++ ']' :: rest ∧ Written readerLimit w (.elements items)

theorem exists_written_mapping (fuel : Nat) (ih : ReadsWritten fuel) (cs rest : List Char) (v : Value)
    (h : value (fuel + 1) ('\x7b' :: cs) = .ok (v, rest)) :
    ∃ w, '\x7b' :: cs = w ++ rest ∧ Written readerLimit w (.value v) := by
  -- The white space behind the bracket is passed over before it is known what comes.
  rcases exists_skipSpace cs with ⟨space, hspace, hcs⟩
  rw [value] at h
  split at h
  · next rest' hrest =>
      obtain ⟨rfl, rfl⟩ := Prod.mk.inj (Except.ok.inj h)
      refine ⟨'\x7b' :: (space ++ ['\x7d']), ?_, .emptyMapping space hspace⟩
      rw [hcs, hrest, List.cons_append, List.append_assoc, List.singleton_append]
  · rcases ok_of_bind _ _ _ h with ⟨⟨pairs, rest'⟩, hmembers, heq⟩
    obtain ⟨rfl, rfl⟩ := Prod.mk.inj (Except.ok.inj heq)
    rcases ih.2.1 [] _ pairs _ hmembers with ⟨w, found, hw, hwritten, rfl⟩
    refine ⟨'\x7b' :: ((space ++ w) ++ ['\x7d']), ?_,
      .mapping _ found (written_space_members space w found hspace hwritten)⟩
    rw [hcs, hw, List.cons_append, List.append_assoc, List.append_assoc, List.singleton_append]

theorem exists_written_list (fuel : Nat) (ih : ReadsWritten fuel) (cs rest : List Char) (v : Value)
    (h : value (fuel + 1) ('[' :: cs) = .ok (v, rest)) :
    ∃ w, '[' :: cs = w ++ rest ∧ Written readerLimit w (.value v) := by
  rcases exists_skipSpace cs with ⟨space, hspace, hcs⟩
  rw [value] at h
  split at h
  · next rest' hrest =>
      obtain ⟨rfl, rfl⟩ := Prod.mk.inj (Except.ok.inj h)
      refine ⟨'[' :: (space ++ [']']), ?_, .emptyList space hspace⟩
      rw [hcs, hrest, List.cons_append, List.append_assoc, List.singleton_append]
  · rcases ok_of_bind _ _ _ h with ⟨⟨items, rest'⟩, helements, heq⟩
    obtain ⟨rfl, rfl⟩ := Prod.mk.inj (Except.ok.inj heq)
    rcases ih.2.2 _ items _ helements with ⟨w, hw, hwritten⟩
    refine ⟨'[' :: ((space ++ w) ++ [']']), ?_, .list _ items (written_space_elements space w items hspace hwritten)⟩
    rw [hcs, hw, List.cons_append, List.append_assoc, List.append_assoc, List.singleton_append]

theorem exists_written_value (fuel : Nat) (ih : ReadsWritten fuel) (cs rest : List Char) (v : Value)
    (h : value (fuel + 1) cs = .ok (v, rest)) : ∃ w, cs = w ++ rest ∧ Written readerLimit w (.value v) := by
  cases cs with
  | nil => cases h
  | cons c cs =>
      by_cases hquote : c = '"'
      · rw [hquote, value] at h
        rcases ok_of_bind _ _ _ h with ⟨⟨t, rest'⟩, hstring, heq⟩
        obtain ⟨rfl, rfl⟩ := Prod.mk.inj (Except.ok.inj heq)
        rcases exists_spells_of_string cs _ t hstring with ⟨w, rfl, hw⟩
        rw [hquote]
        exact ⟨'"' :: (w ++ ['"']), by simp, .text w t hw⟩
      · by_cases hbrace : c = '\x7b'
        · rw [hbrace] at h ⊢
          exact exists_written_mapping fuel ih cs rest v h
        · by_cases hbracket : c = '['
          · rw [hbracket] at h ⊢
            exact exists_written_list fuel ih cs rest v h
          · rw [value_scalar fuel c cs hquote hbrace hbracket] at h
            -- The names are tried before the numbers.
            cases hname : name? (c :: cs) with
            | some found =>
                rw [hname, Option.elim_some] at h
                rw [Except.ok.inj h] at hname
                rcases exists_mem_of_name? _ rest v hname with ⟨name, hmem, hcs⟩
                exact ⟨name.toList, hcs, .name name v hmem⟩
            | none =>
                rw [hname, Option.elim_none] at h
                rcases exists_numeral_of_number _ rest v h with ⟨w, hcs, hw⟩
                exact ⟨w, hcs, .number w v hw⟩

/-- One step of reading elements: a value, and behind it the end or a comma and more elements. -/
theorem elements_cases (fuel : Nat) (cs rest : List Char) (items : List Value)
    (h : elements (fuel + 1) cs = .ok (items, rest)) :
    ∃ first tail, value fuel cs = .ok (first, tail) ∧
      ((skipSpace tail = ']' :: rest ∧ items = [first]) ∨
        ∃ behind more, skipSpace tail = ',' :: behind ∧ elements fuel (skipSpace behind) = .ok (more, rest) ∧
          items = first :: more) := by
  rw [elements] at h
  rcases ok_of_bind _ _ _ h with ⟨⟨first, tail⟩, hvalue, hgo⟩
  refine ⟨first, tail, hvalue, ?_⟩
  simp only at hgo
  split at hgo
  · next rest' hrest =>
      obtain ⟨rfl, rfl⟩ := Prod.mk.inj (Except.ok.inj hgo)
      exact .inl ⟨hrest, rfl⟩
  · next behind hbehind =>
      rcases ok_of_bind _ _ _ hgo with ⟨⟨more, rest'⟩, hmore, heq⟩
      obtain ⟨rfl, rfl⟩ := Prod.mk.inj (Except.ok.inj heq)
      exact .inr ⟨behind, more, hbehind, hmore, rfl⟩
  · cases hgo

theorem exists_written_elements (fuel : Nat) (ih : ReadsWritten fuel) (cs rest : List Char) (items : List Value)
    (h : elements (fuel + 1) cs = .ok (items, rest)) :
    ∃ w, cs = w ++ ']' :: rest ∧ Written readerLimit w (.elements items) := by
  rcases elements_cases fuel cs rest items h with ⟨first, tail, hvalue, hgo⟩
  rcases ih.1 cs first tail hvalue with ⟨w, rfl, hw⟩
  rcases exists_skipSpace tail with ⟨after, hafter, htail⟩
  rcases hgo with ⟨hend, rfl⟩ | ⟨behind, more, hcomma, hmore, rfl⟩
  · refine ⟨[] ++ (w ++ after), ?_, .lastElement [] w after first (List.forall_mem_nil _) hw hafter⟩
    rw [htail, hend, List.nil_append, List.append_assoc]
  · -- The white space behind the comma belongs to the elements that come next.
    rcases exists_skipSpace behind with ⟨space, hspace, hbehind⟩
    rcases ih.2.2 _ more rest hmore with ⟨w', hw', hwritten⟩
    refine ⟨[] ++ (w ++ (after ++ ',' :: (space ++ w'))), ?_, .nextElement [] w after _ first more
      (List.forall_mem_nil _) hw hafter (written_space_elements space w' more hspace hwritten)⟩
    rw [htail, hcomma, hbehind, hw']
    simp only [List.nil_append, List.append_assoc, List.cons_append]

/-- One step of reading members: a key, a colon and a value, and behind them the end or a comma and more members. -/
theorem members_cases (fuel : Nat) (done : List (Value × Value)) (cs rest : List Char) (pairs : List (Value × Value))
    (h : members (fuel + 1) done cs = .ok (pairs, rest)) :
    ∃ quoted key tail behind v tail', cs = '"' :: quoted ∧ string quoted = .ok (key, tail) ∧
      skipSpace tail = ':' :: behind ∧ value fuel (skipSpace behind) = .ok (v, tail') ∧
      ((skipSpace tail' = '\x7d' :: rest ∧ pairs = setMember done (.ofPoints key, v)) ∨
        ∃ more, skipSpace tail' = ',' :: more ∧
          members fuel (setMember done (.ofPoints key, v)) (skipSpace more) = .ok (pairs, rest)) := by
  unfold members at h
  split at h
  · next quoted =>
      rcases ok_of_bind _ _ _ h with ⟨⟨key, tail⟩, hkey, hgo⟩
      simp only at hgo
      split at hgo
      · next behind hcolon =>
          rcases ok_of_bind _ _ _ hgo with ⟨⟨v, tail'⟩, hvalue, hgo⟩
          refine ⟨quoted, key, tail, behind, v, tail', rfl, hkey, hcolon, hvalue, ?_⟩
          simp only at hgo
          split at hgo
          · next rest' hrest =>
              obtain ⟨rfl, rfl⟩ := Prod.mk.inj (Except.ok.inj hgo)
              exact .inl ⟨hrest, rfl⟩
          · next more hmore => exact .inr ⟨more, hmore, hgo⟩
          · cases hgo
      · cases hgo
  · cases h

theorem exists_written_members (fuel : Nat) (ih : ReadsWritten fuel) (done : List (Value × Value))
    (cs rest : List Char) (pairs : List (Value × Value)) (h : members (fuel + 1) done cs = .ok (pairs, rest)) :
    ∃ w found, cs = w ++ '\x7d' :: rest ∧ Written readerLimit w (.members found) ∧
      pairs = found.foldl setMember done := by
  rcases members_cases fuel done cs rest pairs h with
    ⟨quoted, name, tail, behind, v, tail', rfl, hstring, hcolon, hvalue, hgo⟩
  rcases exists_spells_of_string quoted tail name hstring with ⟨key, rfl, hkey⟩
  rcases ih.1 _ v tail' hvalue with ⟨w, hw, hwritten⟩
  -- Behind the key, in front of the value and behind it there may be space.
  rcases exists_skipSpace tail with ⟨afterKey, hafterKey, htail⟩
  rcases exists_skipSpace behind with ⟨beforeValue, hbeforeValue, hbehind⟩
  rcases exists_skipSpace tail' with ⟨after, hafter, htail'⟩
  rcases hgo with ⟨hend, rfl⟩ | ⟨more, hcomma, hmore⟩
  · refine ⟨[] ++ '"' :: (key ++ '"' :: (afterKey ++ ':' :: (beforeValue ++ (w ++ after)))), _, ?_,
      .lastMember [] key name afterKey beforeValue w after v (List.forall_mem_nil _) hkey hafterKey hbeforeValue
        hwritten hafter, rfl⟩
    rw [htail, hcolon, hbehind, hw, htail', hend]
    simp only [List.nil_append, List.append_assoc, List.cons_append]
  · rcases exists_skipSpace more with ⟨space, hspace, hspaced⟩
    rcases ih.2.1 _ _ pairs rest hmore with ⟨w', found, hw', hfound, rfl⟩
    refine ⟨[] ++ '"' :: (key ++ '"' :: (afterKey ++ ':' :: (beforeValue ++ (w ++ (after ++ ',' :: (space ++ w')))))),
      _, ?_, .nextMember [] key name afterKey beforeValue w after _ v found (List.forall_mem_nil _) hkey hafterKey
        hbeforeValue hwritten hafter (written_space_members space w' found hspace hfound), rfl⟩
    rw [htail, hcolon, hbehind, hw, htail', hcomma, hspaced, hw']
    simp only [List.nil_append, List.append_assoc, List.cons_append]

/-- Whatever is read is a part of a document, with every count. -/
theorem readsWritten (fuel : Nat) : ReadsWritten fuel := by
  induction fuel with
  | zero =>
      refine ⟨?_, ?_, ?_⟩
      · intro cs v rest h
        cases h
      · intro done cs pairs rest h
        cases h
      · intro cs items rest h
        cases h
  | succ fuel ih =>
      exact ⟨fun cs v rest h => exists_written_value fuel ih cs rest v h,
        fun done cs pairs rest h => exists_written_members fuel ih done cs rest pairs h,
        fun cs items rest h => exists_written_elements fuel ih cs rest items h⟩

/-! ## Documents -/

/-- What is read as a value is a document. -/
theorem isDocument_of_read (text : List Char) (v : Value) (h : read text = .ok v) :
    IsDocument readerLimit text v := by
  rw [read] at h
  split at h
  · cases h
  · rcases ok_of_bind _ _ _ h with ⟨⟨found, rest⟩, hvalue, hend⟩
    rcases exists_skipSpace text with ⟨before, hbefore, htext⟩
    rcases exists_skipSpace rest with ⟨after, hafter, hrest⟩
    -- What was read is a part, and what is left behind it is white space.
    rcases (readsWritten _).1 _ found rest hvalue with ⟨w, hw, hwritten⟩
    simp only at hend
    split at hend
    · next hnil =>
        obtain rfl := Except.ok.inj hend
        rw [hnil, List.append_nil] at hrest
        exact ⟨before, w, after, hbefore, hwritten, hafter, by rw [htext, hw, hrest]⟩
    · cases hend

/-- A value behind white space does not begin with a byte order mark. -/
theorem head?_ne_mark (before : List Char) (c : Char) (cs : List Char) (hbefore : AllSpace before)
    (hc : IsStarter c) : (before ++ c :: cs).head? ≠ some '\uFEFF' := by
  intro heq
  cases before with
  | nil => exact hc.2.2.2 (Option.some.inj heq)
  | cons d before =>
      have hd : isSpace d = true := hbefore d List.mem_cons_self
      rw [Option.some.inj heq] at hd
      exact absurd hd (by decide)

/-- A text that has a part that is read between white space is read as the value of the part, unless a number in it
    has too many digits. -/
theorem read_of_isRead (long : Option Nat) (before w after : List Char) (v : Value) (hbefore : AllSpace before)
    (h : IsRead long w (.value v)) (hafter : AllSpace after) :
    read (before ++ (w ++ after)) = unlessLong long v := by
  rcases h with ⟨⟨c, cs, rfl, hc⟩, hread⟩
  have hmark : (before ++ (c :: cs ++ after)).head? ≠ some '\uFEFF' := head?_ne_mark before c _ hbefore hc
  have hskip : skipSpace (before ++ (c :: cs ++ after)) = c :: cs ++ after := by
    rw [skipSpace_append before _ hbefore]
    exact skipSpace_starter c _ hc
  have hafter' : skipSpace after = [] := by
    have hskip := skipSpace_append after [] hafter
    rwa [List.append_nil] at hskip
  have hfollows : Follows after := by
    have hfollows := follows_append after [] hafter follows_nil
    rwa [List.append_nil] at hfollows
  -- The count of the reader is larger than the whole text.
  have hvalue : value (2 * (before ++ (c :: cs ++ after)).length + 2) (c :: cs ++ after) =
      unlessLong long (v, after) := by
    refine hread _ after ?_ hfollows
    rw [List.length_append, List.length_append]
    omega
  rw [read, if_neg hmark, hskip, hvalue]
  cases long with
  | none => simp only [unlessLong, bind, Except.bind, hafter']
  | some digits => rfl

/-- A document is read as the value that it denotes, unless a number in it has too many digits for the reader; it keeps
    the limit of the grammar all the same. -/
theorem exists_read_of_isDocument (limit : Option Nat) (text : List Char) (v : Value)
    (h : IsDocument limit text v) : ∃ long, IsExcess limit long ∧ read text = unlessLong long v := by
  rcases h with ⟨before, w, after, hbefore, hwritten, hafter, rfl⟩
  rcases exists_isRead_of_written limit w (.value v) hwritten with ⟨long, hlong, hread⟩
  exact ⟨long, hlong, read_of_isRead long before w after v hbefore hread hafter⟩

/-- A document that keeps the limit of the reader is read as the value that it denotes. -/
theorem read_of_isDocument (text : List Char) (v : Value) (h : IsDocument readerLimit text v) :
    read text = .ok v := by
  rcases exists_read_of_isDocument readerLimit text v h with ⟨long, hlong, hread⟩
  rw [hread, eq_none_of_isExcess long hlong]
  rfl

/-- A text is read as a value exactly if it is a document that denotes the value. -/
theorem read_eq_ok_iff (text : List Char) (v : Value) : read text = .ok v ↔ IsDocument readerLimit text v :=
  ⟨isDocument_of_read text v, read_of_isDocument text v⟩

/-- A document denotes one value. -/
theorem isDocument_unique (text : List Char) (v v' : Value) (h : IsDocument readerLimit text v)
    (h' : IsDocument readerLimit text v') : v = v' :=
  Except.ok.inj (((read_eq_ok_iff text v).mpr h).symm.trans ((read_eq_ok_iff text v').mpr h'))

/-! ## Limits -/

theorem numeral_none (limit : Option Nat) (w : List Char) (v : Value) (h : Numeral limit w v) : Numeral none w v := by
  cases h with
  | whole negative ds h _ => exact .whole negative ds h nofun
  | real negative ds fraction decimals power exponent h hfraction hpower hreal =>
      exact .real negative ds fraction decimals power exponent h hfraction hpower hreal

/-- What is written with a limit is written without one. -/
theorem written_none (limit : Option Nat) (w : List Char) (part : Part) (h : Written limit w part) :
    Written none w part := by
  induction h with
  | text w t h => exact .text w t h
  | name name v h => exact .name name v h
  | number w v h => exact .number w v (numeral_none limit w v h)
  | emptyList space h => exact .emptyList space h
  | list w items _ ih => exact .list w items ih
  | emptyMapping space h => exact .emptyMapping space h
  | mapping w found _ ih => exact .mapping w found ih
  | lastElement before w after v hbefore _ hafter ih => exact .lastElement before w after v hbefore ih hafter
  | nextElement before w after more v items hbefore _ hafter _ ih ihmore =>
      exact .nextElement before w after more v items hbefore ih hafter ihmore
  | lastMember before key name afterKey beforeValue w after v hbefore hkey hafterKey hbeforeValue _ hafter ih =>
      exact .lastMember before key name afterKey beforeValue w after v hbefore hkey hafterKey hbeforeValue ih hafter
  | nextMember before key name afterKey beforeValue w after more v found hbefore hkey hafterKey hbeforeValue _ hafter _
      ih ihmore =>
      exact .nextMember before key name afterKey beforeValue w after more v found hbefore hkey hafterKey hbeforeValue ih
        hafter ihmore

theorem isDocument_none (limit : Option Nat) (text : List Char) (v : Value) (h : IsDocument limit text v) :
    IsDocument none text v := by
  rcases h with ⟨before, w, after, hbefore, hwritten, hafter, htext⟩
  exact ⟨before, w, after, hbefore, written_none limit w _ hwritten, hafter, htext⟩

/-- A document of the grammar without a limit that does not keep that of the reader is refused, and no value is read. -/
theorem not_isDocument_of_excess (text : List Char) (v : Value) (h : IsDocument none text v)
    (hlimit : ¬IsDocument readerLimit text v) (v' : Value) : ¬IsDocument readerLimit text v' := by
  rcases exists_read_of_isDocument none text v h with ⟨long, _, hread⟩
  cases long with
  | none => exact absurd ((read_eq_ok_iff text v).mp hread) hlimit
  | some digits =>
      rw [← read_eq_ok_iff, hread]
      nofun

end Json

end CodeBehind
