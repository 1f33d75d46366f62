import CodeBehind.Proofs.Text.Tidy
import CodeBehind.Template.Token

/-!
# Reading well-spaced templates

The tokens of a template whose tags are written with spaces between all of their parts.

The scanner has to cope with much that a template need not contain: numerals of several kinds, strings, brackets,
signs at the delimiters. In a tag whose parts stand between spaces it never comes to any of this. A part is then
read for itself, whatever comes next, so it is enough to look at each part once, and the tag is read part by part.
`Piece` is such a part together with the token that it is read as. Only names and the bar of filters are needed.

Around a statement the scanner also takes characters away, here those that leave no trace of a statement on a line of
its own. `Segment` is a text with the tag behind it where nothing but the line feed after a statement is lost: the
text before a statement ends a line, so there is no indentation. A statement takes its line feed with it, so that
belongs to the tag.

A template is a sequence of segments and a last text. The scanner is given fuel by characters, the inductions count
it by parts and by segments; each of these takes up characters, so there is always enough.

## Main definitions

* `Piece`: A part of a tag that is read for itself; `Piece.name` and `Piece.bar` are those there are.
* `Segment`: A text and the tag behind it.

## Theorems

* `tokenInTag_name`: A name is read up to the space behind it.
* `scanTag_pieces`: A tag is read part by part.
* `scanFrom_segments`, `scan_segments`: A template is read segment by segment.
-/

namespace CodeBehind

namespace Template

open Text (isBlank isWordChar isName)

/-- A part of a tag that is read as one token if a space stands behind it. -/
structure Piece where
  chars : List Char
  token : Token
  visible : ∃ c rest, chars = c :: rest ∧ isBlank c = false
  unreturned : '\r' ∉ chars
  inside : ∀ tag rest, closeTag? .traceless tag (chars ++ ' ' :: rest) = none
  reads : ∀ total rest, tokenInTag total (chars ++ ' ' :: rest) = ([token], ' ' :: rest)
  balanced : ∀ symbol, token = .operator symbol → balance [] symbol = .ok []

/-- The character after the brace that opens a tag. -/
def Tag.mark : Tag → Char
  | print => '\x7b'
  | statement => '%'

/-- The end of a tag; that of a statement takes the line feed with it. -/
def Tag.closer : Tag → List Char
  | print => ['\x7d', '\x7d']
  | statement => ['%', '\x7d', '\n']

/-- Parts of a tag with a space before each. -/
def spaced (pieces : List Piece) : List Char :=
  pieces.flatMap fun piece => ' ' :: piece.chars

/-- A text and the tag behind it, which begins a line if it is a statement. -/
structure Segment where
  text : List Char
  tag : Tag
  pieces : List Piece
  unopened : '\x7b' ∉ text
  unreturned : '\r' ∉ text
  begun : tag = .statement → text = [] ∨ text.getLast? = some '\n'

/-- A segment as it is written. -/
def Segment.chars (segment : Segment) : List Char :=
  segment.text ++ '\x7b' :: segment.tag.mark :: (spaced segment.pieces ++ ' ' :: segment.tag.closer)

/-- The tokens of a segment. -/
def Segment.tokens (segment : Segment) : List Token :=
  .plain (String.ofList segment.text) :: .opening segment.tag ::
    (segment.pieces.map Piece.token ++ [.closing segment.tag])

/-! ## Parts of a tag -/

theorem splitNumber_of_not_digit (c : Char) (cs : List Char) (hmark : c ≠ '_') (hdigit : Text.isDigit c = false) :
    splitNumber Text.isDigit (c :: cs) = ([], c :: cs) := by
  rw [splitNumber]
  · rw [if_neg (Bool.eq_false_iff.mp hdigit)]
  · exact fun d rest heq _ => hmark heq

/-- What begins with a character that is no digit holds no number there. -/
theorem real?_of_not_digit (c : Char) (cs : List Char) (hmark : c ≠ '_') (hdigit : Text.isDigit c = false) :
    real? (c :: cs) = none := by
  have hhead : (c :: cs).head? ≠ some '_' := fun heq => hmark (Option.some.inj heq)
  rw [real?, decimals, if_neg hhead, splitNumber_of_not_digit c cs hmark hdigit]
  rfl

theorem integer?_of_not_digit (c : Char) (cs : List Char) (hdigit : c.isDigit = false) :
    integer? (c :: cs) = none := by
  -- The zero is looked for on its own, before the digits.
  have hzero : c ≠ '0' := by
    intro heq
    rw [heq] at hdigit
    exact absurd hdigit (by decide)
  have hbased : basedNumber? (c :: cs) = none := by
    rw [basedNumber?]
    exact fun d rest heq => hzero (List.cons.inj heq).1
  rw [integer?, hbased]
  · exact if_neg (Bool.eq_false_iff.mp hdigit)
  · exact hzero

/-- What begins with a character that no delimiter begins with is not the end of a tag. -/
theorem closeTag?_of_head (tag : Tag) (c : Char) (cs : List Char) (hc : c ∉ ['\x7d', '%', '-', '+']) :
    closeTag? .traceless tag (c :: cs) = none := by
  simp only [List.mem_cons, List.not_mem_nil, or_false, not_or] at hc
  have hbrace : ('\x7d' == c) = false := beq_eq_false_iff_ne.mpr (Ne.symm hc.1)
  have hpercent : ('%' == c) = false := beq_eq_false_iff_ne.mpr (Ne.symm hc.2.1)
  have hminus : ('-' == c) = false := beq_eq_false_iff_ne.mpr (Ne.symm hc.2.2.1)
  have hplus : ('+' == c) = false := beq_eq_false_iff_ne.mpr (Ne.symm hc.2.2.2)
  cases tag <;>
    simp only [closeTag?, close?, List.isPrefixOf, hbrace, hpercent, hminus, hplus, Bool.false_and, Bool.and_false,
      Bool.false_eq_true, if_false]

/-- Whether a text is taken for a name wherever it stands: it begins neither the way a number does nor the way a
    delimiter does. -/
def isPlainName : List Char → Bool
  | [] => false
  | c :: rest =>
    !isBlank c && c != '_' && !Text.isDigit c && !c.isDigit && !List.contains ['\x7d', '%', '-', '+'] c &&
      (c :: rest).all isWordChar && isName (c :: rest)

/-- What is asked of a text that is taken for a name. -/
theorem exists_of_isPlainName (word : List Char) (h : isPlainName word = true) :
    ∃ c cs, word = c :: cs ∧ isBlank c = false ∧ c ≠ '_' ∧ Text.isDigit c = false ∧ c.isDigit = false ∧
      c ∉ ['\x7d', '%', '-', '+'] ∧ (∀ d ∈ c :: cs, isWordChar d = true) ∧ isName (c :: cs) = true := by
  cases word with
  | nil => exact absurd h Bool.false_ne_true
  | cons c cs =>
      rw [isPlainName] at h
      simp only [Bool.and_eq_true, Bool.not_eq_true', bne_iff_ne, List.contains_eq_mem, decide_eq_false_iff_not] at h
      rcases h with ⟨⟨⟨⟨⟨⟨hblank, hmark⟩, hdigit⟩, hplain⟩, hdelimiter⟩, hall⟩, hname⟩
      exact ⟨c, cs, rfl, hblank, hmark, hdigit, hplain, hdelimiter, List.all_eq_true.mp hall, hname⟩

/-- A name is read up to the space behind it. -/
theorem tokenInTag_name (total : Nat) (word rest : List Char) (hword : isPlainName word = true) :
    tokenInTag total (word ++ ' ' :: rest) = ([.name (String.ofList word)], ' ' :: rest) := by
  rcases exists_of_isPlainName word hword with ⟨c, cs, heq, hblank, hmark, hdigit, hplain, _, hall, hname⟩
  have hspace : ¬isWordChar ' ' = true := by decide +kernel
  have htake : (c :: cs ++ ' ' :: rest).takeWhile isWordChar = c :: cs := by
    rw [List.takeWhile_append_of_pos hall, List.takeWhile_cons_of_neg hspace, List.append_nil]
  have hdrop : (c :: cs ++ ' ' :: rest).dropWhile isWordChar = ' ' :: rest := by
    rw [List.dropWhile_append_of_pos hall, List.dropWhile_cons_of_neg hspace]
  rw [List.cons_append] at htake hdrop
  -- White space and both kinds of numbers are tried before words.
  rw [heq, List.cons_append, tokenInTag, if_neg (Bool.eq_false_iff.mp hblank), real?_of_not_digit c _ hmark hdigit,
    integer?_of_not_digit c _ hplain]
  simp only []
  rw [if_pos (hall c (List.mem_cons_self ..)), htake, hdrop, if_pos hname]

namespace Piece

/-- A name as a part of a tag. -/
def name (word : String) (hword : isPlainName word.toList = true) : Piece where
  chars := word.toList
  token := .name word
  visible := by
    rcases exists_of_isPlainName word.toList hword with ⟨c, cs, heq, hblank, _⟩
    exact ⟨c, cs, heq, hblank⟩
  unreturned := by
    -- A carriage return is no character of a word.
    rcases exists_of_isPlainName word.toList hword with ⟨c, cs, heq, _, _, _, _, _, hall, _⟩
    have hreturn : ¬isWordChar '\r' = true := by decide +kernel
    rw [heq]
    exact fun hmem => hreturn (hall '\r' hmem)
  inside := by
    intro tag rest
    rcases exists_of_isPlainName word.toList hword with ⟨c, cs, heq, _, _, _, _, hdelimiter, _⟩
    rw [heq]
    exact closeTag?_of_head tag c _ hdelimiter
  reads := by
    intro total rest
    rw [tokenInTag_name total word.toList rest hword, String.ofList_toList]
  balanced := by
    intro symbol heq
    exact absurd heq (by simp only [reduceCtorEq, not_false_eq_true])

/-- The bar before a filter. -/
def bar : Piece where
  chars := ['|']
  token := .operator "|"
  visible := ⟨'|', [], rfl, by decide⟩
  unreturned := by decide
  inside := fun tag rest => closeTag?_of_head tag '|' _ (by decide)
  reads := by
    intro total rest
    have hreal : real? ('|' :: ' ' :: rest) = none := real?_of_not_digit '|' _ (by decide) (by decide)
    have hinteger : integer? ('|' :: ' ' :: rest) = none := integer?_of_not_digit '|' _ (by decide)
    have hword : ¬isWordChar '|' = true := by decide +kernel
    rw [List.singleton_append, tokenInTag, if_neg (by decide), hreal, hinteger]
    simp only []
    rw [if_neg hword, if_neg (by decide)]
    rfl
  balanced := by
    intro symbol heq
    rw [← Token.operator.inj heq]
    decide

end Piece

/-! ## Tags -/

theorem exists_closer (tag : Tag) : ∃ c cs, tag.closer = c :: cs ∧ isBlank c = false := by
  cases tag with
  | print => exact ⟨'\x7d', _, rfl, by decide⟩
  | statement => exact ⟨'%', _, rfl, by decide⟩

/-- A tag ends with its delimiter. -/
theorem closeTag?_closer (tag : Tag) (rest : List Char) :
    ∃ ended, closeTag? .traceless tag (tag.closer ++ rest) = some (ended, rest) := by
  cases tag with
  | statement => exact ⟨true, rfl⟩
  | print =>
      -- A line feed behind an output stays.
      refine ⟨false, ?_⟩
      have hsign : ¬['-', '\x7d', '\x7d'].isPrefixOf (Tag.print.closer ++ rest) = true := Bool.false_ne_true
      have hcloses : ['\x7d', '\x7d'].isPrefixOf (Tag.print.closer ++ rest) = true := rfl
      rw [closeTag?, close?, Bool.false_and, if_neg Bool.false_ne_true, if_neg hsign, if_pos hcloses]
      simp only [Tag.closer, List.cons_append, List.nil_append, List.drop_succ_cons, List.drop_zero]
      split <;> rfl

/-- A step in a tag without open brackets. -/
theorem scanTag_cons (total : Nat) (tag : Tag) (fuel : Nat) (c : Char) (cs : List Char) :
    scanTag .traceless total tag (fuel + 1) [] (c :: cs) =
      match closeTag? .traceless tag (c :: cs) with
      | some after => ([.closing tag], some after)
      | none =>
        let (found, rest) := tokenInTag total (c :: cs)
        let next : Except String (List String) := match found with
          | [.operator symbol] => balance [] symbol
          | _ => .ok []
        match next with
        | .error reason => ([.unreadable (.malformed reason)], none)
        | .ok opened =>
          let (tokens, after) := scanTag .traceless total tag fuel opened rest
          (found ++ tokens, after) := by
  rw [scanTag.eq_def]
  rfl

/-- A space is passed, if something visible stands behind it. -/
theorem scanTag_space (total : Nat) (tag : Tag) (fuel : Nat) (c : Char) (cs : List Char) (hc : isBlank c = false) :
    scanTag .traceless total tag (fuel + 1) [] (' ' :: c :: cs) = scanTag .traceless total tag fuel [] (c :: cs) := by
  have hopen : closeTag? .traceless tag (' ' :: c :: cs) = none := closeTag?_of_head tag ' ' (c :: cs) (by decide)
  have hpass : tokenInTag total (' ' :: c :: cs) = ([], c :: cs) := by
    rw [tokenInTag, if_pos (by decide), List.dropWhile_cons_of_neg (Bool.eq_false_iff.mp hc)]
  rw [scanTag_cons, hopen, hpass]
  rfl

/-- A part is read as its token. -/
theorem scanTag_piece (total : Nat) (tag : Tag) (fuel : Nat) (piece : Piece) (rest : List Char) :
    scanTag .traceless total tag (fuel + 1) [] (piece.chars ++ ' ' :: rest) =
      let (tokens, after) := scanTag .traceless total tag fuel [] (' ' :: rest)
      (piece.token :: tokens, after) := by
  rcases piece.visible with ⟨c, cs, hchars, _⟩
  have hopen := piece.inside tag rest
  have hread := piece.reads total rest
  rw [hchars, List.cons_append] at hopen hread ⊢
  rw [scanTag_cons, hopen, hread]
  -- Only operators are brackets, and the part is none of these.
  cases htoken : piece.token with
  | operator symbol =>
      simp only []
      rw [piece.balanced symbol htoken]
      rfl
  | _ => rfl

/-- The end of a tag is read as the end, and what follows it is left. -/
theorem scanTag_closer (total : Nat) (tag : Tag) (fuel : Nat) (rest : List Char) :
    ∃ ended, scanTag .traceless total tag (fuel + 1) [] (tag.closer ++ rest) =
      ([.closing tag], some (ended, rest)) := by
  rcases closeTag?_closer tag rest with ⟨ended, hclose⟩
  rcases exists_closer tag with ⟨c, cs, hcloser, _⟩
  refine ⟨ended, ?_⟩
  rw [hcloser, List.cons_append] at hclose ⊢
  rw [scanTag_cons, hclose]

theorem spaced_cons (piece : Piece) (pieces : List Piece) (rest : List Char) :
    spaced (piece :: pieces) ++ rest = ' ' :: (piece.chars ++ (spaced pieces ++ rest)) := by
  rw [spaced, List.flatMap_cons, List.cons_append, List.cons_append, List.append_assoc]
  rfl

theorem exists_spaced_append (pieces : List Piece) (rest : List Char) :
    ∃ more, spaced pieces ++ ' ' :: rest = ' ' :: more := by
  cases pieces with
  | nil => exact ⟨rest, rfl⟩
  | cons piece pieces => exact ⟨_, spaced_cons piece pieces (' ' :: rest)⟩

/-- A tag is read part by part, with fuel for a space and a part at a time. -/
theorem scanTag_pieces (total : Nat) (tag : Tag) (fuel : Nat) (pieces : List Piece) (rest : List Char) :
    ∃ ended, scanTag .traceless total tag (2 * pieces.length + 2 + fuel) []
        (spaced pieces ++ ' ' :: (tag.closer ++ rest)) =
      (pieces.map Piece.token ++ [.closing tag], some (ended, rest)) := by
  induction pieces with
  | nil =>
      rcases exists_closer tag with ⟨c, cs, hcloser, hvisible⟩
      rcases scanTag_closer total tag fuel rest with ⟨ended, hend⟩
      refine ⟨ended, ?_⟩
      have hsteps : 2 * ([] : List Piece).length + 2 + fuel = fuel + 1 + 1 := by
        rw [List.length_nil]
        omega
      rw [hcloser, List.cons_append] at hend
      rw [hsteps, hcloser]
      exact (scanTag_space total tag (fuel + 1) c (cs ++ rest) hvisible).trans hend
  | cons piece pieces ih =>
      rcases ih with ⟨ended, hrest⟩
      rcases piece.visible with ⟨c, cs, hchars, hvisible⟩
      rcases exists_spaced_append pieces (tag.closer ++ rest) with ⟨more, hmore⟩
      refine ⟨ended, ?_⟩
      have hsteps : 2 * (piece :: pieces).length + 2 + fuel = 2 * pieces.length + 2 + fuel + 1 + 1 := by
        rw [List.length_cons]
        omega
      -- The space before the part is passed, then the part is read; what follows it begins with a space again.
      have hpiece := scanTag_piece total tag (2 * pieces.length + 2 + fuel) piece more
      rw [← hmore, hrest] at hpiece
      have hspace := scanTag_space total tag (2 * pieces.length + 2 + fuel + 1) c
        (cs ++ (spaced pieces ++ ' ' :: (tag.closer ++ rest))) hvisible
      rw [← List.cons_append, ← hchars] at hspace
      rw [hsteps, spaced_cons, hspace, hpiece]
      rfl

/-! ## Segments -/

theorem opening?_of_ne (c : Char) (cs : List Char) (hc : c ≠ '\x7b') : opening? (c :: cs) = none := by
  rw [opening?]
  · exact fun rest heq => hc (List.cons.inj heq).1
  · exact fun rest heq => hc (List.cons.inj heq).1
  · exact fun rest heq => hc (List.cons.inj heq).1

/-- A text without opening braces is passed. -/
theorem splitAtOpening_append (text rest : List Char) (htext : '\x7b' ∉ text) :
    splitAtOpening (text ++ rest) = (text ++ (splitAtOpening rest).1, (splitAtOpening rest).2) := by
  induction text with
  | nil => rfl
  | cons c text ih =>
      rw [List.mem_cons, not_or] at htext
      rw [List.cons_append, splitAtOpening, opening?_of_ne c _ (Ne.symm htext.1), ih htext.2]
      rfl

theorem splitAtOpening_tag (tag : Tag) (rest : List Char) :
    splitAtOpening ('\x7b' :: tag.mark :: rest) = ([], some (.tag tag, rest)) := by
  cases tag <;> rfl

/-- The text of a segment is kept as it is: before a statement it leaves no indentation. -/
theorem keptText_text (segment : Segment) (fresh : Bool) :
    keptText .traceless fresh none (.tag segment.tag) segment.text = segment.text := by
  cases htag : segment.tag with
  | print => rfl
  | statement =>
      have hindentation : (segment.text.reverse.takeWhile (· ≠ '\n')).reverse = [] := by
        rcases segment.begun htag with hnil | hfeed
        · rw [hnil]
          rfl
        · rcases List.getLast?_eq_some_iff.mp hfeed with ⟨before, heq⟩
          rw [heq, List.reverse_append]
          rfl
      simp only [keptText, hindentation, List.length_nil, Nat.sub_zero, List.take_length, ite_self, reduceCtorEq,
        if_false]

theorem chars_append (segment : Segment) (rest : List Char) :
    segment.chars ++ rest =
      segment.text ++ '\x7b' :: segment.tag.mark :: (spaced segment.pieces ++ ' ' :: (segment.tag.closer ++ rest)) := by
  rw [Segment.chars, List.append_assoc, List.cons_append, List.cons_append, List.append_assoc, List.cons_append]

theorem length_spaced (pieces : List Piece) : 2 * pieces.length ≤ (spaced pieces).length := by
  induction pieces with
  | nil => exact Nat.zero_le _
  | cons piece pieces ih =>
      rcases piece.visible with ⟨c, cs, hchars, _⟩
      have hcons := spaced_cons piece pieces []
      rw [List.append_nil, List.append_nil] at hcons
      rw [hcons, hchars, List.length_cons, List.length_cons, List.length_append, List.length_cons]
      omega

/-- The characters of a segment are enough fuel to read its tag. -/
theorem exists_tagFuel (segment : Segment) (fuel : Nat) (h : segment.chars.length ≤ fuel + 1) :
    ∃ spare, fuel = 2 * segment.pieces.length + 2 + spare := by
  refine Nat.exists_eq_add_of_le ?_
  have hspaced := length_spaced segment.pieces
  rw [Segment.chars, List.length_append, List.length_cons, List.length_cons, List.length_append, List.length_cons] at h
  rcases exists_closer segment.tag with ⟨c, cs, hcloser, _⟩
  rw [hcloser, List.length_cons] at h
  omega

/-- A segment is read as its tokens. -/
theorem scanFrom_segment (total fuel : Nat) (fresh : Bool) (segment : Segment) (rest : List Char)
    (hfuel : segment.chars.length ≤ fuel + 1) :
    ∃ ended, scanFrom .traceless total (fuel + 1) fresh (segment.chars ++ rest) =
      segment.tokens ++ scanFrom .traceless total fuel ended rest := by
  rcases exists_tagFuel segment fuel hfuel with ⟨spare, hspare⟩
  rcases scanTag_pieces total segment.tag spare segment.pieces rest with ⟨ended, htag⟩
  refine ⟨ended, ?_⟩
  rw [← hspare] at htag
  have hsplit := splitAtOpening_append segment.text
    ('\x7b' :: segment.tag.mark :: (spaced segment.pieces ++ ' ' :: (segment.tag.closer ++ rest))) segment.unopened
  rw [splitAtOpening_tag, List.append_nil] at hsplit
  -- The tag begins with a space, so there is no sign at its opening delimiter.
  have hsign : sign? (spaced segment.pieces ++ ' ' :: (segment.tag.closer ++ rest)) = none := by
    rcases exists_spaced_append segment.pieces (segment.tag.closer ++ rest) with ⟨more, hmore⟩
    rw [hmore]
    rfl
  rw [chars_append, scanFrom, hsplit]
  simp only [skipSign, hsign, Option.isSome_none, Bool.false_eq_true, if_false, htag, keptText_text]
  rw [Segment.tokens]

/-- Without an opening brace there is nothing left but text. -/
theorem scanFrom_text (total fuel : Nat) (fresh : Bool) (text : List Char) (htext : '\x7b' ∉ text) :
    scanFrom .traceless total (fuel + 1) fresh text = [.plain (String.ofList text)] := by
  have hsplit := splitAtOpening_append text [] htext
  rw [List.append_nil, splitAtOpening, List.append_nil] at hsplit
  rw [scanFrom, hsplit]

/-- A template is read segment by segment, with fuel for the characters of each. -/
theorem scanFrom_segments (total fuel : Nat) (fresh : Bool) (segments : List Segment) (last : List Char)
    (hlast : '\x7b' ∉ last) (hfuel : (segments.flatMap Segment.chars).length < fuel) :
    scanFrom .traceless total fuel fresh (segments.flatMap Segment.chars ++ last) =
      segments.flatMap Segment.tokens ++ [.plain (String.ofList last)] := by
  induction segments generalizing fresh fuel with
  | nil =>
      rcases Nat.exists_eq_add_one.mpr (Nat.zero_lt_of_lt hfuel) with ⟨k, hk⟩
      rw [hk]
      exact scanFrom_text total k fresh last hlast
  | cons segment segments ih =>
      rcases Nat.exists_eq_add_one.mpr (Nat.zero_lt_of_lt hfuel) with ⟨k, hk⟩
      have hpositive : 0 < segment.chars.length := by
        rw [Segment.chars, List.length_append, List.length_cons]
        omega
      rw [List.flatMap_cons, List.length_append] at hfuel
      rcases scanFrom_segment total k fresh segment (segments.flatMap Segment.chars ++ last) (by omega) with
        ⟨ended, hsegment⟩
      rw [hk, List.flatMap_cons, List.flatMap_cons, List.append_assoc, hsegment, ih k ended (by omega),
        List.append_assoc]

theorem return_notMem_spaced (pieces : List Piece) : '\r' ∉ spaced pieces := by
  intro hmem
  rcases List.mem_flatMap.mp hmem with ⟨piece, _, hc⟩
  rcases List.mem_cons.mp hc with heq | hc
  · exact absurd heq (by decide)
  · exact piece.unreturned hc

theorem return_notMem_chars (segment : Segment) : '\r' ∉ segment.chars := by
  have hmark : '\r' ≠ segment.tag.mark := by
    cases segment.tag <;> decide
  have hcloser : '\r' ∉ segment.tag.closer := by
    cases segment.tag <;> decide
  rw [Segment.chars]
  simp only [List.mem_append, List.mem_cons, not_or]
  exact ⟨segment.unreturned, by decide, hmark, return_notMem_spaced segment.pieces, by decide, hcloser⟩

/-- A well-spaced template is read segment by segment. -/
theorem scan_segments (template : String) (segments : List Segment) (last : List Char) (hlast : '\x7b' ∉ last)
    (hreturn : '\r' ∉ last) (htemplate : template.toList = segments.flatMap Segment.chars ++ last) :
    scan .traceless template = segments.flatMap Segment.tokens ++ [.plain (String.ofList last)] := by
  have hunreturned : '\r' ∉ template.toList := by
    intro hmem
    rw [htemplate] at hmem
    rcases List.mem_append.mp hmem with hmem | hmem
    · rcases List.mem_flatMap.mp hmem with ⟨segment, _, hc⟩
      exact return_notMem_chars segment hc
    · exact hreturn hmem
  have hcharacters : Spacing.characters .traceless template = template.toList := by
    rw [Spacing.characters, Text.unifyLineEndings_of_notMem _ hunreturned]
    rfl
  rw [scan, hcharacters, htemplate]
  refine scanFrom_segments _ _ true segments last hlast ?_
  rw [List.length_append]
  omega

end Template

end CodeBehind
