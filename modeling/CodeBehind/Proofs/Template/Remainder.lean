import CodeBehind.Template.Token

/-!
# What is left behind a token

Whatever is read of a template, what is left of it is its end.

A number, a name, a string and an operator are cut off at the beginning, and so are the tag and the comment that
they stand in. The end of a template is therefore in sight from every place in it: a comment whose mark is the last
thing left of a tag's remainder is the last thing of the template.

## Main definitions

* `EndsInComment`: A text ends with the mark that opens a comment.

## Main results

* `suffix_tokenInTag`: What is left behind a token is the end of what was there.
* `suffix_scanTag`, `suffix_skipComment`: So it is behind a tag, and behind a comment.
* `endsInComment_of_skipSign`: A comment with nothing behind its mark and its sign.

## Theorems

* `suffix_real?`, `suffix_integer?`, `suffix_splitQuoted`, `suffix_operator?`: What single tokens leave.
* `suffix_close?_kept`: What a delimiter leaves.
* `scanTag_step`: One step in a tag.
* `suffix_splitAtOpening`: What is left behind an opening delimiter, with the mark of a comment before it.
-/

namespace CodeBehind

namespace Template

open Text (isBlank isWordChar)

/-! ## Numbers, strings and operators -/

theorem suffix_splitNumber (want : Char → Bool) (cs : List Char) : (splitNumber want cs).2 <:+ cs := by
  -- A mark is passed over only together with the digit behind it.
  fun_induction splitNumber want cs with
  | case1 c rest hc digits rest' hrest ih =>
      rw [hrest] at ih
      exact (ih.trans (List.suffix_cons c rest)).trans (List.suffix_cons '_' (c :: rest))
  | case2 c rest hc => exact List.suffix_rfl
  | case3 c rest hno hc digits rest' hrest ih =>
      rw [hrest] at ih
      exact ih.trans (List.suffix_cons c rest)
  | case4 c rest hno hc => exact List.suffix_rfl
  | case5 => exact List.suffix_rfl

theorem suffix_decimals (cs : List Char) : (decimals cs).2 <:+ cs := by
  rw [decimals]
  split
  · exact List.suffix_rfl
  · exact suffix_splitNumber Text.isDigit cs

theorem suffix_fraction (cs : List Char) : (fraction cs).2 <:+ cs := by
  fun_cases fraction cs with
  | case1 after digits rest hdecimals hempty => exact List.suffix_rfl
  | case2 after digits rest hdecimals hempty =>
      have := suffix_decimals after
      rw [hdecimals] at this
      exact this.trans (List.suffix_cons '.' after)
  | case3 => exact List.suffix_rfl

theorem suffix_splitSign (cs : List Char) : (splitSign cs).2 <:+ cs := by
  fun_cases splitSign cs with
  | case1 rest => exact List.suffix_cons '+' rest
  | case2 rest => exact List.suffix_cons '-' rest
  | case3 => exact List.suffix_rfl

theorem suffix_power? (cs : List Char) : ∀ found ∈ power? cs, found.2.2 <:+ cs := by
  intro found hfound
  rcases cs with _ | ⟨mark, after⟩
  · cases hfound
  -- Behind its mark a power of ten has a sign and digits; without digits it is none.
  · have := (suffix_decimals (splitSign after).2).trans (suffix_splitSign after)
    rw [power?] at hfound
    split at hfound
    · simp only [Option.mem_def] at hfound
      split at hfound
      · cases hfound
      · rw [← Option.some.inj hfound]
        exact this.trans (List.suffix_cons mark after)
    · cases hfound

theorem suffix_real? (cs : List Char) : ∀ found ∈ real? cs, found.2 <:+ cs := by
  intro found hfound
  have hwhole := suffix_decimals cs
  have hfraction := (suffix_fraction (decimals cs).2).trans hwhole
  -- Without a power of ten the number ends where its fraction does.
  have hpower : ((power? (fraction (decimals cs).2).2).getD (false, [], (fraction (decimals cs).2).2)).2.2 <:+ cs := by
    cases hfound : power? (fraction (decimals cs).2).2 with
    | none => exact hfraction
    | some power => exact (suffix_power? _ power hfound).trans hfraction
  rw [real?] at hfound
  simp only [Option.mem_def] at hfound
  split at hfound
  · cases hfound
  · split at hfound
    · cases hfound
    · split at hfound <;>
      · rw [← Option.some.inj hfound]
        exact hpower

theorem suffix_basedNumber? (cs : List Char) : ∀ found ∈ basedNumber? cs, found.2 <:+ cs := by
  intro found hfound
  unfold basedNumber? at hfound
  simp only [Option.mem_def] at hfound
  split at hfound
  · next c rest =>
    -- Whatever the base is, two characters stand in front of the digits.
    have hrest (isDigit : Char → Bool) : (splitNumber isDigit rest).2 <:+ '0' :: c :: rest :=
      ((suffix_splitNumber isDigit rest).trans (List.suffix_cons c rest)).trans (List.suffix_cons '0' (c :: rest))
    have hdigits (base : Nat) (isDigit : Char → Bool)
        (h : (if (splitNumber isDigit rest).1.isEmpty then none
          else some (numberIn base (splitNumber isDigit rest).1, (splitNumber isDigit rest).2)) = some found) :
        found.2 <:+ '0' :: c :: rest := by
      split at h
      · cases h
      · rw [← Option.some.inj h]
        exact hrest isDigit
    split at hfound
    · exact hdigits 16 _ hfound
    split at hfound
    · exact hdigits 8 _ hfound
    split at hfound
    · exact hdigits 2 _ hfound
    · cases hfound
  · cases hfound

theorem suffix_integer? (cs : List Char) : ∀ found ∈ integer? cs, found.2 <:+ cs := by
  intro found hfound
  unfold integer? at hfound
  simp only [Option.mem_def] at hfound
  split at hfound
  · next value rest hbased =>
      rw [← Option.some.inj hfound]
      exact suffix_basedNumber? cs (value, rest) hbased
  · split at hfound
    · rw [← Option.some.inj hfound]
      exact suffix_splitNumber _ _
    · split at hfound
      · rw [← Option.some.inj hfound]
        exact suffix_splitNumber _ _
      · cases hfound
    · cases hfound

theorem suffix_splitQuoted (mark : Char) (cs : List Char) : ∀ found ∈ splitQuoted mark cs, found.2 <:+ cs := by
  fun_induction splitQuoted mark cs with
  | case1 => exact fun _ hfound => absurd hfound (Option.not_mem_none _)
  | case2 => exact fun _ hfound => absurd hfound (Option.not_mem_none _)
  | case3 c rest ih =>
      intro found hfound
      rcases Option.map_eq_some_iff.mp hfound with ⟨inner, hinner, rfl⟩
      exact ((ih inner hinner).trans (List.suffix_cons c rest)).trans (List.suffix_cons '\\' (c :: rest))
  | case4 rest =>
      intro found hfound
      rw [← Option.some.inj hfound]
      exact List.suffix_cons _ rest
  | case5 c rest hend hescape hother ih =>
      intro found hfound
      rcases Option.map_eq_some_iff.mp hfound with ⟨inner, hinner, rfl⟩
      exact (ih inner hinner).trans (List.suffix_cons c rest)

theorem suffix_operator? (cs : List Char) : ∀ found ∈ operator? cs, found.2 <:+ cs := by
  intro found hfound
  unfold operator? at hfound
  rw [Option.mem_def] at hfound
  split at hfound
  · rw [← Option.some.inj hfound]
    exact List.drop_suffix 2 cs
  · split at hfound
    · split at hfound
      · rw [← Option.some.inj hfound]
        exact List.suffix_cons _ _
      · cases hfound
    · cases hfound

theorem suffix_tokenInTag (total : Nat) (cs : List Char) : (tokenInTag total cs).2 <:+ cs := by
  rcases cs with _ | ⟨c, rest⟩
  · exact List.suffix_rfl
  -- The kinds of tokens in the order of the reader. Where nothing can be read, nothing is left either.
  · unfold tokenInTag
    simp only
    split
    · exact (List.dropWhile_suffix isBlank).trans (List.suffix_cons c rest)
    · split
      · next hreal => exact suffix_real? _ _ hreal
      · exact List.nil_suffix
      · split
        · next hinteger => exact suffix_integer? _ _ hinteger
        · exact List.nil_suffix
        · split
          · split
            · exact List.dropWhile_suffix isWordChar
            · exact List.nil_suffix
          · split
            · next hquoted =>
                split
                · split at hquoted
                  · exact (suffix_splitQuoted c rest _ hquoted).trans (List.suffix_cons c rest)
                  · cases hquoted
                · exact List.nil_suffix
            · split
              · next hoperator => exact suffix_operator? _ _ hoperator
              · exact List.nil_suffix

/-! ## Tags and comments -/

theorem drop_takeWhile (cs : List Char) : cs.drop (cs.takeWhile isBlank).length = cs.dropWhile isBlank := by
  conv => lhs; arg 2; rw [← List.takeWhile_append_dropWhile (p := isBlank) (l := cs)]
  rw [List.drop_left]

/-- What is left behind a delimiter when the line feed there is kept. -/
theorem close?_kept (delimiter : List Char) (plusToo : Bool) (cs : List Char) :
    (close? delimiter false plusToo cs).map (·.2) =
      if plusToo && ('+' :: delimiter).isPrefixOf cs then some (cs.drop 3)
      else if ('-' :: delimiter).isPrefixOf cs then some ((cs.drop 3).dropWhile isBlank)
      else if delimiter.isPrefixOf cs then some (cs.drop 2)
      else none := by
  unfold close?
  simp only
  split
  · rfl
  split
  · exact congrArg some (drop_takeWhile (cs.drop 3))
  split
  · split
    · next heq => exact congrArg some heq.symm
    · rfl
  · rfl

/-- A comment ends at the first place where its end mark stands. -/
theorem skipComment_cons (spacing : Spacing) (c : Char) (cs : List Char) :
    skipComment spacing (c :: cs) =
      (close? ['#', '\x7d'] spacing.dropsFeed true (c :: cs)).or (skipComment spacing cs) := by
  rw [skipComment]
  cases close? ['#', '\x7d'] spacing.dropsFeed true (c :: cs) <;> rfl

theorem suffix_close?_kept (delimiter : List Char) (plusToo : Bool) (cs : List Char) :
    ∀ rest ∈ (close? delimiter false plusToo cs).map (·.2), rest <:+ cs := by
  intro rest hrest
  rw [close?_kept, Option.mem_def] at hrest
  split at hrest
  · rw [← Option.some.inj hrest]
    exact List.drop_suffix 3 cs
  split at hrest
  · rw [← Option.some.inj hrest]
    exact (List.dropWhile_suffix isBlank).trans (List.drop_suffix 3 cs)
  split at hrest
  · rw [← Option.some.inj hrest]
    exact List.drop_suffix 2 cs
  · cases hrest

theorem suffix_closeTag? (tag : Tag) (cs : List Char) :
    ∀ rest ∈ (closeTag? .verbatim tag cs).map (·.2), rest <:+ cs := by
  -- Both kinds of tags close like a comment, with delimiters of their own.
  cases tag with
  | print => exact suffix_close?_kept ['\x7d', '\x7d'] false cs
  | statement => exact suffix_close?_kept ['%', '\x7d'] true cs

theorem suffix_skipComment (cs : List Char) :
    ∀ rest ∈ (skipComment .verbatim cs).map (·.2), rest <:+ cs := by
  induction cs with
  | nil => exact fun _ hrest => absurd hrest (Option.not_mem_none _)
  | cons c cs ih =>
      intro rest hrest
      rw [skipComment_cons, Option.map_or, Option.mem_def, Option.or_eq_some_iff] at hrest
      rcases hrest with hclose | ⟨_, hskip⟩
      · exact suffix_close?_kept ['#', '\x7d'] true (c :: cs) rest hclose
      · exact (ih rest hskip).trans (List.suffix_cons c cs)

/-- A step in a tag. -/
theorem scanTag_step (spacing : Spacing) (total : Nat) (tag : Tag) (fuel : Nat) (opened : List String) (c : Char)
    (cs : List Char) :
    scanTag spacing total tag (fuel + 1) opened (c :: cs) =
      match if opened.isEmpty then closeTag? spacing tag (c :: cs) else none with
      | some after => ([.closing tag], some after)
      | none =>
        let (found, rest) := tokenInTag total (c :: cs)
        let next : Except String (List String) := match found with
          | [.operator symbol] => balance opened symbol
          | _ => .ok opened
        match next with
        | .error reason => ([.unreadable (.malformed reason)], none)
        | .ok opened =>
          let (tokens, after) := scanTag spacing total tag fuel opened rest
          (found ++ tokens, after) :=
  scanTag.eq_def spacing total tag (fuel + 1) opened (c :: cs)

theorem suffix_scanTag (total : Nat) (tag : Tag) (fuel : Nat) (opened : List String) (cs : List Char) :
    ∀ rest ∈ (scanTag .verbatim total tag fuel opened cs).2.map (·.2), rest <:+ cs := by
  -- The end of the tag is reached by steps that each leave an end of what was there.
  induction fuel generalizing opened cs with
  | zero => exact fun _ hrest => absurd hrest (Option.not_mem_none _)
  | succ fuel ih =>
      cases cs with
      | nil => exact fun _ hrest => absurd hrest (Option.not_mem_none _)
      | cons c cs =>
          intro rest hrest
          rw [scanTag_step] at hrest
          split at hrest
          · next after hclose =>
              split at hclose
              · refine suffix_closeTag? tag (c :: cs) rest ?_
                rw [hclose]
                exact hrest
              · cases hclose
          · simp only at hrest
            split at hrest
            · cases hrest
            · exact (ih _ _ rest hrest).trans (suffix_tokenInTag total (c :: cs))

/-! ## Opening delimiters -/

theorem exists_of_opening?_comment (cs : List Char) (h : opening? cs = some .comment) :
    ∃ rest, cs = '\x7b' :: '#' :: rest := by
  unfold opening? at h
  split at h
  · exact ⟨_, rfl⟩
  · cases h
  · cases h
  · cases h

/-- What a delimiter opens stands behind it. -/
theorem suffix_splitAtOpening (cs : List Char) :
    ∀ found ∈ (splitAtOpening cs).2, found.2 <:+ cs ∧ (found.1 = .comment → '\x7b' :: '#' :: found.2 <:+ cs) := by
  induction cs with
  | nil => exact fun _ hfound => absurd hfound (Option.not_mem_none _)
  | cons c cs ih =>
      intro found hfound
      rw [splitAtOpening] at hfound
      split at hfound
      · next opening hopening =>
          -- The opening stands here: its second character and what it opens are the end of the text.
          obtain rfl := Option.some.inj hfound
          refine ⟨(List.drop_suffix 1 cs).trans (List.suffix_cons c cs), fun hcomment => ?_⟩
          obtain rfl : opening = .comment := hcomment
          rcases exists_of_opening?_comment (c :: cs) hopening with ⟨rest, heq⟩
          obtain ⟨rfl, rfl⟩ := List.cons.inj heq
          exact List.suffix_rfl
      · rcases ih found hfound with ⟨hrest, hcomment⟩
        exact ⟨hrest.trans (List.suffix_cons c cs), fun heq => (hcomment heq).trans (List.suffix_cons c cs)⟩

/-- A text ends with the mark that opens a comment, which may have a sign. -/
def EndsInComment (cs : List Char) : Prop :=
  ['\x7b', '#'] <:+ cs ∨ ['\x7b', '#', '-'] <:+ cs ∨ ['\x7b', '#', '+'] <:+ cs

theorem EndsInComment.of_suffix {cs rest : List Char} (h : EndsInComment rest) (hrest : rest <:+ cs) :
    EndsInComment cs :=
  h.imp (·.trans hrest) (.imp (·.trans hrest) (·.trans hrest))

theorem suffix_skipSign (rest : List Char) : skipSign rest <:+ rest := by
  rw [skipSign]
  split
  · exact List.drop_suffix 1 rest
  · exact List.suffix_rfl

theorem endsInComment_of_skipSign (rest : List Char) (h : skipSign rest = []) :
    EndsInComment ('\x7b' :: '#' :: rest) := by
  rw [skipSign] at h
  split at h
  · next hsign =>
      -- A sign was taken away, so there was one and nothing behind it.
      rcases rest with _ | ⟨c, rest⟩
      · simp [sign?] at hsign
      · rw [List.drop_one, List.tail_cons] at h
        subst h
        rcases Option.isSome_iff_exists.mp hsign with ⟨d, hd⟩
        rw [sign?, List.head?_cons, Option.filter_eq_some_iff] at hd
        obtain rfl := Option.some.inj hd.1
        rcases Bool.or_eq_true_iff.mp hd.2 with hminus | hplus
        · rw [of_decide_eq_true hminus]
          exact .inr (.inl List.suffix_rfl)
        · rw [of_decide_eq_true hplus]
          exact .inr (.inr List.suffix_rfl)
  · subst h
    exact .inl List.suffix_rfl

end Template

end CodeBehind
