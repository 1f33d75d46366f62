import CodeBehind.Proofs.Template.FinalFeed
import CodeBehind.Proofs.Template.Outline

/-!
# Readers and white space

Which white space a reader keeps makes no difference to the tags that it sees.

A line feed behind a tag opens nothing, so whether it is dropped or becomes part of the text before the next tag,
the next opening delimiter is the same one. The line feed at the end of a template is another matter: right behind
the mark that opens a comment it is what the comment holds, and without it there is no comment.

## Main definitions

* `next`: What comes behind the end of a tag or a comment.
* `outline`: The tokens there, without the texts.
* `LeavesCommentOpen`: A template ends with a line feed right behind the mark that opens a comment.

## Main results

* `scanFrom_spacing`: Two spacings give the same outline.
* `scanFrom_feed`: A line feed at the end changes no outline, unless a comment is opened right before it.
* `scan_spacing`: The reader that renders and the one that validates see the same outline.

## Theorems

* `next_close?`, `next_skipComment`, `scanTag_spacing`: The next opening delimiter is the same for all readers.
* `scanFrom_map_blank`: One step outside of the tags.
-/

namespace CodeBehind

namespace Template

open Text (isBlank isWordChar isName)

/-- What comes behind the end of a tag or a comment: the next opening delimiter, and what follows it. -/
def next (after : Bool × List Char) : Option (Opening × List Char) :=
  (splitAtOpening after.2).2

theorem splitAtOpening_feed (cs : List Char) : (splitAtOpening ('\n' :: cs)).2 = (splitAtOpening cs).2 := by
  rw [splitAtOpening, opening?_of_ne '\n' cs (by decide)]

/-- Whether the line feed behind a delimiter is dropped makes no difference to what comes next. -/
theorem next_close? (delimiter : List Char) (drops drops' plusToo : Bool) (cs : List Char) :
    (close? delimiter drops plusToo cs).map next = (close? delimiter drops' plusToo cs).map next := by
  unfold close?
  simp only
  split
  · rfl
  split
  · rfl
  split
  · split
    · next rest hrest =>
        cases drops <;> cases drops' <;> simp [next, splitAtOpening_feed]
    · rfl
  · rfl

theorem next_closeTag? (spacing spacing' : Spacing) (tag : Tag) (cs : List Char) :
    (closeTag? spacing tag cs).map next = (closeTag? spacing' tag cs).map next := by
  cases tag with
  | print => rfl
  | statement => exact next_close? _ _ _ _ cs

theorem next_skipComment (spacing spacing' : Spacing) (cs : List Char) :
    (skipComment spacing cs).map next = (skipComment spacing' cs).map next := by
  induction cs with
  | nil => rfl
  | cons c cs ih =>
      have hclose := next_close? ['#', '\x7d'] spacing.dropsFeed spacing'.dropsFeed true (c :: cs)
      rw [skipComment, skipComment]
      cases hfound : close? ['#', '\x7d'] spacing.dropsFeed true (c :: cs) with
      | some after =>
          cases hfound' : close? ['#', '\x7d'] spacing'.dropsFeed true (c :: cs) with
          | some after' => rwa [hfound, hfound'] at hclose
          | none => simp [hfound, hfound'] at hclose
      | none =>
          cases hfound' : close? ['#', '\x7d'] spacing'.dropsFeed true (c :: cs) with
          | some after' => simp [hfound, hfound'] at hclose
          | none => exact ih

theorem scanTag_spacing (spacing spacing' : Spacing) (total : Nat) (tag : Tag) (fuel : Nat) (opened : List String)
    (cs : List Char) :
    (scanTag spacing total tag fuel opened cs).1 = (scanTag spacing' total tag fuel opened cs).1 ∧
      Option.Rel (fun after after' => next after = next after') (scanTag spacing total tag fuel opened cs).2
        (scanTag spacing' total tag fuel opened cs).2 := by
  refine scanTag_of_related Eq _ ?_ ?_ fuel opened cs cs rfl
  · rintro cs _ rfl hcs
    exact ⟨hcs, rel_of_map_eq (next_closeTag? spacing spacing' tag cs), rfl, rfl⟩
  · rintro _ fuel opened rfl
    cases fuel <;> rfl

/-- The outline of what is left of a template behind a tag or a comment. -/
def outline (spacing : Spacing) (total fuel : Nat) (after : Bool × List Char) : List Token :=
  (scanFrom spacing total fuel after.1 after.2).map Token.blank

/-- What comes of a template outside its tags, up to the text there. -/
theorem scanFrom_map_blank (spacing : Spacing) (total fuel : Nat) (fresh : Bool) (cs : List Char) :
    (scanFrom spacing total (fuel + 1) fresh cs).map Token.blank =
      .plain "" :: match (splitAtOpening cs).2 with
        | none => []
        | some (.comment, rest) =>
          (skipComment spacing (skipSign rest)).elim (if (skipSign rest).isEmpty then [] else [openComment])
            (outline spacing total fuel)
        | some (.tag tag, rest) =>
          .opening tag :: ((scanTag spacing total tag fuel [] (skipSign rest)).1.map Token.blank ++
            (scanTag spacing total tag fuel [] (skipSign rest)).2.elim [] (outline spacing total fuel)) := by
  rw [scanFrom]
  rcases splitAtOpening cs with ⟨text, _ | ⟨_ | tag, rest⟩⟩
  · rfl
  · simp only
    cases skipComment spacing (skipSign rest) with
    | none =>
        simp only [List.map_cons, Token.blank, Option.elim]
        split <;> rfl
    | some after => rfl
  · simp only
    rcases scanTag spacing total tag fuel [] (skipSign rest) with ⟨tokens, _ | after⟩
    · simp only [List.map_cons, Token.blank, Option.elim, List.append_nil]
    · simp only [List.map_cons, List.map_append, Token.blank, List.cons_append, Option.elim, outline]

/-- Which white space a reader keeps makes no difference to the tokens other than the text. -/
theorem scanFrom_spacing (spacing spacing' : Spacing) (total fuel : Nat) (fresh fresh' : Bool) (cs cs' : List Char)
    (h : (splitAtOpening cs).2 = (splitAtOpening cs').2) :
    (scanFrom spacing total fuel fresh cs).map Token.blank =
      (scanFrom spacing' total fuel fresh' cs').map Token.blank := by
  induction fuel generalizing fresh fresh' cs cs' with
  | zero => rfl
  | succ fuel ih =>
      have houtline (after after' : Bool × List Char) (hnext : next after = next after') :
          outline spacing total fuel after = outline spacing' total fuel after' :=
        ih after.1 after'.1 after.2 after'.2 hnext
      rw [scanFrom_map_blank, scanFrom_map_blank, h]
      rcases (splitAtOpening cs').2 with _ | ⟨_ | tag, rest⟩
      · rfl
      · simp only
        rw [elim_of_rel (rel_of_map_eq (next_skipComment spacing spacing' _)) _ fun after _ => houtline after]
      · rcases scanTag_spacing spacing spacing' total tag fuel [] (skipSign rest) with ⟨htokens, hafter⟩
        simp only
        rw [htokens, elim_of_rel hafter _ fun after _ => houtline after]

/-- A line feed at the end changes no token other than the text, unless a comment is opened right before it. -/
theorem scanFrom_feed (total fuel : Nat) (fresh fresh' : Bool) (cs cs' : List Char) (h : IsFed cs cs')
    (hopen : ¬EndsInComment cs) :
    (scanFrom .verbatim (total + 1) fuel fresh' cs').map Token.blank =
      (scanFrom .verbatim total fuel fresh cs).map Token.blank := by
  induction fuel generalizing fresh fresh' cs cs' with
  | zero => rfl
  | succ fuel ih =>
      have houtline (after after' : Bool × List Char) (hafter : after.2 <:+ cs) (hfed : IsFed after.2 after'.2) :
          outline .verbatim total fuel after = outline .verbatim (total + 1) fuel after' :=
        (ih after.1 after'.1 after.2 after'.2 hfed fun hends => hopen (hends.of_suffix hafter)).symm
      rw [scanFrom_map_blank, scanFrom_map_blank]
      rcases h with rfl | ⟨rfl, rfl⟩
      · have hfound := suffix_splitAtOpening cs
        rw [splitAtOpening_append_feed]
        rcases hsplit : (splitAtOpening cs).2 with _ | ⟨_ | tag, rest⟩
        · rfl
        · rcases hfound _ hsplit with ⟨hrest, hcomment⟩
          have hsuffix := (suffix_skipSign rest).trans hrest
          -- A comment with nothing in it is the one thing that a line feed makes longer.
          have hkept : skipSign rest ≠ [] := fun heq =>
            hopen ((endsInComment_of_skipSign rest heq).of_suffix (hcomment rfl))
          simp only [Option.map_some, withFeed, skipSign_feed]
          rw [elim_of_rel (rel_of_rel_map (skipComment_feed (skipSign rest))) _ fun after hmem after' =>
            houtline after after' ((suffix_skipComment _ after.2 (Option.mem_map_of_mem Prod.snd hmem)).trans hsuffix)]
          simp [hkept]
        · rcases hfound _ hsplit with ⟨hrest, _⟩
          have hsuffix := (suffix_skipSign rest).trans hrest
          rcases scanTag_feed total tag fuel [] _ _ (.inl rfl : IsFed (skipSign rest) (skipSign rest ++ ['\n'])) with
            ⟨htokens, hafter⟩
          simp only [Option.map_some, withFeed, skipSign_feed]
          rw [htokens, elim_of_rel hafter _ fun after hmem after' =>
            houtline after after' ((suffix_scanTag total tag fuel [] _ after.2
              (Option.mem_map_of_mem Prod.snd hmem)).trans hsuffix)]
      · cases fuel <;> rfl

/-- A template ends with a line feed right behind the mark that opens a comment. -/
def LeavesCommentOpen (template : String) : Prop :=
  ∃ cs, Text.unifyLineEndings template.toList = cs ++ ['\n'] ∧ EndsInComment cs

/-- The two readers see the same tags and the same tokens in them. -/
theorem scan_spacing (template : String) (hopen : ¬LeavesCommentOpen template) :
    (scan .traceless template).map Token.blank = (scan .verbatim template).map Token.blank := by
  have htraceless : Spacing.traceless.characters template = Text.unifyLineEndings template.toList := rfl
  have hverbatim : Spacing.verbatim.characters template = dropEnd (Text.unifyLineEndings template.toList) := rfl
  simp only [scan]
  rw [scanFrom_spacing .traceless .verbatim _ _ true true _ _ rfl, htraceless, hverbatim, dropEnd]
  split
  · next hlast =>
      rcases List.getLast?_eq_some_iff.mp hlast with ⟨cs, hcs⟩
      rw [hcs, List.dropLast_concat, List.length_append]
      exact scanFrom_feed cs.length _ true true cs _ (.inl rfl) fun hends => hopen ⟨cs, hcs, hends⟩
  · rfl

end Template

end CodeBehind
