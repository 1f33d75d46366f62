import CodeBehind.Proofs.Generation.Course
import CodeBehind.Proofs.Synthesis.Source

/-!
# The grammar of names

Which names pass the check on identifiers, and what a run that does not warn has generated.

The grammar is written down a second time, as a proposition over the characters of ASCII and without the functions
that check it. A name fits it if it is an optional at sign, a letter or an underscore, and letters, digits and
underscores up to its very end, and a name of a class is one that is no reserved word unless the at sign protects it.

The check knows these names, and one more of each kind. A line feed at the very end of a name is not looked at, while
the reserved words are compared with the whole name. So a name that fits the grammar but for a line feed at its end
always passes, a reserved word included. These are the only names on which the check and the grammar differ
(`isIdentifier_iff`).

A warning is given for what does not pass, so a run without a warning has a type name of one of the two kinds. A name
of a class has no tabs and no line ends, and the header of its class is the line that it should be. With a line feed
in it the header is no line at all, because a line has no line feeds.

## Main definitions

* `IsSpelled`, `Fits`: The characters of a name.
* `IsClassName`: The grammar of the names of classes.
* `HasFinalFeed`: The names that pass without being in the grammar.

## Main results

* `isIdentifier_exact`: The check and the grammar, and the header that is generated without a warning.

## Theorems

* `isWord_iff`, `isWord_dropFinalNewline`: The words that are let pass.
* `fits_iff`: A fitting name is a word behind an optional at sign.
* `isIdentifier_iff`: The names that pass.
* `header_of_isClassName`, `header_notMem_lines`: The header of a class in its text.
* `unwarned_iff`: The documents for which no warning is given.
* `exists_result`: What a run for an accepted document gives.
-/

namespace CodeBehind

namespace Identifier

/-! ## The grammar -/

/-- The letters of ASCII. -/
def IsLetter (c : Char) : Prop :=
  ('A' ≤ c ∧ c ≤ 'Z') ∨ ('a' ≤ c ∧ c ≤ 'z')

/-- The digits of ASCII. -/
def IsDigit (c : Char) : Prop :=
  '0' ≤ c ∧ c ≤ '9'

/-- A letter or an underscore, and then letters, digits and underscores up to the very end. -/
def IsSpelled (cs : List Char) : Prop :=
  ∃ first rest, cs = first :: rest ∧ (IsLetter first ∨ first = '_') ∧
    ∀ c ∈ rest, IsLetter c ∨ IsDigit c ∨ c = '_'

/-- A spelled word, with an at sign before it or without. -/
def Fits (name : String) : Prop :=
  ∃ word, IsSpelled word ∧ (name.toList = word ∨ name.toList = '@' :: word)

/-- The names that a class can have: they fit, and without an at sign they are no reserved words. -/
def IsClassName (name : String) : Prop :=
  Fits name ∧ (name.toList.head? ≠ some '@' → name ∉ reservedWords)

/-- A name that would fit without the line feed at its end. -/
def HasFinalFeed (name : String) : Prop :=
  ∃ word, Fits word ∧ name = word ++ "\n"

/-! ## Words -/

theorem isAlpha_iff (c : Char) : c.isAlpha = true ↔ IsLetter c := by
  have hranges : c.isAlpha =
      (decide ('A' ≤ c ∧ c ≤ 'Z') || (decide ('a' ≤ c) && decide (c ≤ 'z'))) := rfl
  rw [hranges, Bool.or_eq_true, Bool.and_eq_true, decide_eq_true_eq, decide_eq_true_eq, decide_eq_true_eq, IsLetter]

theorem isDigit_iff (c : Char) : c.isDigit = true ↔ IsDigit c := by
  have hrange : c.isDigit = (decide ('0' ≤ c) && decide (c ≤ '9')) := rfl
  rw [hrange, Bool.and_eq_true, decide_eq_true_eq, decide_eq_true_eq, IsDigit]

theorem isStart_iff (c : Char) : isStart c = true ↔ IsLetter c ∨ c = '_' := by
  rw [isStart, Bool.or_eq_true, isAlpha_iff, decide_eq_true_eq]

theorem isPart_iff (c : Char) : isPart c = true ↔ IsLetter c ∨ IsDigit c ∨ c = '_' := by
  have hkinds : c.isAlphanum = (c.isAlpha || c.isDigit) := rfl
  rw [isPart, hkinds, Bool.or_eq_true, Bool.or_eq_true, isAlpha_iff, isDigit_iff, decide_eq_true_eq, or_assoc]

theorem isWord_iff (cs : List Char) : isWord cs = true ↔ IsSpelled cs := by
  cases cs with
  | nil => exact iff_of_false Bool.false_ne_true fun ⟨_, _, heq, _⟩ => List.cons_ne_nil _ _ heq.symm
  | cons first rest =>
      simp only [isWord, Bool.and_eq_true, List.all_eq_true, isStart_iff, isPart_iff]
      constructor
      · rintro ⟨hfirst, hrest⟩
        exact ⟨first, rest, rfl, hfirst, hrest⟩
      · rintro ⟨c, cs, heq, hfirst, hrest⟩
        rw [List.cons.injEq] at heq
        rw [heq.1, heq.2]
        exact ⟨hfirst, hrest⟩

/-- Everything in a word comes after the digits begin, the signs and the white space of ASCII do not. -/
theorem zero_le_of_isSpelled (cs : List Char) (h : IsSpelled cs) (c : Char) (hc : c ∈ cs) : '0' ≤ c := by
  have hletter : ∀ c, IsLetter c → '0' ≤ c := by
    rintro c (⟨hlow, _⟩ | ⟨hlow, _⟩)
    · exact Char.le_trans (by decide) hlow
    · exact Char.le_trans (by decide) hlow
  have hunderscore : ∀ c, c = '_' → '0' ≤ c := by
    intro c hc
    rw [hc]
    decide
  rcases h with ⟨first, rest, heq, hfirst, hrest⟩
  -- The first character is of two kinds and the others are of three.
  rw [heq, List.mem_cons] at hc
  rcases hc with hc | hc
  · rw [hc]
    exact hfirst.elim (hletter first) (hunderscore first)
  · rcases hrest c hc with hc | hc | hc
    · exact hletter c hc
    · exact hc.1
    · exact hunderscore c hc

/-- A word passes with a line feed at its end and without one. -/
theorem isWord_dropFinalNewline (cs : List Char) :
    isWord (dropFinalNewline cs) = true ↔ IsSpelled cs ∨ ∃ word, IsSpelled word ∧ cs = word ++ ['\n'] := by
  rw [isWord_iff, dropFinalNewline]
  by_cases hlast : cs.getLast? = some '\n'
  · rcases List.getLast?_eq_some_iff.mp hlast with ⟨front, heq⟩
    -- With the line feed it is no word any more.
    have hnot : ¬ IsSpelled cs := fun hspelled =>
      absurd (zero_le_of_isSpelled cs hspelled '\n' (List.mem_of_getLast? hlast)) (by decide)
    rw [if_pos hlast, heq, List.dropLast_concat]
    constructor
    · intro hfront
      exact Or.inr ⟨front, hfront, rfl⟩
    · rintro (hwhole | ⟨word, hword, hsame⟩)
      · rw [heq] at hnot
        exact absurd hwhole hnot
      · rwa [List.append_cancel_right hsame]
  · -- Nothing is dropped, and nothing that ends with a line feed is meant.
    rw [if_neg hlast]
    constructor
    · exact Or.inl
    · rintro (hwhole | ⟨word, _, heq⟩)
      · exact hwhole
      · rw [heq] at hlast
        exact absurd List.getLast?_concat hlast

/-! ## Names -/

theorem dropAt_of_head? (cs : List Char) (h : cs.head? ≠ some '@') : dropAt cs = cs := by
  unfold dropAt
  split
  · exact absurd rfl h
  · rfl

theorem dropAt_cases (cs : List Char) : cs = '@' :: dropAt cs ∨ (dropAt cs = cs ∧ cs.head? ≠ some '@') := by
  by_cases hhead : cs.head? = some '@'
  · rcases List.head?_eq_some_iff.mp hhead with ⟨rest, heq⟩
    rw [heq]
    exact Or.inl rfl
  · exact Or.inr ⟨dropAt_of_head? cs hhead, hhead⟩

theorem dropAt_concat (cs : List Char) : dropAt (cs ++ ['\n']) = dropAt cs ++ ['\n'] := by
  rcases dropAt_cases cs with hsign | ⟨hdrop, hhead⟩
  · rw [hsign]
    rfl
  · -- The line feed behind the text is not the at sign either.
    have hwhole : (cs ++ ['\n']).head? ≠ some '@' := by
      cases cs with
      | nil => decide
      | cons c rest => exact hhead
    rw [dropAt_of_head? _ hwhole, hdrop]

theorem head?_ne_at (cs : List Char) (h : IsSpelled cs) : cs.head? ≠ some '@' := by
  rcases h with ⟨first, rest, heq, hfirst, _⟩
  have hat : ¬ (IsLetter '@' ∨ '@' = '_') := by
    rw [← isStart_iff]
    decide
  intro hhead
  rw [heq, List.head?_cons, Option.some.injEq] at hhead
  rw [hhead] at hfirst
  exact hat hfirst

/-- A fitting name is a word behind an optional at sign. -/
theorem fits_iff (name : String) : Fits name ↔ IsSpelled (dropAt name.toList) := by
  constructor
  · rintro ⟨word, hword, heq | heq⟩
    · -- A word does not begin with an at sign.
      rcases dropAt_cases name.toList with hsign | ⟨hdrop, _⟩
      · refine absurd ?_ (head?_ne_at word hword)
        rw [← heq, hsign, List.head?_cons]
      · rw [hdrop, heq]
        exact hword
    · rw [heq]
      exact hword
  · intro hword
    refine ⟨dropAt name.toList, hword, ?_⟩
    rcases dropAt_cases name.toList with hsign | ⟨hdrop, _⟩
    · exact Or.inr hsign
    · exact Or.inl hdrop.symm

theorem zero_le_of_fits (name : String) (h : Fits name) (c : Char) (hc : c ∈ name.toList) : '0' ≤ c := by
  rcases h with ⟨word, hword, heq | heq⟩
  · rw [heq] at hc
    exact zero_le_of_isSpelled word hword c hc
  · rw [heq, List.mem_cons] at hc
    rcases hc with hsign | hc
    · rw [hsign]
      decide
    · exact zero_le_of_isSpelled word hword c hc

/-- White space is nowhere in a fitting name. -/
theorem notMem_of_fits (name : String) (h : Fits name) (c : Char) (hc : c < '0') : c ∉ name.toList := fun hmem =>
  absurd (zero_le_of_fits name h c hmem) (Char.not_le.mpr hc)

theorem feed_mem_of_hasFinalFeed (name : String) (h : HasFinalFeed name) : '\n' ∈ name.toList := by
  rcases h with ⟨word, _, heq⟩
  rw [heq, String.toList_append]
  exact List.mem_append_right _ (List.mem_singleton_self _)

/-- No name is of both kinds. -/
theorem not_isClassName_of_hasFinalFeed (name : String) (h : HasFinalFeed name) : ¬ IsClassName name := fun hname =>
  notMem_of_fits name hname.1 '\n' (by decide) (feed_mem_of_hasFinalFeed name h)

/-- The words that pass behind an optional at sign: those of fitting names, with a line feed at the end or without. -/
theorem isWord_dropFinalNewline_dropAt (name : String) :
    isWord (dropFinalNewline (dropAt name.toList)) = true ↔ Fits name ∨ HasFinalFeed name := by
  rw [isWord_dropFinalNewline, fits_iff]
  refine or_congr_right ⟨?_, ?_⟩
  · -- The at sign goes back to the front of the word.
    rintro ⟨word, hword, heq⟩
    rcases dropAt_cases name.toList with hsign | ⟨hdrop, _⟩
    · refine ⟨String.ofList ('@' :: word), ⟨word, hword, Or.inr String.toList_ofList⟩, ?_⟩
      rw [← String.toList_inj, String.toList_append, String.toList_ofList, hsign, heq]
      rfl
    · refine ⟨String.ofList word, ⟨word, hword, Or.inl String.toList_ofList⟩, ?_⟩
      rw [← String.toList_inj, String.toList_append, String.toList_ofList, ← hdrop, heq]
      rfl
  · rintro ⟨word, hword, heq⟩
    refine ⟨dropAt word.toList, (fits_iff word).mp hword, ?_⟩
    rw [heq, String.toList_append]
    exact dropAt_concat word.toList

/-- The names that pass: those of the grammar, and every fitting name with a line feed at its end. The reserved words
    have no line feed, so with one they are not found among them. -/
theorem isIdentifier_iff (name : String) : isIdentifier name = true ↔ IsClassName name ∨ HasFinalFeed name := by
  have hreserved : ∀ word ∈ reservedWords, '\n' ∉ word.toList := by decide
  have hsign : (name.toList.head? == some '@' || !reservedWords.contains name) = true ↔
      (name.toList.head? ≠ some '@' → name ∉ reservedWords) := by
    rw [Bool.or_eq_true, beq_iff_eq, Bool.not_eq_true', List.contains_eq_mem, decide_eq_false_iff_not,
      ← or_iff_not_imp_left]
  have hfeed : HasFinalFeed name → name.toList.head? ≠ some '@' → name ∉ reservedWords := fun h _ hmem =>
    hreserved name hmem (feed_mem_of_hasFinalFeed name h)
  rw [isIdentifier, Bool.and_eq_true, isWord_dropFinalNewline_dropAt, hsign, or_and_right, IsClassName]
  exact or_congr_right (and_iff_left_of_imp hfeed)

/-- The check is right about a name unless the name has a line feed at its end and would fit without it. -/
theorem isIdentifier_iff_isClassName (name : String) :
    (isIdentifier name = true ↔ IsClassName name) ↔ ¬ HasFinalFeed name := by
  rw [isIdentifier_iff]
  constructor
  · intro hsame hfeed
    exact not_isClassName_of_hasFinalFeed name hfeed (hsame.mp (Or.inr hfeed))
  · intro hfeed
    exact or_iff_left hfeed

end Identifier

/-! ## The header of a class -/

open Declaration Generation Identifier

/-- The header of a class with a name of the grammar is generated as it is. -/
theorem header_of_isClassName (path : String) (banner : Banner) (request : Request) (rendered : Rendered)
    (haccepted : Request.ofPath path = .ok request) (hname : IsClassName request.typeName)
    (hrendered : synthesize path banner = .ok rendered) :
    (Text.lines rendered.text.toList)[headerIndex banner]? = some (header request.typeName).toList := by
  have hclean := notMem_of_fits request.typeName hname.1
  -- Without a tab in the name there is none in the header, so nothing is expanded.
  have htab : '\t' ∉ (header request.typeName).toList :=
    Text.notMem_append _ _ _ (Text.notMem_append _ _ _ (by decide) (hclean '\t' (by decide))) (by decide)
  have hfeed := hclean '\n' (by decide)
  rw [synthesize_of_ofPath path banner request haccepted hfeed (hclean '\r' (by decide)), Except.ok.injEq] at hrendered
  rw [← hrendered]
  simp only [lines_around_header banner _ hfeed]
  rw [← length_above_header banner, List.getElem?_append_right (Nat.le_refl _), Nat.sub_self, List.getElem?_cons_zero,
    Text.expandTabs, Text.expandTabsFrom_of_notMem 0 _ htab]

/-- With a line feed in the name the header is no line of any text. -/
theorem header_notMem_lines (name : String) (h : HasFinalFeed name) (text : String) :
    (header name).toList ∉ Text.lines text.toList := by
  have hfeed : '\n' ∈ ("public partial class " ++ name ++ " : MonoBehaviour").toList := by
    rw [String.toList_append, String.toList_append]
    exact List.mem_append_left _ (List.mem_append_right _ (feed_mem_of_hasFinalFeed name h))
  intro hmem
  exact Text.feed_notMem_of_mem_lines text.toList (header name).toList hmem hfeed

namespace Generation

section

variable (files : FileSystem) (banner : Banner) (path : String) (dryRun : Bool) (request : Request)
  (haccepted : Request.ofPath path = .ok request)
include haccepted

/-- An accepted document is warned about if and only if its type name does not pass. -/
theorem unwarned_iff :
    ((generate files banner path dryRun).events.filterMap Event.record?).filter
        (fun record => record.level = .warning) = [] ↔ isIdentifier request.typeName = true := by
  have htold := told_of_course files banner path dryRun _ (course_generate files banner path dryRun)
  have htype : request.typeName = Document.typeName path := by
    rw [(ofPath_eq_ok path request haccepted).1]
    rfl
  rw [htold.warned, haccepted, htype]
  cases isIdentifier (Document.typeName path) with
  | true => exact iff_of_true rfl rfl
  | false => exact iff_of_false (List.cons_ne_nil _ _) Bool.false_ne_true

/-- An accepted document has a text, and it is the result of the run unless writing it fails. -/
theorem exists_result :
    ∃ rendered, synthesize path banner = .ok rendered ∧
      (generate files banner path dryRun).result =
        if dryRun then .ok rendered else (write files rendered).result.map fun _ => rendered := by
  rcases exists_synthesize_of_ofPath path banner request haccepted with ⟨text, hrendered⟩
  have hresult := result_of_course files banner path dryRun _ (course_generate files banner path dryRun)
  rw [hrendered] at hresult
  exact ⟨_, hrendered, hresult⟩

end

/-- The check and the grammar agree on a name if and only if it is not a fitting name with a line feed at its end. For
    an accepted document for which no warning is given, in any tree and whether the file is written or not, there is a
    text, and the result of the run is that text or a failure to write it. If the type name is none of the names on
    which the check is wrong, the text has the header of the class in its place, character for character. Otherwise it
    has that header nowhere. -/
theorem isIdentifier_exact (name : String) :
    ((isIdentifier name = true ↔ IsClassName name) ↔ ¬ HasFinalFeed name) ∧
      ∀ (files : FileSystem) (banner : Banner) (path : String) (dryRun : Bool) (request : Request),
        Request.ofPath path = .ok request → request.typeName = name →
        ((generate files banner path dryRun).events.filterMap Event.record?).filter
          (fun record => record.level = .warning) = [] →
        ∃ rendered, synthesize path banner = .ok rendered ∧
          (generate files banner path dryRun).result =
            (if dryRun then .ok rendered else (write files rendered).result.map fun _ => rendered) ∧
          (¬ HasFinalFeed name →
            (Text.lines rendered.text.toList)[headerIndex banner]? = some (header name).toList) ∧
          (HasFinalFeed name → (header name).toList ∉ Text.lines rendered.text.toList) := by
  refine ⟨isIdentifier_iff_isClassName name, fun files banner path dryRun request haccepted htype hquiet => ?_⟩
  rcases exists_result files banner path dryRun request haccepted with ⟨rendered, hrendered, hresult⟩
  refine ⟨rendered, hrendered, hresult, fun hfeed => ?_, fun hfeed => header_notMem_lines name hfeed rendered.text⟩
  -- The type name passes, and what passes without the line feed is in the grammar.
  rw [unwarned_iff files banner path dryRun request haccepted, htype, isIdentifier_iff] at hquiet
  have hname := hquiet.resolve_right hfeed
  rw [← htype] at hname ⊢
  exact header_of_isClassName path banner request rendered haccepted hname hrendered

/-- A document called by a reserved word, with an at sign before it. -/
theorem isIdentifier_exact_protected :
    Request.ofPath "ui/@class.uxml" = .ok ⟨"ui/@class.uxml"⟩ ∧
      (isIdentifier "@class" = true ↔ IsClassName "@class") ∧
      ((generate blockedTree .standard "ui/@class.uxml" true).events.filterMap Event.record?).filter
        (fun record => record.level = .warning) = [] ∧
      ∃ rendered, (generate blockedTree .standard "ui/@class.uxml" true).result = .ok rendered ∧
        (Text.lines rendered.text.toList)[headerIndex .standard]? =
          some "public partial class @class : MonoBehaviour".toList := by
  have haccepted := ofPath_of_hasName "ui/@class.uxml" (by decide)
  have htype : Request.typeName ⟨"ui/@class.uxml"⟩ = "@class" := by decide
  have hfeed : ¬ HasFinalFeed "@class" := fun h => absurd (feed_mem_of_hasFinalFeed _ h) (by decide)
  have hquiet := (unwarned_iff blockedTree .standard _ true _ haccepted).mpr (by decide)
  rcases isIdentifier_exact "@class" with ⟨hgrammar, hruns⟩
  rcases hruns blockedTree .standard "ui/@class.uxml" true _ haccepted htype hquiet with
    ⟨rendered, _, hresult, hheader, _⟩
  exact ⟨haccepted, hgrammar.mpr hfeed, hquiet, rendered, hresult, hheader hfeed⟩

/-- A name with a line feed at its end passes the check, and the document of that name is generated without a warning
    and without the header. -/
theorem isIdentifier_finalFeed :
    ¬ (isIdentifier "Main\n" = true ↔ IsClassName "Main\n") ∧
      Request.ofPath "Main\n.uxml" = .ok ⟨"Main\n.uxml"⟩ ∧ Request.typeName ⟨"Main\n.uxml"⟩ = "Main\n" ∧
      ((generate blockedTree .standard "Main\n.uxml" true).events.filterMap Event.record?).filter
        (fun record => record.level = .warning) = [] ∧
      ∃ rendered, (generate blockedTree .standard "Main\n.uxml" true).result = .ok rendered ∧
        (header "Main\n").toList ∉ Text.lines rendered.text.toList := by
  have haccepted := ofPath_of_hasName "Main\n.uxml" (by decide)
  have hmain : Fits "Main" := by
    rw [fits_iff, ← isWord_iff]
    decide
  have hfeed : HasFinalFeed "Main\n" := ⟨"Main", hmain, by decide⟩
  have hquiet := (unwarned_iff blockedTree .standard _ true _ haccepted).mpr (by decide)
  rcases exists_result blockedTree .standard _ true _ haccepted with ⟨rendered, _, hresult⟩
  refine ⟨fun hsame => ?_, haccepted, by decide, hquiet, rendered, hresult, ?_⟩
  · exact (isIdentifier_iff_isClassName "Main\n").mp hsame hfeed
  · exact header_notMem_lines "Main\n" hfeed rendered.text

end Generation

end CodeBehind
