import CodeBehind.Proofs.Syntax.Body
import CodeBehind.Proofs.Syntax.Renderable
import CodeBehind.Proofs.Text.Canonical

/-!
# How the body of a file begins

The body of a file with a class in it shows something at once, and does not begin by closing a block.

The first line that is written and shows something is an import or the header of a class, and both begin with a word
of the language. Names stand further to the right, and a line end in a name only begins lines below. So whatever
the names are, the first character of the body is the first character of one of these words.

## Main results

* `exists_body_lines`: The lines of a body, and what its first line is not.

## Theorems

* `exists_written_start`: What is written begins with a word, or with a blank line and a word.
-/

namespace CodeBehind

namespace Syntax

open Text (canonicalLines closesBlock isBlank joinLines terminate)

/-- What is written of a file with a class in it begins with the word of an import, or with a blank line and the
    word of a header. -/
theorem exists_written_start (unit : CompilationUnit) (htypes : unit.types ≠ []) :
    ∃ rest, joinLines unit.written = 'u' :: rest ∨ joinLines unit.written = '\n' :: 'p' :: rest := by
  rcases unit with ⟨imports, types⟩
  cases imports with
  | cons name others =>
      have hwritten : ∃ below, CompilationUnit.written ⟨name :: others, types⟩ =
          ("using " ++ name ++ ";").toList :: below := ⟨_, rfl⟩
      have hword : ("using " ++ name ++ ";").toList.head? = some 'u' :=
        Text.head?_append _ _ _ (Text.head?_append _ _ _ (by decide))
      rcases hwritten with ⟨below, hwritten⟩
      rcases List.head?_eq_some_iff.mp hword with ⟨word, hline⟩
      rcases Text.exists_joinLines_cons 'u' word below with ⟨rest, hrest⟩
      exact ⟨rest, Or.inl (by rw [hwritten, hline, hrest])⟩
  | nil =>
      -- Without imports the blank line below them comes first.
      cases types with
      | nil => exact absurd rfl htypes
      | cons type others =>
          have hwritten : ∃ below, CompilationUnit.written ⟨[], type :: others⟩ =
              [] :: (" ".intercalate type.headWords).toList :: below := ⟨_, rfl⟩
          rcases hwritten with ⟨below, hwritten⟩
          rcases List.head?_eq_some_iff.mp (head?_headWords type) with ⟨word, hline⟩
          rcases Text.exists_joinLines_cons 'p' word below with ⟨rest, hrest⟩
          exact ⟨rest, Or.inr (by rw [hwritten, hline, Text.joinLines_cons_cons, List.nil_append, hrest])⟩

/-- The body of a file with a class in it begins with a line that closes no block. -/
theorem exists_body_lines (unit : CompilationUnit) (body : String) (htypes : unit.types ≠ [])
    (hbody : unit.body = .ok body) :
    ∃ first rest, Text.IsCanonicalLines (first :: rest) ∧ closesBlock first = false ∧
      body.toList = terminate (first :: rest) := by
  have hrender := isRenderable_of_body unit body hbody
  rw [body_eq_normalize unit hrender, Except.ok.injEq] at hbody
  have htext : body.toList = terminate (canonicalLines (joinLines unit.written)) := by
    rw [← hbody, Text.toList_normalize, String.toList_ofList]
  have hcanonical := Text.isCanonicalLines_canonicalLines (joinLines unit.written)
  -- Whichever word comes first, it is visible and no brace.
  have hstart : ∃ c cs, canonicalLines (joinLines unit.written) = canonicalLines (c :: cs) ∧
      isBlank c = false ∧ (c == '}') = false := by
    rcases exists_written_start unit htypes with ⟨rest, himport | hheader⟩
    · exact ⟨'u', rest, by rw [himport], by decide, by decide⟩
    · exact ⟨'p', rest, by rw [hheader, Text.canonicalLines_cons_feed], by decide, by decide⟩
  rcases hstart with ⟨c, cs, hlines, hc, hbrace⟩
  rcases Text.canonicalLines_cons_visible c cs hc with ⟨line, rest, hfirst⟩
  rw [hlines, hfirst] at htext hcanonical
  exact ⟨c :: line, rest, hcanonical, (Text.closesBlock_cons c line hc).trans hbrace, htext⟩

end Syntax

end CodeBehind
