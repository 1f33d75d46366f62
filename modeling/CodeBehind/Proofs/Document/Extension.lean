import CodeBehind.Proofs.Synthesis.Guards
import CodeBehind.Proofs.Text.LowerCase

/-!
# The extension of documents

Which paths are documents, and what their type names are.

A path is a document if it ends with the extension once the whole of it is in lower case. Letters of other scripts could
become those of the extension, and a letter could become two or depend on what stands around it. But the letters of the
extension come from themselves and their capitals only, so what is found at the end of the path is a dot and four
letters of the alphabet, as small letters or capitals.

The type name is found by another rule: it ends before the last dot of the base name. There is no slash and no other dot
in the extension, however it is spelled. So the base name of a document ends with it, and the last dot is the one that
it begins with.

## Main definitions

* `SpellsExtension`: The spellings of the extension.

## Main results

* `isDocument_spelled`: A path is a document if it ends with a spelling of the extension, and its type name is its base
  name without that.

## Theorems

* `spellsExtension_iff`: The spellings are what becomes the extension letter by letter.
* `getLast?_of_isDocument`, `isDocument_of_getLast?`: The last letter of a document.
* `baseName_of_spells`, `typeName_of_spells`: The base name and the type name of a document.
* `exists_ofPath_error_iff`: The documents that are refused.
-/

namespace CodeBehind

namespace Document

/-- The dot and the four letters of the extension, each of them small or a capital. -/
def SpellsExtension (ending : List Char) : Prop :=
  ∃ u x m l, ending = ['.', u, x, m, l] ∧ (u = 'u' ∨ u = 'U') ∧ (x = 'x' ∨ x = 'X') ∧ (m = 'm' ∨ m = 'M') ∧
    (l = 'l' ∨ l = 'L')

theorem lower_extension : (Text.lower extension).toList = ['.', 'u', 'x', 'm', 'l'] := by
  decide

/-- A spelling of the extension is what becomes the extension letter by letter. -/
theorem spellsExtension_iff (ending : List Char) :
    SpellsExtension ending ↔ ending.map Text.lowerChar = (Text.lower extension).toList := by
  have hdot := fun c => Text.lowerChar_eq_iff c '.' (by decide)
  have hu := fun c => Text.lowerChar_eq_iff c 'u' (by decide)
  have hx := fun c => Text.lowerChar_eq_iff c 'x' (by decide)
  have hm := fun c => Text.lowerChar_eq_iff c 'm' (by decide)
  have hl := fun c => Text.lowerChar_eq_iff c 'l' (by decide)
  rw [lower_extension]
  constructor
  · rintro ⟨u, x, m, l, rfl, hu', hx', hm', hl'⟩
    simp only [List.map_cons, List.map_nil, (hdot '.').mpr (Or.inl rfl), (hu u).mpr hu', (hx x).mpr hx',
      (hm m).mpr hm', (hl l).mpr hl']
  · intro h
    rcases List.map_eq_cons_iff.mp h with ⟨dot, _, rfl, hdot', h⟩
    rcases List.map_eq_cons_iff.mp h with ⟨u, _, rfl, hu', h⟩
    rcases List.map_eq_cons_iff.mp h with ⟨x, _, rfl, hx', h⟩
    rcases List.map_eq_cons_iff.mp h with ⟨m, _, rfl, hm', h⟩
    rcases List.map_eq_cons_iff.mp h with ⟨l, _, rfl, hl', h⟩
    -- The dot has no capital.
    have hsame : dot = '.' := ((hdot dot).mp hdot').elim id id
    rw [List.map_eq_nil_iff.mp h, hsame]
    exact ⟨u, x, m, l, rfl, (hu u).mp hu', (hx x).mp hx', (hm m).mp hm', (hl l).mp hl'⟩

/-- A path is a document if it ends with a spelling of the extension. -/
theorem isDocument_iff (path : String) :
    isDocument path extension = true ↔ ∃ front ending, path.toList = front ++ ending ∧ SpellsExtension ending := by
  have hplain : ∀ c ∈ (Text.lower extension).toList, c ∈ Text.plainChars := by
    have hall : ['.', 'u', 'x', 'm', 'l'].all (Text.plainChars.contains ·) = true := by decide
    rw [lower_extension]
    exact fun c hc => List.contains_iff_mem.mp (List.all_eq_true.mp hall c hc)
  rw [isDocument, List.isSuffixOf_iff_suffix, Text.suffix_lower_iff path _ hplain]
  constructor
  · rintro ⟨ending, ⟨front, hpath⟩, hmap⟩
    exact ⟨front, ending, hpath.symm, (spellsExtension_iff ending).mpr hmap⟩
  · rintro ⟨front, ending, hpath, hspells⟩
    exact ⟨ending, ⟨front, hpath.symm⟩, (spellsExtension_iff ending).mp hspells⟩

/-- A document ends with the last letter of the extension, small or as a capital. -/
theorem getLast?_of_isDocument (path : String) (h : isDocument path extension = true) :
    path.toList.getLast? = some 'l' ∨ path.toList.getLast? = some 'L' := by
  rcases (isDocument_iff path).mp h with ⟨front, ending, hpath, u, x, m, l, rfl, _, _, _, hl⟩
  rw [hpath, List.getLast?_append, show ['.', u, x, m, l].getLast? = some l from rfl, Option.some_or]
  exact hl.imp (congrArg some) (congrArg some)

/-- What ends with anything else is no document. -/
theorem isDocument_of_getLast? (path : String) (c : Char) (hlast : path.toList.getLast? = some c) (hsmall : c ≠ 'l')
    (hcapital : c ≠ 'L') : isDocument path extension = false := by
  rw [Bool.eq_false_iff]
  intro hdocument
  rcases getLast?_of_isDocument path hdocument with hl | hl
  · rw [hlast, Option.some.injEq] at hl
    exact hsmall hl
  · rw [hlast, Option.some.injEq] at hl
    exact hcapital hl

section

variable (path : String) (front ending : List Char) (hpath : path.toList = front ++ ending)
  (hspells : SpellsExtension ending)
include hpath hspells

/-- The base name of a document ends with the extension. -/
theorem baseName_of_spells : ∃ name, Path.baseNameChars path.toList = name ++ ending := by
  rcases Path.exists_parts front with ⟨head, name, hfront, hhead, hname⟩
  have hslash : '/' ∉ ending := by
    rcases hspells with ⟨u, x, m, l, rfl, rfl | rfl, rfl | rfl, rfl | rfl, rfl | rfl⟩ <;> decide
  have hnone : '/' ∉ name ++ ending := fun hmem => (List.mem_append.mp hmem).elim hname hslash
  refine ⟨name, ?_⟩
  rw [hpath, hfront, List.append_assoc, Path.baseNameChars_append head _ hhead hnone]

/-- The type name of a document is its base name without the extension. -/
theorem typeName_of_spells : (Path.baseName path).toList = (typeName path).toList ++ ending := by
  rcases baseName_of_spells path front ending hpath hspells with ⟨name, hbase⟩
  have hstem : stemChars (name ++ ending) = name := by
    rcases hspells with ⟨u, x, m, l, rfl, rfl | rfl, rfl | rfl, rfl | rfl, rfl | rfl⟩ <;>
      exact stemChars_append name _ (by decide)
  rw [Path.baseName, typeName, String.toList_ofList, String.toList_ofList, hbase, hstem]

end

/-- A document is refused if its type name shows nothing. -/
theorem exists_ofPath_error_iff (path : String) :
    (∃ failure, Request.ofPath path = .error failure) ↔ ∀ c ∈ (typeName path).toList, Text.isBlank c = true := by
  rw [← List.all_eq_true]
  change _ ↔ Text.allBlank (typeName path) = true
  by_cases hname : hasName path = true
  · rw [ofPath_of_hasName path hname, allBlank_of_hasName path hname]
    simp only [reduceCtorEq, exists_false, Bool.false_eq_true]
  · rw [ofPath_of_not_hasName path hname, allBlank_of_not_hasName path hname]
    exact ⟨fun _ => rfl, fun _ => ⟨_, rfl⟩⟩

/-- A path is a document if it ends with the extension in some spelling, each letter small or a capital. The base name
    of a document is its type name with that spelling behind it, and the document is refused if nothing but blanks stand
    there before the extension. -/
theorem isDocument_spelled (path : String) :
    (isDocument path extension = true ↔ ∃ front ending, path.toList = front ++ ending ∧ SpellsExtension ending) ∧
    ∀ front ending, path.toList = front ++ ending → SpellsExtension ending →
      (Path.baseName path).toList = (typeName path).toList ++ ending ∧
      ((∃ failure, Request.ofPath path = .error failure) ↔
        ∃ blanks, (Path.baseName path).toList = blanks ++ ending ∧ ∀ c ∈ blanks, Text.isBlank c = true) := by
  refine ⟨isDocument_iff path, fun front ending hpath hspells => ?_⟩
  have hbase := typeName_of_spells path front ending hpath hspells
  refine ⟨hbase, (exists_ofPath_error_iff path).trans ⟨fun hblank => ⟨_, hbase, hblank⟩, ?_⟩⟩
  rintro ⟨blanks, hblanks, hall⟩
  -- What stands before the extension is the type name.
  rwa [List.append_cancel_right (hbase.symm.trans hblanks)]

/-- Capitals in the extension: one document with a name before them, and one with a space only. -/
theorem isDocument_capitals :
    isDocument "views.d/Main.v2.UxML" extension = true ∧
      (Path.baseName "views.d/Main.v2.UxML").toList = "Main.v2".toList ++ ".UxML".toList ∧
      ∃ failure, Request.ofPath "views.d/ .uXMl" = .error failure := by
  have hspells : SpellsExtension ".UxML".toList := ⟨'U', 'x', 'M', 'L', by decide, by decide⟩
  have hspells' : SpellsExtension ".uXMl".toList := ⟨'u', 'X', 'M', 'l', by decide, by decide⟩
  refine ⟨(isDocument_spelled _).1.mpr ⟨"views.d/Main.v2".toList, _, by decide, hspells⟩, ?_, ?_⟩
  · have hname := ((isDocument_spelled "views.d/Main.v2.UxML").2 "views.d/Main.v2".toList _ (by decide) hspells).1
    have htype : typeName "views.d/Main.v2.UxML" = "Main.v2" := by decide
    rwa [htype] at hname
  · have hrefused := ((isDocument_spelled "views.d/ .uXMl").2 "views.d/ ".toList _ (by decide) hspells').2
    exact hrefused.mpr ⟨[' '], by decide, List.forall_mem_singleton.mpr (by decide)⟩

end Document

end CodeBehind
