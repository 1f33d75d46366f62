import CodeBehind.Text.Utf8
import Mathlib.Data.List.Basic

/-!
# Texts and bytes

The bytes of a text are read back as the text, and part of a text does not take more bytes than the whole.

## Theorems

* `decode_toUTF8`: A text is read back from its bytes.
* `utf8ByteSize_le_of_sublist`: The number of bytes of a part.
-/

namespace CodeBehind

namespace Text

/-- A text is read back from its bytes. -/
theorem decode_toUTF8 (text : String) : decode text.toUTF8 = .ok text := by
  have hvalid : String.fromUTF8? text.toUTF8 = some text := dif_pos text.isValidUTF8
  rw [decode, hvalid]

/-- A text has no more bytes than one it is a part of. -/
theorem utf8ByteSize_le_of_sublist (xs ys : List Char) (h : xs.Sublist ys) :
    (String.ofList xs).utf8ByteSize ≤ (String.ofList ys).utf8ByteSize := by
  induction h with
  | slnil => exact Nat.le_refl _
  | cons c _ ih =>
      rw [String.ofList_cons, String.utf8ByteSize_append]
      omega
  | cons_cons c _ ih =>
      rw [String.ofList_cons, String.ofList_cons, String.utf8ByteSize_append, String.utf8ByteSize_append]
      omega

end Text

end CodeBehind
