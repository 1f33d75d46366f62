import CodeBehind.Decimal.Limit
import CodeBehind.Value.Basic

/-!
# Views of values

What a reader of settings asks of a thing that stands for a value.

A value can be there as such, or it can be a place in a document that refers to other places. Settings are read
from either in the same way, and from the second without looking at more than they need: whether it is null,
whether it counts as true, what its entries are if it is a mapping, its text, and whether halves of pairs are replaced
in that text.

## Main definitions

* `View`: The questions.
* `View.ofValue`: The answers of a value.
-/

namespace CodeBehind

/-- What can be asked of things that stand for values; a text may hold a number too large to be shown. -/
structure View (α : Type) where
  isNull : α → Bool
  isTrue : α → Bool
  entries? : α → Option (List (Value × α))
  text : α → Except Decimal.NumeralFault String
  isHalved : α → Bool

namespace View

/-- The answers of values whose numbers are not too large to be shown. -/
def ofValue : View Value where
  isNull
    | .null => true
    | _ => false
  isTrue := Value.isTrue
  entries?
    | .mapping entries => some entries
    | _ => none
  text value := .ok value.display
  isHalved
    | .halved _ => true
    | _ => false

end View

end CodeBehind
