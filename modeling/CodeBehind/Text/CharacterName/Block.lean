/-!
# Blocks of character names

How the names of many characters are kept together.

A block is the code point of its first character and the names of the characters from there on, in order. Names
that follow one another begin alike, so each is written as the number of characters it has in common with the one
before it, and then what is new. The number is written in small letters, which no name holds: `z` counts
twenty-five and another letter follows, and the other letters count their place in the alphabet from zero. A
question mark stands for a code point without a name. The whole text of a block is cut into rows anywhere.

## Main definitions

* `Block`: A run of characters with their names.
* `Block.code?`: The code point of a name in a block.
-/

namespace CodeBehind

namespace Text

namespace CharacterName

/-- The code point of the first character, and the rows of the names from there on. -/
abbrev Block := Nat × List String

/-- Whether the second of two neighbouring characters still belongs to the entry of the first. -/
def sameEntry (a b : Char) : Bool :=
  b ≠ '?' && (!b.isLower || a.isLower)

/-- The number that small letters count. -/
def shared (letters : List Char) : Nat :=
  letters.foldl (fun n c => n + (c.toNat - 'a'.toNat)) 0

/-- The name of an entry that follows the name `last`. -/
def nameAfter (last entry : List Char) : List Char :=
  last.take (shared (entry.takeWhile Char.isLower)) ++ entry.dropWhile Char.isLower

/-- The code point of a name among entries, the first of which is about `code` and follows the name `last`. -/
def search (name : List Char) : Nat → List Char → List (List Char) → Option Nat
  | _, _, [] => none
  | code, last, entry :: rest =>
    if entry = ['?'] then search name (code + 1) last rest
    else if nameAfter last entry = name then some code
    else search name (code + 1) (nameAfter last entry) rest

/-- The code point of a name in a block. -/
def Block.code? (name : List Char) (block : Block) : Option Nat :=
  search name block.1 [] ((block.2.flatMap String.toList).splitBy sameEntry)

end CharacterName

end Text

end CodeBehind
