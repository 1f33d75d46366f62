import CodeBehind.Value.Basic

/-!
# Collections without order

The order in which the members of a collection without order are shown.

Such a collection is kept in a table whose size is a power of two, at least eight and, from five members on,
more than twice their number. Every number has a place value, its residue by a prime, and goes to the slot
that its place value gives or, if that is taken, to one of the nine slots behind it or to a slot further on.
The members are shown slot by slot. Only numbers have place values that are always the same, so the members of
a collection that holds anything else are shown in the order in which they came.

## Main definitions

* `Value.place?`: The place value of a number.
* `Table.insert`: Putting a member into the table.
* `Value.shownOrder`: The members in the order in which they are shown.
-/

namespace CodeBehind

namespace Value

/-- The prime by which residues are taken: all powers of two have a residue that is one. -/
def placeModulus : Nat := Decimal.twoTo 61 - 1

/-- A residue with a sign; minus one is not used. -/
def signedResidue (negative : Bool) (n : Nat) : Int :=
  let residue : Int := n % placeModulus
  if !negative then residue else if residue = 1 then -2 else -residue

/-- The place value of an infinite number without its sign. -/
def infinitePlace : Nat := 314159

/-- The place value of a number; equal numbers have equal place values, whatever kind they are. -/
def place? : Value → Option Int
  | truth b => some (if b then 1 else 0)
  | integer i => some (signedResidue (i < 0) i.natAbs)
  | real x =>
    if x.isNaN then none
    else if x.isInf then some (signedResidue (x < 0.0) infinitePlace)
    else
      let parts := Decimal.partsOf x
      some (signedResidue parts.negative (parts.significand * Decimal.twoTo (parts.exponent % 61).toNat))
  | _ => none

end Value

namespace Table

/-- The size of the table for a number of members. -/
def sizeFor (members : Nat) : Nat :=
  if members < 5 then 8 else Decimal.twoTo ((2 * members).log2 + 1)

/-- The first free slot for a member that looks for it from slot `start` on, where `far` says how it goes on from
    there; after `fuel` attempts it takes the slot it has come to. -/
def freeSlot (table : Array (Option α)) : Nat → Nat → Nat → Nat
  | 0, start, _ => start
  | fuel + 1, start, far =>
    let reach := if start + 9 < table.size then 10 else 1
    match (List.range reach).find? fun step => (table[start + step]?.join).isNone with
    | some step => start + step
    | none => freeSlot table fuel ((5 * start + 1 + far / 32) % table.size) (far / 32)

/-- Put a member with its place value into the table. -/
def insert (table : Array (Option α)) (place : Int) (member : α) : Array (Option α) :=
  let word := (place % Decimal.twoTo 64).toNat
  table.setIfInBounds (freeSlot table (table.size + 64) (word % table.size) word) (some member)

end Table

/-- The members of a collection in the order in which they are shown. -/
def Value.shownOrder (members : List Value) : List Value :=
  match members.mapM Value.place? with
  | none => members
  | some places =>
    let table := Array.replicate (Table.sizeFor members.length) none
    ((places.zip members).foldl (fun table entry => Table.insert table entry.1 entry.2) table).toList.filterMap id

end CodeBehind
