import CodeBehind.Decimal.Limit
import CodeBehind.Decimal.Shortest
import CodeBehind.Text.Point
import CodeBehind.Value.Calendar

/-!
# Values

What a configuration file or the context of a template can hold.

A text that has halves of pairs in it is kept with them, apart from the texts that consist of characters.

A value has two texts. `display` is what it looks like on its own: a text shows itself. `inspect` is what it
looks like inside another value: a text shows its quotes. Keys of a mapping keep the order in which they came;
setting a key again keeps its first place and takes the last value. Keys are compared as values, and then
numbers are compared by size, whatever kind they are. A value is finite, so a collection that holds itself
ends at the place where it would begin again.

## Main definitions

* `Value`: The values.
* `Value.ofPoints`: A text as a value.
* `Value.display`, `Value.inspect`: The two texts.
* `Value.isShowable`: Whether every number is small enough to be shown.
* `Value.isTrue`: What counts as true.
* `Value.sameKey`, `Value.setKey`, `Value.lookup`: Keys of mappings.
-/

namespace CodeBehind

/-- A value of a configuration file or a context; `again` is a list or mapping at a place inside itself. -/
inductive Value where
  | null
  | truth (value : Bool)
  | integer (value : Int)
  | real (value : Float)
  | text (value : String)
  | halved (points : List Point)
  | bytes (value : List UInt8)
  | date (value : Date)
  | moment (value : Moment)
  | list (items : List Value)
  | pair (first second : Value)
  | collection (items : List Value)
  | mapping (pairs : List (Value × Value))
  | again (isMapping : Bool)
  deriving Inhabited

namespace Value

/-- A text as a value. -/
def ofPoints (points : List Point) : Value :=
  match Point.characters? points with
  | some cs => text (String.ofList cs)
  | none => halved points

/-- One byte between the given quotes: what is not printable ASCII is written by its value. -/
def quotedByte (mark : Char) (b : UInt8) : List Char :=
  let c := Char.ofNat b.toNat
  if c = mark || c = '\\' then ['\\', c]
  else if c = '\t' then ['\\', 't']
  else if c = '\n' then ['\\', 'n']
  else if c = '\r' then ['\\', 'r']
  else if 0x20 ≤ b && b < 0x7F then [c]
  else '\\' :: 'x' :: Text.hex 2 b.toNat

/-- Bytes between quotes, behind a mark that tells them from a text. -/
def quotedBytes (bytes : List UInt8) : String :=
  let mark := Text.quoteMark (bytes.map fun b => Char.ofNat b.toNat)
  String.ofList ('b' :: mark :: bytes.flatMap (quotedByte mark) ++ [mark])

mutual

/-- A value as it looks inside another one. -/
def inspect : Value → String
  | null => "None"
  | truth b => if b then "True" else "False"
  | integer i => toString i
  | real x => Decimal.text x
  | text s => Text.quoted s
  | halved points => Point.quoted points
  | bytes b => quotedBytes b
  | date d => d.parts
  | moment m => m.parts
  | list items => "[" ++ ", ".intercalate (inspectAll items) ++ "]"
  | pair a b => "(" ++ inspect a ++ ", " ++ inspect b ++ ")"
  | collection items =>
    match items with
    | [] => "set()"
    | items => "\x7b" ++ ", ".intercalate (inspectAll items) ++ "\x7d"
  | mapping pairs => "\x7b" ++ ", ".intercalate (inspectPairs pairs) ++ "\x7d"
  | again isMapping => if isMapping then "\x7b...\x7d" else "[...]"

/-- Each of some values as it looks inside another one. -/
def inspectAll : List Value → List String
  | [] => []
  | v :: rest => inspect v :: inspectAll rest

/-- Each key with its value. -/
def inspectPairs : List (Value × Value) → List String
  | [] => []
  | (k, v) :: rest => (inspect k ++ ": " ++ inspect v) :: inspectPairs rest

end

/-- A value as it looks on its own. -/
def display : Value → String
  | text s => s
  | halved points => String.ofList (Point.shown points)
  | date d => d.text
  | moment m => m.text
  | value => inspect value

mutual

/-- Whether a value holds no number that is too large to be shown. -/
def isShowable : Value → Bool
  | integer i => !Decimal.isTooLong i
  | list items => allShowable items
  | pair a b => isShowable a && isShowable b
  | collection items => allShowable items
  | mapping pairs => pairsShowable pairs
  | _ => true

/-- Whether some values hold no such number. -/
def allShowable : List Value → Bool
  | [] => true
  | v :: rest => isShowable v && allShowable rest

/-- Whether some pairs hold no such number. -/
def pairsShowable : List (Value × Value) → Bool
  | [] => true
  | (k, v) :: rest => isShowable k && isShowable v && pairsShowable rest

end

/-- Whether a value counts as true: null, zero and everything empty do not. -/
def isTrue : Value → Bool
  | null => false
  | truth b => b
  | integer i => i != 0
  | real x => x != 0.0
  | text s => s != ""
  | halved points => !points.isEmpty
  | bytes b => !b.isEmpty
  | date _ => true
  | moment _ => true
  | list items => !items.isEmpty
  | pair .. => true
  | collection items => !items.isEmpty
  | mapping pairs => !pairs.isEmpty
  | again _ => true

/-- The integer equal to a finite number without a fraction. -/
def wholeNumber? (x : Float) : Option Int :=
  if x.isNaN || x.isInf then none
  else
    let p := Decimal.partsOf x
    let size? : Option Nat :=
      if 0 ≤ p.exponent then some (p.significand * Decimal.twoTo p.exponent.toNat)
      else
        let den := Decimal.twoTo (-p.exponent).toNat
        if p.significand % den = 0 then some (p.significand / den) else none
    size?.map fun n => if p.negative then -(n : Int) else n

/-- The integer a value is equal to, if there is one. -/
def size? : Value → Option Int
  | truth b => some (if b then 1 else 0)
  | integer i => some i
  | real x => wholeNumber? x
  | _ => none

/-- Whether two values are the same key; numbers are compared by size. -/
def sameKey : Value → Value → Bool
  | null, null => true
  | text a, text b => a == b
  | halved a, halved b => a == b
  | bytes a, bytes b => a == b
  | date a, date b => a == b
  | moment a, moment b => a.isSame b
  | pair a b, pair c d => a.sameKey c && b.sameKey d
  | real x, real y => x == y
  | a, b =>
    match a.size?, b.size? with
    | some m, some n => m == n
    | _, _ => false

/-- Set a key: a new one goes to the end, a known one keeps its place. -/
def setKey (pairs : List (Value × Value)) (key value : Value) : List (Value × Value) :=
  if pairs.any fun p => sameKey p.1 key then
    pairs.map fun p => if sameKey p.1 key then (p.1, value) else p
  else pairs ++ [(key, value)]

/-- What belongs to a text key. -/
def lookup (pairs : List (Value × α)) (key : String) : Option α :=
  (pairs.find? fun p => match p.1 with
    | text name => name == key
    | _ => false).map (·.2)

end Value

end CodeBehind
