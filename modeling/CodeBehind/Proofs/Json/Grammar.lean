import CodeBehind.Json.Reader

/-!
# The grammar of JSON

Which texts are JSON documents, and what they denote.

The grammar says nothing of how a text is read. It composes a text of its parts, with white space wherever it may
stand, and tells what the parts denote. Besides the standard it has the three names for numbers that are not finite.
A string denotes code points, since it can name halves of pairs that make no character. A mapping is denoted by its
members in order; whether a key has been there before is a matter of the value, not of the text.

A grammar has a limit on the digits of whole numbers, or none. The limit is that of the grammar and not of the value,
because a number counts that stands under a key which comes again. The reader has a limit (`readerLimit`), and the
standard has none.

## Main definitions

* `AllSpace`: White space.
* `Spells`: What stands between the quotes of a string, and the code points that it denotes.
* `Allows`: A limit on the digits of whole numbers.
* `Numeral`: A number and its value.
* `Part`, `Written`: The parts of a document, and the texts that they are written as.
* `gather`: The entries of a mapping with these members.
* `IsDocument`: A text is a document that denotes a value.
-/

namespace CodeBehind

namespace Json

/-- White space, or nothing. -/
def AllSpace (cs : List Char) : Prop :=
  ∀ c ∈ cs, isSpace c = true

/-- The text begins with the escape of a second half. -/
def BeginsWithLowHalf (cs : List Char) : Prop :=
  ∃ a b c d rest low, cs = '\\' :: 'u' :: a :: b :: c :: d :: rest ∧ hexNumber? [a, b, c, d] = some low ∧
    Point.isLowHalf low = true

/-- What stands between the quotes of a string denotes these code points. A first half takes the second half that
    follows it; a half without the other is kept. -/
inductive Spells : List Char → List Point → Prop
  | nil : Spells [] []
  | plain (c : Char) (w : List Char) (t : List Point) (hquote : c ≠ '"') (hbackslash : c ≠ '\\')
      (hcontrol : ¬c.toNat < 0x20) (h : Spells w t) : Spells (c :: w) (.char c :: t)
  | short (mark c : Char) (w : List Char) (t : List Point) (hmark : shortEscape? mark = some c) (h : Spells w t) :
      Spells ('\\' :: mark :: w) (.char c :: t)
  | unit (a b c d : Char) (n : Nat) (w : List Char) (t : List Point) (hn : hexNumber? [a, b, c, d] = some n)
      (halone : Point.isHighHalf n = true → ¬BeginsWithLowHalf w) (h : Spells w t) :
      Spells ('\\' :: 'u' :: a :: b :: c :: d :: w) (.ofNat n :: t)
  | pair (a b c d a' b' c' d' : Char) (high low : Nat) (w : List Char) (t : List Point)
      (hhigh : hexNumber? [a, b, c, d] = some high) (hishigh : Point.isHighHalf high = true)
      (hlow : hexNumber? [a', b', c', d'] = some low) (hislow : Point.isLowHalf low = true) (h : Spells w t) :
      Spells ('\\' :: 'u' :: a :: b :: c :: d :: '\\' :: 'u' :: a' :: b' :: c' :: d' :: w)
        (.char (Point.pairCharacter high low) :: t)

/-- The sign of a number. -/
def signText (negative : Bool) : List Char :=
  if negative then ['-'] else []

/-- Some digits. -/
def IsDigits (ds : List Char) : Prop :=
  ds ≠ [] ∧ ∀ c ∈ ds, c.isDigit = true

/-- The whole part of a number: digits without a leading zero, or a zero. -/
def IsWhole (ds : List Char) : Prop :=
  ds = ['0'] ∨ (IsDigits ds ∧ ds.head? ≠ some '0')

/-- A fraction and its digits, or nothing. -/
inductive FractionText : List Char → List Char → Prop
  | none : FractionText [] []
  | some (ds : List Char) (h : IsDigits ds) : FractionText ('.' :: ds) ds

/-- A power of ten and its exponent, or nothing. -/
inductive PowerText : List Char → Option Int → Prop
  | none : PowerText [] none
  | some (mark : Char) (sign ds : List Char) (factor : Int) (hmark : mark = 'e' ∨ mark = 'E')
      (hsign : (sign = [] ∧ factor = 1) ∨ (sign = ['+'] ∧ factor = 1) ∨ (sign = ['-'] ∧ factor = -1))
      (h : IsDigits ds) : PowerText (mark :: (sign ++ ds)) (some (factor * (decimalNumber ds : Int)))

/-- A limit, if there is one, allows so many digits. -/
def Allows (limit : Option Nat) (digits : Nat) : Prop :=
  ∀ most, limit = some most → digits ≤ most

/-- The limit that the reader keeps. -/
abbrev readerLimit : Option Nat := some Decimal.digitLimit

/-- A number and its value: a whole number that keeps the limit on its digits, if there is one, or a number with a
    fraction or a power of ten. -/
inductive Numeral (limit : Option Nat) : List Char → Value → Prop
  | whole (negative : Bool) (ds : List Char) (h : IsWhole ds) (hlimit : Allows limit ds.length) :
      Numeral limit (signText negative ++ ds)
        (.integer (if negative then -(decimalNumber ds : Int) else (decimalNumber ds : Int)))
  | real (negative : Bool) (ds fraction decimals power : List Char) (exponent : Option Int) (h : IsWhole ds)
      (hfraction : FractionText fraction decimals) (hpower : PowerText power exponent)
      (hreal : decimals ≠ [] ∨ exponent.isSome) :
      Numeral limit (signText negative ++ (ds ++ (fraction ++ power)))
        (.real (Decimal.ofDecimal negative (decimalNumber (ds ++ decimals)) (exponent.getD 0 - decimals.length)))

/-- A key of an object is set in what has been gathered so far. -/
def setMember (entries : List (Value × Value)) (member : Value × Value) : List (Value × Value) :=
  Value.setKey entries member.1 member.2

/-- The entries of a mapping with these members, of which the last with a key counts. -/
def gather (members : List (Value × Value)) : List (Value × Value) :=
  members.foldl setMember []

/-- A part of a document: a value, the elements of a list, or the members of a mapping, whose keys are texts. -/
inductive Part where
  | value (value : Value)
  | elements (items : List Value)
  | members (members : List (Value × Value))

/-- A part of a document and the text that it is written as, with a limit on the digits of whole numbers. -/
inductive Written (limit : Option Nat) : List Char → Part → Prop
  | text (w : List Char) (t : List Point) (h : Spells w t) :
      Written limit ('"' :: (w ++ ['"'])) (.value (.ofPoints t))
  | name (name : String) (v : Value) (h : (name, v) ∈ names) : Written limit name.toList (.value v)
  | number (w : List Char) (v : Value) (h : Numeral limit w v) : Written limit w (.value v)
  | emptyList (space : List Char) (h : AllSpace space) : Written limit ('[' :: (space ++ [']'])) (.value (.list []))
  | list (w : List Char) (items : List Value) (h : Written limit w (.elements items)) :
      Written limit ('[' :: (w ++ [']'])) (.value (.list items))
  | emptyMapping (space : List Char) (h : AllSpace space) :
      Written limit ('\x7b' :: (space ++ ['\x7d'])) (.value (.mapping []))
  | mapping (w : List Char) (members : List (Value × Value)) (h : Written limit w (.members members)) :
      Written limit ('\x7b' :: (w ++ ['\x7d'])) (.value (.mapping (gather members)))
  | lastElement (before w after : List Char) (v : Value) (hbefore : AllSpace before) (h : Written limit w (.value v))
      (hafter : AllSpace after) : Written limit (before ++ (w ++ after)) (.elements [v])
  | nextElement (before w after more : List Char) (v : Value) (items : List Value) (hbefore : AllSpace before)
      (h : Written limit w (.value v)) (hafter : AllSpace after) (hmore : Written limit more (.elements items)) :
      Written limit (before ++ (w ++ (after ++ ',' :: more))) (.elements (v :: items))
  | lastMember (before key : List Char) (name : List Point) (afterKey beforeValue w after : List Char) (v : Value)
      (hbefore : AllSpace before) (hkey : Spells key name) (hafterKey : AllSpace afterKey)
      (hbeforeValue : AllSpace beforeValue) (h : Written limit w (.value v)) (hafter : AllSpace after) :
      Written limit (before ++ '"' :: (key ++ '"' :: (afterKey ++ ':' :: (beforeValue ++ (w ++ after)))))
        (.members [(.ofPoints name, v)])
  | nextMember (before key : List Char) (name : List Point) (afterKey beforeValue w after more : List Char) (v : Value)
      (members : List (Value × Value)) (hbefore : AllSpace before) (hkey : Spells key name)
      (hafterKey : AllSpace afterKey) (hbeforeValue : AllSpace beforeValue) (h : Written limit w (.value v))
      (hafter : AllSpace after) (hmore : Written limit more (.members members)) :
      Written limit
        (before ++ '"' :: (key ++ '"' :: (afterKey ++ ':' :: (beforeValue ++ (w ++ (after ++ ',' :: more))))))
        (.members ((.ofPoints name, v) :: members))

/-- A text is a document that denotes a value, where whole numbers keep a limit on their digits, if there is one. -/
def IsDocument (limit : Option Nat) (text : List Char) (v : Value) : Prop :=
  ∃ before w after, AllSpace before ∧ Written limit w (.value v) ∧ AllSpace after ∧ text = before ++ (w ++ after)

end Json

end CodeBehind
