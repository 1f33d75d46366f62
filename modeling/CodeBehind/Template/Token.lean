import CodeBehind.Decimal.Limit
import CodeBehind.Json.Reader
import CodeBehind.Text.Blank
import CodeBehind.Text.CharacterName
import CodeBehind.Text.Digit
import CodeBehind.Text.Lines
import CodeBehind.Text.NameChar

/-!
# Template tokens

A template as plain text, tags and what stands inside them.

Two braces open a print tag, a brace and a percent sign a statement, a brace and a number sign a comment.
Readers differ in the white space that they keep. For one kind a statement on a line of its own leaves no trace:
a line that holds nothing before a statement or a comment loses its indentation, and the line feed right after
one is dropped. For the other kind both stay, but the template loses the line feed at its end. A sign next to a
delimiter is the same for both: a minus removes all white space on that side, a plus keeps it. Inside a tag the
delimiters count only where all brackets are closed.

There is a text before each tag and each comment and one at the end, empty or not, unless a tag does not end. What
cannot be read becomes a token of its own instead of an error, because a reader that stops earlier never comes to
see it.

Names are cut out as words, which need not be names. Digits may come from any script where a number goes on;
where it begins, and in a number with a fraction, only the common digits will do.

## Main definitions

* `Flaw`: Why a template cannot be read.
* `Spacing`: The white space that a reader keeps.
* `Tag`, `Token`: The parts of a template.
* `Token.name`: How a message refers to a token.
* `scanTag`: The tokens of a tag, up to its end.
* `scan`: The tokens of a whole template.
-/

namespace CodeBehind

namespace Template

/-- Why a template cannot be read: it breaks a rule of templates, or holds a numeral that cannot be taken. -/
inductive Flaw where
  | malformed (reason : String)
  | numeral (fault : Decimal.NumeralFault)
  deriving DecidableEq, Repr

/-- The flaw in words. -/
def Flaw.message : Flaw → String
  | malformed reason => reason
  | numeral fault => fault.message

/-- The white space that a reader keeps: whether it drops the line feed right after a statement or a comment, whether
    it drops the indentation before one, and whether it keeps the line feed at the end of a template. -/
structure Spacing where
  dropsFeed : Bool
  dropsIndentation : Bool
  keepsEnd : Bool
  deriving DecidableEq, Repr

/-- Statements on lines of their own leave no trace, and the end is kept. -/
def Spacing.traceless : Spacing := ⟨true, true, true⟩

/-- White space stays, except for the line feed at the end. -/
def Spacing.verbatim : Spacing := ⟨false, false, false⟩

/-- The tags that hold tokens. -/
inductive Tag where
  | print
  | statement
  deriving DecidableEq, Repr

/-- A part of a template. -/
inductive Token where
  | plain (text : String)
  | opening (tag : Tag)
  | closing (tag : Tag)
  | name (name : String)
  | text (text : String)
  | integer (value : Nat)
  | real (value : Float)
  | operator (symbol : String)
  | unreadable (flaw : Flaw)
  | ending

/-- How a message refers to a token. -/
def Token.describe : Token → String
  | plain _ => "template data / text"
  | opening .print => "begin of print statement"
  | opening .statement => "begin of statement block"
  | closing .print => "end of print statement"
  | closing .statement => "end of statement block"
  | name word => word
  | text _ => "string"
  | integer _ => "integer"
  | real _ => "float"
  | operator symbol => symbol
  | unreadable flaw => flaw.message
  | ending => "end of template"

/-! ## Names, numbers and strings -/

/-- The `want`-digits a text begins with, each of which may have an underscore before it, and what is left. -/
def splitNumber (want : Char → Bool) (cs : List Char) : List Char × List Char :=
  match cs with
  | '_' :: c :: rest =>
    if want c then
      let (digits, rest') := splitNumber want rest
      (c :: digits, rest')
    else ([], cs)
  | c :: rest =>
    if want c then
      let (digits, rest') := splitNumber want rest
      (c :: digits, rest')
    else ([], cs)
  | [] => ([], [])

/-- The value of a hexadecimal digit; the decimal ones may come from any script. -/
def hexDigit? (c : Char) : Option Nat :=
  (Text.digit? c).or (Json.hexDigit? c)

/-- The number that digits denote in a base. -/
def numberIn (base : Nat) (digits : List Char) : Nat :=
  digits.foldl (fun n c => base * n + (hexDigit? c).getD 0) 0

/-- A number in a base that is named by a letter after a zero. -/
def basedNumber? (cs : List Char) : Option (Nat × List Char) :=
  let digitsIn (base : Nat) (isDigit : Char → Bool) (rest : List Char) : Option (Nat × List Char) :=
    let (digits, rest') := splitNumber isDigit rest
    if digits.isEmpty then none else some (numberIn base digits, rest')
  match cs with
  | '0' :: c :: rest =>
    if c = 'x' || c = 'X' then digitsIn 16 (fun d => (hexDigit? d).isSome) rest
    else if c = 'o' || c = 'O' then digitsIn 8 (fun d => '0' ≤ d && d ≤ '7') rest
    else if c = 'b' || c = 'B' then digitsIn 2 (fun d => d = '0' || d = '1') rest
    else none
  | _ => none

/-- Digits of a number with a fraction: underscores only between digits. -/
def decimals (cs : List Char) : List Char × List Char :=
  if cs.head? = some '_' then ([], cs) else splitNumber Text.isDigit cs

/-- The digits of a fraction; a point without digits behind it begins none. -/
def fraction (cs : List Char) : List Char × List Char :=
  match cs with
  | '.' :: after =>
    let (digits, rest) := decimals after
    if digits.isEmpty then ([], cs) else (digits, rest)
  | _ => ([], cs)

/-- Whether a power of ten is negative, and what follows its sign. -/
def splitSign : List Char → Bool × List Char
  | '+' :: rest => (false, rest)
  | '-' :: rest => (true, rest)
  | cs => (false, cs)

/-- The sign and the digits of a power of ten; a mark without digits behind it begins none. -/
def power? (cs : List Char) : Option (Bool × List Char × List Char) :=
  match cs with
  | mark :: after =>
    if mark = 'e' || mark = 'E' then
      let (negative, after) := splitSign after
      let (digits, rest) := decimals after
      if digits.isEmpty then none else some (negative, digits, rest)
    else none
  | [] => none

/-- What is wrong with the digits of a number with a fraction or a power of ten. -/
def realFault? (digits power : List Char) : Option Decimal.NumeralFault :=
  match digits.find? fun c => !c.isDigit with
  | some c => some (.strangeDigit c)
  | none =>
    match power with
    | [] => none
    | first :: more =>
      if first.isDigit then (more.find? fun c => !c.isDigit).map .strangeDigit else some .brokenPower

/-- A number with a fraction, a power of ten, or both. -/
def real? (cs : List Char) : Option (Except Decimal.NumeralFault Float × List Char) :=
  let (whole, rest) := decimals cs
  if whole.isEmpty then none
  else
    let (fraction, rest) := fraction rest
    let (negative, power, rest) := (power? rest).getD (false, [], rest)
    if fraction.isEmpty && power.isEmpty then none
    else
      match realFault? (whole ++ fraction) power with
      | some fault => some (.error fault, rest)
      | none =>
        let exponent : Int := Text.numberOf power
        let exponent := (if negative then -exponent else exponent) - fraction.length
        some (.ok (Decimal.ofDecimal false (Text.numberOf (whole ++ fraction)) exponent), rest)

/-- A whole number of decimal digits, unless there are too many. -/
def decimalNumber (digits : List Char) : Except Decimal.NumeralFault Nat :=
  if Decimal.digitLimit < digits.length then .error (.tooLong digits.length) else .ok (Text.numberOf digits)

/-- A number without a fraction; a leading zero is a number of its own unless only zeros follow. -/
def integer? (cs : List Char) : Option (Except Decimal.NumeralFault Nat × List Char) :=
  match basedNumber? cs with
  | some (value, rest) => some (.ok value, rest)
  | none =>
    match cs with
    | '0' :: _ =>
      let (zeros, rest) := splitNumber (· = '0') cs
      some (decimalNumber zeros, rest)
    | c :: _ =>
      if c.isDigit then
        let (digits, rest) := splitNumber Text.isDigit cs
        some (decimalNumber digits, rest)
      else none
    | [] => none

/-- The characters up to the quote that ends a string, and what follows it; `none` if nothing ends it. -/
def splitQuoted (mark : Char) : List Char → Option (List Char × List Char)
  | [] => none
  | ['\\'] => none
  | '\\' :: c :: rest => (splitQuoted mark rest).map fun found => ('\\' :: c :: found.1, found.2)
  | c :: rest =>
    if c = mark then some ([], rest)
    else (splitQuoted mark rest).map fun found => (c :: found.1, found.2)

/-- The character of a one-letter escape. -/
def letterEscape? : Char → Option (List Char)
  | '\n' => some []
  | '\\' => some ['\\']
  | '\'' => some ['\'']
  | '"' => some ['"']
  | 'a' => some ['\x07']
  | 'b' => some ['\x08']
  | 'f' => some ['\x0c']
  | 'n' => some ['\n']
  | 'r' => some ['\r']
  | 't' => some ['\t']
  | 'v' => some ['\x0b']
  | _ => none

/-- A character beyond ASCII the way a backslash before it leaves it: as the digits of its code point. -/
def spelledOut (c : Char) : List Char :=
  let n := c.toNat
  if n ≤ 0xFF then 'x' :: Text.hex 2 n
  else if n ≤ 0xFFFF then 'u' :: Text.hex 4 n
  else 'U' :: Text.hex 8 n

/-- The code point of a numeric escape with `width` digits, and what is left. -/
def numericEscape (letter : Char) (width : Nat) (rest : List Char) : Except String (Point × List Char) :=
  let digits := rest.take width
  match if digits.length = width then Json.hexNumber? digits else none with
  | none => .error ("truncated \\" ++ String.ofList (letter :: List.replicate width 'X') ++ " escape")
  | some n =>
    if 0x10FFFF < n then .error "illegal Unicode character" else .ok (.ofNat n, rest.drop width)

/-- The character of an escape by name, whose name stands in braces, and what is left. -/
def namedEscape (rest : List Char) : Except String (Char × List Char) :=
  let malformed : Except String (Char × List Char) := .error "malformed \\N character escape"
  match rest with
  | '\x7b' :: more =>
    let name := more.takeWhile (· ≠ '\x7d')
    match more.dropWhile (· ≠ '\x7d') with
    | [] => malformed
    | _ :: rest =>
      if name.isEmpty then malformed
      else
        match Text.characterNamed? name with
        | some c => .ok (c, rest)
        | none => .error "unknown Unicode character name"
  | _ => malformed

/-- The text that the characters between two quotes stand for; at most `fuel` characters are read. -/
def unescape : Nat → List Char → Except String (List Point)
  | 0, _ => .ok []
  | _ + 1, [] => .ok []
  | fuel + 1, '\\' :: c :: rest =>
    match letterEscape? c with
    | some found => (unescape fuel rest).map (found.map .char ++ ·)
    | none =>
      if '0' ≤ c && c ≤ '7' then
        let digits := ((c :: rest).take 3).takeWhile fun d => '0' ≤ d && d ≤ '7'
        let n := digits.foldl (fun n d => 8 * n + (d.toNat - '0'.toNat)) 0
        (unescape fuel ((c :: rest).drop digits.length)).map (.ofNat n :: ·)
      else if c = 'x' || c = 'u' || c = 'U' then do
        let width := if c = 'x' then 2 else if c = 'u' then 4 else 8
        let (found, rest) ← numericEscape c width rest
        return found :: (← unescape fuel rest)
      else if c = 'N' then do
        let (found, rest) ← namedEscape rest
        return .char found :: (← unescape fuel rest)
      else if 0x80 ≤ c.toNat then (unescape fuel rest).map (('\\' :: spelledOut c).map .char ++ ·)
      else (unescape fuel rest).map (['\\', c].map .char ++ ·)
  | fuel + 1, c :: rest => (unescape fuel rest).map (.char c :: ·)

/-! ## Tags -/

/-- The operators of two characters. -/
def longOperators : List String := ["//", "**", "==", "!=", ">=", "<="]

/-- The operators of one character. -/
def shortOperators : List Char := "+-/*%~[](){}><=.:|,;".toList

/-- The operator a text begins with. -/
def operator? (cs : List Char) : Option (String × List Char) :=
  match longOperators.find? fun symbol => symbol.toList.isPrefixOf cs with
  | some symbol => some (symbol, cs.drop 2)
  | none =>
    match cs with
    | c :: rest => if shortOperators.contains c then some (String.singleton c, rest) else none
    | [] => none

/-- The bracket that closes a bracket. -/
def closer? : String → Option String
  | "(" => some ")"
  | "[" => some "]"
  | "\x7b" => some "\x7d"
  | _ => none

/-- Keep track of the brackets that are open, innermost first. -/
def balance (opened : List String) (symbol : String) : Except String (List String) :=
  match closer? symbol with
  | some close => .ok (close :: opened)
  | none =>
    if symbol = ")" || symbol = "]" || symbol = "\x7d" then
      match opened with
      | [] => .error ("unexpected '" ++ symbol ++ "'")
      | expected :: rest =>
        if expected = symbol then .ok rest
        else .error ("unexpected '" ++ symbol ++ "', expected '" ++ expected ++ "'")
    else .ok opened

/-- The end of a tag or comment, with the white space it takes away; also whether a line feed was the last
    character of it. -/
def close? (delimiter : List Char) (trims plusToo : Bool) (cs : List Char) : Option (Bool × List Char) :=
  let after (n : Nat) : List Char := cs.drop n
  if plusToo && ('+' :: delimiter).isPrefixOf cs then some (false, after 3)
  else if ('-' :: delimiter).isPrefixOf cs then
    let space := (after 3).takeWhile Text.isBlank
    some (space.getLast? = some '\n', (after 3).drop space.length)
  else if delimiter.isPrefixOf cs then
    match after 2 with
    | '\n' :: rest => if trims then some (true, rest) else some (false, '\n' :: rest)
    | rest => some (false, rest)
  else none

/-- The end of a tag. -/
def closeTag? (spacing : Spacing) (tag : Tag) (cs : List Char) : Option (Bool × List Char) :=
  match tag with
  | .print => close? ['\x7d', '\x7d'] false false cs
  | .statement => close? ['%', '\x7d'] spacing.dropsFeed true cs

/-- One token inside a tag, where `total` is the length of the template; white space gives none. -/
def tokenInTag (total : Nat) (cs : List Char) : List Token × List Char :=
  match cs with
  | [] => ([], [])
  | c :: rest =>
    if Text.isBlank c then ([], rest.dropWhile Text.isBlank)
    else
      match real? cs with
      | some (.ok value, rest) => ([.real value], rest)
      | some (.error fault, _) => ([.unreadable (.numeral fault)], [])
      | none =>
        match integer? cs with
        | some (.ok value, rest) => ([.integer value], rest)
        | some (.error fault, _) => ([.unreadable (.numeral fault)], [])
        | none =>
          if Text.isWordChar c then
            let word := cs.takeWhile Text.isWordChar
            if Text.isName word then ([.name (String.ofList word)], cs.dropWhile Text.isWordChar)
            else ([.unreadable (.malformed "Invalid character in identifier")], [])
          else
            match if c = '\'' || c = '"' then splitQuoted c rest else none with
            | some (inner, rest) =>
              match unescape (inner.length + 1) inner with
              | .ok text => ([.text (String.ofList (Point.shown text))], rest)
              | .error reason => ([.unreadable (.malformed reason)], [])
            | none =>
              match operator? cs with
              | some (symbol, rest) => ([.operator symbol], rest)
              | none =>
                let place := toString (total - cs.length)
                let reason := "unexpected char " ++ Text.quoted (String.singleton c) ++ " at " ++ place
                ([.unreadable (.malformed reason)], [])

/-- The tokens of a tag, where `opened` are the brackets still open, and if it ends, whether a line feed ended it
    and what is left. -/
def scanTag (spacing : Spacing) (total : Nat) (tag : Tag) :
    Nat → List String → List Char → List Token × Option (Bool × List Char)
  | 0, _, _ => ([], none)
  | _ + 1, _, [] => ([], none)
  | fuel + 1, opened, c :: cs =>
    match if opened.isEmpty then closeTag? spacing tag (c :: cs) else none with
    | some after => ([.closing tag], some after)
    | none =>
      let (found, rest) := tokenInTag total (c :: cs)
      let next : Except String (List String) := match found with
        | [.operator symbol] => balance opened symbol
        | _ => .ok opened
      match next with
      | .error reason => ([.unreadable (.malformed reason)], none)
      | .ok opened =>
        let (tokens, after) := scanTag spacing total tag fuel opened rest
        (found ++ tokens, after)

/-! ## Whole templates -/

/-- What a delimiter opens. -/
inductive Opening where
  | comment
  | tag (tag : Tag)

/-- The opening delimiter a text begins with. -/
def opening? : List Char → Option Opening
  | '\x7b' :: '#' :: _ => some .comment
  | '\x7b' :: '%' :: _ => some (.tag .statement)
  | '\x7b' :: '\x7b' :: _ => some (.tag .print)
  | _ => none

/-- The text before the first delimiter, what it opens, and what follows it. -/
def splitAtOpening : List Char → List Char × Option (Opening × List Char)
  | [] => ([], none)
  | c :: cs =>
    match opening? (c :: cs) with
    | some opening => ([], some (opening, cs.drop 1))
    | none =>
      let (text, found) := splitAtOpening cs
      (c :: text, found)

/-- The text before a tag as it is kept, where `fresh` says whether it begins a line. -/
def keptText (spacing : Spacing) (fresh : Bool) (sign : Option Char) (opening : Opening) (text : List Char) :
    List Char :=
  let indentation := (text.reverse.takeWhile (· ≠ '\n')).reverse
  let before := text.take (text.length - indentation.length)
  if sign = some '-' then Text.trimEnd text
  else if sign = some '+' then text
  else
    match opening with
    | .tag .print => text
    | _ =>
      if spacing.dropsIndentation && (fresh || !before.isEmpty) && indentation.all Text.isBlank then before else text

/-- What follows the end of a comment, and whether a line feed ended it. -/
def skipComment (spacing : Spacing) : List Char → Option (Bool × List Char)
  | [] => none
  | c :: cs =>
    match close? ['#', '\x7d'] spacing.dropsFeed true (c :: cs) with
    | some found => some found
    | none => skipComment spacing cs

/-- The sign that may stand next to an opening delimiter. -/
def sign? (cs : List Char) : Option Char :=
  cs.head?.filter fun c => c = '-' || c = '+'

/-- What follows an opening delimiter and its sign. -/
def skipSign (cs : List Char) : List Char :=
  if (sign? cs).isSome then cs.drop 1 else cs

/-- The token of a comment that does not end. -/
def openComment : Token :=
  .unreadable (.malformed "Missing end of comment tag")

/-- The tokens of a template from a place outside its tags; `fuel` bounds the number of tags and the characters of
    each. -/
def scanFrom (spacing : Spacing) (total : Nat) : Nat → Bool → List Char → List Token
  | 0, _, _ => []
  | fuel + 1, fresh, cs =>
    match splitAtOpening cs with
    | (text, none) => [.plain (String.ofList text)]
    | (text, some (opening, rest)) =>
      let kept := Token.plain (String.ofList (keptText spacing fresh (sign? rest) opening text))
      let rest := skipSign rest
      match opening with
      | .comment =>
        match skipComment spacing rest with
        | some (ended, rest) => kept :: scanFrom spacing total fuel ended rest
        -- A comment with nothing in it may be left open at the end.
        | none => kept :: if rest.isEmpty then [] else [openComment]
      | .tag tag =>
        match scanTag spacing total tag fuel [] rest with
        | (tokens, some (ended, rest)) => kept :: .opening tag :: tokens ++ scanFrom spacing total fuel ended rest
        | (tokens, none) => kept :: .opening tag :: tokens

/-- A text without a line feed at its end. -/
def dropEnd (cs : List Char) : List Char :=
  if cs.getLast? = some '\n' then cs.dropLast else cs

/-- The characters of a template that are read: line endings become line feeds first. -/
def Spacing.characters (spacing : Spacing) (template : String) : List Char :=
  let cs := Text.unifyLineEndings template.toList
  if spacing.keepsEnd then cs else dropEnd cs

/-- The tokens of a template. -/
def scan (spacing : Spacing) (template : String) : List Token :=
  let cs := spacing.characters template
  scanFrom spacing cs.length (template.toList.length + 1) true cs

end Template

end CodeBehind
