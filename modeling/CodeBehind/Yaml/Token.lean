import CodeBehind.Yaml.Scalar

/-!
# Tokens

A YAML text as a sequence of marks, names and scalars.

Indentation is turned into marks of its own: a block begins where the first item of a collection stands further
in than what surrounds it, and ends where a later line stands further out. A key need not be marked as one. It
is recognised by the colon after it, so every token that may begin a key is remembered with its place among the
tokens, and the marks of the key and of its block are put in there when the colon comes. A key without a mark
fits on one line and is not long. Only the newest candidate of each level of brackets can be the key.

## Main definitions

* `Token`: The marks, names and scalars.
* `Scanner`: The tokens so far and what is remembered.
* `Scanner.step`: One more token.
* `tokens?`: The tokens of a text.
-/

namespace CodeBehind

namespace Yaml

/-- A mark, a name or a scalar. -/
inductive Token where
  | version (major : Nat)
  | tagHandle (handle expansion : String)
  | reserved
  | documentStart
  | documentEnd
  | blockSequenceStart
  | blockMappingStart
  | blockEnd
  | sequenceStart
  | sequenceEnd
  | mappingStart
  | mappingEnd
  | flowEntry
  | blockEntry
  | key
  | value
  | alias (name : String)
  | anchor (name : String)
  | tag (handle : Option String) (suffix : String)
  | scalar (text : List Point) (isPlain : Bool)
  deriving DecidableEq, Repr

/-- A place where a key may have begun: how many tokens were before it, and its position; a required one is
    the only thing that can stand there. -/
structure Candidate where
  tokenCount : Nat
  required : Bool
  index : Nat
  line : Nat
  column : Int

/-- The tokens so far and what is remembered. -/
structure Scanner where
  cursor : Cursor
  tokens : Array Token := #[]
  flowLevel : Nat := 0
  indent : Int := -1
  indents : List Int := []
  keyAllowed : Bool := true
  candidates : List (Nat × Candidate) := []

/-- The most characters a key without a mark may have. -/
def keyLimit : Nat := 1024

namespace Scanner

/-- Add a token. -/
def push (s : Scanner) (token : Token) : Scanner :=
  { s with tokens := s.tokens.push token }

/-- Put a token before those that came after the first `n`. -/
def insert (s : Scanner) (n : Nat) (token : Token) : Scanner :=
  { s with tokens := (s.tokens.toList.insertIdx n token).toArray }

/-- Whether the reader is between brackets. -/
def inFlow (s : Scanner) : Bool :=
  s.flowLevel ≠ 0

/-- Move to a position. -/
def moveTo (s : Scanner) (cursor : Cursor) : Scanner :=
  { s with cursor }

/-- Allow or forbid a key to begin next. -/
def allowKey (s : Scanner) (keyAllowed : Bool) : Scanner :=
  { s with keyAllowed }

/-- Forget the candidate of this level; `none` if it had to be a key. -/
def forget (s : Scanner) : Option Scanner :=
  match s.candidates.lookup s.flowLevel with
  | some candidate =>
    if candidate.required then none
    else some { s with candidates := s.candidates.filter (·.1 ≠ s.flowLevel) }
  | none => some s

/-- Remember that a key may begin here. -/
def remember (s : Scanner) : Option Scanner :=
  if !s.keyAllowed then some s
  else do
    let s ← s.forget
    let candidate := {
      tokenCount := s.tokens.size
      required := !s.inFlow && s.indent = s.cursor.column
      index := s.cursor.index
      line := s.cursor.line
      column := s.cursor.column }
    return { s with candidates := (s.flowLevel, candidate) :: s.candidates }

/-- Whether a candidate is too far back to be a key. -/
def isStale (s : Scanner) (candidate : Candidate) : Bool :=
  candidate.line ≠ s.cursor.line || keyLimit < s.cursor.index - candidate.index

/-- Forget the candidates that are too far back; `none` if one of them had to be a key. -/
def forgetStale (s : Scanner) : Option Scanner :=
  if s.candidates.any fun c => s.isStale c.2 && c.2.required then none
  else some { s with candidates := s.candidates.filter fun c => !s.isStale c.2 }

/-- End the blocks that stand further in than a column. -/
def unwindFrom (s : Scanner) (column : Int) : List Int → Scanner
  | [] => { s with indents := [] }
  | outer :: indents =>
    if column < s.indent then unwindFrom { s with indent := outer, tokens := s.tokens.push .blockEnd } column indents
    else { s with indents := outer :: indents }

/-- End the blocks that stand further in than a column, unless the reader is between brackets. -/
def unwind (s : Scanner) (column : Int) : Scanner :=
  if s.inFlow then s else s.unwindFrom column s.indents

/-- Whether a block begins at a column. -/
def beginsBlock (s : Scanner) (column : Int) : Bool :=
  s.indent < column

/-- Begin a block at a column. -/
def openBlock (s : Scanner) (column : Int) : Scanner :=
  { s with indents := s.indent :: s.indents, indent := column }

/-- Pass spaces, comments and line breaks; a line break outside brackets allows a key. -/
def skipBlank : Nat → Scanner → Scanner
  | 0, s => s
  | fuel + 1, s =>
    let cursor := s.cursor.skipSpaces.skipComment
    if cursor.peek.isSome && endsLine cursor.peek then
      skipBlank fuel { s with cursor := cursor.lineBreak.2, keyAllowed := s.keyAllowed || !s.inFlow }
    else { s with cursor }

/-! ## Names -/

/-- The characters of names. -/
def isNameChar (c : Char) : Bool :=
  c.isAlphanum || c = '-' || c = '_'

/-- The characters of tags and their expansions. -/
def isUriChar (c : Char) : Bool :=
  c.isAlphanum || "-;/?:@&=+$,_.!~*'()[]%".toList.contains c

/-- The bytes of escapes with percent signs, and what follows them. -/
def uriEscapes : Nat → List Char → Option (List UInt8 × List Char)
  | 0, cs => some ([], cs)
  | fuel + 1, cs =>
    match cs with
    | '%' :: a :: b :: rest => do
      let n ← Json.hexNumber? [a, b]
      let (bytes, rest) ← uriEscapes fuel rest
      return (UInt8.ofNat n :: bytes, rest)
    | '%' :: _ => none
    | cs => some ([], cs)

/-- A tag with its escapes read; each run of escapes must be a text. -/
def unescapeUri : Nat → List Char → Option (List Char)
  | 0, _ => some []
  | fuel + 1, cs =>
    match cs with
    | [] => some []
    | '%' :: _ => do
      let (bytes, rest) ← uriEscapes cs.length cs
      let text ← String.fromUTF8? bytes.toByteArray
      return text.toList ++ (← unescapeUri fuel rest)
    | c :: rest => do return c :: (← unescapeUri fuel rest)

/-- A tag or an expansion. -/
def uri (cur : Cursor) : Option (String × Cursor) := do
  let (found, after) := cur.takeWhile isUriChar
  if found.isEmpty then none
  else return (String.ofList (← unescapeUri (found.length + 1) found), after)

/-- The handle of a tag, with its exclamation marks. -/
def handle (cur : Cursor) : Option (String × Cursor) :=
  if cur.peek ≠ some '!' then none
  else if cur.next.peek = some ' ' then some ("!", cur.next)
  else
    let (name, after) := cur.next.takeWhile isNameChar
    if after.peek = some '!' then some (String.ofList ('!' :: name ++ ['!']), after.next) else none

/-- A number in a directive. -/
def number (cur : Cursor) : Option (Nat × Cursor) :=
  let (digits, after) := cur.takeWhile Char.isDigit
  if digits.isEmpty then none else some (Json.decimalNumber digits, after)

/-- The directive after its percent sign, up to the end of its line. -/
def directive (cur : Cursor) : Option (Token × Cursor) := do
  let (name, after) := cur.takeWhile isNameChar
  if name.isEmpty || !endsLineOrSpace after.peek then none
  else
    let (token, after) ← if name = "YAML".toList then do
        let (major, after) ← number after.skipSpaces
        if after.peek ≠ some '.' then none
        else
          let (_, after) ← number after.next
          if endsLineOrSpace after.peek then some (.version major, after) else none
      else if name = "TAG".toList then do
        let (handle, after) ← handle after.skipSpaces
        if after.peek ≠ some ' ' then none
        else
          let (expansion, after) ← uri after.skipSpaces
          if endsLineOrSpace after.peek then some (Token.tagHandle handle expansion, after) else none
      else some (Token.reserved, after.skipWhile fun c => !isBreak c)
    let ending := after.skipSpaces.skipComment
    if endsLine ending.peek then some (token, ending.lineBreak.2) else none

/-- The name of an anchor or alias after its sign. -/
def anchorName (cur : Cursor) : Option (String × Cursor) :=
  let (name, after) := cur.takeWhile isNameChar
  let ends := endsWord after.peek || after.peek.any fun c => "?:,]\x7d%@`".toList.contains c
  if name.isEmpty || !ends then none else some (String.ofList name, after)

/-- Whether a tag begins with a handle of its own. -/
def hasHandle (cs : List Char) : Bool :=
  (cs.takeWhile fun c => !endsLineOrSpace (some c)).contains '!'

/-- A tag. -/
def tag (cur : Cursor) : Option (Token × Cursor) := do
  let (token, after) ← if cur.look 1 = some '<' then do
      let (suffix, after) ← uri (cur.skip 2)
      if after.peek = some '>' then some (Token.tag none suffix, after.next) else none
    else if endsWord (cur.look 1) then some (Token.tag none "!", cur.next)
    else do
      let (handle, after) ← if hasHandle (cur.rest.drop 1) then handle cur else some ("!", cur.next)
      let (suffix, after) ← uri after
      some (Token.tag (some handle) suffix, after)
  if endsLineOrSpace after.peek then some (token, after) else none

/-! ## Steps -/

/-- End all blocks before something that belongs to no document. -/
def leaveDocument (s : Scanner) : Option Scanner := do
  return (← (s.unwind (-1)).forget).allowKey false

/-- Add the token between two documents. -/
def separator (s : Scanner) (token : Token) : Option Scanner := do
  let s ← s.leaveDocument
  return (s.moveTo (s.cursor.skip 3)).push token

/-- Add an opening bracket. -/
def openFlow (s : Scanner) (token : Token) : Option Scanner := do
  let s ← s.remember
  return { (s.moveTo s.cursor.next).push token with flowLevel := s.flowLevel + 1, keyAllowed := true }

/-- Add a closing bracket; one that was not opened fits nowhere. -/
def closeFlow (s : Scanner) (token : Token) : Option Scanner := do
  let s ← s.forget
  if s.flowLevel = 0 then none
  else return { (s.moveTo s.cursor.next).push token with flowLevel := s.flowLevel - 1, keyAllowed := false }

/-- Add the mark of an entry or a key, which begins a block unless the reader is between brackets. -/
def marked (s : Scanner) (opening token : Token) (keyNext : Bool) : Option Scanner := do
  let s ← if s.inFlow then some s
    else if !s.keyAllowed then none
    else if s.beginsBlock s.cursor.column then some ((s.openBlock s.cursor.column).push opening)
    else some s
  let s ← (s.allowKey keyNext).forget
  return (s.moveTo s.cursor.next).push token

/-- Add the mark of a value, and before the key that it belongs to the marks of the key. -/
def valueMark (s : Scanner) : Option Scanner :=
  match s.candidates.lookup s.flowLevel with
  | some candidate =>
    let s := { s with candidates := s.candidates.filter (·.1 ≠ s.flowLevel) }
    let s := s.insert candidate.tokenCount .key
    let s := if !s.inFlow && s.beginsBlock candidate.column then
        (s.openBlock candidate.column).insert candidate.tokenCount .blockMappingStart
      else s
    some (((s.allowKey false).moveTo s.cursor.next).push .value)
  | none => s.marked .blockMappingStart .value (!s.inFlow)

/-- Add a name or tag, which may begin a key. -/
def named (s : Scanner) (found : Option (Token × Cursor)) : Option Scanner := do
  let s ← s.remember
  let (token, after) ← found
  return ((s.allowKey false).moveTo after).push token

/-- Add a quoted scalar. -/
def quotedScalar (s : Scanner) : Option Scanner := do
  let (text, after) ← quoted s.cursor
  s.named (some (.scalar text false, after))

/-- Add a block scalar. -/
def blockScalar (s : Scanner) : Option Scanner := do
  let s ← (s.allowKey true).forget
  let (text, after) ← block s.indent s.cursor
  return (s.moveTo after).push (.scalar (text.map .char) false)

/-- Add a plain scalar; if a line was broken after it, a key may follow. -/
def plainScalar (s : Scanner) : Option Scanner := do
  let s ← s.remember
  let (text, broke, after) := plain s.inFlow (s.indent + 1) s.cursor
  return ((s.allowKey broke).moveTo after).push (.scalar (text.map .char) true)

/-- Whether a plain scalar may begin here. -/
def beginsPlain (s : Scanner) : Bool :=
  match s.cursor.peek with
  | none => false
  | some c =>
    !(endsWord (some c) || "-?:,[]\x7b\x7d#&*!|>'\"%@`".toList.contains c) ||
      (!endsWord (s.cursor.look 1) && (c = '-' || (!s.inFlow && (c = '?' || c = ':'))))

/-- Whether a mark of one character is followed by white space. -/
def isMark (s : Scanner) : Bool :=
  endsWord (s.cursor.look 1)

/-- Add the token that begins with a character. -/
def token (s : Scanner) (c : Char) : Option Scanner :=
  if s.cursor.column = 0 && c = '%' then do
    let s ← s.leaveDocument
    let (token, after) ← directive s.cursor.next
    return (s.moveTo after).push token
  else if s.cursor.column = 0 && s.cursor.atSeparator then
    s.separator (if c = '-' then .documentStart else .documentEnd)
  else if c = '[' then s.openFlow .sequenceStart
  else if c = '\x7b' then s.openFlow .mappingStart
  else if c = ']' then s.closeFlow .sequenceEnd
  else if c = '\x7d' then s.closeFlow .mappingEnd
  else if c = ',' then do
    let s ← (s.allowKey true).forget
    return (s.moveTo s.cursor.next).push .flowEntry
  else if c = '-' && s.isMark then s.marked .blockSequenceStart .blockEntry true
  else if c = '?' && (s.inFlow || s.isMark) then s.marked .blockMappingStart .key (!s.inFlow)
  else if c = ':' && (s.inFlow || s.isMark) then s.valueMark
  else if c = '*' then s.named ((anchorName s.cursor.next).map fun (name, after) => (.alias name, after))
  else if c = '&' then s.named ((anchorName s.cursor.next).map fun (name, after) => (.anchor name, after))
  else if c = '!' then s.named (tag s.cursor)
  else if (c = '|' || c = '>') && !s.inFlow then s.blockScalar
  else if c = '\'' || c = '"' then s.quotedScalar
  else if s.beginsPlain then s.plainScalar
  else none

/-- Go on to the next token and add it; the flag says whether the text has ended. -/
def step (s : Scanner) : Option (Bool × Scanner) := do
  let s ← (skipBlank (s.cursor.rest.length + 1) s).forgetStale
  let s := s.unwind s.cursor.column
  match s.cursor.peek with
  | none => return (true, ← s.leaveDocument)
  | some c => return (false, ← s.token c)

/-- Go on until the text has ended, for at most `fuel` tokens. -/
def run : Nat → Scanner → Option Scanner
  | 0, _ => none
  | fuel + 1, s => do
    let (ended, s) ← s.step
    if ended then return s else run fuel s

end Scanner

/-- The characters that a text may hold. -/
def isAllowed (c : Char) : Bool :=
  let n := c.toNat
  n = 0x09 || n = 0x0A || n = 0x0D || (0x20 ≤ n && n ≤ 0x7E) || n = 0x85 || (0xA0 ≤ n && n ≤ 0xFFFD) ||
    0x10000 ≤ n

/-- The tokens of a text; `none` if it is not well formed. -/
def tokens? (text : List Char) : Option (List Token) :=
  if !text.all isAllowed then none
  else
    let cursor : Cursor := { rest := text }
    let start := if cursor.peek = some '\uFEFF' then cursor.next else cursor
    (Scanner.run (2 * text.length + 2) { cursor := start }).map (·.tokens.toList)

end Yaml

end CodeBehind
