import CodeBehind.Text.Quoted

/-!
# Reading bytes as text

Turning the bytes of a file into text, and saying where that fails.

A well-formed byte sequence has exactly one reading, which is core's. For the others the report must name
the first place at which no reading can go on, and why: the byte cannot begin a character, the character it
begins is broken off by a byte that does not continue it, or the bytes end in the middle of it. How much of
the sequence counts as broken is part of the report: it covers the bytes that were still a possible
beginning.

## Main definitions

* `Utf8Reason`, `Utf8Fault`: Why and where bytes are not text.
* `Utf8Fault.message`: The fault in words.
* `firstFault`: The first fault of a list of bytes.
* `decode`: The text of some bytes, or the fault.
-/

namespace CodeBehind

namespace Text

/-- Why bytes cannot be read as a character. -/
inductive Utf8Reason where
  | invalidStart
  | invalidContinuation
  | endOfData
  deriving DecidableEq, Repr

/-- A place at which bytes cannot be read: `length` bytes from `position` on, the first of them `byte`. -/
structure Utf8Fault where
  position : Nat
  length : Nat
  byte : UInt8
  reason : Utf8Reason
  deriving DecidableEq, Repr

/-- The reason in words. -/
def Utf8Reason.message : Utf8Reason → String
  | invalidStart => "invalid start byte"
  | invalidContinuation => "invalid continuation byte"
  | endOfData => "unexpected end of data"

/-- The fault in words: one byte is shown by its value, several by their positions. -/
def Utf8Fault.message (fault : Utf8Fault) : String :=
  let place :=
    if fault.length = 1 then
      "byte 0x" ++ String.ofList (hex 2 fault.byte.toNat) ++ " in position " ++ toString fault.position
    else
      "bytes in position " ++ toString fault.position ++ "-" ++ toString (fault.position + fault.length - 1)
  "'utf-8' codec can't decode " ++ place ++ ": " ++ fault.reason.message

/-- The values each continuation byte may take after a first byte; `none` if no character begins so. -/
def continuations (b : UInt8) : Option (List (UInt8 × UInt8)) :=
  let any : UInt8 × UInt8 := (0x80, 0xBF)
  if b < 0x80 then some []
  else if b < 0xC2 then none
  else if b < 0xE0 then some [any]
  else if b = 0xE0 then some [(0xA0, 0xBF), any]
  else if b = 0xED then some [(0x80, 0x9F), any]
  else if b < 0xF0 then some [any, any]
  else if b = 0xF0 then some [(0x90, 0xBF), any, any]
  else if b < 0xF4 then some [any, any, any]
  else if b = 0xF4 then some [(0x80, 0x8F), any, any]
  else none

/-- Read continuation bytes against what they may be, after `read` bytes of the character; either the
    bytes after it, or how many bytes were read in vain and why. -/
def continueChar (read : Nat) : List (UInt8 × UInt8) → List UInt8 → Except (Nat × Utf8Reason) (List UInt8)
  | [], rest => .ok rest
  | _ :: _, [] => .error (read, .endOfData)
  | (first, last) :: more, b :: rest =>
    if first ≤ b && b ≤ last then continueChar (read + 1) more rest
    else .error (read, .invalidContinuation)

/-- The first fault of bytes that begin at `position`, reading at most `fuel` characters. -/
def faultFrom : Nat → Nat → List UInt8 → Option Utf8Fault
  | 0, _, _ => none
  | _ + 1, _, [] => none
  | fuel + 1, position, b :: rest =>
    match continuations b with
    | none => some ⟨position, 1, b, .invalidStart⟩
    | some shape =>
      match continueChar 1 shape rest with
      | .ok rest' => faultFrom fuel (position + 1 + shape.length) rest'
      | .error (length, reason) => some ⟨position, length, b, reason⟩

/-- The first fault of a list of bytes, if there is one. -/
def firstFault (bytes : List UInt8) : Option Utf8Fault :=
  faultFrom bytes.length 0 bytes

/-- Read bytes as text. -/
def decode (bytes : ByteArray) : Except Utf8Fault String :=
  match String.fromUTF8? bytes with
  | some s => .ok s
  | none => .error ((firstFault bytes.toList).getD ⟨0, bytes.size, 0, .endOfData⟩)

end Text

end CodeBehind
