import LexicalScope.Text.Offset

/-!
# Offsets found by bytes

In the UTF-8 form of a text a byte shows by its value whether it continues a character. So a
character boundary can be found from any offset, without reading the text from its start: go back
until a byte continues nothing.

* `bytes` — the UTF-8 form
* `beginsAt` — whether a character begins at an offset, told from the byte there
* `stepBack?`, `clamp?` — the way back from an offset to a boundary; none if it leads past the start
* `lineFeedAt?`, `lastLineFeedAt?` — the offsets of the first and the last line feed
-/

namespace LexicalScope.Text

/-- The UTF-8 form of a text. -/
def bytes (s : List Char) : List UInt8 := s.flatMap String.utf8EncodeChar

/-- Whether a byte continues the character of the byte before it. -/
def isContinuation (b : UInt8) : Bool := 0x80 ≤ b && b < 0xC0

/-- Whether a character begins at the offset, or the text ends there. -/
def beginsAt (s : List Char) (n : Nat) : Bool :=
  match (bytes s)[n]? with
  | some b => n = 0 || !isContinuation b
  | none => n = byteLength s

/-- The first boundary on the way back from the offset. The way ends at the start of the text, and
if there is no boundary either, it has failed. -/
def stepBack? (s : List Char) : Nat → Option Nat
  | 0 => if beginsAt s 0 then some 0 else none
  | n + 1 => if beginsAt s (n + 1) then some (n + 1) else stepBack? s n

/-- The boundary that an offset falls back to, found from the end of the text if the offset is past
it. -/
def clamp? (s : List Char) (n : Nat) : Option Nat := stepBack? s (min n (byteLength s))

/-- The offset of the first line feed. -/
def lineFeedAt? : List Char → Option Nat
  | [] => none
  | c :: rest => if c = '\n' then some 0 else (lineFeedAt? rest).map (c.utf8Size + ·)

/-- The offset of the last line feed. -/
def lastLineFeedAt? : List Char → Option Nat
  | [] => none
  | c :: rest =>
    match lastLineFeedAt? rest with
    | some n => some (c.utf8Size + n)
    | none => if c = '\n' then some 0 else none

end LexicalScope.Text
