import LexicalScope.Text.Lines

/-!
# Located messages

A message may end with the position at which what it tells shows, as in
`no such key at line 3 column 7`.

* `Position.text` — the words for a position
* `Position.ofText?` — the position that a text names from its first to its last character. Numbers
  may have superfluous zeros and have to fit 64 bits
* `Located` — a message and the position at its end, if it has one
* `Located.ofText`, `Located.text` — take a message apart and put it together again
-/

namespace LexicalScope.Text

/-! ## Positions in words -/

namespace Position

/-- The words before the number of a line. -/
def lineMark : List Char := " at line ".toList

/-- The words before the number of a column. -/
def columnMark : List Char := " column ".toList

/-- The words for a position. -/
def text (p : Position) : List Char :=
  lineMark ++ (Nat.toDigits 10 p.line ++ (columnMark ++ Nat.toDigits 10 p.column))

/-- Reads all digits at the beginning as a number of 64 bits, at least one; returns the rest. -/
def number? (s : List Char) : Option (Nat × List Char) :=
  let digits := s.takeWhile Char.isDigit
  let n := Nat.ofDigitChars 10 digits 0
  if digits ≠ [] ∧ n < 0x1_0000_0000_0000_0000 then some (n, s.dropWhile Char.isDigit) else none

/-- The position that the whole text names. -/
def ofText? (s : List Char) : Option Position := do
  let (line, s) ← number? (← lineMark.isPrefixOf? s)
  let (column, s) ← number? (← columnMark.isPrefixOf? s)
  if s = [] then some ⟨line, column⟩ else none

end Position

/-! ## Messages -/

/-- A message and the position at its end. -/
structure Located where
  message : List Char
  position : Option Position
  deriving Repr, DecidableEq

namespace Located

/-- Takes the position off the end of a text. A position holds no other one, so that the first place
from which on the text names a position is the only one. -/
def ofText : List Char → Located
  | [] => ⟨[], none⟩
  | c :: rest =>
    match Position.ofText? (c :: rest) with
    | some p => ⟨[], some p⟩
    | none =>
      let l := ofText rest
      ⟨c :: l.message, l.position⟩

/-- The message with its position. Lines count from 1, so that line 0 stands for no line and is not
told. -/
def text (l : Located) : List Char :=
  match l.position with
  | none => l.message
  | some p => if p.line = 0 then l.message else l.message ++ p.text

end Located

end LexicalScope.Text
