import LexicalScope.Text.Offset

/-!
# Lines and positions

Lines are separated by line feeds. A position counts lines and columns from 1 and 0: its line is
that of the next byte to be read, its column the number of bytes read on that line.

* `firstLine`, `lastLine` — the text before the first and after the last line feed
* `lineFeeds` — how many line feeds a text has
* `Position.ofOffset` — the position after so many bytes
-/

namespace LexicalScope.Text

/-- The text before the first line feed. -/
def firstLine (s : List Char) : List Char := s.takeWhile (· ≠ '\n')

/-- The text after the last line feed. -/
def lastLine (s : List Char) : List Char := (firstLine s.reverse).reverse

/-- The number of line feeds. -/
def lineFeeds (s : List Char) : Nat := s.count '\n'

/-- How far a text has been read: the line, counted from 1, and the bytes read on it. -/
structure Position where
  line : Nat
  column : Nat
  deriving Repr, DecidableEq

/-- The position reached in `s` after `n` bytes. -/
def Position.ofOffset (s : List Char) (n : Nat) : Position :=
  let read := takeBytes n s
  ⟨lineFeeds read + 1, byteLength (lastLine read) + (n - byteLength read)⟩

theorem lineFeeds_append (s t : List Char) : lineFeeds (s ++ t) = lineFeeds s + lineFeeds t :=
  List.count_append

end LexicalScope.Text
