import LexicalScope.Diagnostic.Region
import LexicalScope.Text.Lines
import LexicalScope.Text.Width.Basic

/-!
# Pointers

A pointer shows where in a source text something happened: the line on which a region starts, and
under it a row of carets below the part of the region that lies on that line.

* `Pointer.of` — the pointer to a region; every region has one, however wrong its offsets are
* `Pointer.render?` — the lines to print; a row of carets that ends past `widthLimit` cannot be
  set
-/

namespace LexicalScope

/-- A line of source text and the columns to mark in it. -/
structure Pointer where
  /-- the number of lines before it -/
  line : Nat
  /-- the display column at which the mark starts -/
  column : Nat
  /-- the display width of the mark -/
  length : Nat
  /-- the text of the line -/
  text : String
  deriving Repr, DecidableEq

namespace Pointer

/-- The part of a region that lies on its first line, given the text after its start and the number
of bytes that it reaches into that text. -/
def covered (after : List Char) (bytes : Nat) : List Char :=
  Text.firstLine (Text.takeBytes bytes after)

/-- The pointer to a region. Offsets fall back to character boundaries, and a mark has at least one
column. -/
def of (source : String) (r : Region) : Pointer :=
  let s := source.toList
  let before := Text.takeBytes r.start s
  let after := Text.dropBytes r.start s
  let lead := Text.lastLine before
  { line := Text.lineFeeds before
    column := Text.Width.width lead
    length := max 1 (Text.Width.width (covered after (r.stop - Text.byteLength before)))
    text := String.ofList (lead ++ Text.firstLine after) }

/-- The widest field that can be set. -/
def widthLimit : Nat := 65535

def spaces (n : Nat) : List Char := List.replicate n ' '

/-- What surrounds the carets in colour. -/
def highlight (s : List Char) : List Char := "\x1b[33m".toList ++ s ++ "\x1b[0m".toList

/-- The lines to print: the place, the source line, the carets and the help. The name of a source
that has none is a question mark. Dashes after the carets make a short mark three columns wide. -/
def render? (p : Pointer) (name help : Option String) : Option String :=
  if p.column + p.length ≤ widthLimit then
    let number := (toString (p.line + 1)).toList
    let margin := ' ' :: spaces number.length
    let place := (name.getD "?").toList ++ ':' :: number ++ ':' :: (toString (p.column + 1)).toList
    let carets := highlight (spaces p.column ++ List.replicate p.length '^')
    let advice := match help with
      | some h => margin.drop 1 ++ " = help: ".toList ++ h.toList ++ ['\n']
      | none => []
    some (String.ofList ('\n' :: margin ++ "--> ".toList ++ place ++
      '\n' :: margin ++ " |".toList ++
      '\n' :: ' ' :: number ++ " | ".toList ++ p.text.toList ++
      '\n' :: margin ++ " | ".toList ++ carets ++ List.replicate (3 - p.length) '-' ++
      '\n' :: margin ++ " |\n".toList ++ advice))
  else none

def outline (p : Pointer) : Outline :=
  .record "Pointer"
    [("line", .nat p.line), ("column", .nat p.column), ("length", .nat p.length),
      ("text", .quoted p.text)]

end Pointer

end LexicalScope
