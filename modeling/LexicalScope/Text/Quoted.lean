import LexicalScope.Text.Extender
import LexicalScope.Text.Hidden

/-!
# Quoted text

The form in which a text is shown inside a message: between double quotes, on one line, with
nothing in it that the eye would miss.

* NUL, tab, carriage return, line feed, the quote and the backslash have two-character escapes
* extending characters and hidden characters are written by their number, `\u{301}`, in lower-case
  hexadecimal digits without leading zeros
* every other character stands for itself; the apostrophe too
-/

namespace LexicalScope.Text

/-- The escape by number. -/
def numberEscape (c : Char) : List Char :=
  '\\' :: 'u' :: '\x7b' :: (Nat.toDigits 16 c.toNat ++ ['\x7d'])

/-- The written form of one character. -/
def quoteChar (c : Char) : List Char :=
  match c with
  | '\x00' => ['\\', '0']
  | '\t' => ['\\', 't']
  | '\r' => ['\\', 'r']
  | '\n' => ['\\', 'n']
  | '"' => ['\\', '"']
  | '\\' => ['\\', '\\']
  | c => if isExtender c || isHidden c then numberEscape c else [c]

/-- The written form of a text without the quotes around it. -/
def quoteBody (s : List Char) : List Char := s.flatMap quoteChar

/-- The text between double quotes. -/
def quote (s : String) : String := String.ofList ('"' :: (quoteBody s.toList ++ ['"']))

end LexicalScope.Text
