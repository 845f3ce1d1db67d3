import LexicalScope.Json.Basic
import LexicalScope.Numeric.Decimal

/-!
# Text of data values

The compact text of a value: no blanks, the members of an object in the order of their names.

* `stringText` — a string between double quotes; the quote, the backslash and the characters below
  U+0020 are escaped, all others stand for themselves
* `Json.text` — the text of a value
-/

namespace LexicalScope.Json

/-- A hexadecimal digit, in lower case. -/
def hexDigit (n : Nat) : Char := (Nat.digitChar n)

/-- The written form of one character of a string. -/
def escapeChar (c : Char) : List Char :=
  match c with
  | '"' => ['\\', '"']
  | '\\' => ['\\', '\\']
  | '\x08' => ['\\', 'b']
  | '\x0c' => ['\\', 'f']
  | '\n' => ['\\', 'n']
  | '\r' => ['\\', 'r']
  | '\t' => ['\\', 't']
  | c =>
    if c.toNat < 0x20 then ['\\', 'u', '0', '0', hexDigit (c.toNat / 16), hexDigit (c.toNat % 16)]
    else [c]

/-- A string between quotes, with its escapes. -/
def stringText (s : String) : List Char := '"' :: (s.toList.flatMap escapeChar ++ ['"'])

/-- Decimal text of an integer. -/
def integerText (n : Int) : List Char :=
  if n < 0 then '-' :: Nat.toDigits 10 n.natAbs else Nat.toDigits 10 n.natAbs

mutual

/-- The compact text of a value. -/
def text : Json → List Char
  | .null => "null".toList
  | .bool true => "true".toList
  | .bool false => "false".toList
  | .whole n => integerText n.val
  | .float x => x.text
  | .string s => stringText s
  | .array items => '[' :: (itemsText items ++ [']'])
  | .object ⟨members⟩ => '\x7b' :: (membersText members ++ ['\x7d'])
termination_by structural v => v

/-- The items with commas between them. -/
def itemsText : List Json → List Char
  | [] => []
  | [v] => v.text
  | v :: rest => v.text ++ ',' :: itemsText rest
termination_by structural items => items

/-- The members with commas between them. -/
def membersText : List (String × Json) → List Char
  | [] => []
  | [(k, v)] => stringText k ++ ':' :: v.text
  | (k, v) :: rest => stringText k ++ ':' :: v.text ++ ',' :: membersText rest
termination_by structural members => members

end

/-- The compact text as a string. -/
def toText (v : Json) : String := String.ofList v.text

end LexicalScope.Json
