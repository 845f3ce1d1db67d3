import LexicalScope.Json.Reading.Number
import LexicalScope.Json.Reading.Quoted

/-!
# Reading data values

* `skipBlanks` — space, tab, line feed and carriage return may stand between any two parts
* `nextItem`, `nextMember` — one round of reading a list or an object: a comma where one is due
  and what follows it, or the closing bracket
* `value` — a value; the number of brackets that may still be opened bounds the recursion
* `ofText` — the value of a whole text, which may open `depthLimit` brackets within each other
-/

namespace LexicalScope.Json

/-- The four characters that may stand between the parts of a text. -/
def isBlank (c : Char) : Bool := c = ' ' || c = '\t' || c = '\n' || c = '\r'

/-- What follows the blanks at the beginning. -/
def skipBlanks (cs : List Char) : List Char := cs.dropWhile isBlank

/-- Reads the rest of a word whose first letter has been seen. -/
def word {α : Type} (x : α) : List Char → Reader α
  | [], cs => .ok (x, cs)
  | _ :: _, [] => .error (.before .endInValue [])
  | w :: ws, c :: cs => if c = w then word x ws cs else .error (.inFirst .expectedWord (c :: cs))

/-- Reads an item of a list with `value`, or the closing bracket. -/
def nextItem (value : Reader Json) (isFirst : Bool) : Reader (Option Json) := fun cs =>
  let item (cs : List Char) : Except ReadFailure (Option Json × List Char) :=
    match value cs with
    | .error e => .error e
    | .ok (v, rest) => .ok (some v, rest)
  match skipBlanks cs with
  | [] => .error (.inFirst .endInList [])
  | ']' :: rest => .ok (none, rest)
  | c :: rest =>
    if isFirst then item (c :: rest)
    else if c = ',' then
      match skipBlanks rest with
      | [] => .error (.inFirst .endInValue [])
      | ']' :: rest => .error (.inFirst .trailingComma (']' :: rest))
      | rest => item rest
    else .error (.inFirst .listDelimiter (c :: rest))

/-- Reads a member of an object after the opening quote of its name. -/
def member (value : Reader Json) : Reader (String × Json) := fun cs =>
  match quoted cs with
  | .error e => .error e
  | .ok (k, rest) =>
    match skipBlanks rest with
    | [] => .error (.inFirst .endInObject [])
    | ':' :: rest =>
      match value rest with
      | .error e => .error e
      | .ok (v, rest) => .ok ((k, v), rest)
    | rest => .error (.inFirst .expectedColon rest)

/-- Reads a member of an object, or the closing bracket. -/
def nextMember (value : Reader Json) (isFirst : Bool) : Reader (Option (String × Json)) := fun cs =>
  let item (cs : List Char) : Except ReadFailure (Option (String × Json) × List Char) :=
    match cs with
    | '"' :: rest =>
      match member value rest with
      | .error e => .error e
      | .ok (m, rest) => .ok (some m, rest)
    | cs => .error (.inFirst .keyNotString cs)
  match skipBlanks cs with
  | [] => .error (.inFirst .endInObject [])
  | '\x7d' :: rest => .ok (none, rest)
  | c :: rest =>
    if isFirst then item (c :: rest)
    else if c = ',' then
      match skipBlanks rest with
      | [] => .error (.inFirst .endInValue [])
      | '\x7d' :: rest => .error (.inFirst .trailingComma ('\x7d' :: rest))
      | rest => item rest
    else .error (.inFirst .objectDelimiter (c :: rest))

/-- Reads a value in which at most `depth` brackets are open at a time. -/
def value (depth : Nat) : Reader Json := fun cs =>
  match skipBlanks cs with
  | [] => .error (.inFirst .endInValue [])
  | 'n' :: rest => word .null ['u', 'l', 'l'] rest
  | 't' :: rest => word (.bool true) ['r', 'u', 'e'] rest
  | 'f' :: rest => word (.bool false) ['a', 'l', 's', 'e'] rest
  | '"' :: rest =>
    match quoted rest with
    | .error e => .error e
    | .ok (s, rest) => .ok (.string s, rest)
  | '[' :: rest =>
    match depth with
    | 0 => .error (.inFirst .nestedTooDeep ('[' :: rest))
    | d + 1 =>
      match collectAll (nextItem (value d)) rest with
      | .error e => .error e
      | .ok (items, rest) => .ok (.array items, rest)
  | '\x7b' :: rest =>
    match depth with
    | 0 => .error (.inFirst .nestedTooDeep ('\x7b' :: rest))
    | d + 1 =>
      match collectAll (nextMember (value d)) rest with
      | .error e => .error e
      | .ok (members, rest) => .ok (ofMembers members, rest)
  | c :: rest =>
    if c = '-' ∨ c.isDigit then number (c :: rest) else .error (.inFirst .expectedValue (c :: rest))

/-- How many brackets may be open at a time. -/
def depthLimit : Nat := 127

/-- Reads a value that is followed by blanks only. -/
def wholeText (cs : List Char) : Except ReadFailure Json :=
  match value depthLimit cs with
  | .error e => .error e
  | .ok (v, rest) =>
    match skipBlanks rest with
    | [] => .ok v
    | rest => .error (.inFirst .trailingCharacters rest)

/-- The value that a text stands for. -/
def ofText (s : String) : Except SyntaxError Json :=
  match wholeText s.toList with
  | .ok v => .ok v
  | .error e => .error (e.locate s.toList)

end LexicalScope.Json
