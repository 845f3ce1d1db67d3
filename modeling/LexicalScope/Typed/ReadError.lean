import LexicalScope.Json.Reading.Failure
import LexicalScope.Json.Text
import LexicalScope.Text.Quoted

/-!
# Errors of typed reading

Why a data value is not a value of the type asked for. A message tells what was found and what had
been expected.

* `Found` — what was found
* `ReadError` — the errors, `ReadError.message` their wording
-/

namespace LexicalScope

/-- What a reader finds in place of what it expects. -/
inductive Found where
  | null
  | bool (b : Bool)
  | integer (n : Int)
  | float (x : Double)
  | string (s : String)
  | sequence
  | map
  /-- the name of a variant without content -/
  | unitVariant
  deriving DecidableEq

/-- The words for what was found. -/
def Found.text : Found → String
  | null => "null"
  | bool b => "boolean `" ++ (if b then "true" else "false") ++ "`"
  | integer n => "integer `" ++ String.ofList (Json.integerText n) ++ "`"
  | float x => "floating point `" ++ String.ofList x.text ++ "`"
  | string s => "string " ++ Text.quote s
  | sequence => "sequence"
  | map => "map"
  | unitVariant => "unit variant"

/-- What a reader sees of a data value that it cannot use. -/
def Json.found : Json → Found
  | .null => .null
  | .bool b => .bool b
  | .whole n => .integer n.val
  | .float x => .float x
  | .string s => .string s
  | .array _ => .sequence
  | .object _ => .map

/-- Why a data value is no value of a type. -/
inductive ReadError where
  | invalidType (found : Found) (expected : String)
  | invalidValue (found : Found) (expected : String)
  | invalidLength (length : Nat) (expected : String)
  | missingField (name : String)
  | unknownField (name : String) (known : List String)
  | unknownVariant (name : String) (known : List String)
  /-- a key that does not read as a number from its first to its last character -/
  | keyNotNumber
  /-- a key that begins like a number and is not one -/
  | keyMalformed (e : Json.SyntaxError)
  /-- a key whose number is not of the type asked for, found at a position -/
  | keyMismatch (e : ReadError) (p : Text.Position)
  deriving DecidableEq

namespace ReadError

/-- The names in backquotes, with commas between them. -/
def listing (names : List String) : String := ", ".intercalate (names.map fun n => "`" ++ n ++ "`")

def message : ReadError → String
  | invalidType found expected => "invalid type: " ++ found.text ++ ", expected " ++ expected
  | invalidValue found expected => "invalid value: " ++ found.text ++ ", expected " ++ expected
  | invalidLength n expected => "invalid length " ++ toString n ++ ", expected " ++ expected
  | missingField name => "missing field `" ++ name ++ "`"
  | unknownField name known => "unknown field `" ++ name ++ "`, expected one of " ++ listing known
  | unknownVariant name known =>
    "unknown variant `" ++ name ++ "`, expected one of " ++ listing known
  | keyNotNumber => "invalid value: expected key to be a number in quotes"
  | keyMalformed e => e.message
  | keyMismatch e p => e.message ++ String.ofList p.text

/-- An array with more items than there is room for. -/
def tooLong (length : Nat) : ReadError := invalidLength length "fewer elements in array"

end ReadError

end LexicalScope
