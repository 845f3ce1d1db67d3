import LexicalScope.Text.Located

/-!
# Failures of reading

Why a text is not the text of a data value, and where that shows.

* `SyntaxCause` — the causes, `SyntaxCause.message` their wording
* `ReadFailure` — a cause and the number of bytes that had not been read when it showed
* `SyntaxError` — a cause and a position in the whole text
* `Reader` — a function that reads a value from the beginning of a text and returns the rest
-/

namespace LexicalScope.Json

/-- Why a text is not the text of a value. -/
inductive SyntaxCause where
  | endInValue
  | endInString
  | endInList
  | endInObject
  | expectedWord
  | expectedValue
  | trailingCharacters
  | invalidNumber
  | numberOutOfRange
  | controlCharacter
  | invalidEscape
  | loneSurrogate
  | unfinishedSurrogate
  | listDelimiter
  | objectDelimiter
  | trailingComma
  | keyNotString
  | expectedColon
  | nestedTooDeep
  deriving Repr, DecidableEq

/-- The wording of a cause. -/
def SyntaxCause.message : SyntaxCause → String
  | endInValue => "EOF while parsing a value"
  | endInString => "EOF while parsing a string"
  | endInList => "EOF while parsing a list"
  | endInObject => "EOF while parsing an object"
  | expectedWord => "expected ident"
  | expectedValue => "expected value"
  | trailingCharacters => "trailing characters"
  | invalidNumber => "invalid number"
  | numberOutOfRange => "number out of range"
  | controlCharacter => "control character (\\u0000-\\u001F) found while parsing a string"
  | invalidEscape => "invalid escape"
  | loneSurrogate => "lone leading surrogate in hex escape"
  | unfinishedSurrogate => "unexpected end of hex escape"
  | listDelimiter => "expected `,` or `]`"
  | objectDelimiter => "expected `,` or `\x7d`"
  | trailingComma => "trailing comma"
  | keyNotString => "key must be a string"
  | expectedColon => "expected `:`"
  | nestedTooDeep => "recursion limit exceeded"

/-- A cause and the number of bytes that were left. Counting from the end, a reader needs to know
only what it has in front of it. -/
structure ReadFailure where
  cause : SyntaxCause
  bytesLeft : Nat
  deriving Repr, DecidableEq

namespace ReadFailure

/-- The failure shows before the text `rest`. -/
def before (cause : SyntaxCause) (rest : List Char) : ReadFailure := ⟨cause, Text.byteLength rest⟩

/-- The failure lies in the first byte of `rest`, or at the end if nothing is left. -/
def inFirst (cause : SyntaxCause) (rest : List Char) : ReadFailure :=
  ⟨cause, Text.byteLength rest - 1⟩

end ReadFailure

/-- Why and where a text could not be read. -/
structure SyntaxError where
  cause : SyntaxCause
  position : Text.Position
  deriving Repr, DecidableEq

def SyntaxError.message (e : SyntaxError) : String :=
  e.cause.message ++ String.ofList e.position.text

/-- A failure of reading the text `s`, with its position. -/
def ReadFailure.locate (e : ReadFailure) (s : List Char) : SyntaxError :=
  ⟨e.cause, .ofOffset s (Text.byteLength s - e.bytesLeft)⟩

/-- Reads a value from the beginning of a text. -/
abbrev Reader (α : Type) := List Char → Except ReadFailure (α × List Char)

/-- Collects what `step` reads until it reads nothing more. The first argument of `step` says
whether this is the first time. A step that reads something takes at least one character, so that
one round for each character and one more are enough. -/
def collect {α : Type} (step : Bool → Reader (Option α)) :
    (rounds : Nat) → (isFirst : Bool) → (read : List α) → Reader (List α)
  | 0, _, _, cs => .error (.before .endInValue cs)
  | n + 1, isFirst, read, cs =>
    match step isFirst cs with
    | .error e => .error e
    | .ok (none, rest) => .ok (read.reverse, rest)
    | .ok (some x, rest) => collect step n false (x :: read) rest

/-- Collects until `step` reads nothing more. -/
def collectAll {α : Type} (step : Bool → Reader (Option α)) : Reader (List α) :=
  fun cs => collect step (cs.length + 1) true [] cs

end LexicalScope.Json
