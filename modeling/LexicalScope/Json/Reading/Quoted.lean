import LexicalScope.Json.Reading.Failure

/-!
# Reading strings

A string is read character by character up to the closing quote. An escape stands for one
character; a character above U+FFFF is written as two escapes, a high and a low surrogate.

* `hexQuad` — four hexadecimal digits
* `numberEscape` — what follows `\u`
* `quotedChar` — one character of a string, or its end
* `quoted` — the string after its opening quote
-/

namespace LexicalScope.Json

/-- The value of a hexadecimal digit of either case. -/
def hexValue? (c : Char) : Option Nat :=
  if c.isDigit then some (c.toNat - '0'.toNat)
  else if 'a' ≤ c ∧ c ≤ 'f' then some (c.toNat - 'a'.toNat + 10)
  else if 'A' ≤ c ∧ c ≤ 'F' then some (c.toNat - 'A'.toNat + 10)
  else none

/-- The number that four hexadecimal digits stand for. -/
def hexQuad? (a b c d : Char) : Option Nat := do
  let a ← hexValue? a
  let b ← hexValue? b
  let c ← hexValue? c
  let d ← hexValue? d
  pure (((a * 16 + b) * 16 + c) * 16 + d)

/-- Why the four bytes of an escape are no number: there are less than four left, or another byte is
among them. -/
def hexFailure (cs : List Char) : ReadFailure :=
  let n := Text.byteLength cs
  if n < 4 then ⟨.endInString, 0⟩ else ⟨.invalidEscape, n - 4⟩

/-- Reads four hexadecimal digits. -/
def hexQuad : Reader Nat
  | a :: b :: c :: d :: rest =>
    match hexQuad? a b c d with
    | some n => .ok (n, rest)
    | none => .error (hexFailure (a :: b :: c :: d :: rest))
  | cs => .error (hexFailure cs)

/-- The first half of a pair that stands for one character. -/
def isHighSurrogate (n : Nat) : Bool := 0xD800 ≤ n && n ≤ 0xDBFF

/-- The second half of such a pair. -/
def isLowSurrogate (n : Nat) : Bool := 0xDC00 ≤ n && n ≤ 0xDFFF

/-- The character that a pair of surrogates stands for. -/
def ofSurrogates (high low : Nat) : Char :=
  Char.ofNat (0x10000 + (high - 0xD800) * 0x400 + (low - 0xDC00))

/-- Reads the escape that has to follow a high surrogate. -/
def lowSurrogate (high : Nat) : Reader Char
  | [] => .error (.before .endInString [])
  | '\\' :: [] => .error (.before .endInString [])
  | '\\' :: 'u' :: rest =>
    match hexQuad rest with
    | .error e => .error e
    | .ok (low, rest) =>
      if isLowSurrogate low then .ok (ofSurrogates high low, rest)
      else .error (.before .loneSurrogate rest)
  | '\\' :: rest => .error (.inFirst .unfinishedSurrogate rest)
  | rest => .error (.inFirst .unfinishedSurrogate rest)

/-- Reads what follows `\u`. -/
def numberEscape : Reader Char := fun cs =>
  match hexQuad cs with
  | .error e => .error e
  | .ok (n, rest) =>
    if isLowSurrogate n then .error (.before .loneSurrogate rest)
    else if isHighSurrogate n then lowSurrogate n rest
    else .ok (Char.ofNat n, rest)

/-- The character that a two-character escape stands for. -/
def shortEscape? : Char → Option Char
  | '"' => some '"'
  | '\\' => some '\\'
  | '/' => some '/'
  | 'b' => some '\x08'
  | 'f' => some '\x0c'
  | 'n' => some '\n'
  | 'r' => some '\r'
  | 't' => some '\t'
  | _ => none

/-- Reads what follows a backslash. -/
def afterBackslash : Reader Char
  | [] => .error (.before .endInString [])
  | 'u' :: rest => numberEscape rest
  | c :: rest =>
    match shortEscape? c with
    | some d => .ok (d, rest)
    | none => .error (.inFirst .invalidEscape (c :: rest))

/-- Reads one character of a string, or the closing quote. -/
def quotedChar : Reader (Option Char)
  | [] => .error (.before .endInString [])
  | '"' :: rest => .ok (none, rest)
  | '\\' :: rest =>
    match afterBackslash rest with
    | .error e => .error e
    | .ok (c, rest) => .ok (some c, rest)
  | c :: rest =>
    if c.toNat < 0x20 then .error (.inFirst .controlCharacter (c :: rest)) else .ok (some c, rest)

/-- Reads a string after its opening quote. -/
def quoted : Reader String := fun cs =>
  match collectAll (fun _ => quotedChar) cs with
  | .error e => .error e
  | .ok (s, rest) => .ok (String.ofList s, rest)

end LexicalScope.Json
