import LexicalScope.Json.Basic
import LexicalScope.Json.Reading.Failure
import LexicalScope.Numeric.Scaled

/-!
# Reading numbers

A number is an optional minus sign, digits without superfluous zeros, and optionally a fraction
and an exponent. It is read as a significand of 64 bits and a power of ten: digits that the
significand has no room for are dropped, and each dropped digit before the point adds one to the
exponent.

* `Significand.take` — as many digits as fit
* `number` — the reader; a number without fraction and exponent is an integer if 64 bits hold it,
  and a double in all other cases, minus zero among them
-/

namespace LexicalScope.Json

/-- A natural number of 64 bits. -/
structure Significand where
  val : Nat
  bound : val < 0x1_0000_0000_0000_0000

namespace Significand

def zero : Significand := ⟨0, by decide⟩

/-- The value of a decimal digit. -/
def digit (c : Char) : Nat := c.toNat - '0'.toNat

/-- Appends a digit if there is room for it. -/
def push? (s : Significand) (c : Char) : Option Significand :=
  if h : s.val * 10 + digit c < 0x1_0000_0000_0000_0000 then some ⟨_, h⟩ else none

/-- Appends digits as long as there is room; returns the others. -/
def take (s : Significand) : List Char → Significand × List Char
  | [] => (s, [])
  | c :: cs =>
    match s.push? c with
    | some s' => s'.take cs
    | none => (s, c :: cs)

/-- A digit for which there is room is taken. -/
theorem take_cons {s s' : Significand} {c : Char} (h : s.push? c = some s') (cs : List Char) :
    s.take (c :: cs) = s'.take cs := by
  -- in place of the equations of `take`, which make the bound of 64 bits be computed
  show (match s.push? c with
    | some s' => s'.take cs
    | none => (s, c :: cs)) = s'.take cs
  rw [h]

end Significand

/-- The greatest exponent that is not taken for infinite. -/
def exponentLimit : Nat := 0x7FFF_FFFF

/-- Reads the further digits of an exponent. If the exponent passes the limit, the first component
is `none` and the rest is what follows the digit that made it so. -/
def exponentDigits (n : Nat) : List Char → Option Nat × List Char
  | [] => (some n, [])
  | c :: cs =>
    if c.isDigit then
      let m := n * 10 + Significand.digit c
      if m ≤ exponentLimit then exponentDigits m cs else (none, cs)
    else (some n, c :: cs)

/-- The number `s * 10 ^ exponent` as a double. -/
def scaled (negative : Bool) (s : Significand) (exponent : Int) : Reader Json := fun rest =>
  match Binary.ofScaled? negative s.val (Nat.le_of_lt s.bound) exponent with
  | some x => .ok (.float x, rest)
  | none => .error (.before .numberOutOfRange rest)

/-- Reads what follows the exponent mark. -/
def exponentPart (negative : Bool) (s : Significand) (exponent : Int) : Reader Json := fun cs =>
  let isDown := cs.head? = some '-'
  let cs := if isDown ∨ cs.head? = some '+' then cs.drop 1 else cs
  match cs with
  | [] => .error (.before .endInValue [])
  | c :: rest =>
    if c.isDigit then
      match exponentDigits (Significand.digit c) rest with
      | (some n, rest) => scaled negative s (if isDown then exponent - n else exponent + n) rest
      | (none, rest) =>
        if s.val ≠ 0 ∧ ¬ isDown then .error (.before .numberOutOfRange rest)
        else .ok (.float (.zero negative), rest.dropWhile Char.isDigit)
    else .error (.inFirst .invalidNumber cs)

/-- Reads what follows the digits: an exponent, or nothing. -/
def afterDigits (negative : Bool) (s : Significand) (exponent : Int) : Reader Json := fun cs =>
  match cs with
  | 'e' :: rest | 'E' :: rest => exponentPart negative s exponent rest
  | _ => scaled negative s exponent cs

/-- Reads what follows the point. -/
def fractionPart (negative : Bool) (s : Significand) (exponent : Int) : Reader Json := fun cs =>
  let digits := cs.takeWhile Char.isDigit
  let rest := cs.dropWhile Char.isDigit
  if digits.isEmpty then
    .error (.inFirst (if rest.isEmpty then .endInValue else .invalidNumber) rest)
  else
    let (s', dropped) := s.take digits
    afterDigits negative s' (exponent - (digits.length - dropped.length)) rest

/-- The number without fraction and exponent whose digits all fit. -/
def integer (negative : Bool) (s : Significand) : Json :=
  if negative = false then .whole ⟨s.val, by have := s.bound; omega, by have := s.bound; omega⟩
  else if h : s.val ≠ 0 ∧ s.val ≤ 0x8000_0000_0000_0000 then .whole ⟨-s.val, by omega, by omega⟩
  else .float (.ofNat true s.val (Nat.le_of_lt s.bound))

/-- Reads what follows the digits before the point. -/
def afterWhole (negative : Bool) (digits : List Char) : Reader Json := fun cs =>
  let (s, dropped) := Significand.zero.take digits
  match cs with
  | '.' :: rest => fractionPart negative s dropped.length rest
  | _ =>
    if dropped.isEmpty ∧ cs.head? ≠ some 'e' ∧ cs.head? ≠ some 'E' then .ok (integer negative s, cs)
    else afterDigits negative s dropped.length cs

/-- Reads a number after its sign. -/
def magnitude (negative : Bool) : Reader Json
  | [] => .error (.before .endInValue [])
  | c :: cs =>
    let rest := cs.dropWhile Char.isDigit
    let digits := cs.takeWhile Char.isDigit
    if c = '0' then
      if digits.isEmpty then afterWhole negative ['0'] cs else .error (.inFirst .invalidNumber cs)
    else if c.isDigit then afterWhole negative (c :: digits) rest
    else .error (.inFirst .invalidNumber (c :: cs))

/-- Reads a number. -/
def number : Reader Json
  | '-' :: cs => magnitude true cs
  | cs => magnitude false cs

end LexicalScope.Json
