import LexicalScope.Numeric.Binary

/-!
# Decimal text of a floating point number

The text of a number has the fewest digits that read back as that number, and of these digits the
ones nearest to it, a tie going to the even last digit.

* `Decimal` — a coefficient times a power of ten
* `Decimal.ReadsAs` — the decimal rounds to the given number
* `Binary.onGrid?` — the best decimal on one grid: of the two neighbours of the number those that
  read back, and of these the nearer. If any point of a grid reads back, one of the neighbours
  does.
* `Binary.shortest` — the first grid with a hit, from one digit to seventeen
* `DecimalStyle`, `Decimal.text` — how a decimal is written
* `BinaryFormat.style` — the style in which a format is written
* `Binary.text` — the text
-/

namespace LexicalScope

/-- The number `coefficient * 10 ^ exponent`. -/
structure Decimal where
  coefficient : Nat
  exponent : Int
  deriving Repr, DecidableEq

namespace Decimal

/-- The numerator of the number as a quotient. -/
def num (d : Decimal) : Nat := d.coefficient * Nat.pow 10 d.exponent.toNat

/-- The denominator of the number as a quotient. -/
def den (d : Decimal) : Nat := Nat.pow 10 (-d.exponent).toNat

/-- Whether the decimal rounds to the size of `x`. -/
def ReadsAs {f : BinaryFormat} (d : Decimal) (x : Binary f) : Prop := f.rankOf d.num d.den = x.rank

instance {f : BinaryFormat} (d : Decimal) (x : Binary f) : Decidable (d.ReadsAs x) :=
  inferInstanceAs (Decidable (_ = _))

/-- The same number with a coefficient that does not end in a zero. -/
def trim (d : Decimal) : Decimal :=
  if d.coefficient ≠ 0 ∧ d.coefficient % 10 = 0 then trim ⟨d.coefficient / 10, d.exponent + 1⟩
  else d
termination_by d.coefficient
decreasing_by exact Nat.div_lt_self (by omega) (by decide)

end Decimal

/-- How many decimal digits a natural number has. -/
def digitCount (n : Nat) : Nat := (Nat.toDigits 10 n).length

/-- The exponent of the leading decimal digit of `num / den`, for positive `num` and `den`. -/
def leadingExponent (num den : Nat) : Int :=
  if den ≤ num then digitCount (num / den) - 1
  else
    let k := digitCount (den / num)
    if den ≤ num * Nat.pow 10 (k - 1) then 1 - k else -k

namespace Binary

variable {f : BinaryFormat}

/-- The best decimal with the exponent `k` that reads back as `x`. -/
def onGrid? (x : Binary f) (k : Int) : Option Decimal :=
  let n := x.units * Nat.pow 10 (-k).toNat
  let d := f.one * Nat.pow 10 k.toNat
  let below : Decimal := ⟨n / d, k⟩
  let above : Decimal := ⟨n / d + 1, k⟩
  if below.ReadsAs x then
    if above.ReadsAs x ∧ roundDiv n d ≠ n / d then some above else some below
  else if above.ReadsAs x then some above
  else none

/-- All digits of the number: one unit is `5 ^ unitExponent` on the grid of `unitExponent` places.
-/
def exactDecimal (x : Binary f) : Decimal :=
  ⟨x.units * Nat.pow 5 f.unitExponent, -f.unitExponent⟩

/-- The decimal with the fewest digits that reads back as `x`. -/
def shortest (x : Binary f) : Decimal :=
  if x.isZero then ⟨0, 0⟩
  else
    let leading := leadingExponent x.units f.one
    (((List.range 17).findSome? fun (i : Nat) => x.onGrid? (leading - i)).getD x.exactDecimal).trim

end Binary

/-! ## Writing -/

/-- Decimals whose leading digit has an exponent between the two bounds are written positionally,
the others in scientific notation. -/
structure DecimalStyle where
  least : Int
  greatest : Int

/-- The style of a format. With 64 bits it is `0.00001` but `1e-6`, `1000000000000000.0` but
`1e+16`; with 32 bits, which hold fewer digits, it is `0.000001` but `1e-7`, `1000000000000.0` but
`1e+13`. -/
def BinaryFormat.style (f : BinaryFormat) : DecimalStyle :=
  if f.precision ≤ 24 then ⟨-6, 12⟩ else ⟨-5, 15⟩

namespace Decimal

/-- Digits with a point in or beside them, which always has a digit on either side. -/
def positional (digits : List Char) (exponent : Int) : List Char :=
  let places := (-exponent).toNat
  if 0 ≤ exponent then digits ++ List.replicate exponent.toNat '0' ++ ['.', '0']
  else if places < digits.length then
    digits.take (digits.length - places) ++ '.' :: digits.drop (digits.length - places)
  else '0' :: '.' :: List.replicate (places - digits.length) '0' ++ digits

/-- One digit, the others after a point, and an exponent that always has a sign. -/
def scientific (digits : List Char) (leading : Int) : List Char :=
  let mantissa := if digits.length ≤ 1 then digits else digits.take 1 ++ '.' :: digits.drop 1
  mantissa ++ 'e' :: (if 0 ≤ leading then '+' else '-') :: Nat.toDigits 10 leading.natAbs

/-- The text of a decimal without sign. -/
def text (style : DecimalStyle) (d : Decimal) : List Char :=
  let digits := Nat.toDigits 10 d.coefficient
  let leading : Int := d.exponent + digits.length - 1
  if style.least ≤ leading ∧ leading ≤ style.greatest then positional digits d.exponent
  else scientific digits leading

end Decimal

/-- The text of a finite number; the sign of a zero is written too. -/
def Binary.text {f : BinaryFormat} (x : Binary f) : List Char :=
  let size := x.shortest.text f.style
  if x.negative then '-' :: size else size

end LexicalScope
