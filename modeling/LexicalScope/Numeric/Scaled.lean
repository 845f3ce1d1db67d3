import LexicalScope.Numeric.Binary

/-!
# A significand scaled by a power of ten

Reading a decimal as a double goes in three steps, each with one rounding: the significand becomes
a double, the power of ten becomes a double, and the two are multiplied or divided. A power of ten
that is too great to be a double is divided out 308 places at a time.

* `tenTo?` — the double nearest to a power of ten, up to 10^308
* `scaleUp?`, `scaleDown?` — multiplication and division by a power of ten
* `ofScaled?` — the number, unless it is past the greatest double
-/

namespace LexicalScope.Binary

/-- The exponent of the greatest power of ten among the doubles. -/
def topPower : Nat := 308

/-- The double nearest to `10 ^ k`, if there is one. -/
def tenTo? (k : Nat) : Option Double :=
  if k ≤ topPower then ofRatio? false (Nat.pow 10 k) 1 else none

/-- `x * 10 ^ k`. -/
def scaleUp? (x : Double) (k : Nat) : Option Double :=
  if x.isZero then some x else (tenTo? k).bind x.mul?

/-- `x / 10 ^ (steps * topPower + k)`, by as many divisions as there are steps and one more. -/
def scaleDown? (x : Double) (k : Nat) : Nat → Option Double
  | 0 => (tenTo? k).bind x.div?
  | steps + 1 =>
    if x.isZero then some x
    else ((tenTo? topPower).bind x.div?).bind fun y => scaleDown? y k steps

/-- `significand * 10 ^ exponent` under the given sign. -/
def ofScaled? (negative : Bool) (significand : Nat) (h : significand ≤ 0x1_0000_0000_0000_0000)
    (exponent : Int) : Option Double :=
  let x := ofNat false significand h
  let k := exponent.natAbs
  let size := if 0 ≤ exponent then scaleUp? x k else scaleDown? x (k % topPower) (k / topPower)
  size.map fun y => { y with negative := negative }

end LexicalScope.Binary
