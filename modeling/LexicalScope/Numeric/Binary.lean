/-!
# Binary floating point

Floating point numbers of a fixed format, as exact values. A format has finitely many non-negative
finite values; a number is known by its sign and by its *rank* among these, zero having rank 0.
Every finite value is a whole number of *units*, a unit being the least positive value of the
format.

* `BinaryFormat.double`, `BinaryFormat.single` — the formats of 64 and 32 bits
* `Binary` — finite numbers; `Binary.units` — their size in units
* `BinaryFormat.rankOf` — the rank nearest to a quotient, of two equally near the even one
* `Extended` — finite numbers, infinities and the number that is none; `Extended.round`
* `Binary.ofInt` — an integer of at most 64 bits, rounded; it never overflows

All arithmetic is on natural numbers, nothing is approximated.
-/

namespace LexicalScope

/-- The quotient `n / d` rounded to the nearest natural number, a tie to the even one. -/
def roundDiv (n d : Nat) : Nat :=
  let q := n / d
  let r := n % d
  if 2 * r < d then q
  else if d < 2 * r then q + 1
  else if q % 2 = 0 then q else q + 1

theorem roundDiv_le (n d : Nat) : roundDiv n d ≤ n / d + 1 := by
  unfold roundDiv
  dsimp only
  split
  · omega
  · split
    · omega
    · split <;> omega

/-- A format: significands of `precision` bits, a unit of 2 to the power `-unitExponent`, and
`count` non-negative finite values. -/
structure BinaryFormat where
  precision : Nat
  unitExponent : Nat
  count : Nat
  count_pos : 0 < count := by decide

namespace BinaryFormat

/-- The format of 64 bits. -/
def double : BinaryFormat := ⟨53, 1074, 2047 <<< 52, by decide⟩

/-- The format of 32 bits. -/
def single : BinaryFormat := ⟨24, 149, 255 <<< 23, by decide⟩

/-- How many values share an exponent. -/
def step (f : BinaryFormat) : Nat := 1 <<< (f.precision - 1)

/-- The number of units in one. -/
def one (f : BinaryFormat) : Nat := 1 <<< f.unitExponent

/-- The number of units in the value of the given rank. Below `2 * step` the values are consecutive;
from there on the distance doubles every `step` values. -/
def unitsOf (f : BinaryFormat) (rank : Nat) : Nat :=
  if rank < 2 * f.step then rank else (rank % f.step + f.step) <<< (rank / f.step - 1)

/-- The rank of the value nearest to `num / den`, as if the format had no greatest value. -/
def rankOf (f : BinaryFormat) (num den : Nat) : Nat :=
  let n := num * f.one
  let surplus := Nat.log2 (n / den) + 1 - f.precision
  surplus * f.step + roundDiv n (den <<< surplus)

end BinaryFormat

/-- A finite number of the format `f`. -/
structure Binary (f : BinaryFormat) where
  negative : Bool
  rank : Nat
  rank_lt : rank < f.count
  deriving DecidableEq

/-- Finite numbers of 64 bits. -/
abbrev Double := Binary .double

/-- Finite numbers of 32 bits. -/
abbrev Single := Binary .single

/-- A number of the format `f`, or one of the special values of its arithmetic. -/
inductive Extended (f : BinaryFormat) where
  | finite (x : Binary f)
  | infinite (negative : Bool)
  | nan
  deriving DecidableEq

namespace Binary

variable {f : BinaryFormat}

/-- The zero of the given sign. -/
def zero (negative : Bool) : Binary f := ⟨negative, 0, f.count_pos⟩

instance : Inhabited (Binary f) := ⟨zero false⟩

def isZero (x : Binary f) : Bool := x.rank = 0

/-- The size of the number, in units. -/
def units (x : Binary f) : Nat := f.unitsOf x.rank

/-- Equality of values: the two zeros are equal. -/
def sameValue (x y : Binary f) : Bool :=
  x.rank = y.rank && (x.negative == y.negative || x.rank = 0)

/-- The number nearest to `num / den` under the given sign, unless it is past the greatest one. -/
def ofRatio? (negative : Bool) (num den : Nat) : Option (Binary f) :=
  if h : f.rankOf num den < f.count then some ⟨negative, f.rankOf num den, h⟩ else none

/-- The size of the product, rounded. -/
def mul? (x y : Binary f) : Option (Binary f) :=
  ofRatio? false (x.units * y.units) (f.one * f.one)

/-- The size of the quotient, rounded. -/
def div? (x y : Binary f) : Option (Binary f) := ofRatio? false x.units y.units

theorem sameValue_refl (x : Binary f) : x.sameValue x = true := by simp [sameValue]

theorem sameValue_iff {x y : Binary f} :
    x.sameValue y = true ↔ x = y ∨ (x.rank = 0 ∧ y.rank = 0) := by
  cases x with
  | mk s r hr =>
    cases y with
    | mk t q hq =>
      simp only [sameValue, Bool.and_eq_true, Bool.or_eq_true, decide_eq_true_eq, beq_iff_eq,
        mk.injEq]
      constructor
      · rintro ⟨rfl, rfl | h⟩
        · exact Or.inl ⟨rfl, rfl⟩
        · exact Or.inr ⟨h, h⟩
      · rintro (⟨rfl, rfl⟩ | ⟨h, h'⟩)
        · exact ⟨rfl, Or.inl rfl⟩
        · exact ⟨h.trans h'.symm, Or.inr h⟩

end Binary

/-! ## Integers -/

/-- A shift adds its length to the number of bits. -/
theorem log2_shiftLeft {m : Nat} (hm : m ≠ 0) (e : Nat) :
    Nat.log2 (m <<< e) = Nat.log2 m + e := by
  have hlower := Nat.mul_le_mul_right (1 <<< e) (Nat.log2_self_le hm)
  have hupper := Nat.mul_lt_mul_of_pos_right (Nat.lt_log2_self (n := m)) (Nat.two_pow_pos e)
  rw [Nat.one_shiftLeft, ← Nat.pow_add] at hlower
  rw [← Nat.pow_add, Nat.add_right_comm] at hupper
  rw [Nat.shiftLeft_eq]
  exact (Nat.log2_eq_iff (Nat.mul_ne_zero hm (Nat.ne_of_gt (Nat.two_pow_pos e)))).mpr
    ⟨hlower, hupper⟩

/-- Twice the significands that share an exponent are all significands of the full precision. -/
theorem BinaryFormat.two_mul_step (f : BinaryFormat) (hp : 0 < f.precision) :
    2 * f.step = 1 <<< f.precision := by
  rw [step, ← Nat.shiftLeft_succ, Nat.sub_add_cancel hp]

/-- What is left of a number after its surplus is a significand, or the next power. -/
theorem BinaryFormat.div_surplus_lt (f : BinaryFormat) (hp : 0 < f.precision) (n : Nat) :
    n / 1 <<< (Nat.log2 n + 1 - f.precision) < 2 * f.step := by
  rw [f.two_mul_step hp, Nat.one_shiftLeft, Nat.one_shiftLeft,
    Nat.div_lt_iff_lt_mul (Nat.two_pow_pos _), ← Nat.pow_add]
  exact Nat.lt_of_lt_of_le Nat.lt_log2_self (Nat.pow_le_pow_right (by decide) (by omega))

/-- The rank of an integer is bounded by the number of its bits. -/
theorem BinaryFormat.rankOf_le (f : BinaryFormat) {num k : Nat} (hp : 0 < f.precision)
    (h : Nat.log2 (num * f.one) < k) : f.rankOf num 1 ≤ (k + 2) * f.step := by
  unfold rankOf
  simp only [Nat.div_one]
  generalize num * f.one = n at h
  have hround := roundDiv_le n (1 <<< (Nat.log2 n + 1 - f.precision))
  have hquot := f.div_surplus_lt hp n
  have hmul : (Nat.log2 n + 1 - f.precision) * f.step ≤ k * f.step :=
    Nat.mul_le_mul_right f.step (by omega)
  have hsum : (k + 2) * f.step = k * f.step + 2 * f.step := Nat.add_mul ..
  omega

/-- The size of an integer in units has as many bits more as a unit is below one. -/
theorem BinaryFormat.log2_mul_one_lt (f : BinaryFormat) {n k : Nat} (h : Nat.log2 n < k) :
    Nat.log2 (n * f.one) < k + f.unitExponent := by
  by_cases hn : n = 0
  · rw [hn, Nat.zero_mul]
    rw [hn] at h
    exact Nat.lt_add_right _ h
  · have hunits : n * f.one = n <<< f.unitExponent := by
      rw [one, Nat.one_shiftLeft, Nat.shiftLeft_eq]
    rw [hunits, log2_shiftLeft hn]
    exact Nat.add_lt_add_right h _

/-- Natural numbers of at most 64 bits are far below the greatest double. -/
theorem rankOf_double_lt {n : Nat} (h : n ≤ 0x1_0000_0000_0000_0000) :
    BinaryFormat.double.rankOf n 1 < BinaryFormat.double.count := by
  have hlog : Nat.log2 n < 65 := by
    by_cases hn : n = 0
    · rw [hn, Nat.log2_zero]
      decide
    · exact (Nat.log2_lt hn).mpr (Nat.lt_of_le_of_lt h (by decide))
  have hunits := BinaryFormat.double.log2_mul_one_lt hlog
  exact Nat.lt_of_le_of_lt (BinaryFormat.double.rankOf_le (by decide) hunits) (by decide)

/-- The double nearest to a natural number of at most 64 bits. -/
def Binary.ofNat (negative : Bool) (n : Nat) (h : n ≤ 0x1_0000_0000_0000_0000) : Double :=
  ⟨negative, BinaryFormat.double.rankOf n 1, rankOf_double_lt h⟩

/-- The double nearest to an integer of at most 64 bits. -/
def Binary.ofInt (i : Int) (h : i.natAbs ≤ 0x1_0000_0000_0000_0000) : Double :=
  Binary.ofNat (i < 0) i.natAbs h

/-! ## Conversion between formats -/

namespace Extended

variable {f g : BinaryFormat}

/-- The number nearest to `num / den`; past the greatest number it is infinite. -/
def round (negative : Bool) (num den : Nat) : Extended f :=
  match Binary.ofRatio? negative num den with
  | some x => .finite x
  | none => .infinite negative

/-- The same number in another format, rounded if it has to be. -/
def convert (x : Extended f) (g : BinaryFormat) : Extended g :=
  match x with
  | .finite x => round x.negative x.units f.one
  | .infinite negative => .infinite negative
  | .nan => .nan

/-- The number, unless it is special. -/
def toBinary? : Extended f → Option (Binary f)
  | .finite x => some x
  | _ => none

end Extended

end LexicalScope
