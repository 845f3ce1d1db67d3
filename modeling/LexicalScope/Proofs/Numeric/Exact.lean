import LexicalScope.Numeric.Binary

/-!
# Rounding what is exact

A number of a format is the nearest one to itself: rounding its units gives the number again, sign
and all. The units of a number from the second binade on are a significand of the full precision
times a power of two, and that power is the surplus that rounding divides by.

* `roundDiv_mul` — a quotient without remainder
* `log2_le_of_lt`, `log2_significand` — the bits of a value below the second binade, and those of a
  significand of the full precision
* `rankOf_unitsOf` — the rank nearest to the units of a rank
* `Binary.ofRatio?_units`, `Extended.convert_finite` — a finite number in its own format
-/

namespace LexicalScope

/-- A quotient without remainder is not rounded. -/
theorem roundDiv_mul (q : Nat) {d : Nat} (hd : 0 < d) : roundDiv (q * d) d = q := by
  unfold roundDiv
  rw [Nat.mul_mod_left, Nat.mul_div_cancel q hd]
  simp [hd]

namespace BinaryFormat

variable (f : BinaryFormat)

/-- There is a unit in one. -/
theorem one_pos : 0 < f.one := by
  rw [one, Nat.one_shiftLeft]
  exact Nat.two_pow_pos _

/-- Each exponent has a value. -/
theorem step_pos : 0 < f.step := by
  rw [step, Nat.one_shiftLeft]
  exact Nat.two_pow_pos _

/-- A value below the second binade takes no more bits than the precision gives. -/
theorem log2_le_of_lt (hp : 0 < f.precision) {rank : Nat} (h : rank < 2 * f.step) :
    Nat.log2 rank + 1 ≤ f.precision := by
  by_cases hzero : rank = 0
  · rw [hzero, Nat.log2_zero]
    exact hp
  · rw [f.two_mul_step hp, Nat.one_shiftLeft] at h
    exact (Nat.log2_lt hzero).mpr h

/-- A significand of the full precision takes all bits that the precision gives. -/
theorem log2_significand (hp : 0 < f.precision) {k : Nat} (h : k < f.step) :
    Nat.log2 (k + f.step) + 1 = f.precision := by
  have hpositive : 0 < f.step := f.step_pos
  have hupper : k + f.step < 2 * f.step := by omega
  have hlower : f.step ≤ k + f.step := Nat.le_add_left ..
  rw [f.two_mul_step hp, Nat.one_shiftLeft] at hupper
  rw [step, Nat.one_shiftLeft] at hlower hupper hpositive ⊢
  have hlog := (Nat.log2_eq_iff (by omega)).mpr ⟨hlower, by rwa [Nat.sub_add_cancel hp]⟩
  rw [hlog, Nat.sub_add_cancel hp]

/-- **The rank nearest to the units of a rank is that rank.** -/
theorem rankOf_unitsOf (hp : 0 < f.precision) (rank : Nat) :
    f.rankOf (f.unitsOf rank) f.one = rank := by
  have hpositive : 0 < f.step := f.step_pos
  unfold rankOf
  dsimp only
  rw [Nat.mul_div_cancel _ f.one_pos]
  by_cases hlow : rank < 2 * f.step
  · -- no surplus: the units are the rank itself
    have hunits : f.unitsOf rank = rank := if_pos hlow
    have hbits : Nat.log2 rank + 1 - f.precision = 0 :=
      Nat.sub_eq_zero_of_le (f.log2_le_of_lt hp hlow)
    rw [hunits, hbits, Nat.shiftLeft_zero, Nat.zero_mul, Nat.zero_add, roundDiv_mul rank f.one_pos]
  · -- the surplus is the exponent, and what is left is the significand
    have hunits : f.unitsOf rank = (rank % f.step + f.step) <<< (rank / f.step - 1) := if_neg hlow
    have hsignificand := f.log2_significand hp (Nat.mod_lt rank hpositive)
    have hbits : Nat.log2 ((rank % f.step + f.step) <<< (rank / f.step - 1)) + 1 - f.precision =
        rank / f.step - 1 := by
      rw [log2_shiftLeft (by omega)]
      omega
    have hquotient : 2 ≤ rank / f.step := (Nat.le_div_iff_mul_le hpositive).mpr (Nat.not_lt.mp hlow)
    have hrank : rank / f.step * f.step + rank % f.step = rank := Nat.div_add_mod' rank f.step
    have hsplit : rank / f.step * f.step = (rank / f.step - 1) * f.step + f.step := by
      rw [← Nat.succ_mul]
      congr 1
      omega
    rw [hunits, hbits, Nat.shiftLeft_eq, Nat.shiftLeft_eq, Nat.mul_assoc, Nat.mul_comm _ f.one,
      roundDiv_mul _ (Nat.mul_pos f.one_pos (Nat.two_pow_pos _))]
    omega

end BinaryFormat

/-- **A finite number is rounded to itself.** -/
theorem Binary.ofRatio?_units {f : BinaryFormat} (hp : 0 < f.precision) (x : Binary f) :
    ofRatio? x.negative x.units f.one = some x := by
  obtain ⟨negative, rank, hrank⟩ := x
  have hself : f.rankOf (f.unitsOf rank) f.one = rank := f.rankOf_unitsOf hp rank
  unfold ofRatio?
  simp [Binary.units, hself, hrank]

theorem Extended.convert_finite {f : BinaryFormat} (hp : 0 < f.precision) (x : Binary f) :
    (finite x).convert f = finite x := by
  rw [convert, round, Binary.ofRatio?_units hp]

end LexicalScope
