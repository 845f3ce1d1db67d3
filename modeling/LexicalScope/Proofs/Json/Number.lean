import LexicalScope.Json.Reading.Number
import LexicalScope.Json.Text

/-!
# Integers in text

The decimal text of an integer reads back as that integer. It has no superfluous zero, its digits
fit the significand, and a comma, a bracket or the end of the text, which is what comes after it,
does not go on with the number.

* `EndsNumber` — a text that does not go on with a number
* `Significand.take_of_val_eq` — digits that fit are all taken
* `magnitude_toDigits_append` — a natural number is read after its sign
* `number_integerText_append` — an integer is read, and nothing behind it
-/

namespace LexicalScope.Json

/-- The text does not go on with a number that stands before it. -/
def EndsNumber (rest : List Char) : Prop :=
  ∀ c ∈ rest.head?, c.isDigit = false ∧ c ≠ '.' ∧ c ≠ 'e' ∧ c ≠ 'E'

theorem endsNumber_nil : EndsNumber [] := by
  intro c hc
  cases hc

/-! ## Digits -/

theorem le_ofDigitChars (ds : List Char) (n : Nat) : n ≤ Nat.ofDigitChars 10 ds n := by
  rw [Nat.ofDigitChars_eq_ofDigitChars_zero]
  have hpower := Nat.mul_le_mul_right n (Nat.pow_pos (n := ds.length) (show 0 < 10 by decide))
  omega

theorem ofDigitChars_cons (c : Char) (cs : List Char) (n : Nat) :
    Nat.ofDigitChars 10 (c :: cs) n = Nat.ofDigitChars 10 cs (n * 10 + Significand.digit c) := by
  rw [Nat.ofDigitChars_cons, Nat.mul_comm]
  rfl

theorem Significand.eq_of_val_eq {s t : Significand} (h : s.val = t.val) : s = t := by
  cases s
  cases t
  cases h
  rfl

/-- **Digits that fit the significand are all taken.** -/
theorem Significand.take_of_val_eq (s t : Significand) (ds : List Char)
    (h : t.val = Nat.ofDigitChars 10 ds s.val) : s.take ds = (t, []) := by
  induction ds generalizing s with
  | nil =>
    obtain rfl : t = s := eq_of_val_eq (h.trans (Nat.ofDigitChars_nil (b := 10)))
    rfl
  | cons c cs ih =>
    rw [ofDigitChars_cons] at h
    have hnext : s.val * 10 + digit c < 0x1_0000_0000_0000_0000 :=
      Nat.lt_of_le_of_lt (le_ofDigitChars cs _) (h ▸ t.bound)
    have hpush : s.push? c = some ⟨_, hnext⟩ := dif_pos hnext
    rw [take_cons hpush]
    exact ih ⟨_, hnext⟩ h

theorem isDigit_of_mem_toDigits {n : Nat} : ∀ c ∈ Nat.toDigits 10 n, c.isDigit = true := fun _ hc =>
  Nat.isDigit_of_mem_toDigits (by decide) (by decide) hc

/-- Only zero begins with a zero. -/
theorem toDigits_eq_cons {n : Nat} (h : n ≠ 0) :
    ∃ c cs, Nat.toDigits 10 n = c :: cs ∧ c ≠ '0' ∧ c.isDigit = true := by
  induction n using Nat.strongRecOn with
  | ind n ih =>
    by_cases hn : n < 10
    · have hdigits := Nat.toDigits_of_lt_base hn
      refine ⟨n.digitChar, [], hdigits, fun hc => h (Nat.digitChar_eq_zero.mp hc), ?_⟩
      exact isDigit_of_mem_toDigits _ (by rw [hdigits]; exact List.mem_singleton_self _)
    · have hn : 10 ≤ n := Nat.not_lt.mp hn
      obtain ⟨c, cs, hc, hzero, hdigit⟩ := ih (n / 10) (by omega) (by omega)
      refine ⟨c, cs ++ [(n % 10).digitChar], ?_, hzero, hdigit⟩
      rw [Nat.toDigits_of_base_le (by decide) hn, hc, List.cons_append]

theorem EndsNumber.no_digits {rest : List Char} (h : EndsNumber rest) :
    rest.takeWhile Char.isDigit = [] ∧ rest.dropWhile Char.isDigit = rest := by
  cases rest with
  | nil => exact ⟨rfl, rfl⟩
  | cons c rest => simp [(h c rfl).1]

theorem takeWhile_isDigit_append {ds rest : List Char} (hds : ∀ c ∈ ds, c.isDigit = true)
    (h : EndsNumber rest) :
    (ds ++ rest).takeWhile Char.isDigit = ds ∧ (ds ++ rest).dropWhile Char.isDigit = rest := by
  rw [List.takeWhile_append_of_pos hds, List.dropWhile_append_of_pos hds, h.no_digits.1,
    h.no_digits.2, List.append_nil]
  exact ⟨rfl, rfl⟩

/-! ## Numbers -/

/-- A number whose digits all fit is an integer if neither fraction nor exponent follows. -/
theorem afterWhole_of_val_eq (negative : Bool) (t : Significand) {ds rest : List Char}
    (ht : t.val = Nat.ofDigitChars 10 ds 0) (h : EndsNumber rest) :
    afterWhole negative ds rest = .ok (integer negative t, rest) := by
  rw [afterWhole, Significand.take_of_val_eq Significand.zero t ds ht]
  cases rest with
  | nil => rfl
  | cons c rest =>
    obtain ⟨-, hpoint, he, hE⟩ := h c rfl
    simp [hpoint, he, hE]

/-- **A natural number is read after its sign.** -/
theorem magnitude_toDigits_append (negative : Bool) {n : Nat} (hn : n < 0x1_0000_0000_0000_0000)
    {rest : List Char} (h : EndsNumber rest) :
    magnitude negative (Nat.toDigits 10 n ++ rest) = .ok (integer negative ⟨n, hn⟩, rest) := by
  have hafter : afterWhole negative (Nat.toDigits 10 n) rest =
      .ok (integer negative ⟨n, hn⟩, rest) :=
    afterWhole_of_val_eq negative ⟨n, hn⟩ Nat.ofDigitChars_ten_toDigits.symm h
  by_cases hzero : n = 0
  · subst hzero
    simpa [magnitude, h.no_digits.1] using hafter
  · obtain ⟨c, cs, hc, hne, hdigit⟩ := toDigits_eq_cons hzero
    have hcs : ∀ d ∈ cs, d.isDigit = true := by
      intro d hd
      exact isDigit_of_mem_toDigits d (hc ▸ List.mem_cons_of_mem _ hd)
    obtain ⟨htake, hdrop⟩ := takeWhile_isDigit_append hcs h
    rw [hc] at hafter ⊢
    simpa [magnitude, hne, hdigit, htake, hdrop] using hafter

/-- **The text of an integer reads back as the integer.** -/
theorem number_integerText_append (n : Whole) {rest : List Char} (h : EndsNumber rest) :
    number (integerText n.val ++ rest) = .ok (.whole n, rest) := by
  obtain ⟨n, hlower, hupper⟩ := n
  have habs : n.natAbs < 0x1_0000_0000_0000_0000 := by omega
  unfold integerText
  dsimp only
  by_cases hneg : n < 0
  · -- below zero there are digits other than zero, and they are not past the least integer
    have hsize : n.natAbs ≠ 0 ∧ n.natAbs ≤ 0x8000_0000_0000_0000 := by omega
    have hval : -(n.natAbs : Int) = n := by omega
    rw [if_pos hneg, List.cons_append, number, magnitude_toDigits_append true habs h, integer,
      if_neg (by decide), dif_pos hsize]
    simp only [hval]
  · have hval : (n.natAbs : Int) = n := by omega
    have hread := magnitude_toDigits_append false habs h
    rw [if_neg hneg]
    cases hdigits : Nat.toDigits 10 n.natAbs with
    | nil => exact absurd hdigits Nat.toDigits_ne_nil
    | cons c cs =>
      have hdigit : c.isDigit = true :=
        isDigit_of_mem_toDigits c (hdigits ▸ List.mem_cons_self)
      have hminus : c ≠ '-' := by
        rintro rfl
        exact absurd hdigit (by decide)
      rw [hdigits] at hread
      simpa [number, hminus, integer, hval] using hread

end LexicalScope.Json
