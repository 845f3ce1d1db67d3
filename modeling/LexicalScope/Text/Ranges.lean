/-!
# Ranges of code points

The characters of a class, listed as inclusive ranges in increasing order. The tables of the
modules beside this one are such lists.

* `Ranges.contains` — membership of a character
* `Ranges.covers` — a test on the bounds alone that settles inclusion of two classes
* `Ranges.apart` — the same for classes without a common character
* `Ranges.contains_of_covers`, `Ranges.contains_eq_false_of_apart` — the tests are right for every
  character
-/

namespace LexicalScope.Text

/-- Inclusive ranges of code points. -/
abbrev Ranges := List (Nat × Nat)

namespace Ranges

/-- Whether the code point lies in one of the ranges. -/
def containsCode (rs : Ranges) (n : Nat) : Bool := rs.any fun r => r.1 ≤ n && n ≤ r.2

/-- Whether the character lies in one of the ranges. -/
def contains (rs : Ranges) (c : Char) : Bool := rs.containsCode c.toNat

/-- Whether each range of `inner` lies within a single range of `outer`. -/
def covers (outer inner : Ranges) : Bool :=
  inner.all fun r => outer.any fun s => s.1 ≤ r.1 && r.2 ≤ s.2

/-- **A class whose ranges are covered is a subclass.** -/
theorem contains_of_covers {outer inner : Ranges} (h : covers outer inner = true) {c : Char}
    (hc : inner.contains c = true) : outer.contains c = true := by
  unfold contains containsCode at *
  obtain ⟨r, hr, hin⟩ := List.any_eq_true.mp hc
  obtain ⟨s, hs, hout⟩ := List.any_eq_true.mp (List.all_eq_true.mp h r hr)
  simp only [Bool.and_eq_true, decide_eq_true_eq] at hin hout
  refine List.any_eq_true.mpr ⟨s, hs, ?_⟩
  simp only [Bool.and_eq_true, decide_eq_true_eq]
  omega

/-- Whether no range of one list meets a range of the other. -/
def apart (rs ss : Ranges) : Bool := rs.all fun r => ss.all fun s => r.2 < s.1 || s.2 < r.1

/-- **Classes whose ranges are apart have no character in common.** -/
theorem contains_eq_false_of_apart {rs ss : Ranges} (h : apart rs ss = true) {c : Char}
    (hc : rs.contains c = true) : ss.contains c = false := by
  unfold contains containsCode at *
  obtain ⟨r, hr, hin⟩ := List.any_eq_true.mp hc
  rw [List.any_eq_false]
  intro s hs
  have hrs := List.all_eq_true.mp (List.all_eq_true.mp h r hr) s hs
  simp only [Bool.or_eq_true, Bool.and_eq_true, decide_eq_true_eq] at hrs hin ⊢
  omega

end Ranges

end LexicalScope.Text
