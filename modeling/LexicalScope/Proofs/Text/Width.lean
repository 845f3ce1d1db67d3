import LexicalScope.Text.Width.Lemmas

/-!
# Bounds of the display width

No character adds more than three columns to what follows it, not even one that joins it, and so no
text is wider than three columns for each of its characters. A line of characters up to U+00A0 is as
wide as it is long.

* `put_le`, `width_le` — three columns for each character
* `width_of_narrow` — one column for each character
-/

namespace LexicalScope.Text.Width

/-! ## Three columns for each character -/

/-- A character has three columns at most. -/
theorem charWidth_le (c : Char) : charWidth c ≤ 3 := by
  unfold charWidth
  repeat' split
  all_goals omega

/-- What joins an emoji adds three columns at most. -/
theorem joinEmoji?_le {c : Char} {r l : Neighbour} {d : Int} (h : joinEmoji? c r = some (d, l)) :
    d ≤ 3 := by
  unfold joinEmoji? at h
  split at h <;> (repeat' split at h) <;> cases h <;> omega

theorem meetLetter?_le {c : Char} {r l : Neighbour} {d : Int} (h : meetLetter? c r = some (d, l)) :
    d ≤ 3 := by
  unfold meetLetter? at h
  split at h <;> (repeat' split at h) <;> cases h <;> omega

/-- What joins a letter adds three columns at most. -/
theorem joinLetter?_le {c : Char} {r l : Neighbour} {d : Int} (h : joinLetter? c r = some (d, l)) :
    d ≤ 3 := by
  unfold joinLetter? at h
  split at h
  · cases h
  · repeat' split at h
    all_goals cases h
    all_goals omega
  · split at h
    · cases h
      omega
    · exact meetLetter?_le h

theorem putPlain_le (c : Char) (r : Neighbour) : (putPlain c r).1 ≤ 3 := by
  unfold putPlain
  split
  · next h => exact joinEmoji?_le h
  · split
    · next h => exact joinLetter?_le h
    · exact Int.ofNat_le.mpr (charWidth_le c)

theorem putNarrow_le (c : Char) (r : Neighbour) : (putNarrow c r).1 ≤ 3 := by
  have := charWidth_le c
  unfold putNarrow
  dsimp only
  split <;> omega

/-- **A character adds at most three columns.** -/
theorem put_le (c : Char) (context : Context) : (put c context).1 ≤ 3 := by
  unfold put
  split
  · dsimp only
    split <;> omega
  · dsimp only
    generalize (if context.selector = some .emoji then context.right.letter
      else context.right) = r
    split
    · exact putNarrow_le c r
    · repeat' split
      any_goals (dsimp only; omega)
      exact putPlain_le c r

/-- A text has three columns for each character at most. -/
theorem total_le (s : List Char) : (total s).1 ≤ 3 * s.length := by
  induction s with
  | nil => exact Int.le_refl 0
  | cons c s ih =>
    have := put_le c (total s).2
    rw [total_cons, List.length_cons]
    dsimp only
    omega

/-- **No text is wider than three columns for each character.** -/
theorem width_le (s : List Char) : width s ≤ 3 * s.length := by
  have h := total_le s
  rw [← width_eq_total] at h
  omega

/-! ## One column for each character -/

/-- A plain character of one column adds just that. -/
theorem put_narrow {c : Char} (hc : c.toNat ≤ 0xA0) (hne : c ≠ '\n') :
    put c Neighbour.plain.toContext = (1, Neighbour.plain.toContext) := by
  have hof : Neighbour.ofChar c = .plain := by
    unfold Neighbour.ofChar
    rw [if_pos hc, if_neg hne]
  have hwidth : charWidth c = 1 := by
    unfold charWidth
    rw [if_pos hc, if_neg hne]
  simp [put, putNarrow, Neighbour.toContext, hc, hof, hwidth]

/-- **A line of characters up to U+00A0 is as wide as it is long.** -/
theorem width_of_narrow {s : List Char} (h : ∀ c ∈ s, c.toNat ≤ 0xA0) (hline : '\n' ∉ s) :
    width s = s.length := by
  have htotal : total s = ((s.length : Int), Neighbour.plain.toContext) := by
    induction s with
    | nil => rfl
    | cons c s ih =>
      obtain ⟨hc, hs⟩ := List.forall_mem_cons.mp h
      rw [List.mem_cons, not_or] at hline
      rw [total_cons, ih hs hline.2, put_narrow hc (Ne.symm hline.1)]
      simp
  unfold width
  rw [htotal]
  exact Int.toNat_natCast _

end LexicalScope.Text.Width
