import LexicalScope.Text.Width.Basic

/-!
# Laws of the display width

A character may take a column back from what follows it: the second indicator of a joined flag, a
bound consonant, a sign that puts a letter under another. It takes back no more than is there.

* `Neighbour.least` — the columns that a neighbour is sure to take
* `least_put` — a character keeps to that
* `total_nonneg`, `width_eq_total` — hence the width is the sum of what the characters add
-/

namespace LexicalScope.Text.Width

theorem invisible_eq_false_of_subscripts {c : Char} (h : subscripts.contains c = true) :
    invisible.contains c = false :=
  Ranges.contains_eq_false_of_apart (by decide +kernel) h

/-- A letter that can be drawn under another one has a column of its own. -/
theorem charWidth_pos_of_subscripts {c : Char} (h : subscripts.contains c = true) :
    1 ≤ charWidth c := by
  unfold charWidth
  rw [invisible_eq_false_of_subscripts h]
  repeat' split
  · subst c
    exact absurd h (by decide)
  all_goals simp_all

/-- The columns that a neighbour is sure to take. What joins it may give one of them back. -/
def Neighbour.least : Neighbour → Int
  | .joinedIndicator => 1
  | .joinedOdd => 1
  | .boundConsonant => 1
  | .subscript => 1
  | _ => 0

namespace Neighbour

theorem least_nonneg (r : Neighbour) : 0 ≤ r.least := by cases r <;> simp [least]

theorem least_letter (r : Neighbour) : r.letter.least ≤ r.least := by
  cases r <;> simp [least, letter]

theorem least_acrossEmoji (r : Neighbour) : r.acrossEmoji.least ≤ r.least := by
  cases r <;> simp [least, acrossEmoji, letter]

/-- A character is no wider to the one before it than its own width. -/
theorem least_ofChar (c : Char) : (ofChar c).least ≤ charWidth c := by
  have h0 : (0 : Int) ≤ charWidth c := Int.natCast_nonneg _
  unfold ofChar
  repeat' split
  any_goals exact h0
  next h =>
    have := charWidth_pos_of_subscripts h
    simp only [least]
    omega

end Neighbour

theorem least_of_joinEmoji? {c : Char} {r l : Neighbour} {n d : Int} (hn : r.least ≤ n)
    (h : joinEmoji? c r = some (d, l)) : l.least ≤ n + d := by
  unfold joinEmoji? at h
  split at h <;> (repeat' split at h) <;> cases h <;> simp only [Neighbour.least] at * <;> omega

theorem least_of_passLetter? {c : Char} {r l : Neighbour} (h : passLetter? c r = some l) :
    l.least ≤ r.least := by
  unfold passLetter? at h
  (repeat' split at h) <;> cases h <;> simp [Neighbour.least]

theorem least_of_meetLetter? {c : Char} {r l : Neighbour} {n d : Int} (hn : r.least ≤ n)
    (h : meetLetter? c r = some (d, l)) : l.least ≤ n + d := by
  unfold meetLetter? at h
  split at h <;> (repeat' split at h) <;> cases h <;> simp only [Neighbour.least] at * <;> omega

theorem least_of_joinLetter? {c : Char} {r l : Neighbour} {n d : Int} (hn : r.least ≤ n)
    (h : joinLetter? c r = some (d, l)) : l.least ≤ n + d := by
  have hl := Int.le_trans r.least_letter hn
  unfold joinLetter? at h
  split at h
  · cases h
  · have := r.least_nonneg
    repeat' split at h
    all_goals cases h
    all_goals simp only [Neighbour.least]
    all_goals omega
  · split at h
    · next hp =>
      cases h
      have := least_of_passLetter? hp
      omega
    · exact least_of_meetLetter? hl h

theorem least_putPlain (c : Char) {r : Neighbour} {n : Int} (hn : r.least ≤ n) :
    (putPlain c r).2.right.least ≤ n + (putPlain c r).1 := by
  unfold putPlain
  split
  · next h => exact least_of_joinEmoji? hn h
  · split
    · next h => exact least_of_joinLetter? hn h
    · have h1 := r.least_nonneg
      have h2 := Neighbour.least_ofChar c
      simp only [Neighbour.toContext]
      omega

theorem least_putNarrow {c : Char} (hc : c.toNat ≤ 0xA0) {r : Neighbour} {n : Int}
    (hn : r.least ≤ n) :
    (putNarrow c r).2.right.least ≤ n + (putNarrow c r).1 := by
  have h1 := r.least_nonneg
  have h2 : (Neighbour.ofChar c).least = 0 := by
    unfold Neighbour.ofChar
    rw [if_pos hc]
    split <;> rfl
  unfold putNarrow
  simp only [Neighbour.toContext, h2]
  split <;> omega

/-- **A character leaves at least the columns that are sure.** -/
theorem least_put (c : Char) {context : Context} {n : Int} (hn : context.right.least ≤ n) :
    (put c context).2.right.least ≤ n + (put c context).1 := by
  have h0 := context.right.least_nonneg
  unfold put
  split
  · split <;> simp only [Neighbour.toContext, Neighbour.least] <;> omega
  · dsimp only
    generalize hr : (if context.selector = some .emoji then context.right.letter
      else context.right) = r
    replace hr : r.least ≤ n := by
      subst hr
      split
      · exact Int.le_trans context.right.least_letter hn
      · exact hn
    split
    · next hc => exact least_putNarrow hc hr
    · split
      · have := r.least_acrossEmoji
        simp only
        omega
      · split
        · have := r.least_letter
          simp only
          omega
        · split
          · simp only [Neighbour.toContext, Neighbour.least]
            omega
          · exact least_putPlain c hr

/-- What a text is to the character before it takes no more columns than the whole text has. -/
theorem least_total (s : List Char) : (total s).2.right.least ≤ (total s).1 := by
  induction s with
  | nil => exact Int.le_refl 0
  | cons c s ih =>
    rw [total_cons]
    exact least_put c ih

/-- **No text takes fewer than zero columns.** -/
theorem total_nonneg (s : List Char) : 0 ≤ (total s).1 :=
  Int.le_trans (total s).2.right.least_nonneg (least_total s)

/-- **The width is the sum of what the characters add.** -/
theorem width_eq_total (s : List Char) : (width s : Int) = (total s).1 :=
  Int.toNat_of_nonneg (total_nonneg s)

end LexicalScope.Text.Width
