import LexicalScope.Text.Lines
import Mathlib.Algebra.GroupWithZero.Nat
import Mathlib.Data.List.Infix

/-!
# The lines of a text

A cut through a text goes through one of its lines: what lies between the last line feed before the
cut and the first one after it. And each place on each line is where some cut goes.

* `lines` — the lines of a text, the last one included even if it is empty
* `length_lines`, `byteLength_eq_sum_lines` — how many lines there are and how long they are
* `lines_append` — the line at a cut, and those above it
* `exists_of_mem_lines` — where a line stands
-/

namespace LexicalScope.Text

/-- The lines of a text, without their line feeds. -/
def lines (s : List Char) : List (List Char) := s.splitOn '\n'

theorem lines_of_not_mem {s : List Char} (h : '\n' ∉ s) : lines s = [s] :=
  List.splitOn_eq_singleton h

/-- A line feed ends the lines before it. -/
theorem lines_append_lineFeed (s t : List Char) : lines (s ++ '\n' :: t) = lines s ++ lines t :=
  List.splitOn_append_cons_self ..

/-- Induction on the lines of a text. What is shown of a line, and of a text with a line put in
front, is true of every text. -/
@[elab_as_elim]
theorem line_induction {P : List Char → Prop} (line : ∀ s, '\n' ∉ s → P s)
    (feed : ∀ s t, '\n' ∉ s → P t → P (s ++ '\n' :: t)) (s : List Char) : P s := by
  -- the induction is on the length: what follows the first line feed is shorter
  induction hn : s.length using Nat.strongRecOn generalizing s with
  | ind n ih =>
    by_cases hs : '\n' ∈ s
    · obtain ⟨first, rest, rfl, hfirst⟩ := List.eq_append_cons_of_mem hs
      have hlength : rest.length < n := by
        rw [← hn, List.length_append, List.length_cons]
        omega
      exact feed first rest hfirst (ih rest.length hlength rest rfl)
    · exact line s hs

/-! ## First and last lines -/

theorem firstLine_append_of_not_mem {s : List Char} (h : '\n' ∉ s) (t : List Char) :
    firstLine (s ++ t) = s ++ firstLine t := by
  refine List.takeWhile_append_of_pos fun c hc => ?_
  simpa using fun heq : c = '\n' => h (heq ▸ hc)

theorem firstLine_of_not_mem {s : List Char} (h : '\n' ∉ s) : firstLine s = s := by
  simpa [firstLine] using firstLine_append_of_not_mem h []

/-- What comes after a line feed does not belong to the first line. -/
theorem firstLine_append_lineFeed (s t : List Char) :
    firstLine (s ++ '\n' :: t) = firstLine s := by
  induction s with
  | nil => simp [firstLine]
  | cons c rest ih =>
    unfold firstLine at *
    rw [List.cons_append, List.takeWhile_cons, List.takeWhile_cons, ih]

theorem lastLine_append_of_not_mem (s : List Char) {t : List Char} (h : '\n' ∉ t) :
    lastLine (s ++ t) = lastLine s ++ t := by
  have hr : '\n' ∉ t.reverse := fun hmem => h (List.mem_reverse.mp hmem)
  unfold lastLine
  rw [List.reverse_append, firstLine_append_of_not_mem hr, List.reverse_append,
    List.reverse_reverse]

theorem lastLine_of_not_mem {s : List Char} (h : '\n' ∉ s) : lastLine s = s :=
  lastLine_append_of_not_mem [] h

/-- What comes before a line feed does not belong to the last line. -/
theorem lastLine_append_lineFeed (s t : List Char) :
    lastLine (s ++ '\n' :: t) = lastLine t := by
  unfold lastLine
  rw [List.reverse_append, List.reverse_cons, List.append_assoc, List.singleton_append,
    firstLine_append_lineFeed]

/-- A text with a line feed has a last one. -/
theorem eq_append_lineFeed_of_mem {s : List Char} (h : '\n' ∈ s) :
    ∃ before line, s = before ++ '\n' :: line ∧ '\n' ∉ line := by
  obtain ⟨line, before, hs, hline⟩ := List.eq_append_cons_of_mem (List.mem_reverse.mpr h)
  refine ⟨before.reverse, line.reverse, ?_, fun hmem => hline (List.mem_reverse.mp hmem)⟩
  rw [← List.reverse_reverse s, hs]
  simp

theorem lineFeed_not_mem_firstLine (s : List Char) : '\n' ∉ firstLine s := by
  intro h
  simpa using List.all_eq_true.mp List.all_takeWhile _ h

theorem lineFeed_not_mem_lastLine (s : List Char) : '\n' ∉ lastLine s := by
  intro h
  exact lineFeed_not_mem_firstLine s.reverse (List.mem_reverse.mp h)

theorem firstLine_subset (s : List Char) : firstLine s ⊆ s := (List.takeWhile_prefix _).subset

/-- More text makes the first line longer, or leaves it. -/
theorem firstLine_mono {s t : List Char} (h : s <+: t) :
    firstLine s <+: firstLine t := by
  obtain ⟨rest, rfl⟩ := h
  by_cases hs : '\n' ∈ s
  · obtain ⟨line, after, rfl, -⟩ := List.eq_append_cons_of_mem hs
    rw [List.append_assoc, List.cons_append, firstLine_append_lineFeed, firstLine_append_lineFeed]
  · rw [firstLine_append_of_not_mem hs, firstLine_of_not_mem hs]
    exact List.prefix_append _ _

/-! ## How many lines, and how long -/

theorem lineFeeds_of_not_mem {s : List Char} (h : '\n' ∉ s) : lineFeeds s = 0 :=
  List.count_eq_zero_of_not_mem h

theorem lineFeeds_append_lineFeed (s t : List Char) :
    lineFeeds (s ++ '\n' :: t) = lineFeeds s + 1 + lineFeeds t := by
  rw [lineFeeds_append, lineFeeds, lineFeeds, lineFeeds, List.count_cons_self]
  omega

/-- There is one line more than there are line feeds. -/
theorem length_lines (s : List Char) : (lines s).length = lineFeeds s + 1 := by
  induction s using line_induction with
  | line s hs => rw [lines_of_not_mem hs, lineFeeds_of_not_mem hs, List.length_singleton]
  | feed first rest hfirst ih =>
    rw [lines_append_lineFeed, List.length_append, lines_of_not_mem hfirst, ih,
      lineFeeds_append_lineFeed, lineFeeds_of_not_mem hfirst, List.length_singleton]
    omega

theorem utf8Size_lineFeed : '\n'.utf8Size = 1 := by decide

/-- The bytes of a text are those of its lines and of its line feeds. -/
theorem byteLength_eq_sum_lines (s : List Char) :
    byteLength s = ((lines s).map byteLength).sum + lineFeeds s := by
  induction s using line_induction with
  | line s hs => simp [lines_of_not_mem hs, lineFeeds_of_not_mem hs]
  | feed first rest hfirst ih =>
    rw [lines_append_lineFeed, lineFeeds_append_lineFeed, lines_of_not_mem hfirst,
      lineFeeds_of_not_mem hfirst, byteLength_append, byteLength, ih]
    simp only [List.map_append, List.map_cons, List.map_nil, List.sum_append, List.sum_cons,
      List.sum_nil, utf8Size_lineFeed]
    omega

/-! ## Cuts -/

/-- What stands before the first line feed belongs to the first line. -/
theorem lines_append_of_not_mem {s : List Char} (hs : '\n' ∉ s) (t : List Char) :
    ∃ below, lines (s ++ t) = (s ++ firstLine t) :: below := by
  by_cases ht : '\n' ∈ t
  · obtain ⟨line, rest, rfl, hline⟩ := List.eq_append_cons_of_mem ht
    have hboth : '\n' ∉ s ++ line := by simp [hs, hline]
    refine ⟨lines rest, ?_⟩
    rw [firstLine_append_lineFeed, firstLine_of_not_mem hline, ← List.append_assoc,
      lines_append_lineFeed, lines_of_not_mem hboth, List.singleton_append]
  · have hboth : '\n' ∉ s ++ t := by simp [hs, ht]
    exact ⟨[], by rw [firstLine_of_not_mem ht, lines_of_not_mem hboth]⟩

/-- **At a cut there is a line.** The line feeds before the cut count the lines above it, and these
lines, their line feeds and what is before the cut on its line are all that is before the cut. -/
theorem lines_append (s t : List Char) :
    ∃ above below, lines (s ++ t) = above ++ (lastLine s ++ firstLine t) :: below ∧
      above.length = lineFeeds s ∧
      byteLength s = (above.map byteLength).sum + above.length + byteLength (lastLine s) := by
  by_cases hs : '\n' ∈ s
  · obtain ⟨before, line, rfl, hline⟩ := eq_append_lineFeed_of_mem hs
    obtain ⟨below, hbelow⟩ := lines_append_of_not_mem hline t
    rw [lastLine_append_lineFeed, lastLine_of_not_mem hline]
    refine ⟨lines before, below, ?_, ?_, ?_⟩
    · rw [List.append_assoc, List.cons_append, lines_append_lineFeed, hbelow]
    · rw [length_lines, lineFeeds_append_lineFeed, lineFeeds_of_not_mem hline, Nat.add_zero]
    · rw [byteLength_append, byteLength, utf8Size_lineFeed, length_lines,
        byteLength_eq_sum_lines before]
      omega
  · obtain ⟨below, hbelow⟩ := lines_append_of_not_mem hs t
    rw [lastLine_of_not_mem hs]
    exact ⟨[], below, hbelow, (lineFeeds_of_not_mem hs).symm, by simp⟩

theorem lastLine_append_firstLine_mem_lines (s t : List Char) :
    lastLine s ++ firstLine t ∈ lines (s ++ t) := by
  obtain ⟨above, below, hlines, -, -⟩ := lines_append s t
  rw [hlines]
  exact List.mem_append_right _ List.mem_cons_self

/-- **A line stands after a line feed,** or at the start of the text. -/
theorem exists_of_mem_lines {s line : List Char} (h : line ∈ lines s) :
    ∃ before after, s = before ++ (line ++ after) ∧ lastLine before = [] ∧ '\n' ∉ line := by
  induction s using line_induction with
  | line s hs =>
    rw [lines_of_not_mem hs, List.mem_singleton] at h
    subst h
    exact ⟨[], [], by simp, rfl, hs⟩
  | feed first rest hfirst ih =>
    rw [lines_append_lineFeed, lines_of_not_mem hfirst, List.singleton_append, List.mem_cons] at h
    rcases h with rfl | h
    · exact ⟨[], '\n' :: rest, rfl, rfl, hfirst⟩
    · obtain ⟨before, after, rfl, hbefore, hline⟩ := ih h
      refine ⟨first ++ '\n' :: before, after, by simp, ?_, hline⟩
      rw [lastLine_append_lineFeed, hbefore]

end LexicalScope.Text
