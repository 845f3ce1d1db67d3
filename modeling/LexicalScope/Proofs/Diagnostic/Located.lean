import LexicalScope.Diagnostic.Offsets
import LexicalScope.Proofs.Text.Boundary
import LexicalScope.Proofs.Text.Lines

/-!
# Where a pointer points

The start of a region falls back to a character boundary, and this is a place on one of the lines of
the source. The pointer tells the line by its number and its text, and the place on it by the width
of what is before it. To find them takes six slices, and each of them runs forward from boundary to
boundary, whatever the region is.

* `Pointer.lead`, `Pointer.mark`, `Pointer.trail` — the parts of the line: before the region, in it
  and behind it
* `Pointer.ofOffsets?_eq` — the pointer that is found by offsets
* `Pointer.located` — each region has a pointer, and what that pointer tells
-/

namespace LexicalScope

open Text Text.Width

namespace Text

/-! ## Line ends by offsets -/

theorem lineFeedAt?_of_not_mem {s : List Char} (h : '\n' ∉ s) : lineFeedAt? s = none := by
  induction s with
  | nil => rfl
  | cons c rest ih =>
    rw [List.mem_cons, not_or] at h
    rw [lineFeedAt?, if_neg (Ne.symm h.1), ih h.2, Option.map_none]

theorem lineFeedAt?_append_lineFeed {s : List Char} (h : '\n' ∉ s) (t : List Char) :
    lineFeedAt? (s ++ '\n' :: t) = some (byteLength s) := by
  induction s with
  | nil => rfl
  | cons c rest ih =>
    rw [List.mem_cons, not_or] at h
    rw [List.cons_append, lineFeedAt?, if_neg (Ne.symm h.1), ih h.2, Option.map_some, byteLength]

theorem lastLineFeedAt?_of_not_mem {s : List Char} (h : '\n' ∉ s) : lastLineFeedAt? s = none := by
  induction s with
  | nil => rfl
  | cons c rest ih =>
    rw [List.mem_cons, not_or] at h
    rw [lastLineFeedAt?, ih h.2]
    exact if_neg (Ne.symm h.1)

theorem lastLineFeedAt?_append_lineFeed (s : List Char) {t : List Char} (h : '\n' ∉ t) :
    lastLineFeedAt? (s ++ '\n' :: t) = some (byteLength s) := by
  induction s with
  | nil =>
    rw [List.nil_append, lastLineFeedAt?, lastLineFeedAt?_of_not_mem h]
    rfl
  | cons c rest ih => rw [List.cons_append, lastLineFeedAt?, ih, byteLength]

/-- The first line ends at the first line feed, or else with the text. -/
theorem lineFeedAt?_getD (s : List Char) (n : Nat) :
    ((lineFeedAt? s).map (n + ·)).getD (n + byteLength s) = n + byteLength (firstLine s) := by
  by_cases h : '\n' ∈ s
  · obtain ⟨line, rest, rfl, hline⟩ := List.eq_append_cons_of_mem h
    rw [lineFeedAt?_append_lineFeed hline, firstLine_append_lineFeed, firstLine_of_not_mem hline]
    rfl
  · rw [lineFeedAt?_of_not_mem h, firstLine_of_not_mem h]
    rfl

/-- The last line starts behind the last line feed, or else with the text. -/
theorem lastLineFeedAt?_getD (s : List Char) :
    ∃ above, s = above ++ lastLine s ∧ lineFeeds above = lineFeeds s ∧
      ((lastLineFeedAt? s).map (· + 1)).getD 0 = byteLength above := by
  by_cases h : '\n' ∈ s
  · obtain ⟨before, line, rfl, hline⟩ := eq_append_lineFeed_of_mem h
    refine ⟨before ++ ['\n'], ?_, ?_, ?_⟩
    · simp [lastLine_append_lineFeed, lastLine_of_not_mem hline]
    · rw [lineFeeds_append_lineFeed, lineFeeds_append_lineFeed, lineFeeds_of_not_mem hline]
      rfl
    · rw [lastLineFeedAt?_append_lineFeed _ hline, byteLength_append, byteLength, byteLength,
        utf8Size_lineFeed]
      rfl
  · refine ⟨[], by rw [lastLine_of_not_mem h, List.nil_append], (lineFeeds_of_not_mem h).symm, ?_⟩
    rw [lastLineFeedAt?_of_not_mem h]
    rfl

/-- The first line of a beginning of a text ends where the beginning does or where the line does,
whichever comes first. -/
theorem byteLength_firstLine_of_prefix {s t : List Char} (h : s <+: t) :
    byteLength (firstLine s) = min (byteLength s) (byteLength (firstLine t)) := by
  obtain ⟨rest, rfl⟩ := h
  by_cases hs : '\n' ∈ s
  · obtain ⟨line, after, rfl, hline⟩ := List.eq_append_cons_of_mem hs
    rw [List.append_assoc, List.cons_append, firstLine_append_lineFeed, firstLine_append_lineFeed,
      firstLine_of_not_mem hline, byteLength_append]
    omega
  · rw [firstLine_append_of_not_mem hs, firstLine_of_not_mem hs, byteLength_append]
    omega

/-- The offset `n` behind `s`, cut at the end of the line. -/
theorem min_floorBoundary_append (s t : List Char) (n : Nat) :
    min (floorBoundary (s ++ t) (max n (byteLength s))) (byteLength s + byteLength (firstLine t)) =
      byteLength s + byteLength (firstLine (takeBytes (n - byteLength s) t)) := by
  have hmax : max n (byteLength s) = byteLength s + (n - byteLength s) := by omega
  rw [hmax, floorBoundary_append, Nat.add_min_add_left, floorBoundary,
    byteLength_firstLine_of_prefix ⟨_, takeBytes_append_dropBytes _ _⟩]

end Text

namespace Pointer

/-! ## The parts of the line -/

/-- The text of the line before the region. -/
def lead (source : String) (r : Region) : List Char :=
  lastLine (takeBytes r.start source.toList)

/-- The text of the line in the region. -/
def mark (source : String) (r : Region) : List Char :=
  covered (dropBytes r.start source.toList)
    (r.stop - byteLength (takeBytes r.start source.toList))

/-- The text of the line behind the region. -/
def trail (source : String) (r : Region) : List Char :=
  (firstLine (dropBytes r.start source.toList)).drop (mark source r).length

theorem column_of (source : String) (r : Region) :
    (of source r).column = width (lead source r) := rfl

theorem length_of (source : String) (r : Region) :
    (of source r).length = max 1 (width (mark source r)) := rfl

theorem mark_prefix_firstLine (source : String) (r : Region) :
    mark source r <+: firstLine (dropBytes r.start source.toList) :=
  firstLine_mono ⟨_, takeBytes_append_dropBytes _ _⟩

theorem mark_append_trail (source : String) (r : Region) :
    mark source r ++ trail source r = firstLine (dropBytes r.start source.toList) := by
  obtain ⟨rest, hrest⟩ := mark_prefix_firstLine source r
  rw [trail, ← hrest, List.drop_left]

/-- **The line is made of the three parts.** -/
theorem text_of (source : String) (r : Region) :
    (of source r).text = String.ofList (lead source r ++ (mark source r ++ trail source r)) := by
  rw [mark_append_trail]
  rfl

/-- What is before the start of the region, and what is behind it. -/
theorem exists_parts (source : String) (r : Region) :
    ∃ above below,
      takeBytes r.start source.toList = above ++ lead source r ∧
        dropBytes r.start source.toList = mark source r ++ (trail source r ++ below) ∧
        lineFeeds above = (of source r).line ∧
        ((lastLineFeedAt? (takeBytes r.start source.toList)).map (· + 1)).getD 0 =
          byteLength above := by
  obtain ⟨above, hbefore, hfeeds, hoffset⟩ := lastLineFeedAt?_getD (takeBytes r.start source.toList)
  obtain ⟨below, hafter⟩ : mark source r ++ trail source r <+: dropBytes r.start source.toList :=
    mark_append_trail source r ▸ List.takeWhile_prefix _
  exact ⟨above, below, hbefore, by rw [← hafter, List.append_assoc], hfeeds, hoffset⟩

/-! ## Slices -/

/-- **No slice is refused.** -/
theorem ofOffsets?_eq (source : String) (r : Region) :
    ofOffsets? source r = some (of source r) := by
  obtain ⟨above, below, hbefore, hafter, hfeeds, hlineStart⟩ := exists_parts source r
  have hsource := (takeBytes_append_dropBytes r.start source.toList).symm
  have hstart : floorBoundary source.toList r.start =
      byteLength above + byteLength (lead source r) := by
    rw [floorBoundary, hbefore, byteLength_append]
  -- the ends of the line and of the mark, as offsets
  have hlineStop := lineFeedAt?_getD (dropBytes r.start source.toList)
    (floorBoundary source.toList r.start)
  rw [floorBoundary, ← byteLength_append, takeBytes_append_dropBytes, ← mark_append_trail,
    ← floorBoundary] at hlineStop
  have hreach := min_floorBoundary_append (takeBytes r.start source.toList)
    (dropBytes r.start source.toList) r.stop
  rw [takeBytes_append_dropBytes, ← mark_append_trail, ← floorBoundary] at hreach
  change _ = floorBoundary source.toList r.start + byteLength (mark source r) at hreach
  -- the six slices, in the order in which they are taken
  have hsliceBefore : slice? source.toList 0 (floorBoundary source.toList r.start) =
      some (takeBytes r.start source.toList) :=
    slice?_zero_of_eq_append hsource
  have hsliceAfter :
      slice? source.toList (floorBoundary source.toList r.start) (byteLength source.toList) =
        some (dropBytes r.start source.toList) := by
    have hend : source.toList =
        takeBytes r.start source.toList ++ (dropBytes r.start source.toList ++ []) := by
      rw [List.append_nil, ← hsource]
    refine slice?_of_eq_append hend rfl ?_
    rw [← byteLength_append, ← hsource]
  rw [hbefore, hafter] at hsource
  have hparts := hsource.trans (List.append_assoc ..)
  have hsliceAbove : slice? source.toList 0 (byteLength above) = some above :=
    slice?_zero_of_eq_append hparts
  have hsliceLead : slice? source.toList (byteLength above) (floorBoundary source.toList r.start) =
      some (lead source r) :=
    slice?_of_eq_append hparts rfl hstart
  have hsliceMark : slice? source.toList (floorBoundary source.toList r.start)
      (floorBoundary source.toList r.start + byteLength (mark source r)) =
        some (mark source r) := by
    refine slice?_of_eq_append hsource ?_ ?_
    · rw [hstart, byteLength_append]
    · rw [hstart, byteLength_append]
  have hsliceLine : slice? source.toList (byteLength above)
      (floorBoundary source.toList r.start + byteLength (mark source r ++ trail source r)) =
        some (lead source r ++ (mark source r ++ trail source r)) := by
    have hline : source.toList =
        above ++ ((lead source r ++ (mark source r ++ trail source r)) ++ below) := by
      rw [hparts]
      simp only [List.append_assoc]
    refine slice?_of_eq_append hline rfl ?_
    rw [hstart, byteLength_append (lead source r), Nat.add_assoc]
  simp only [ofOffsets?, clamp?_eq, hlineStart, hlineStop, hreach, Option.bind_eq_bind,
    Option.bind_some, hsliceBefore, hsliceAfter, hsliceAbove, hsliceLead, hsliceMark, hsliceLine]
  rw [hfeeds, ← text_of]
  rfl

/-! ## The place -/

theorem mark_of_size_le {source : String} {r : Region} (h : source.utf8ByteSize ≤ r.start) :
    mark source r = [] := by
  rw [mark, dropBytes_of_le (byteLength_toList source ▸ h)]
  rfl

theorem length_of_mark_nil {source : String} {r : Region} (h : mark source r = []) :
    (of source r).length = 1 := by
  rw [length_of, h]
  rfl

/-- Past the end of the source nothing is left to mark, and no line is below. -/
theorem of_size_le {source : String} {r : Region} (h : source.utf8ByteSize ≤ r.start) :
    (of source r).line + 1 = (lines source.toList).length ∧
      (of source r).column = width (of source r).text.toList ∧ (of source r).length = 1 := by
  have hmark := mark_of_size_le h
  rw [← byteLength_toList] at h
  have htrail : trail source r = [] := by rw [trail, dropBytes_of_le h, hmark]; rfl
  refine ⟨?_, ?_, length_of_mark_nil hmark⟩
  · rw [length_lines]
    exact congrArg (lineFeeds · + 1) (takeBytes_of_le h)
  · rw [text_of, hmark, htrail, String.toList_ofList, column_of, List.append_nil, List.append_nil]

/-- **Each region has a pointer.** No slice is refused, and the pointer shows where the region
starts: at the greatest boundary `b` of the source that is not above its start. The line is the
number of line feeds before `b`, the text is the line of that number, and the column is the width of
what is on this line before `b`. A region that starts at the end of the source or past it is shown
at the end of the last line, by a mark of one column. -/
theorem located (source : String) (r : Region) :
    ofOffsets? source r = some (of source r) ∧
      ∃ b before lead,
        IsGreatest {n | IsBoundary source.toList n ∧ n ≤ min r.start source.utf8ByteSize} b ∧
          slice? source.toList 0 b = some before ∧ (of source r).line = before.count '\n' ∧
          (lines source.toList)[(of source r).line]? = some (of source r).text.toList ∧
          lead <+: (of source r).text.toList ∧
          b = (((lines source.toList).take (of source r).line).map byteLength).sum +
            (of source r).line + byteLength lead ∧
          (of source r).column = width lead ∧ 1 ≤ (of source r).length ∧
          (source.utf8ByteSize ≤ r.start →
            (of source r).line + 1 = (lines source.toList).length ∧
              (of source r).column = width (of source r).text.toList ∧
              (of source r).length = 1) := by
  have hcut := takeBytes_append_dropBytes r.start source.toList
  obtain ⟨above, below, hlines, habove, hbytes⟩ :=
    lines_append (takeBytes r.start source.toList) (dropBytes r.start source.toList)
  rw [hcut] at hlines
  change above.length = (of source r).line at habove
  have htext : (of source r).text.toList =
      lead source r ++ firstLine (dropBytes r.start source.toList) := String.toList_ofList
  have hgreatest := isGreatest_floorBoundary source.toList (min r.start (byteLength source.toList))
  rw [floorBoundary_min, byteLength_toList] at hgreatest
  refine ⟨ofOffsets?_eq source r, floorBoundary source.toList r.start,
    takeBytes r.start source.toList, lead source r, hgreatest, ?_, rfl, ?_, ?_, ?_, rfl,
    Nat.le_max_left _ _, of_size_le⟩
  · exact slice?_zero_of_eq_append hcut.symm
  · rw [hlines, htext, ← habove, List.getElem?_append_right (Nat.le_refl _), Nat.sub_self]
    rfl
  · rw [htext]
    exact List.prefix_append _ _
  · rw [hlines, ← habove, List.take_left]
    exact hbytes

/-- A region in reverse order that starts behind the last character. -/
theorem located_past_end :
    "a\n名".utf8ByteSize ≤ 9 ∧ (of "a\n名" ⟨9, 2⟩).line + 1 = (lines "a\n名".toList).length ∧
      (of "a\n名" ⟨9, 2⟩).column = width (of "a\n名" ⟨9, 2⟩).text.toList ∧
      (of "a\n名" ⟨9, 2⟩).length = 1 := by
  have h : "a\n名".utf8ByteSize ≤ 9 := by decide
  obtain ⟨-, b, before, lead, -, -, -, -, -, -, -, -, hend⟩ := located "a\n名" ⟨9, 2⟩
  exact ⟨h, hend h⟩

end Pointer

end LexicalScope
