import LexicalScope.Proofs.Diagnostic.Located
import LexicalScope.Proofs.Text.Seam

/-!
# What the mark covers

The mark stands below the part of the region that is on its first line. Where the strict reading of
the region has a text, this part is the first line of that text. Other regions are marked as well:
an end that is not a boundary falls back to one, and where nothing is left one column is marked.

The widths of the line, of what is before the region and of what is in it are taken apart from each
other. They agree where the ends of the region are seams of the line. Where an end parts characters
that are drawn as one, the mark may end behind the line.

* `underline_covers` — the mark of a region, with its text and without
* `underline_within_iff` — when the mark ends within the line
* `underline_past_line` — an emoji without its skin tone, and one without its selector
-/

namespace LexicalScope.Pointer

open Text Text.Width

/-! ## The text that is marked -/

/-- **The mark is the first line of the text of the region,** if the region has a text. -/
theorem mark_of_literal? {source t : String} {r : Region} (h : r.literal? source = some t) :
    mark source r = firstLine t.toList := by
  obtain ⟨part, hslice, rfl⟩ := Option.map_eq_some_iff.mp h
  obtain ⟨-, hstart, -, rfl⟩ := slice?_eq_some_iff.mp hslice
  rw [String.toList_ofList, mark, covered, show byteLength _ = r.start from hstart]

/-- **The end of a region may fall back to a boundary.** The pointer is the same. -/
theorem of_floorBoundary (source : String) (r : Region) :
    of source ⟨r.start, floorBoundary source.toList r.stop⟩ = of source r := by
  have h := takeBytes_floorBoundary_sub (takeBytes r.start source.toList)
    (dropBytes r.start source.toList) r.stop
  rw [takeBytes_append_dropBytes] at h
  simp only [of, covered, h]

theorem mark_of_stop_lt {source : String} {r : Region} (h : r.stop < r.start) :
    mark source r = [] := by
  have hstop := takeBytes_floorBoundary_sub (takeBytes r.start source.toList)
    (dropBytes r.start source.toList) r.stop
  -- the end falls back no less than the start does
  have hle : floorBoundary source.toList r.stop ≤ byteLength (takeBytes r.start source.toList) :=
    floorBoundary_mono source.toList (Nat.le_of_lt h)
  rw [takeBytes_append_dropBytes, Nat.sub_eq_zero_of_le hle, takeBytes_zero] at hstop
  rw [mark, covered, ← hstop]
  rfl

/-- **What the mark covers.** If the region has a text `t`, the mark is as wide as the first line of
`t`, and this line stands in the text of the pointer behind what the column is the width of. A
region in reverse order or from the end of the source on is marked by one column. And a region whose
end is not a boundary is marked as if it ended at the greatest boundary below. -/
theorem underline_covers (source : String) (r : Region) :
    (∀ t, r.literal? source = some t →
      (of source r).length = max 1 (width (firstLine t.toList)) ∧
        ∃ lead trail, (of source r).text.toList = lead ++ firstLine t.toList ++ trail ∧
          (of source r).column = width lead) ∧
      (r.stop < r.start ∨ source.utf8ByteSize ≤ r.start → (of source r).length = 1) ∧
      ∃ stop, IsGreatest {n | IsBoundary source.toList n ∧ n ≤ r.stop} stop ∧
        (of source r).length = (of source ⟨r.start, stop⟩).length := by
  refine ⟨?_, ?_, ?_⟩
  · intro t ht
    have hmark := mark_of_literal? ht
    refine ⟨by rw [length_of, hmark], lead source r, trail source r, ?_, rfl⟩
    rw [text_of, hmark, String.toList_ofList, List.append_assoc]
  · rintro (h | h)
    · exact length_of_mark_nil (mark_of_stop_lt h)
    · exact length_of_mark_nil (mark_of_size_le h)
  · refine ⟨floorBoundary source.toList r.stop, isGreatest_floorBoundary source.toList r.stop, ?_⟩
    rw [of_floorBoundary]

/-- A region over the end of its line, one in reverse order within a character, and one that ends
within a character. -/
theorem underline_covers_first_line :
    (⟨4, 11⟩ : Region).literal? "a名前\n名" = some "前\n名" ∧
      (of "a名前\n名" ⟨4, 11⟩).length = max 1 (width (firstLine "前\n名".toList)) ∧
      (of "a名前\n名" ⟨3, 2⟩).length = 1 ∧
      ∃ stop, IsGreatest {n | IsBoundary "a名前\n名".toList n ∧ n ≤ 6} stop ∧
        (of "a名前\n名" ⟨1, 6⟩).length = (of "a名前\n名" ⟨1, stop⟩).length := by
  have h : (⟨4, 11⟩ : Region).literal? "a名前\n名" = some "前\n名" := by decide +kernel
  exact ⟨h, ((underline_covers "a名前\n名" ⟨4, 11⟩).1 _ h).1,
    (underline_covers "a名前\n名" ⟨3, 2⟩).2.1 (.inl (by decide)),
    (underline_covers "a名前\n名" ⟨1, 6⟩).2.2⟩

/-! ## The end of the mark -/

theorem width_text (source : String) (r : Region) :
    (width (of source r).text.toList : Int) =
      width (lead source r) + width (mark source r) + width (trail source r) -
        overlap (lead source r) (mark source r ++ trail source r) -
          overlap (mark source r) (trail source r) := by
  rw [text_of, String.toList_ofList, width_append_append]

/-- On a plain line the ends of every region are seams. -/
theorem seams_of_isPlain {source : String} (h : ∀ c ∈ source.toList, isPlain c ∨ c = '\n')
    (r : Region) :
    Seam (lead source r) (mark source r ++ trail source r) ∧
      Seam (mark source r) (trail source r) := by
  have hafter : ∀ c ∈ mark source r ++ trail source r, isPlain c = true := by
    intro c hc
    rw [mark_append_trail] at hc
    have hsource : c ∈ source.toList :=
      takeBytes_append_dropBytes r.start source.toList ▸
        List.mem_append_right _ (firstLine_subset _ hc)
    refine (h c hsource).resolve_right ?_
    rintro rfl
    exact lineFeed_not_mem_firstLine _ hc
  refine ⟨seam_of_forall_isPlain _ hafter, seam_of_forall_isPlain _ fun c hc => ?_⟩
  exact hafter c (List.mem_append_right _ hc)

/-- **When the mark ends within the line.** A mark that covers something of at least one column ends
within the line exactly if the characters that its two ends part from each other overlap by no more
columns than there are behind the mark. If both ends are seams, nothing overlaps, and so every mark
ends within its line if all characters of the source are plain. -/
theorem underline_within_iff (source : String) (r : Region) (h : 1 ≤ width (mark source r)) :
    ((of source r).column + (of source r).length ≤ width (of source r).text.toList ↔
        overlap (lead source r) (mark source r ++ trail source r) +
          overlap (mark source r) (trail source r) ≤ width (trail source r)) ∧
      (Seam (lead source r) (mark source r ++ trail source r) →
        Seam (mark source r) (trail source r) →
          (of source r).column + (of source r).length ≤ width (of source r).text.toList) ∧
      ((∀ c ∈ source.toList, isPlain c ∨ c = '\n') →
        (of source r).column + (of source r).length ≤ width (of source r).text.toList) := by
  have hiff : (of source r).column + (of source r).length ≤ width (of source r).text.toList ↔
      overlap (lead source r) (mark source r ++ trail source r) +
        overlap (mark source r) (trail source r) ≤ width (trail source r) := by
    have htext := width_text source r
    rw [column_of, length_of, Nat.max_eq_right h]
    omega
  have hseams : Seam (lead source r) (mark source r ++ trail source r) →
      Seam (mark source r) (trail source r) →
        (of source r).column + (of source r).length ≤ width (of source r).text.toList := by
    intro hstart hstop
    rw [hiff, overlap_of_seam hstart, overlap_of_seam hstop]
    exact Int.natCast_nonneg _
  refine ⟨hiff, hseams, fun hplain => ?_⟩
  obtain ⟨hstart, hstop⟩ := seams_of_isPlain hplain r
  exact hseams hstart hstop

/-- A wide character behind an emoji with its skin tone, and one on a plain line. -/
theorem underline_within_behind_emoji :
    (1 ≤ width (mark "👍🏽 名前" ⟨9, 12⟩) ∧
      Seam (lead "👍🏽 名前" ⟨9, 12⟩) (mark "👍🏽 名前" ⟨9, 12⟩ ++ trail "👍🏽 名前" ⟨9, 12⟩) ∧
      Seam (mark "👍🏽 名前" ⟨9, 12⟩) (trail "👍🏽 名前" ⟨9, 12⟩) ∧
      (of "👍🏽 名前" ⟨9, 12⟩).column + (of "👍🏽 名前" ⟨9, 12⟩).length ≤
        width (of "👍🏽 名前" ⟨9, 12⟩).text.toList) ∧
      1 ≤ width (mark "1\n名前" ⟨2, 5⟩) ∧ (∀ c ∈ "1\n名前".toList, isPlain c ∨ c = '\n') ∧
        (of "1\n名前" ⟨2, 5⟩).column + (of "1\n名前" ⟨2, 5⟩).length ≤
          width (of "1\n名前" ⟨2, 5⟩).text.toList := by
  have h : 1 ≤ width (mark "👍🏽 名前" ⟨9, 12⟩) := by decide +kernel
  have hstart : Seam (lead "👍🏽 名前" ⟨9, 12⟩)
      (mark "👍🏽 名前" ⟨9, 12⟩ ++ trail "👍🏽 名前" ⟨9, 12⟩) := by decide +kernel
  have hstop : Seam (mark "👍🏽 名前" ⟨9, 12⟩) (trail "👍🏽 名前" ⟨9, 12⟩) := by decide +kernel
  have h' : 1 ≤ width (mark "1\n名前" ⟨2, 5⟩) := by decide +kernel
  have hall : ("1\n名前".toList.all fun c => isPlain c || c == '\n') = true := by decide +kernel
  have hplain : ∀ c ∈ "1\n名前".toList, isPlain c ∨ c = '\n' := by
    simpa only [List.all_eq_true, Bool.or_eq_true, beq_iff_eq] using hall
  exact ⟨⟨h, hstart, hstop, (underline_within_iff _ _ h).2.1 hstart hstop⟩, h', hplain,
    (underline_within_iff _ _ h').2.2 hplain⟩

/-- An emoji is two columns wide with its skin tone, and so is the tone alone: the mark of the tone
ends two columns behind the line. And a watch with a text selector takes one column, but the mark
without the selector takes two. -/
theorem underline_past_line :
    (1 ≤ width (mark "👍🏽" ⟨4, 8⟩) ∧
      (of "👍🏽" ⟨4, 8⟩).column = 2 ∧ (of "👍🏽" ⟨4, 8⟩).length = 2 ∧
        width (of "👍🏽" ⟨4, 8⟩).text.toList = 2) ∧
      1 ≤ width (mark "⌚\uFE0E" ⟨0, 3⟩) ∧
        (of "⌚\uFE0E" ⟨0, 3⟩).column = 0 ∧ (of "⌚\uFE0E" ⟨0, 3⟩).length = 2 ∧
          width (of "⌚\uFE0E" ⟨0, 3⟩).text.toList = 1 := by
  decide +kernel

end LexicalScope.Pointer
