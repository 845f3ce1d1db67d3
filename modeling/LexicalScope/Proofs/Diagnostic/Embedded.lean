import LexicalScope.Proofs.Diagnostic.Located

/-!
# Pointers into a part of a source

A text that stands on lines of its own within a source has the same pointers there as by itself. The
lines above it count, and nothing else does: a line feed parts the text from what is around it, so
that neither the place on the line nor the end of the mark depends on it.

* `Text.firstLine_takeBytes_append_lineFeed` — a region that reaches over the end of the line
* `Pointer.of_embedded` — the pointers of the text by itself and within a source
-/

namespace LexicalScope

open Text Text.Width

/-- However far a cut reaches, the first line before it does not show what is behind the line. -/
theorem Text.firstLine_takeBytes_append_lineFeed (s t : List Char) (n : Nat) :
    firstLine (takeBytes n (s ++ '\n' :: t)) = firstLine (takeBytes n s) := by
  rcases Nat.lt_or_ge (byteLength s) n with h | h
  · have hfeed : '\n'.utf8Size ≤ n - byteLength s := by
      rw [utf8Size_lineFeed]
      omega
    rw [takeBytes_append_of_le (Nat.le_of_lt h), takeBytes, if_pos hfeed,
      firstLine_append_lineFeed, takeBytes_of_le (Nat.le_of_lt h)]
  · rw [takeBytes_append_of_ge h]

namespace Pointer

/-- **A pointer depends on its own line only.** With lines above and lines below, the pointer into
`s` is moved down by the lines above, whether the region ends in `s` or reaches over its end. -/
theorem of_embedded (p s t : String) (r : Region) (h : r.start ≤ s.utf8ByteSize) :
    of (p ++ "\n" ++ s ++ "\n" ++ t)
        ⟨r.start + (p.utf8ByteSize + 1), r.stop + (p.utf8ByteSize + 1)⟩ =
      { of s r with line := (of s r).line + (1 + p.toList.count '\n') } := by
  rw [← byteLength_toList] at h
  have hsource : (p ++ "\n" ++ s ++ "\n" ++ t).toList =
      (p.toList ++ ['\n']) ++ (s.toList ++ '\n' :: t.toList) := by
    simp
  have habove : byteLength (p.toList ++ ['\n']) = p.utf8ByteSize + 1 := by
    rw [byteLength_append, byteLength_toList]
    rfl
  have hbefore : takeBytes (r.start + (p.utf8ByteSize + 1)) (p ++ "\n" ++ s ++ "\n" ++ t).toList =
      p.toList ++ '\n' :: takeBytes r.start s.toList := by
    rw [hsource, takeBytes_append_of_le (by omega), habove, Nat.add_sub_cancel,
      takeBytes_append_of_ge h, List.append_assoc, List.singleton_append]
  have hafter : dropBytes (r.start + (p.utf8ByteSize + 1)) (p ++ "\n" ++ s ++ "\n" ++ t).toList =
      dropBytes r.start s.toList ++ '\n' :: t.toList := by
    rw [hsource, dropBytes_append_of_le (by omega), habove, Nat.add_sub_cancel,
      dropBytes_append_of_ge h]
  have hreach : ∀ n, r.stop + (p.utf8ByteSize + 1) - byteLength (p.toList ++ '\n' :: n) =
      r.stop - byteLength n := by
    intro n
    rw [byteLength_append, byteLength, byteLength_toList, utf8Size_lineFeed]
    omega
  simp only [of, covered, hbefore, hafter, hreach, lastLine_append_lineFeed,
    firstLine_append_lineFeed, firstLine_takeBytes_append_lineFeed, lineFeeds_append_lineFeed]
  rw [Pointer.mk.injEq]
  refine ⟨?_, rfl, rfl, rfl⟩
  rw [lineFeeds, Nat.add_comm, Nat.add_comm 1]

/-- The region starts in the middle line and ends in the one below. -/
theorem of_embedded_reaching_over :
    6 ≤ "名 = 値".utf8ByteSize ∧
      of ("a\n名" ++ "\n" ++ "名 = 値" ++ "\n" ++ "値") ⟨6 + (5 + 1), 12 + (5 + 1)⟩ =
        { of "名 = 値" ⟨6, 12⟩ with line := (of "名 = 値" ⟨6, 12⟩).line + (1 + 1) } := by
  have h : 6 ≤ "名 = 値".utf8ByteSize := by decide
  exact ⟨h, of_embedded "a\n名" "名 = 値" "値" ⟨6, 12⟩ h⟩

end Pointer

end LexicalScope
