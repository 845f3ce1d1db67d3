import LexicalScope.Proofs.Diagnostic.Located

/-!
# Offsets that fall back

An offset inside a character falls back to the start of that character, and one past the end to the
end. The way back has no bound of its own. It is short because a character has at most four bytes,
and it never leads past the start because a character begins there, or else the text ends.

* `isBoundary_iff_isValid` — boundaries are the positions of a string that the core library calls
  valid
* `stepBackWithin?` — the way back with a bound on its steps; `stepBackWithin?_eq_some_iff`
* `le_floorBoundary_add_three` — three steps are enough
* `Pointer.slice?_mark` — the slice that a pointer marks
* `Pointer.clamp_finds_floor` — all of it together, and what a pointer makes of it
-/

namespace LexicalScope

namespace Text

/-! ## Boundaries of strings -/

/-- **Boundaries are the valid positions of a string.** -/
theorem isBoundary_iff_isValid {source : String} {n : Nat} :
    IsBoundary source.toList n ↔ String.Pos.Raw.IsValid source ⟨n⟩ := by
  rw [isBoundary_iff, String.Pos.Raw.isValid_iff_exists_append]
  constructor
  · rintro ⟨before, after, h, rfl⟩
    refine ⟨String.ofList before, String.ofList after, ?_, ?_⟩
    · rw [← String.ofList_append, ← h, String.ofList_toList]
    · rw [← String.toList_ofList (l := before), byteLength_toList, String.toList_ofList]
      rfl
  · rintro ⟨before, after, rfl, h⟩
    refine ⟨before.toList, after.toList, String.toList_append, ?_⟩
    rw [byteLength_toList]
    exact (congrArg String.Pos.Raw.byteIdx h).symm

/-! ## The length of the way back -/

/-- The first boundary on the way back from the offset, if it takes no more than `k` steps to get
there. Like `stepBack?` the way ends at the start of the text. -/
def stepBackWithin? (s : List Char) : Nat → Nat → Option Nat
  | 0, n => if beginsAt s n then some n else none
  | _ + 1, 0 => if beginsAt s 0 then some 0 else none
  | k + 1, n + 1 => if beginsAt s (n + 1) then some (n + 1) else stepBackWithin? s k n

/-- Off a boundary, the offset before it falls back to the same boundary. -/
theorem floorBoundary_succ {s : List Char} {n : Nat} (h : ¬ IsBoundary s (n + 1)) :
    floorBoundary s (n + 1) = floorBoundary s n := by
  have hle := floorBoundary_le s (n + 1)
  have hne : floorBoundary s (n + 1) ≠ n + 1 := h
  refine Nat.le_antisymm ?_ (floorBoundary_mono s (Nat.le_succ n))
  exact le_floorBoundary (isBoundary_floorBoundary s _) (by omega)

/-- At a boundary there is no step to take. -/
theorem some_eq_some_iff_of_isBoundary {s : List Char} {n : Nat} (h : IsBoundary s n) {k b : Nat} :
    some n = some b ↔ b = floorBoundary s n ∧ n ≤ b + k := by
  rw [h, Option.some.injEq]
  omega

/-- **The way back takes one step for each byte that it leaves behind,** and ends where an offset
falls back to. The induction is on the bound. -/
theorem stepBackWithin?_eq_some_iff {s : List Char} {k n b : Nat} :
    stepBackWithin? s k n = some b ↔ b = floorBoundary s n ∧ n ≤ b + k := by
  have hzero : IsBoundary s 0 := Nat.le_zero.mp (floorBoundary_le s 0)
  induction k generalizing n with
  | zero =>
    rw [stepBackWithin?]
    split
    · next h => exact some_eq_some_iff_of_isBoundary (beginsAt_iff.mp h)
    · next h =>
      have hne : floorBoundary s n ≠ n := fun hn => h (beginsAt_iff.mpr hn)
      have hle := floorBoundary_le s n
      simp only [reduceCtorEq, false_iff]
      omega
  | succ k ih =>
    cases n with
    | zero =>
      rw [stepBackWithin?, if_pos (beginsAt_iff.mpr hzero)]
      exact some_eq_some_iff_of_isBoundary hzero
    | succ n =>
      rw [stepBackWithin?]
      split
      · next h => exact some_eq_some_iff_of_isBoundary (beginsAt_iff.mp h)
      · next h =>
        have hne : ¬ IsBoundary s (n + 1) := fun hn => h (beginsAt_iff.mpr hn)
        rw [floorBoundary_succ hne]
        refine ih.trans (and_congr_right fun _ => ?_)
        omega

/-- **A character has at most four bytes,** and so an offset within the text is at most three bytes
behind a boundary. -/
theorem le_floorBoundary_add_three {s : List Char} {n : Nat} (h : n ≤ byteLength s) :
    n ≤ floorBoundary s n + 3 := by
  unfold floorBoundary
  induction s generalizing n with
  | nil => exact Nat.le_add_right_of_le h
  | cons c rest ih =>
    rw [byteLength] at h
    have hsize := c.utf8Size_le_four
    rw [takeBytes]
    split
    · have := ih (n := n - c.utf8Size) (by omega)
      rw [byteLength]
      omega
    · rw [byteLength]
      omega

end Text

namespace Pointer

open Text

/-- The mark is the slice from where the start of the region falls back to, up to where its stop
does or to the end of the line. -/
theorem slice?_mark (source : String) (r : Region) :
    slice? source.toList (floorBoundary source.toList r.start)
      (min (floorBoundary source.toList (max r.stop (floorBoundary source.toList r.start)))
        (floorBoundary source.toList r.start +
          byteLength (firstLine (dropBytes r.start source.toList)))) = some (mark source r) := by
  have hcut := takeBytes_append_dropBytes r.start source.toList
  obtain ⟨below, hbelow⟩ : mark source r <+: dropBytes r.start source.toList :=
    (mark_prefix_firstLine source r).trans (List.takeWhile_prefix _)
  have hreach := min_floorBoundary_append (takeBytes r.start source.toList)
    (dropBytes r.start source.toList) r.stop
  rw [hcut, ← floorBoundary] at hreach
  have hsource : source.toList =
      takeBytes r.start source.toList ++ (mark source r ++ below) := by
    rw [hbelow, hcut]
  exact slice?_of_eq_append hsource rfl hreach

/-- **An offset falls back to a boundary.** The way back from an offset, or from the end of the
source if the offset is past it, has an end for every source and every offset, and takes no more
than three steps. It ends at the greatest boundary that is not above the offset and the end. So an
offset that is a boundary stays, what an offset has fallen back to stays, and the order of offsets
is kept.
The stop of a region, or its start if that is behind it, therefore falls back to no less than what
the start falls back to, and the mark of a pointer is a slice that runs forward from boundary to
boundary. -/
theorem clamp_finds_floor (source : String) (n : Nat) :
    ∃ b, clamp? source.toList n = some b ∧
      stepBackWithin? source.toList 3 (min n source.utf8ByteSize) = some b ∧
      IsGreatest {m | String.Pos.Raw.IsValid source ⟨m⟩ ∧ m ≤ min n source.utf8ByteSize} b ∧
      (String.Pos.Raw.IsValid source ⟨n⟩ → b = n) ∧
      clamp? source.toList b = some b ∧
      (∀ m a, m ≤ n → clamp? source.toList m = some a → a ≤ b) ∧
      ∀ stop, ∃ reach after part,
        clamp? source.toList (max stop b) = some reach ∧ b ≤ reach ∧
          slice? source.toList b source.utf8ByteSize = some after ∧
          slice? source.toList b
            (min reach (((lineFeedAt? after).map (b + ·)).getD source.utf8ByteSize)) =
              some part ∧
          (of source ⟨n, stop⟩).length = max 1 (Width.width part) := by
  have hb := isBoundary_floorBoundary source.toList n
  have hmin := floorBoundary_min source.toList n
  have hgreatest := isGreatest_floorBoundary source.toList (min n (byteLength source.toList))
  have hsteps := le_floorBoundary_add_three (Nat.min_le_right n (byteLength source.toList))
  rw [hmin] at hgreatest hsteps
  simp only [byteLength_toList, isBoundary_iff_isValid] at hmin hgreatest hsteps
  refine ⟨floorBoundary source.toList n, clamp?_eq _ _,
    stepBackWithin?_eq_some_iff.mpr ⟨hmin.symm, hsteps⟩, hgreatest, ?_, ?_, ?_, fun stop => ?_⟩
  · exact fun hn => isBoundary_iff_isValid.mpr hn
  · rw [clamp?_eq, hb]
  · intro m a hm ha
    rw [clamp?_eq, Option.some.injEq] at ha
    exact ha ▸ floorBoundary_mono _ hm
  · have hcut := takeBytes_append_dropBytes n source.toList
    have hsize : source.utf8ByteSize =
        floorBoundary source.toList n + byteLength (dropBytes n source.toList) := by
      rw [floorBoundary, ← byteLength_append, hcut, byteLength_toList]
    refine ⟨_, dropBytes n source.toList, mark source ⟨n, stop⟩, clamp?_eq _ _,
      le_floorBoundary hb (Nat.le_max_right _ _), ?_, ?_, length_of source ⟨n, stop⟩⟩
    · have hrest : source.toList =
          takeBytes n source.toList ++ (dropBytes n source.toList ++ []) := by
        rw [List.append_nil, hcut]
      exact slice?_of_eq_append hrest rfl hsize
    · rw [hsize, lineFeedAt?_getD]
      exact slice?_mark source ⟨n, stop⟩

/-- The last byte of a character of four is three steps behind its first. What the start of a region
has fallen back to stays, and a stop in front of it makes no difference. -/
theorem clamp_finds_floor_of_emoji :
    let source := "a😀\n"
    String.Pos.Raw.IsValid source ⟨1⟩ ∧ clamp? source.toList 1 = some 1 ∧
      (∃ b, clamp? source.toList 4 = some b ∧ 1 ≤ b ∧ stepBackWithin? source.toList 3 4 = some b) ∧
      stepBackWithin? source.toList 2 4 = none ∧
      ∃ reach, clamp? source.toList (max 0 1) = some reach ∧ 1 ≤ reach := by
  intro source
  have hvalid : String.Pos.Raw.IsValid source ⟨1⟩ := isBoundary_iff_isValid.mp (by decide)
  obtain ⟨b, hb, -, -, hstays, -, -, hslice⟩ := clamp_finds_floor source 1
  obtain rfl : b = 1 := hstays hvalid
  obtain ⟨reach, -, -, hreach, hle, -⟩ := hslice 0
  obtain ⟨b, hb', hsteps, -, -, -, horder, -⟩ := clamp_finds_floor source 4
  exact ⟨hvalid, hb, ⟨b, hb', horder 1 1 (by decide) hb, hsteps⟩, by decide, reach, hreach, hle⟩

end Pointer

end LexicalScope
