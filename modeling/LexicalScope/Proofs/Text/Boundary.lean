import LexicalScope.Text.Bytes
import Mathlib.Order.Bounds.Basic

/-!
# Character boundaries

Boundaries are the offsets at which a text can be parted. An offset falls back to the greatest of
them that is not above it, and the way back through the bytes finds this one.

* `isBoundary_iff` — the boundaries of a text are the lengths of its beginnings
* `takeBytes_append_of_le`, `takeBytes_append_of_ge` — a cut through one of two texts
* `isGreatest_floorBoundary` — an offset falls back as little as it can
* `slice?_of_eq_append` — what the strict reading finds between two boundaries
* `beginsAt_iff` — the byte at an offset shows whether it is a boundary
* `clamp?_eq` — going back through the bytes ends at the boundary that the offset falls back to
-/

namespace LexicalScope.Text

theorem byteLength_toList (source : String) : byteLength source.toList = source.utf8ByteSize := by
  have h : ∀ s : List Char, byteLength s = (String.ofList s).utf8ByteSize := by
    intro s
    induction s with
    | nil => rfl
    | cons c rest ih =>
      have hsplit : String.ofList (c :: rest) = String.singleton c ++ String.ofList rest := by
        rw [String.singleton_eq_ofList, ← String.ofList_append, List.singleton_append]
      rw [hsplit, String.utf8ByteSize_append, String.utf8ByteSize_singleton, byteLength, ih]
  rw [h, String.ofList_toList]

/-! ## Cuts through two texts -/

/-- Past the first text the cut goes through the second. -/
theorem takeBytes_append_of_le {s : List Char} {n : Nat} (h : byteLength s ≤ n) (t : List Char) :
    takeBytes n (s ++ t) = s ++ takeBytes (n - byteLength s) t := by
  induction s generalizing n with
  | nil => rfl
  | cons c rest ih =>
    rw [byteLength] at h
    rw [List.cons_append, takeBytes, if_pos (by omega), ih (by omega), byteLength, Nat.sub_sub]
    rfl

theorem dropBytes_append_of_le {s : List Char} {n : Nat} (h : byteLength s ≤ n) (t : List Char) :
    dropBytes n (s ++ t) = dropBytes (n - byteLength s) t := by
  induction s generalizing n with
  | nil => rfl
  | cons c rest ih =>
    rw [byteLength] at h
    rw [List.cons_append, dropBytes, if_pos (by omega), ih (by omega), byteLength, Nat.sub_sub]

/-- Up to the end of the first text the second has no part in the cut. -/
theorem takeBytes_append_of_ge {s : List Char} {n : Nat} (h : n ≤ byteLength s) (t : List Char) :
    takeBytes n (s ++ t) = takeBytes n s := by
  induction s generalizing n with
  | nil =>
    obtain rfl : n = 0 := Nat.le_zero.mp h
    exact takeBytes_byteLength [] t
  | cons c rest ih =>
    rw [byteLength] at h
    rw [List.cons_append, takeBytes, takeBytes]
    split
    · rw [ih (by omega)]
    · rfl

theorem dropBytes_append_of_ge {s : List Char} {n : Nat} (h : n ≤ byteLength s) (t : List Char) :
    dropBytes n (s ++ t) = dropBytes n s ++ t := by
  have hwhole := takeBytes_append_dropBytes n (s ++ t)
  rw [takeBytes_append_of_ge h] at hwhole
  refine List.append_cancel_left (hwhole.trans ?_)
  rw [← List.append_assoc, takeBytes_append_dropBytes]

theorem takeBytes_of_le {s : List Char} {n : Nat} (h : byteLength s ≤ n) : takeBytes n s = s := by
  simpa [takeBytes] using takeBytes_append_of_le h []

theorem dropBytes_of_le {s : List Char} {n : Nat} (h : byteLength s ≤ n) : dropBytes n s = [] := by
  simpa [dropBytes] using dropBytes_append_of_le h []

/-! ## Boundaries -/

/-- **The boundaries of a text are the lengths of its beginnings.** -/
theorem isBoundary_iff {s : List Char} {n : Nat} :
    IsBoundary s n ↔ ∃ before after, s = before ++ after ∧ byteLength before = n := by
  constructor
  · intro h
    exact ⟨takeBytes n s, dropBytes n s, (takeBytes_append_dropBytes n s).symm, h⟩
  · rintro ⟨before, after, rfl, rfl⟩
    rw [IsBoundary, floorBoundary, takeBytes_byteLength]

theorem isBoundary_floorBoundary (s : List Char) (n : Nat) : IsBoundary s (floorBoundary s n) :=
  isBoundary_iff.mpr ⟨takeBytes n s, dropBytes n s, (takeBytes_append_dropBytes n s).symm, rfl⟩

theorem le_floorBoundary {s : List Char} {m n : Nat} (hm : IsBoundary s m) (h : m ≤ n) :
    m ≤ floorBoundary s n := by
  obtain ⟨before, after, rfl, rfl⟩ := isBoundary_iff.mp hm
  rw [floorBoundary, takeBytes_append_of_le h, byteLength_append]
  exact Nat.le_add_right _ _

/-- **An offset falls back to the greatest boundary that is not above it.** -/
theorem isGreatest_floorBoundary (s : List Char) (n : Nat) :
    IsGreatest {m | IsBoundary s m ∧ m ≤ n} (floorBoundary s n) :=
  ⟨⟨isBoundary_floorBoundary s n, floorBoundary_le s n⟩, fun _ hm => le_floorBoundary hm.1 hm.2⟩

theorem floorBoundary_eq_of_isGreatest {s : List Char} {m n : Nat}
    (h : IsGreatest {m | IsBoundary s m ∧ m ≤ n} m) : floorBoundary s n = m :=
  (isGreatest_floorBoundary s n).unique h

theorem floorBoundary_of_le {s : List Char} {n : Nat} (h : byteLength s ≤ n) :
    floorBoundary s n = byteLength s := by
  rw [floorBoundary, takeBytes_of_le h]

/-- An offset past the end falls back as the end does. -/
theorem floorBoundary_min (s : List Char) (n : Nat) :
    floorBoundary s (min n (byteLength s)) = floorBoundary s n := by
  rcases Nat.le_total n (byteLength s) with h | h
  · rw [Nat.min_eq_left h]
  · rw [Nat.min_eq_right h, floorBoundary_of_le h, floorBoundary_of_le (Nat.le_refl _)]

/-- Behind a text the greatest boundary is counted from the end of that text. -/
theorem floorBoundary_append (s t : List Char) (n : Nat) :
    floorBoundary (s ++ t) (byteLength s + n) = byteLength s + floorBoundary t n := by
  rw [floorBoundary, takeBytes_append_of_le (Nat.le_add_right _ _), byteLength_append,
    Nat.add_sub_cancel_left, floorBoundary]

/-- A greater offset has a greater boundary, or the same. -/
theorem floorBoundary_mono (s : List Char) {m n : Nat} (h : m ≤ n) :
    floorBoundary s m ≤ floorBoundary s n :=
  le_floorBoundary (isBoundary_floorBoundary s m) (Nat.le_trans (floorBoundary_le s m) h)

theorem takeBytes_zero (s : List Char) : takeBytes 0 s = [] := takeBytes_byteLength [] s

/-- The cut at an offset is the cut at the boundary that it falls back to. -/
theorem takeBytes_floorBoundary (s : List Char) (n : Nat) :
    takeBytes (floorBoundary s n) s = takeBytes n s := by
  have h := takeBytes_byteLength (takeBytes n s) (dropBytes n s)
  rwa [takeBytes_append_dropBytes] at h

theorem takeBytes_floorBoundary_sub (s t : List Char) (n : Nat) :
    takeBytes (floorBoundary (s ++ t) n - byteLength s) t = takeBytes (n - byteLength s) t := by
  rcases Nat.le_total n (byteLength s) with h | h
  · have := floorBoundary_le (s ++ t) n
    rw [Nat.sub_eq_zero_of_le h, Nat.sub_eq_zero_of_le (by omega)]
  · obtain ⟨k, rfl⟩ := Nat.exists_eq_add_of_le h
    rw [floorBoundary_append, Nat.add_sub_cancel_left, Nat.add_sub_cancel_left,
      takeBytes_floorBoundary]

/-- **Between two boundaries there is a slice.** -/
theorem slice?_of_eq_append {s before part after : List Char} {m n : Nat}
    (h : s = before ++ (part ++ after)) (hm : m = byteLength before)
    (hn : n = byteLength before + byteLength part) : slice? s m n = some part := by
  subst h hm hn
  have hstart : IsBoundary (before ++ (part ++ after)) (byteLength before) :=
    isBoundary_iff.mpr ⟨before, part ++ after, rfl, rfl⟩
  have hstop :
      IsBoundary (before ++ (part ++ after)) (byteLength before + byteLength part) :=
    isBoundary_iff.mpr ⟨before ++ part, after, by simp, byteLength_append before part⟩
  rw [slice?, if_pos ⟨Nat.le_add_right _ _, hstart, hstop⟩, dropBytes_byteLength,
    Nat.add_sub_cancel_left, takeBytes_byteLength]

/-- A beginning of a text is the slice up to where it ends. -/
theorem slice?_zero_of_eq_append {s part after : List Char} (h : s = part ++ after) :
    slice? s 0 (byteLength part) = some part := by
  have hnil : s = [] ++ (part ++ after) := h
  exact slice?_of_eq_append hnil rfl (Nat.zero_add _).symm

/-- There is a slice exactly between two boundaries in order, and it is what stands between them. -/
theorem slice?_eq_some_iff {s part : List Char} {m n : Nat} :
    slice? s m n = some part ↔
      m ≤ n ∧ IsBoundary s m ∧ IsBoundary s n ∧ takeBytes (n - m) (dropBytes m s) = part := by
  simp [slice?, and_assoc]

/-! ## The way back through the bytes -/

theorem isContinuation_ofNat {n : Nat} (h : n < 0x100) :
    isContinuation (UInt8.ofNat n) = true ↔ 0x80 ≤ n ∧ n < 0xC0 := by
  rw [isContinuation, Bool.and_eq_true, decide_eq_true_iff, decide_eq_true_iff,
    UInt8.le_iff_toNat_le, UInt8.lt_iff_toNat_lt, UInt8.toNat_ofNat_of_lt' h]
  rfl

/-- **The form of a character** is a byte that continues nothing, with bytes after it that continue
it. -/
theorem utf8EncodeChar_eq_cons (c : Char) :
    ∃ first rest, String.utf8EncodeChar c = first :: rest ∧ isContinuation first = false ∧
      ∀ b ∈ rest, isContinuation b = true := by
  have hc : c.val.toNat < 0x110000 := by
    have := c.valid
    simp only [UInt32.isValidChar, Nat.isValidChar] at this
    omega
  unfold String.utf8EncodeChar
  dsimp only
  repeat' split
  all_goals
    refine ⟨_, _, rfl, ?_, ?_⟩
    · rw [← Bool.not_eq_true, isContinuation_ofNat (by omega)]
      omega
    · simp only [List.mem_cons, List.not_mem_nil, or_false, false_imp_iff, implies_true,
        forall_eq_or_imp, forall_eq]
      repeat' apply And.intro
      all_goals
        rw [isContinuation_ofNat (by omega)]
        omega

theorem length_bytes (s : List Char) : (bytes s).length = byteLength s := by
  induction s with
  | nil => rfl
  | cons c rest ih =>
    rw [bytes, List.flatMap_cons, List.length_append, String.length_utf8EncodeChar, byteLength,
      ← ih, bytes]

/-- A character is all before an offset or all behind it, unless the offset is inside it. -/
theorem isBoundary_cons {c : Char} {s : List Char} {n : Nat} :
    IsBoundary (c :: s) n ↔ n = 0 ∨ c.utf8Size ≤ n ∧ IsBoundary s (n - c.utf8Size) := by
  unfold IsBoundary floorBoundary
  rw [takeBytes]
  split
  · have := c.utf8Size_pos
    rw [byteLength]
    omega
  · rw [byteLength]
    omega

theorem isContinuation_eq_false_iff {s : List Char} {n : Nat} {b : UInt8}
    (h : (bytes s)[n]? = some b) : isContinuation b = false ↔ IsBoundary s n := by
  induction s generalizing n with
  | nil => cases h
  | cons c rest ih =>
    have hpos := c.utf8Size_pos
    rw [bytes, List.flatMap_cons, List.getElem?_append, String.length_utf8EncodeChar] at h
    rw [isBoundary_cons]
    split at h
    · next hlt =>
      -- the byte is one of `c` itself, of which the first alone continues nothing
      obtain ⟨first, others, hform, hfirst, hothers⟩ := utf8EncodeChar_eq_cons c
      rw [hform] at h
      cases n with
      | zero =>
        cases h
        simp [hfirst]
      | succ n =>
        rw [hothers b (List.mem_of_getElem? h)]
        simp only [Bool.true_eq_false, false_iff]
        omega
    · next hle =>
      rw [ih h]
      have hne : n ≠ 0 := by omega
      simp [hne, Nat.not_lt.mp hle]

/-- **The byte at an offset shows whether it is a boundary.** -/
theorem beginsAt_iff {s : List Char} {n : Nat} : beginsAt s n = true ↔ IsBoundary s n := by
  unfold beginsAt
  split
  · next b h =>
    have hzero : IsBoundary s 0 := Nat.le_zero.mp (floorBoundary_le s 0)
    rw [Bool.or_eq_true, decide_eq_true_iff, Bool.not_eq_true', isContinuation_eq_false_iff h]
    exact or_iff_right_of_imp fun hn => hn ▸ hzero
  · next h =>
    have hle : byteLength s ≤ n := length_bytes s ▸ List.getElem?_eq_none_iff.mp h
    rw [decide_eq_true_iff, IsBoundary, floorBoundary_of_le hle, eq_comm]

/-- Going back byte by byte finds the greatest boundary. -/
theorem stepBack?_eq (s : List Char) (n : Nat) : stepBack? s n = some (floorBoundary s n) := by
  induction n with
  | zero =>
    have hzero : floorBoundary s 0 = 0 := Nat.le_zero.mp (floorBoundary_le s 0)
    rw [stepBack?, if_pos (beginsAt_iff.mpr hzero), hzero]
  | succ n ih =>
    rw [stepBack?]
    split
    · next h => rw [beginsAt_iff.mp h]
    · next h =>
      -- the greatest boundary up to `n + 1` is not `n + 1`, and so it is the one up to `n`
      have hne : floorBoundary s (n + 1) ≠ n + 1 := fun heq => h (beginsAt_iff.mpr heq)
      have hle := floorBoundary_le s (n + 1)
      rw [ih, floorBoundary_eq_of_isGreatest]
      refine ⟨⟨isBoundary_floorBoundary s _, by omega⟩, fun m hm => ?_⟩
      exact le_floorBoundary hm.1 (Nat.le_succ_of_le hm.2)

/-- **Going back through the bytes ends at the boundary that the offset falls back to.** -/
theorem clamp?_eq (s : List Char) (n : Nat) : clamp? s n = some (floorBoundary s n) := by
  rw [clamp?, stepBack?_eq, floorBoundary_min]

end LexicalScope.Text
