/-!
# Byte offsets in a text

A text is a list of characters, an offset counts the bytes of its UTF-8 form. An offset may lie
inside a character or past the end; the cut at an offset then falls back to the greatest character
boundary below it.

* `takeBytes`, `dropBytes` — the text before and after the cut; `takeBytes_append_dropBytes`
* `floorBoundary` — the boundary that a cut falls back to; `floorBoundary_le`
* `slice?` — the strict reading of a range: both ends have to be boundaries

All recursion is on the text.
-/

namespace LexicalScope.Text

/-- The number of bytes of the UTF-8 form. -/
def byteLength : List Char → Nat
  | [] => 0
  | c :: rest => c.utf8Size + byteLength rest

/-- The longest prefix of at most `n` bytes. -/
def takeBytes : Nat → List Char → List Char
  | _, [] => []
  | n, c :: rest => if c.utf8Size ≤ n then c :: takeBytes (n - c.utf8Size) rest else []

/-- What follows the longest prefix of at most `n` bytes. -/
def dropBytes : Nat → List Char → List Char
  | _, [] => []
  | n, c :: rest => if c.utf8Size ≤ n then dropBytes (n - c.utf8Size) rest else c :: rest

/-- The greatest character boundary that is not above the offset `n`. -/
def floorBoundary (s : List Char) (n : Nat) : Nat := byteLength (takeBytes n s)

/-- Whether a character of `s` begins at the offset `n`, or `s` ends there. -/
def IsBoundary (s : List Char) (n : Nat) : Prop := floorBoundary s n = n

instance (s : List Char) (n : Nat) : Decidable (IsBoundary s n) :=
  inferInstanceAs (Decidable (_ = _))

/-- The text from `b` to `e`, if these are boundaries in this order. -/
def slice? (s : List Char) (b e : Nat) : Option (List Char) :=
  if b ≤ e ∧ IsBoundary s b ∧ IsBoundary s e then some (takeBytes (e - b) (dropBytes b s)) else none

/-! ## Laws of the cut -/

theorem byteLength_append (s t : List Char) :
    byteLength (s ++ t) = byteLength s + byteLength t := by
  induction s with
  | nil => simp [byteLength]
  | cons c rest ih => simp [byteLength, ih, Nat.add_assoc]

/-- **Nothing is lost at a cut.** -/
theorem takeBytes_append_dropBytes (n : Nat) (s : List Char) :
    takeBytes n s ++ dropBytes n s = s := by
  induction s generalizing n with
  | nil => rfl
  | cons c rest ih =>
    unfold takeBytes dropBytes
    split
    · rw [List.cons_append, ih]
    · rfl

/-- **The cut never lies past the offset.** -/
theorem floorBoundary_le (s : List Char) (n : Nat) : floorBoundary s n ≤ n := by
  unfold floorBoundary
  induction s generalizing n with
  | nil => exact Nat.zero_le n
  | cons c rest ih =>
    unfold takeBytes
    split
    · next h =>
      have := ih (n - c.utf8Size)
      simp only [byteLength]
      omega
    · exact Nat.zero_le n

theorem takeBytes_byteLength (s t : List Char) : takeBytes (byteLength s) (s ++ t) = s := by
  induction s with
  | nil =>
    cases t with
    | nil => rfl
    | cons c t =>
      have := c.utf8Size_pos
      rw [byteLength, List.nil_append, takeBytes, if_neg (by omega)]
  | cons c rest ih =>
    rw [byteLength, List.cons_append, takeBytes, if_pos (by omega), Nat.add_sub_cancel_left, ih]

theorem dropBytes_byteLength (s t : List Char) : dropBytes (byteLength s) (s ++ t) = t := by
  induction s with
  | nil =>
    cases t with
    | nil => rfl
    | cons c t =>
      have := c.utf8Size_pos
      rw [byteLength, List.nil_append, dropBytes, if_neg (by omega)]
  | cons c rest ih =>
    rw [byteLength, List.cons_append, dropBytes, if_pos (by omega), Nat.add_sub_cancel_left, ih]

end LexicalScope.Text
