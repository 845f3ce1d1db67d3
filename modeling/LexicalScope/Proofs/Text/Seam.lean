import LexicalScope.Text.Width.Lemmas

/-!
# Where a text can be parted

A character may be drawn as one with what follows it, and then the two parts of a text that is cut
between them take other columns than the text does: an emoji without its skin tone is as wide as
with it, and the tone is wide by itself. A cut is a seam if what follows it does not matter to the
character before it. At a seam the widths of the parts add up.

* `Seam` — the cuts that part nothing; `width_append_of_seam`
* `overlap` — the columns that two parts take together less than apart; `overlap_of_seam`
* `isPlain` — the characters that are nothing to the one before them; `seam_of_forall_isPlain`
-/

namespace LexicalScope.Text.Width

/-! ## Seams -/

/-- The last character of `s` adds the same in front of `t` as at the end of a text. -/
def Seam (s t : List Char) : Prop :=
  ∀ c ∈ s.getLast?, put c (total t).2 = put c Neighbour.plain.toContext

-- by its name, for a search may also find the instance that tries every character
instance (s t : List Char) : Decidable (Seam s t) :=
  Option.decidableForallMem s.getLast?

theorem total_nil : total [] = (0, Neighbour.plain.toContext) := rfl

/-- In front of a seam the characters add what they add at the end of a text. -/
theorem total_append_of_seam {s t : List Char} (hs : s ≠ []) (h : Seam s t) :
    total (s ++ t) = ((total s).1 + (total t).1, (total s).2) := by
  induction s with
  | nil => exact absurd rfl hs
  | cons c rest ih =>
    rw [List.cons_append, total_cons, total_cons c rest]
    cases rest with
    | nil =>
      -- the two runs meet here: `c` leaves the same context in both
      rw [List.nil_append, h c rfl, total_nil, Int.zero_add, Int.add_comm]
    | cons d rest =>
      rw [ih (List.cons_ne_nil d rest) h]
      simp only [Prod.mk.injEq, and_true]
      omega

/-- **At a seam the widths add up.** -/
theorem width_append_of_seam {s t : List Char} (h : Seam s t) :
    width (s ++ t) = width s + width t := by
  cases s with
  | nil => rw [List.nil_append, show width [] = 0 from rfl, Nat.zero_add]
  | cons c rest =>
    have htotal := congrArg Prod.fst (total_append_of_seam (List.cons_ne_nil c rest) h)
    simp only [← width_eq_total] at htotal
    exact Int.ofNat_inj.mp (htotal.trans (Int.natCast_add _ _).symm)

/-! ## Parts that overlap -/

/-- The columns that `s` and `t` take together less than apart. -/
def overlap (s t : List Char) : Int := width s + width t - width (s ++ t)

theorem overlap_of_seam {s t : List Char} (h : Seam s t) : overlap s t = 0 := by
  rw [overlap, width_append_of_seam h]
  omega

/-- Three parts of a text, with the overlaps at the two cuts. -/
theorem width_append_append (s t u : List Char) :
    (width (s ++ (t ++ u)) : Int) =
      width s + width t + width u - overlap s (t ++ u) - overlap t u := by
  unfold overlap
  omega

/-! ## Plain texts -/

/-- Whether a character is nothing to the one before it: no selector, and nothing that another
character joins. -/
def isPlain (c : Char) : Bool :=
  decide (Neighbour.ofChar c = .plain) && c != '\uFE0E' && c != '\uFE0F'

theorem put_of_isPlain {c : Char} (h : isPlain c = true) :
    (put c Neighbour.plain.toContext).2 = Neighbour.plain.toContext := by
  simp only [isPlain, Bool.and_eq_true, decide_eq_true_eq, bne_iff_ne] at h
  obtain ⟨⟨hplain, htext⟩, hemoji⟩ := h
  simp [put, putNarrow, putPlain, joinEmoji?, joinLetter?, Neighbour.letter, Neighbour.toContext,
    hplain, htext, hemoji]

/-- A plain text is nothing to what comes before it. -/
theorem total_of_forall_isPlain {s : List Char} (h : ∀ c ∈ s, isPlain c = true) :
    (total s).2 = Neighbour.plain.toContext := by
  induction s with
  | nil => rfl
  | cons c rest ih =>
    rw [List.forall_mem_cons] at h
    rw [total_cons, ih h.2, put_of_isPlain h.1]

/-- **In front of a plain text every cut is a seam.** -/
theorem seam_of_forall_isPlain (s : List Char) {t : List Char} (h : ∀ c ∈ t, isPlain c = true) :
    Seam s t := by
  intro c _
  rw [total_of_forall_isPlain h]

end LexicalScope.Text.Width
