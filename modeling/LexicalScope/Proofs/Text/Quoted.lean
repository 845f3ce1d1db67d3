import LexicalScope.Proofs.Json.Collected
import LexicalScope.Text.Blank
import LexicalScope.Text.Quoted

/-!
# Quoted texts can be told apart

The written form of a character tells the character, and where it ends, whatever comes after it: an
escape begins with a backslash, which never stands for itself, and the digits of an escape by number
end with a brace. So a text is read back from its quoted form. In that form there is nothing that
breaks a line or steers a terminal, for every control character and every blank but the space is
among the characters that are escaped.

* `firstQuoted?` — reads the written form of one character; `firstQuoted?_quoteChar_append`
* `quote_inj` — different texts have different quoted forms
* `Plain` — texts without control characters and with no blank but the space
* `isHidden_of_isControl`, `isHidden_of_isBlank` — what would not be plain is hidden
* `plain_quote` — every quoted text is plain
-/

namespace LexicalScope.Text

/-! ## Reading back -/

/-- The number that hexadecimal digits stand for. -/
def hexNumber (ds : List Char) : Nat :=
  ds.foldl (fun n d => 16 * n + (Json.hexValue? d).getD 0) 0

/-- The character at the beginning of a quoted text, and the written form of those behind it. -/
def firstQuoted? : List Char → Option (Char × List Char)
  | [] => none
  | '\\' :: '0' :: rest => some ('\x00', rest)
  | '\\' :: 't' :: rest => some ('\t', rest)
  | '\\' :: 'r' :: rest => some ('\r', rest)
  | '\\' :: 'n' :: rest => some ('\n', rest)
  | '\\' :: '"' :: rest => some ('"', rest)
  | '\\' :: '\\' :: rest => some ('\\', rest)
  | '\\' :: 'u' :: '\x7b' :: rest =>
    some (Char.ofNat (hexNumber (rest.takeWhile (· ≠ '\x7d'))),
      (rest.dropWhile (· ≠ '\x7d')).drop 1)
  | c :: rest => some (c, rest)

/-- What a predicate says of the sixteen digits it says of the digits of every number. -/
theorem forall_mem_toDigits {P : Char → Prop} (h : ∀ d < 16, P (Nat.digitChar d)) (n : Nat) :
    ∀ c ∈ Nat.toDigits 16 n, P c := by
  induction n using Nat.base_induction 16 (by decide) with
  | single d hd =>
    rw [Nat.toDigits_of_lt_base hd]
    exact List.forall_mem_singleton.mpr (h d hd)
  | digit n d hd hn ih =>
    rw [← Nat.toDigits_append_toDigits (by decide) hn hd, Nat.toDigits_of_lt_base hd]
    exact List.forall_mem_append.mpr ⟨ih, List.forall_mem_singleton.mpr (h d hd)⟩

/-- **The digits of a number tell the number.** -/
theorem hexNumber_toDigits (n : Nat) : hexNumber (Nat.toDigits 16 n) = n := by
  have hdigit : ∀ d < 16, (Json.hexValue? (Nat.digitChar d)).getD 0 = d := by
    intro d hd
    exact congrArg (·.getD 0) (Json.hexValue?_hexDigit d hd)
  induction n using Nat.base_induction 16 (by decide) with
  | single d hd => simp [hexNumber, Nat.toDigits_of_lt_base hd, hdigit d hd]
  | digit n d hd hn ih =>
    rw [← Nat.toDigits_append_toDigits (by decide) hn hd, Nat.toDigits_of_lt_base hd]
    unfold hexNumber at ih ⊢
    rw [List.foldl_append, ih, List.foldl_cons, List.foldl_nil, hdigit d hd]

/-- An escape by number ends with the first brace. -/
theorem firstQuoted?_numberEscape_append (c : Char) (rest : List Char) :
    firstQuoted? (numberEscape c ++ rest) = some (c, rest) := by
  have hdigits : ∀ d ∈ Nat.toDigits 16 c.toNat, decide (d ≠ '\x7d') = true :=
    forall_mem_toDigits (by decide) c.toNat
  have hbrace : decide ('\x7d' ≠ '\x7d') = false := by decide
  simp only [numberEscape, List.cons_append, List.append_assoc, List.nil_append, firstQuoted?]
  rw [List.takeWhile_append_of_pos hdigits, List.dropWhile_append_of_pos hdigits,
    List.takeWhile_cons_of_neg (by simp), List.dropWhile_cons_of_neg (by simp), List.append_nil,
    hexNumber_toDigits, Char.ofNat_toNat]
  rfl

/-- A character that is no backslash begins no escape. -/
theorem firstQuoted?_cons_of_ne {c : Char} (h : c ≠ '\\') (rest : List Char) :
    firstQuoted? (c :: rest) = some (c, rest) := by
  simp [firstQuoted?, h]

/-- **The written form of a character tells the character,** in front of any text. -/
theorem firstQuoted?_quoteChar_append (c : Char) (rest : List Char) :
    firstQuoted? (quoteChar c ++ rest) = some (c, rest) := by
  unfold quoteChar
  split
  case h_7 =>
    -- no escape of its own: by its number if it is not to be seen, else as it is
    split
    · exact firstQuoted?_numberEscape_append c rest
    · next hslash _ => exact firstQuoted?_cons_of_ne hslash rest
  all_goals rfl

theorem quoteChar_ne_nil (c : Char) : quoteChar c ≠ [] := by
  intro h
  have hread := firstQuoted?_quoteChar_append c []
  rw [h] at hread
  cases hread

/-- **A text is told by its written form.** -/
theorem quoteBody_inj {s t : List Char} : quoteBody s = quoteBody t ↔ s = t := by
  refine ⟨fun h => ?_, fun h => congrArg quoteBody h⟩
  unfold quoteBody at h
  induction s generalizing t with
  | nil =>
    cases t with
    | nil => rfl
    | cons d t => exact absurd (List.append_eq_nil_iff.mp h.symm).1 (quoteChar_ne_nil d)
  | cons c s ih =>
    cases t with
    | nil => exact absurd (List.append_eq_nil_iff.mp h).1 (quoteChar_ne_nil c)
    | cons d t =>
      have hread := congrArg firstQuoted? h
      simp only [List.flatMap_cons, firstQuoted?_quoteChar_append, Option.some.injEq,
        Prod.mk.injEq] at hread
      rw [hread.1, ih hread.2]

theorem quote_inj {s t : String} : quote s = quote t ↔ s = t := by
  rw [quote, quote, String.ofList_inj, List.cons_inj_right, List.append_left_inj, quoteBody_inj,
    String.toList_inj]

/-! ## Plain texts -/

/-- The text has no control character, and no blank but the space. -/
def Plain (cs : List Char) : Prop :=
  ∀ c ∈ cs, isControl c = false ∧ (isBlank c = true → c = ' ')

instance (cs : List Char) : Decidable (Plain cs) := List.decidableBAll _ cs

@[simp]
theorem plain_nil : Plain [] := fun _ h => absurd h List.not_mem_nil

@[simp]
theorem plain_cons {c : Char} {cs : List Char} :
    Plain (c :: cs) ↔ (isControl c = false ∧ (isBlank c = true → c = ' ')) ∧ Plain cs :=
  List.forall_mem_cons

@[simp]
theorem plain_append {cs ds : List Char} : Plain (cs ++ ds) ↔ Plain cs ∧ Plain ds :=
  List.forall_mem_append

/-- The characters of the ASCII range that can be seen, and the space. -/
def visibleAscii : Ranges := [(0x20, 0x7E)]

theorem isHidden_of_contains {c : Char} (hseen : visibleAscii.contains c = false)
    (h : hidden.contains c = true) : isHidden c = true := by
  have hrange : c.toNat < 0x20 ∨ 0x7F ≤ c.toNat := by
    simp only [visibleAscii, Ranges.contains, Ranges.containsCode, List.any_cons, List.any_nil,
      Bool.or_false, Bool.and_eq_false_iff, decide_eq_false_iff_not] at hseen
    omega
  simp [isHidden, h, hrange]

/-- **Control characters are hidden.** -/
theorem isHidden_of_isControl {c : Char} (h : isControl c = true) : isHidden c = true := by
  have hcontrol : controls.contains c = true := h
  exact isHidden_of_contains (Ranges.contains_eq_false_of_apart (by decide) hcontrol)
    (Ranges.contains_of_covers (by decide) hcontrol)

/-- The blanks but for the space. -/
def otherBlanks : Ranges := blanks.filter (· ≠ (0x20, 0x20))

theorem otherBlanks_contains {c : Char} (h : isBlank c = true) (hc : c ≠ ' ') :
    otherBlanks.contains c = true := by
  obtain ⟨r, hr, hin⟩ := List.any_eq_true.mp h
  refine List.any_eq_true.mpr ⟨r, List.mem_filter.mpr ⟨hr, decide_eq_true ?_⟩, hin⟩
  rintro rfl
  refine hc (Char.toNat_inj.mp ?_)
  simp only [Bool.and_eq_true, decide_eq_true_eq] at hin
  exact Nat.le_antisymm hin.2 hin.1

/-- **Blanks are hidden,** but for the space. -/
theorem isHidden_of_isBlank {c : Char} (h : isBlank c = true) (hc : c ≠ ' ') :
    isHidden c = true := by
  have hother := otherBlanks_contains h hc
  exact isHidden_of_contains (Ranges.contains_eq_false_of_apart (by decide) hother)
    (Ranges.contains_of_covers (by decide +kernel) hother)

theorem plain_numberEscape (c : Char) : Plain (numberEscape c) := by
  have hdigits : Plain (Nat.toDigits 16 c.toNat) := forall_mem_toDigits (by decide) c.toNat
  have hlead : Plain ['\\', 'u', '\x7b'] := by decide
  have hend : Plain ['\x7d'] := by decide
  have hrest : Plain (Nat.toDigits 16 c.toNat ++ ['\x7d']) := plain_append.mpr ⟨hdigits, hend⟩
  exact List.forall_mem_append.mpr ⟨hlead, hrest⟩

/-- **The written form of a character is plain.** -/
theorem plain_quoteChar (c : Char) : Plain (quoteChar c) := by
  unfold quoteChar
  split
  case h_7 =>
    split
    · exact plain_numberEscape c
    · next hnot =>
      -- what is written as it is, is not hidden
      have hhidden : isHidden c ≠ true := fun h => hnot (by rw [h, Bool.or_true])
      refine plain_cons.mpr ⟨⟨?_, fun hblank => ?_⟩, plain_nil⟩
      · exact Bool.eq_false_iff.mpr fun hcontrol => hhidden (isHidden_of_isControl hcontrol)
      · exact Classical.byContradiction fun hc => hhidden (isHidden_of_isBlank hblank hc)
  all_goals decide

/-- **Every quoted text is plain.** -/
theorem plain_quote (s : String) : Plain (quote s).toList := by
  have hbody : Plain (quoteBody s.toList) := by
    intro c hc
    obtain ⟨d, -, hd⟩ := List.mem_flatMap.mp hc
    exact plain_quoteChar d c hd
  have hquote : Plain ['"'] := by decide
  rw [quote, String.toList_ofList, ← List.singleton_append]
  exact plain_append.mpr ⟨hquote, plain_append.mpr ⟨hbody, hquote⟩⟩

end LexicalScope.Text
