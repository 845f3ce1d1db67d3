import LexicalScope.Proofs.Json.RoundTrip

/-!
# Texts without control characters

The text of a value has no character below U+0020, whatever strings are in it: in a string such a
character is escaped, and what an escape is written with is printable.

* `Printable` — a text without such characters
* `printable_stringText`, `printable_float` — strings and numbers
* `printable_text` — the text of every value
-/

namespace LexicalScope

/-- The text has no character below U+0020. -/
def Printable (cs : List Char) : Prop := ∀ c ∈ cs, 0x20 ≤ c.toNat

instance (cs : List Char) : Decidable (Printable cs) := List.decidableBAll _ cs

@[simp]
theorem printable_nil : Printable [] := fun _ h => absurd h List.not_mem_nil

/-- A text is printable exactly if its first character is and the rest. -/
@[simp]
theorem printable_cons {c : Char} {cs : List Char} :
    Printable (c :: cs) ↔ 0x20 ≤ c.toNat ∧ Printable cs := List.forall_mem_cons

@[simp]
theorem printable_append {cs ds : List Char} :
    Printable (cs ++ ds) ↔ Printable cs ∧ Printable ds := List.forall_mem_append

theorem Printable.of_subset {cs ds : List Char} (h : Printable cs) (hs : ds ⊆ cs) : Printable ds :=
  fun c hc => h c (hs hc)

theorem printable_flatMap {α : Type} {piece : α → List Char} {xs : List α}
    (h : ∀ x ∈ xs, Printable (piece x)) : Printable (xs.flatMap piece) := by
  intro c hc
  obtain ⟨x, hx, hc⟩ := List.mem_flatMap.mp hc
  exact h x hx c hc

/-! ## Numbers -/

theorem printable_toDigits (n : Nat) : Printable (Nat.toDigits 10 n) := by
  intro c hc
  have hdigit := Json.isDigit_of_mem_toDigits c hc
  simp only [Char.isDigit, Bool.and_eq_true, decide_eq_true_eq] at hdigit
  have hlow : '0'.toNat ≤ c.toNat := hdigit.1
  exact Nat.le_trans (by decide) hlow

theorem printable_zeros (n : Nat) : Printable (List.replicate n '0') := by
  intro c hc
  rw [List.eq_of_mem_replicate hc]
  decide

namespace Decimal

/-- Neither the point nor the zeros beside it are control characters. -/
theorem printable_positional {digits : List Char} (h : Printable digits) (exponent : Int) :
    Printable (positional digits exponent) := by
  simp only [positional]
  split
  · simp [h, printable_zeros]
  · split
    · simp [h.of_subset (List.take_subset _ _), h.of_subset (List.drop_subset _ _)]
    · simp [h, printable_zeros]

theorem printable_scientific {digits : List Char} (h : Printable digits) (leading : Int) :
    Printable (scientific digits leading) := by
  have hsign : 0x20 ≤ (if 0 ≤ leading then '+' else '-').toNat := by split <;> decide
  have hfirst : Printable (digits.take 1) := h.of_subset (List.take_subset _ _)
  have hothers : Printable digits.tail := fun c hc => h c (List.mem_of_mem_tail hc)
  simp only [scientific]
  split
  · simp [h, hsign, printable_toDigits]
  · simp [hfirst, hothers, hsign, printable_toDigits]

theorem printable_text (style : DecimalStyle) (d : Decimal) : Printable (d.text style) := by
  simp only [text]
  split
  · exact printable_positional (printable_toDigits _) _
  · exact printable_scientific (printable_toDigits _) _

end Decimal

namespace Json

theorem printable_integerText (n : Int) : Printable (integerText n) := by
  unfold integerText
  split
  · simp [printable_toDigits]
  · exact printable_toDigits _

theorem printable_float {f : BinaryFormat} (x : Binary f) : Printable x.text := by
  simp only [Binary.text]
  split
  · simp [Decimal.printable_text]
  · exact Decimal.printable_text _ _

/-! ## Strings -/

theorem toNat_hexDigit : ∀ n < 16, 0x20 ≤ (hexDigit n).toNat := by decide

/-- **A character is written with printable characters only.** -/
theorem printable_escapeChar (c : Char) : Printable (escapeChar c) := by
  unfold escapeChar
  split
  case h_8 =>
    -- characters without an escape of their own: by their number below U+0020, else as they are
    split
    · next hlow =>
      have hhigh := toNat_hexDigit (c.toNat / 16) (by omega)
      have hlow' := toNat_hexDigit (c.toNat % 16) (by omega)
      simp [hhigh, hlow']
    · next hlow => simpa using hlow
  all_goals decide

/-- Control characters in a string are written as escapes, which are printable. -/
theorem printable_stringText (s : String) : Printable (stringText s) := by
  have hchars : Printable (s.toList.flatMap escapeChar) :=
    printable_flatMap fun c _ => printable_escapeChar c
  simp [stringText, hchars]

/-! ## Values -/

/-- Pieces with commas between them are printable if each piece is. -/
theorem printable_separated {α : Type} {text : α → List Char} {xs : List α}
    (h : ∀ x ∈ xs, Printable (text x)) : Printable (separated text xs) := by
  cases xs with
  | nil => exact printable_nil
  | cons x xs =>
    obtain ⟨hx, hxs⟩ := List.forall_mem_cons.mp h
    rw [separated, printable_append]
    refine ⟨hx, printable_flatMap fun y hy => ?_⟩
    simp [hxs y hy]

mutual

/-- **The text of a value is printable.** The induction is on the value. -/
theorem printable_text (v : Json) : Printable v.text := by
  match v with
  | .null => decide
  | .bool true => decide
  | .bool false => decide
  | .whole n => exact printable_integerText n.val
  | .float x => exact printable_float x
  | .string s => exact printable_stringText s
  | .array items =>
    have hitems := printable_separated (printable_items items)
    simp [text, itemsText_eq_separated, hitems]
  | .object ⟨members⟩ =>
    have hmembers := printable_separated (printable_members members)
    simp [text, membersText_eq_separated, hmembers]
termination_by structural v

theorem printable_items (items : List Json) : ∀ v ∈ items, Printable v.text := by
  match items with
  | [] => exact fun _ h => absurd h List.not_mem_nil
  | v :: rest => exact List.forall_mem_cons.mpr ⟨printable_text v, printable_items rest⟩
termination_by structural items

theorem printable_members (members : List (String × Json)) :
    ∀ e ∈ members, Printable (memberText e) := by
  match members with
  | [] => exact fun _ h => absurd h List.not_mem_nil
  | (name, v) :: rest =>
    have hmember : Printable (memberText (name, v)) := by
      simp [memberText, printable_stringText, printable_text v]
    exact List.forall_mem_cons.mpr ⟨hmember, printable_members rest⟩
termination_by structural members

end

end Json

end LexicalScope
