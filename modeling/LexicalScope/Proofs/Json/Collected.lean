import LexicalScope.Json.Reading.Quoted
import LexicalScope.Json.Text

/-!
# Collected text

What is written piece by piece is read piece by piece: the characters of a string, each in its
written form, and the parts of a list, each after a comma. A part that opens too many brackets
ends the reading of the whole.

* `ReadsIf` — a reader reads a value off the text if a condition holds, and else refuses a bracket
* `collect_pieces` — pieces up to a closing character
* `collectAll_separated` — parts with commas between them
* `quotedChar_escapeChar_append`, `quoted_append` — a string reads back
-/

namespace LexicalScope.Json

/-! ## Pieces -/

/-- The result of reading a text that is made of the text of `x` and of `rest`: `x` if the
condition holds, and else no value but a refusal of a bracket. -/
def ReadsIf {α : Type} (condition : Prop) (x : α) (rest : List Char)
    (result : Except ReadFailure (α × List Char)) : Prop :=
  (condition → result = .ok (x, rest)) ∧ (¬ condition → ∃ n, result = .error ⟨.nestedTooDeep, n⟩)

section Pieces

variable {α : Type} {step : Bool → Reader (Option α)} {fits : α → Prop} {piece : α → List Char}
  {closing : Char}

/-- **Pieces up to a closing character are collected,** unless one is refused. -/
theorem collect_pieces {xs : List α} (rest : List Char)
    (hclose : step false (closing :: rest) = .ok (none, rest))
    (hpiece : ∀ x ∈ xs, ∀ ys : List α,
      ReadsIf (fits x) (some x) (ys.flatMap piece ++ closing :: rest)
        (step false (piece x ++ (ys.flatMap piece ++ closing :: rest))))
    {rounds : Nat} (hrounds : xs.length < rounds) (read : List α) :
    ReadsIf (∀ x ∈ xs, fits x) (read.reverse ++ xs) rest
      (collect step rounds false read (xs.flatMap piece ++ closing :: rest)) := by
  induction xs generalizing rounds read with
  | nil =>
    obtain ⟨n, rfl⟩ := Nat.exists_eq_succ_of_ne_zero (Nat.ne_of_gt hrounds)
    refine ⟨fun _ => ?_, fun h => absurd (fun x hx => absurd hx List.not_mem_nil) h⟩
    simp [collect, hclose]
  | cons x xs ih =>
    obtain ⟨n, rfl⟩ := Nat.exists_eq_succ_of_ne_zero (Nat.ne_of_gt (Nat.zero_lt_of_lt hrounds))
    obtain ⟨hhead, hlater⟩ := List.forall_mem_cons.mp hpiece
    obtain ⟨hreads, hrefuses⟩ := hhead xs
    rw [List.flatMap_cons, List.append_assoc, List.forall_mem_cons, collect]
    by_cases hx : fits x
    · have hrest := ih hlater (Nat.lt_of_succ_lt_succ hrounds) (x :: read)
      rw [List.reverse_cons, List.append_assoc, List.singleton_append] at hrest
      rw [hreads hx, and_iff_right hx]
      exact hrest
    · obtain ⟨k, hk⟩ := hrefuses hx
      refine ⟨fun h => absurd h.1 hx, fun _ => ⟨k, ?_⟩⟩
      rw [hk]

theorem length_le_length_flatMap (hpiece : ∀ x, piece x ≠ []) (xs : List α) :
    xs.length ≤ (xs.flatMap piece).length := by
  induction xs with
  | nil => exact Nat.zero_le _
  | cons x xs ih =>
    have := List.length_pos_iff.mpr (hpiece x)
    rw [List.flatMap_cons, List.length_append, List.length_cons]
    omega

end Pieces

/-! ## Parts with commas between them -/

section Separated

variable {α : Type} {step : Bool → Reader (Option α)} {fits : α → Prop} {text : α → List Char}
  {closing : Char}

/-- The texts of the parts with commas between them. -/
def separated (text : α → List Char) : List α → List Char
  | [] => []
  | x :: xs => text x ++ xs.flatMap fun y => ',' :: text y

/-- What may follow a part of a list: a comma, or the closing bracket. -/
def Continues (closing : Char) (rest : List Char) : Prop :=
  rest.head? = some ',' ∨ rest.head? = some closing

theorem continues_parts (xs : List α) (rest : List Char) :
    Continues closing ((xs.flatMap fun y => ',' :: text y) ++ closing :: rest) := by
  cases xs with
  | nil => exact Or.inr rfl
  | cons x xs => exact Or.inl rfl

/-- **Parts up to a closing bracket are collected,** unless one is refused. -/
theorem collectAll_separated {xs : List α} (rest : List Char)
    (hclose : ∀ isFirst, step isFirst (closing :: rest) = .ok (none, rest))
    (hfirst : ∀ x ∈ xs, ∀ left, Continues closing left →
      ReadsIf (fits x) (some x) left (step true (text x ++ left)))
    (hnext : ∀ x ∈ xs, ∀ left, Continues closing left →
      ReadsIf (fits x) (some x) left (step false (',' :: text x ++ left))) :
    ReadsIf (∀ x ∈ xs, fits x) xs rest
      (collectAll step (separated text xs ++ closing :: rest)) := by
  unfold collectAll
  cases xs with
  | nil =>
    refine ⟨fun _ => ?_, fun h => absurd (fun x hx => absurd hx List.not_mem_nil) h⟩
    simp [separated, collect, hclose]
  | cons x xs =>
    obtain ⟨hhead, -⟩ := List.forall_mem_cons.mp hfirst
    obtain ⟨-, hlater⟩ := List.forall_mem_cons.mp hnext
    obtain ⟨hreads, hrefuses⟩ := hhead _ (continues_parts xs rest)
    rw [separated, List.append_assoc, List.forall_mem_cons, collect]
    by_cases hx : fits x
    · rw [hreads hx, and_iff_right hx]
      refine collect_pieces rest (hclose false) (fun y hy ys => ?_) ?_ [x]
      · exact hlater y hy _ (continues_parts ys rest)
      · -- each part that is left begins with a comma, and so there are rounds enough
        have hlength : xs.length ≤ (xs.flatMap fun y => ',' :: text y).length :=
          length_le_length_flatMap (fun y => List.cons_ne_nil _ _) xs
        simp only [List.length_append, List.length_cons]
        omega
    · obtain ⟨k, hk⟩ := hrefuses hx
      refine ⟨fun h => absurd h.1 hx, fun _ => ⟨k, ?_⟩⟩
      rw [hk]

end Separated

/-! ## Strings -/

/-- A reader to which the first round is like any other. -/
theorem collect_const {α : Type} (step : Reader (Option α)) (rounds : Nat) (isFirst : Bool)
    (read : List α) (cs : List Char) :
    collect (fun _ => step) rounds isFirst read cs =
      collect (fun _ => step) rounds false read cs := by
  cases rounds <;> rfl

theorem hexValue?_hexDigit : ∀ n < 16, hexValue? (hexDigit n) = some n := by decide

/-- **The written form of a character reads back.** -/
theorem quotedChar_escapeChar_append (c : Char) (rest : List Char) :
    quotedChar (escapeChar c ++ rest) = .ok (some c, rest) := by
  unfold escapeChar
  split
  case h_8 =>
    split
    · next hlow =>
      have hhigh := hexValue?_hexDigit (c.toNat / 16) (by omega)
      have hlow' := hexValue?_hexDigit (c.toNat % 16) (by omega)
      have hzero : hexValue? '0' = some 0 := rfl
      have hchar : c.toNat / 16 * 16 + c.toNat % 16 = c.toNat := Nat.div_add_mod' _ _
      have hsurrogate : isLowSurrogate c.toNat = false ∧ isHighSurrogate c.toNat = false := by
        simp only [isLowSurrogate, isHighSurrogate, Bool.and_eq_false_iff, decide_eq_false_iff_not]
        omega
      simp [quotedChar, afterBackslash, numberEscape, hexQuad, hexQuad?, hzero, hhigh, hlow', hchar,
        hsurrogate, Char.ofNat_toNat]
    · next hlow =>
      simp [quotedChar, hlow]
  all_goals rfl

theorem escapeChar_ne_nil (c : Char) : escapeChar c ≠ [] := by
  unfold escapeChar
  repeat' split
  all_goals exact List.cons_ne_nil _ _

/-- **The text of a string reads back** after its opening quote. -/
theorem quoted_append (s : String) (rest : List Char) :
    quoted (s.toList.flatMap escapeChar ++ '"' :: rest) = .ok (s, rest) := by
  have hrounds : s.toList.length < (s.toList.flatMap escapeChar ++ '"' :: rest).length + 1 := by
    have := length_le_length_flatMap escapeChar_ne_nil s.toList
    rw [List.length_append]
    omega
  have hchars : ReadsIf (∀ c ∈ s.toList, True) s.toList rest
      (collect (fun _ => quotedChar) _ false [] (s.toList.flatMap escapeChar ++ '"' :: rest)) :=
    collect_pieces rest rfl
      (fun c _ _ => ⟨fun _ => quotedChar_escapeChar_append c _, fun h => absurd trivial h⟩)
      hrounds []
  rw [quoted, collectAll, collect_const, hchars.1 fun _ _ => trivial]
  simp

end LexicalScope.Json
