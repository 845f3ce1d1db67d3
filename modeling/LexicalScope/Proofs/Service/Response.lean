import LexicalScope.Proofs.Json.RoundTrip
import LexicalScope.Service.Response
import Mathlib.Algebra.Group.Int.Defs

/-!
# Answers in text

An answer is classified the same way whether it comes as a value or as the text of one. The two ways
part only where the text nests deeper than a reader follows: then there is a refusal, and nothing of
the answer.

* `ofText_toText` — what the text of a value is taken for
* `ofText_toText_at_limit` — a message with escapes, and lists on both sides of the limit
-/

namespace LexicalScope

namespace Json

/-- As many lists within each other, and an empty one. -/
def nestedLists : Nat → Json
  | 0 => .array []
  | n + 1 => .array [nestedLists n]

/-- Lists within each other are nested as deeply as there are lists. -/
theorem nesting_nestedLists (n : Nat) : (nestedLists n).nesting = n + 1 := by
  induction n with
  | zero => rfl
  | succ n ih => simp [nestedLists, nesting, nestingItems, ih]

theorem parts_nestedLists {p : Json} {n : Nat} (h : p ∈ (nestedLists n).parts) :
    ∃ items, p = .array items := by
  induction n with
  | zero => exact ⟨[], List.mem_singleton.mp h⟩
  | succ n ih =>
    rw [nestedLists, parts, partsItems, partsItems, List.append_nil, List.mem_cons] at h
    obtain rfl | h := h
    · exact ⟨_, rfl⟩
    · exact ih h

theorem integral_nestedLists (n : Nat) : (nestedLists n).Integral := by
  intro p hp x hx
  obtain ⟨items, rfl⟩ := parts_nestedLists hp
  cases hx

theorem ordered_nestedLists (n : Nat) : (nestedLists n).Ordered := by
  intro p hp members hm
  obtain ⟨items, rfl⟩ := parts_nestedLists hp
  cases hm

end Json

namespace Service.Response

/-- **A text is taken for what its value is taken for.** A value whose numbers are integers, written
as text, is classified as the value itself, or refused as the value itself is, if at most 127 of its
lists and objects are within each other. A text that nests deeper is refused as unreadable. -/
theorem ofText_toText {v : Json} (hi : v.Integral) (ho : v.Ordered) :
    (v.nesting ≤ 127 → ofText v.toText = ofValue v) ∧
      (127 < v.nesting → ∃ position : Text.Position,
        ofText v.toText = .error (.unconvertible
            (Json.SyntaxError.message ⟨.nestedTooDeep, position⟩)) ∧
          ∀ r, ofText v.toText = .error r → r.kind = .serialization) := by
  constructor
  · intro hn
    have hread := Json.ofText_toText_of_nesting_le hi ho hn
    simp only [ofText, hread]
  · intro hn
    obtain ⟨position, hread⟩ := Json.ofText_toText_of_lt_nesting hi ho hn
    have hrefused : ofText v.toText = .error (.unconvertible
        (Json.SyntaxError.message ⟨.nestedTooDeep, position⟩)) := by
      simp only [ofText, hread]
    refine ⟨position, hrefused, fun r hr => ?_⟩
    rw [hrefused] at hr
    cases hr
    rfl

/-- A message with characters that are escaped is found in the text. 127 lists are read and are no
answer, and one more list is not even read. -/
theorem ofText_toText_at_limit :
    let v : Json := .object ⟨[("error", .string "\"\u0001\n\\😀"), ("line",
      .array [.whole ⟨-2 ^ 63, by decide, by decide⟩, .object ⟨[]⟩])]⟩
    v.Integral ∧ v.Ordered ∧ ofText v.toText = .ok (.failure "\"\u0001\n\\😀") ∧
      ofText (Json.nestedLists 126).toText = ofValue (Json.nestedLists 126) ∧
      (∃ r, ofText (Json.nestedLists 127).toText = .error r ∧ r.kind = .serialization) := by
  intro v
  have hi : v.Integral := by
    simp [v, Json.Integral, Json.parts, Json.partsMembers, Json.partsItems]
  have ho : v.Ordered := by
    intro p hp members hm
    subst hm
    simp [v, Json.parts, Json.partsMembers, Json.partsItems] at hp
    rcases hp with rfl | rfl
    · unfold Dict.Sorted
      decide
    · exact Dict.sorted_empty
  refine ⟨hi, ho, ?_, ?_, ?_⟩
  · rw [(ofText_toText hi ho).1 (by decide)]
    rfl
  · have hlists := ofText_toText (Json.integral_nestedLists 126) (Json.ordered_nestedLists 126)
    exact hlists.1 (Nat.le_of_eq (Json.nesting_nestedLists 126))
  · have hlists := ofText_toText (Json.integral_nestedLists 127) (Json.ordered_nestedLists 127)
    obtain ⟨position, hrefused, hkind⟩ := hlists.2 (by rw [Json.nesting_nestedLists]; decide)
    exact ⟨_, hrefused, hkind _ hrefused⟩

end Service.Response

end LexicalScope
