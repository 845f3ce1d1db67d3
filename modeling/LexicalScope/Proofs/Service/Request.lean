import LexicalScope.Proofs.Json.Printable
import LexicalScope.Proofs.Service.Classification
import LexicalScope.Service.Request

/-!
# Requests in text

The body of a request is read back as an object whose one member is the code, whatever the code is:
nothing in it ends its string early, and so nothing in it becomes a member of its own.

* `integral_toJson`, `ordered_toJson`, `nesting_toJson` — the value that is sent can be read back
* `body_eq_iff` — the body tells the code
* `body_carries_code` — all of it together
-/

namespace LexicalScope.Service.Request

variable (r : Request)

/-- The members of the value that is sent. -/
def members : Dict String Json := ⟨[("code", .string r.code)]⟩

theorem toJson_eq : r.toJson = .object r.members := rfl

theorem sorted_members : r.members.Sorted := List.pairwise_singleton _ _

theorem parts_toJson : r.toJson.parts = [.object r.members, .string r.code] := by
  simp [toJson_eq, members, Json.parts, Json.partsMembers]

theorem integral_toJson : r.toJson.Integral := by
  intro p hp x hx
  rw [parts_toJson] at hp
  subst hx
  simp at hp

theorem ordered_toJson : r.toJson.Ordered := by
  intro p hp members hm
  rw [parts_toJson] at hp
  subst hm
  simp only [List.mem_cons, Json.object.injEq, reduceCtorEq, List.not_mem_nil, or_false] at hp
  rw [hp]
  exact r.sorted_members

theorem nesting_toJson : r.toJson.nesting = 1 := by
  simp [toJson_eq, members, Json.nesting, Json.nestingMembers]

/-- The body reads back as the value. -/
theorem ofText_body : Json.ofText r.body = .ok r.toJson := by
  refine Json.ofText_toText_of_nesting_le r.integral_toJson r.ordered_toJson ?_
  rw [nesting_toJson]
  decide

/-- No code makes a message of the object. -/
theorem not_isMessage_members (message : String) : ¬ IsMessage r.members message := by
  intro h
  cases h

/-- Were the body sent back, it would be a success with the code as its section. -/
theorem response_ofText_body : Response.ofText r.body = .ok (.success r.members) := by
  simp only [Response.ofText, ofText_body, toJson_eq]
  exact Response.ofValue_of_not_isMessage r.sorted_members r.not_isMessage_members

/-- **The body tells the code,** for it reads back. -/
theorem body_eq_iff {r r' : Request} : r.body = r'.body ↔ r = r' := by
  constructor
  · intro h
    have hread := r.ofText_body
    rw [h, ofText_body] at hread
    cases r
    cases r'
    cases hread
    rfl
  · rintro rfl
    rfl

/-- **Source code survives the body of its request.** Whatever the code is, the body has no control
character below U+0020, and it is taken for an answer with one section, which is the code as it was.
Other code has another body. -/
theorem body_carries_code (code : String) :
    Printable (Request.mk code).body.toList ∧
      Response.ofText (Request.mk code).body =
        .ok (.success ⟨[("code", .string code)]⟩) ∧
      ∀ other, (Request.mk other).body = (Request.mk code).body ↔ other = code := by
  refine ⟨?_, response_ofText_body _, fun other => ?_⟩
  · rw [body, Json.toText, String.toList_ofList]
    exact Json.printable_text _
  · rw [body_eq_iff, Request.mk.injEq]

/-- Code that would end its string early and go on with an error member, if it were not escaped. -/
theorem body_carries_code_of_quotes :
    let code := "\", \"error\": \"\x01\n\\"
    Printable (Request.mk code).body.toList ∧
      Response.ofText (Request.mk code).body = .ok (.success ⟨[("code", .string code)]⟩) ∧
      (Request.mk "").body ≠ (Request.mk code).body := by
  intro code
  obtain ⟨hprintable, hread, hother⟩ := body_carries_code code
  refine ⟨hprintable, hread, fun heq => ?_⟩
  exact absurd ((hother "").mp heq) (by decide)

end LexicalScope.Service.Request
