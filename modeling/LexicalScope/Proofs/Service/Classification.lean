import LexicalScope.Dict.Lemmas
import LexicalScope.Service.Response

/-!
# How answers are classified

An answer is looked at in one place: its error member is taken out of the object, and put back if it
is no message. What is put back leaves the object as it was, wherever its place among the members
is, and so the sections of a response are all the members of the answer.

* `IsMessage` — the member that makes an object a failure
* `Response.Holds`, `Response.Reports` — what there is to be had of a response with sections, and of
  one with a message
* `ofValue_eq_error_iff`, `ofValue_eq_failure_iff`, `ofValue_eq_success_iff` — the three outcomes
* `ofValue_keeps_payload` — each outcome with what can be had of it
-/

namespace LexicalScope.Service

/-- The object has an error member, which is the string. -/
def IsMessage (members : Dict String Json) (message : String) : Prop :=
  members.get? errorField = some (.string message)

namespace Response

/-- The response gives the sections, and these are classified as it is. -/
structure Holds (r : Response) (sections : Dict String Json) : Prop where
  isFailure_eq : r.isFailure = false
  lookup_eq : ∀ name, r.section? name = sections.get? name
  result_eq : r.result = .ok sections
  ofValue_eq : ofValue (.object sections) = .ok r

/-- The response gives the message as the help of a refusal, and nothing else. -/
structure Reports (r : Response) (message : String) : Prop where
  isFailure_eq : r.isFailure = true
  lookup_eq : ∀ name, r.section? name = none
  result_eq : ∃ refusal : Refusal, r.result = .error refusal ∧ refusal.kind = .service ∧
    refusal.help = message

theorem reports_failure (message : String) : (failure message).Reports message where
  isFailure_eq := rfl
  lookup_eq _ := rfl
  result_eq := ⟨.service message, rfl, rfl, rfl⟩

/-! ## Objects -/

theorem ofValue_of_isMessage {members : Dict String Json} {message : String}
    (h : IsMessage members message) : ofValue (.object members) = .ok (.failure message) := by
  rw [IsMessage] at h
  simp only [ofValue, h]

/-- **An object without a message is kept as it is,** for what is taken out is put back. -/
theorem ofValue_of_not_isMessage {members : Dict String Json} (hs : members.Sorted)
    (h : ∀ message, ¬ IsMessage members message) :
    ofValue (.object members) = .ok (.success members) := by
  simp only [ofValue]
  split
  · next message hget => exact absurd hget (h message)
  · next hget => rw [Dict.insert_erase_of_get?_eq_some hs hget]
  · next hget => rw [Dict.erase_of_get?_eq_none hget]

theorem holds_success {members : Dict String Json} (hs : members.Sorted)
    (h : ∀ message, ¬ IsMessage members message) : (success members).Holds members where
  isFailure_eq := rfl
  lookup_eq _ := rfl
  result_eq := rfl
  ofValue_eq := ofValue_of_not_isMessage hs h

/-! ## The three outcomes -/

/-- A value is refused exactly if it is no object; the refusal shows its text. -/
theorem ofValue_eq_error_iff {v : Json} {refusal : Refusal} :
    ofValue v = .error refusal ↔ (∀ members, v ≠ .object members) ∧
      refusal = .unconvertible ("expected a response object, found `" ++ v.toText ++ "`") := by
  cases v with
  | object members =>
    simp only [ofValue]
    split <;> simp
  | _ => simp [ofValue, eq_comm]

/-- An answer is a failure exactly if it has a message. -/
theorem ofValue_eq_failure_iff {v : Json} {message : String} :
    ofValue v = .ok (.failure message) ↔
      ∃ members, v = .object members ∧ IsMessage members message := by
  constructor
  · intro h
    cases v with
    | object members =>
      refine ⟨members, rfl, ?_⟩
      simp only [ofValue] at h
      split at h
      · next hget =>
        cases h
        exact hget
      · cases h
      · cases h
    | _ => cases h
  · rintro ⟨members, rfl, hm⟩
    exact ofValue_of_isMessage hm

/-- Every other object is a success, with all of its members. -/
theorem ofValue_eq_success_iff {v : Json} (hs : ∀ members, v = .object members → members.Sorted)
    {sections : Dict String Json} :
    ofValue v = .ok (.success sections) ↔
      v = .object sections ∧ ∀ message, ¬ IsMessage sections message := by
  constructor
  · intro h
    cases v with
    | object members =>
      by_cases hm : ∃ message, IsMessage members message
      · obtain ⟨message, hm⟩ := hm
        rw [ofValue_of_isMessage hm] at h
        cases h
      · rw [not_exists] at hm
        rw [ofValue_of_not_isMessage (hs members rfl) hm] at h
        cases h
        exact ⟨rfl, hm⟩
    | _ => cases h
  · rintro ⟨rfl, hm⟩
    exact ofValue_of_not_isMessage (hs sections rfl) hm

/-- **Classification keeps the payload.** What is no object is refused as unreadable. An object is a
failure exactly if its error member is a string, and then the string is told as the help of a
refusal by the service and there are no sections. Every other object is a success with exactly its
own members as the sections, whatever kind of error member is among them; and these members are
classified in the same way again. -/
theorem ofValue_keeps_payload {v : Json} (hs : ∀ members, v = .object members → members.Sorted) :
    ((∃ refusal, ofValue v = .error refusal ∧ refusal.kind = .serialization) ↔
        ∀ members, v ≠ .object members) ∧
      (∀ message, ofValue v = .ok (.failure message) ↔
        ∃ members, v = .object members ∧ IsMessage members message) ∧
      (∀ sections, ofValue v = .ok (.success sections) ↔
        v = .object sections ∧ ∀ message, ¬ IsMessage sections message) ∧
      (∀ sections, ofValue v = .ok (.success sections) → (success sections).Holds sections) ∧
      ∀ message, ofValue v = .ok (.failure message) → (failure message).Reports message := by
  refine ⟨?_, fun message => ofValue_eq_failure_iff, fun sections => ofValue_eq_success_iff hs, ?_,
    fun message _ => reports_failure message⟩
  · constructor
    · rintro ⟨refusal, hrefused, -⟩
      exact (ofValue_eq_error_iff.mp hrefused).1
    · intro h
      exact ⟨_, ofValue_eq_error_iff.mpr ⟨h, rfl⟩, rfl⟩
  · intro sections h
    obtain ⟨rfl, hm⟩ := (ofValue_eq_success_iff hs).mp h
    exact holds_success (hs sections rfl) hm

/-- An object with an error member that is no string, between two others: it is a success, with the
error member as one of three sections. -/
theorem ofValue_keeps_payload_null_error :
    let members : Dict String Json :=
      ⟨[("asm", .string "ret"), ("error", .null), ("ir", .array [])]⟩
    (∀ members', Json.object members = .object members' → members'.Sorted) ∧
      ofValue (.object members) = .ok (.success members) ∧
      (success members).section? "error" = some .null ∧ (success members).result = .ok members := by
  intro members
  have hs : ∀ members', Json.object members = .object members' → members'.Sorted := by
    intro members' h
    obtain rfl := Json.object.inj h
    unfold Dict.Sorted
    decide
  obtain ⟨-, -, hsuccess, hholds, -⟩ := ofValue_keeps_payload hs
  have hm : ∀ message, ¬ IsMessage members message := by
    intro message hc
    cases hc
  have hv : ofValue (.object members) = .ok (.success members) := (hsuccess members).mpr ⟨rfl, hm⟩
  exact ⟨hs, hv, (hholds members hv).lookup_eq "error", (hholds members hv).result_eq⟩

end Response

end LexicalScope.Service
