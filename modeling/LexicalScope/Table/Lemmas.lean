import LexicalScope.Dict.Lemmas
import LexicalScope.Table.Basic

/-!
# Laws of scope tables

What each operation does to the depth, to the floor and to the meaning of names.

* `exitScope_eq_ok_iff`, `exitScope_eq_error_iff` — when a scope can be closed, what is left, and
  which refusal says that it cannot
* `get?_declare` — a declaration concerns one name
* `rebind?_eq_none_iff`, `get?_rebind?`, `keys_rebind?` — a rebinding concerns one name, and neither
  adds nor removes a binding
-/

namespace LexicalScope.Table

variable {V : Type}

/-! ## Opening and closing scopes -/

theorem depth_enterScope (t : Table V) : t.enterScope.depth = t.depth + 1 := rfl

/-- **A scope can be closed exactly if more frames are there than the floor says.** -/
theorem exitScope_eq_ok_iff {t t' : Table V} {frame : Frame V} :
    t.exitScope = .ok (frame, t') ↔
      t.frames = frame :: t'.frames ∧ t.floor < t.depth ∧ t'.floor = t.floor := by
  obtain ⟨frames, floor⟩ := t
  obtain ⟨frames', floor'⟩ := t'
  cases frames with
  | nil => simp [exitScope]
  | cons f rest =>
    unfold exitScope depth
    dsimp only
    by_cases h : floor < rest.length + 1
    · rw [if_pos h]
      simp only [Except.ok.injEq, Prod.mk.injEq, mk.injEq, List.cons.injEq, List.length_cons]
      constructor
      · rintro ⟨rfl, rfl, rfl⟩
        exact ⟨⟨rfl, rfl⟩, h, rfl⟩
      · rintro ⟨⟨rfl, rfl⟩, _, rfl⟩
        exact ⟨rfl, rfl, rfl⟩
    · rw [if_neg h]
      simp only [reduceCtorEq, List.length_cons, false_iff]
      exact fun hc => h hc.2.1

/-- **A scope cannot be closed exactly if no more frames are there than the floor says.** The
refusal tells a floor of one from the others. -/
theorem exitScope_eq_error_iff {t : Table V} {r : Refusal} :
    t.exitScope = .error r ↔
      t.depth ≤ t.floor ∧ r = if t.floor = 1 then .rootScope else .scopeFloor := by
  obtain ⟨frames, floor⟩ := t
  cases frames with
  | nil =>
    unfold exitScope depth
    simp [eq_comm]
  | cons frame rest =>
    unfold exitScope depth
    dsimp only
    rw [List.length_cons]
    by_cases h : floor < rest.length + 1
    · rw [if_pos h]
      constructor
      · intro hc
        cases hc
      · exact fun hc => absurd h (Nat.not_lt.mpr hc.1)
    · rw [if_neg h, Except.error.injEq]
      exact ⟨fun hc => ⟨Nat.not_lt.mp h, hc.symm⟩, fun hc => hc.2.symm⟩

/-- The refusal names the root exactly if no frame lies above a floor of one. -/
theorem exitScope_eq_rootScope_iff {t : Table V} :
    t.exitScope = .error .rootScope ↔ t.depth ≤ t.floor ∧ t.floor = 1 := by
  rw [exitScope_eq_error_iff]
  refine and_congr_right fun _ => ?_
  by_cases h : t.floor = 1
  · rw [if_pos h]
    exact ⟨fun _ => h, fun _ => rfl⟩
  · rw [if_neg h]
    exact ⟨fun hc => (by cases hc), fun hc => absurd hc h⟩

/-- The refusal names a block exactly if no frame lies above a floor other than one. -/
theorem exitScope_eq_scopeFloor_iff {t : Table V} :
    t.exitScope = .error .scopeFloor ↔ t.depth ≤ t.floor ∧ t.floor ≠ 1 := by
  rw [exitScope_eq_error_iff]
  refine and_congr_right fun _ => ?_
  by_cases h : t.floor = 1
  · rw [if_pos h]
    exact ⟨fun hc => (by cases hc), fun hc => absurd h hc⟩
  · rw [if_neg h]
    exact ⟨fun _ => h, fun _ => rfl⟩

theorem length_truncate (t : Table V) (n : Nat) : (t.truncate n).length = min n t.depth := by
  unfold truncate depth
  rw [List.length_drop]
  omega

/-! ## Binding -/

/-- A declaration succeeds exactly for a valid name where there is a frame, and inserts into the
innermost one. -/
theorem declare_eq_ok_iff {t t' : Table V} {name : String} {value : V} :
    t.declare name value = .ok t' ↔
      ValidName name ∧ ∃ frame rest, t.frames = frame :: rest ∧
        t' = { t with frames := frame.insert name value :: rest } := by
  unfold declare
  by_cases hv : ValidName name
  · rw [if_pos hv]
    cases hf : t.frames with
    | nil => simp
    | cons frame rest =>
      simp only [Except.ok.injEq, List.cons.injEq]
      constructor
      · exact fun h => ⟨hv, frame, rest, ⟨rfl, rfl⟩, h.symm⟩
      · rintro ⟨_, _, _, ⟨rfl, rfl⟩, h⟩
        exact h.symm
  · rw [if_neg hv]
    simp [hv]

/-- **A valid name can be declared wherever there is a frame.** -/
theorem exists_declare_eq_ok {t : Table V} {name : String} (hd : 0 < t.depth)
    (hv : ValidName name) (value : V) : ∃ t', t.declare name value = .ok t' := by
  unfold depth at hd
  cases hf : t.frames with
  | nil =>
    rw [hf] at hd
    exact absurd hd (Nat.lt_irrefl 0)
  | cons frame rest => exact ⟨_, declare_eq_ok_iff.mpr ⟨hv, frame, rest, hf, rfl⟩⟩

theorem declare_of_not_validName {name : String} (hv : ¬ ValidName name) (t : Table V) (value : V) :
    t.declare name value = .error (.refused (.invalidName name)) := if_neg hv

theorem contains_eq_false_iff {t : Table V} {name : String} :
    t.contains name = false ↔ t.get? name = none := by
  rw [contains, Option.isSome_eq_false_iff, Option.isNone_iff_eq_none]

theorem depth_declare {t t' : Table V} {name : String} {value : V}
    (h : t.declare name value = .ok t') : t'.depth = t.depth := by
  obtain ⟨_, frame, rest, hf, rfl⟩ := declare_eq_ok_iff.mp h
  simp [depth, hf]

/-- **A declaration gives its name the new value and leaves all other names alone.** -/
theorem get?_declare {t t' : Table V} {name : String} {value : V}
    (h : t.declare name value = .ok t') (other : String) :
    t'.get? other = if other = name then some value else t.get? other := by
  obtain ⟨_, frame, rest, hf, rfl⟩ := declare_eq_ok_iff.mp h
  simp only [get?, hf, List.findSome?_cons, Dict.get?_insert]
  by_cases hn : other = name
  · rw [if_pos hn, if_pos hn]
  · rw [if_neg hn, if_neg hn]

/-- A name is found in a list of frames exactly if a rebinding finds it, and the value is the old
one of the rebinding. -/
theorem rebindIn_old (name : String) (f : V → V) (frames : List (Frame V)) :
    (rebindIn name f frames).map (·.1) = frames.findSome? fun frame => frame.get? name := by
  induction frames with
  | nil => rfl
  | cons frame rest ih =>
    rw [rebindIn, List.findSome?_cons]
    cases hg : frame.get? name with
    | some old => rfl
    | none =>
      simp only
      rw [← ih]
      cases rebindIn name f rest <;> rfl

/-- A rebinding gives the value that the name had. -/
theorem rebind?_old (t : Table V) (name : String) (f : V → V) :
    (t.rebind? name f).map (·.1) = t.get? name := by
  rw [get?, ← rebindIn_old name f, rebind?]
  cases rebindIn name f t.frames <;> rfl

/-- **A name can be rebound exactly if it is bound.** -/
theorem rebind?_eq_none_iff {t : Table V} {name : String} {f : V → V} :
    t.rebind? name f = none ↔ t.get? name = none := by
  rw [← rebind?_old t name f]
  cases t.rebind? name f <;> simp

/-- A rebinding is made in the first frame, or else the first frame does not bind the name. -/
theorem rebindIn_cons_eq_some {name : String} {f : V → V} {frame : Frame V}
    {rest frames' : List (Frame V)} {old : V}
    (h : rebindIn name f (frame :: rest) = some (old, frames')) :
    (frame.get? name = some old ∧ frames' = frame.modify name f :: rest) ∨
      (frame.get? name = none ∧
        ∃ rest', rebindIn name f rest = some (old, rest') ∧ frames' = frame :: rest') := by
  rw [rebindIn] at h
  cases hg : frame.get? name with
  | some v =>
    rw [hg] at h
    cases h
    exact Or.inl ⟨rfl, rfl⟩
  | none =>
    rw [hg] at h
    obtain ⟨⟨v, rest'⟩, hr, heq⟩ := Option.map_eq_some_iff.mp h
    cases heq
    exact Or.inr ⟨rfl, rest', hr, rfl⟩

theorem rebind?_eq_some {t t' : Table V} {name : String} {f : V → V} {old : V}
    (h : t.rebind? name f = some (old, t')) :
    ∃ frames', rebindIn name f t.frames = some (old, frames') ∧ t' = ⟨frames', t.floor⟩ := by
  obtain ⟨⟨v, frames'⟩, hr, heq⟩ := Option.map_eq_some_iff.mp h
  cases heq
  exact ⟨frames', hr, rfl⟩

/-- After a rebinding the name is found with its new value, and any other as before. -/
theorem findSome?_rebindIn {name : String} {f : V → V} {frames frames' : List (Frame V)} {old : V}
    (h : rebindIn name f frames = some (old, frames')) (other : String) :
    (frames'.findSome? fun frame => frame.get? other) =
      if other = name then some (f old) else frames.findSome? fun frame => frame.get? other := by
  induction frames generalizing frames' with
  | nil => simp [rebindIn] at h
  | cons frame rest ih =>
    rcases rebindIn_cons_eq_some h with ⟨hg, rfl⟩ | ⟨hg, rest', hr, rfl⟩
    · rw [List.findSome?_cons, List.findSome?_cons, Dict.get?_modify]
      by_cases hn : other = name
      · rw [if_pos hn, if_pos hn, hn, hg]
        rfl
      · rw [if_neg hn, if_neg hn]
    · rw [List.findSome?_cons, List.findSome?_cons, ih hr]
      by_cases hn : other = name
      · rw [if_pos hn, if_pos hn, hn, hg]
      · rw [if_neg hn, if_neg hn]

/-- **A rebinding gives its name the new value and leaves all other names alone.** -/
theorem get?_rebind? {t t' : Table V} {name : String} {f : V → V} {old : V}
    (h : t.rebind? name f = some (old, t')) (other : String) :
    t'.get? other = if other = name then some (f old) else t.get? other := by
  obtain ⟨frames', hr, rfl⟩ := rebind?_eq_some h
  exact findSome?_rebindIn hr other

/-- A rebinding adds no names to any frame and takes none from it. -/
theorem keys_rebindIn {name : String} {f : V → V} {frames frames' : List (Frame V)} {old : V}
    (h : rebindIn name f frames = some (old, frames')) :
    frames'.map Dict.keys = frames.map Dict.keys := by
  induction frames generalizing frames' with
  | nil => simp [rebindIn] at h
  | cons frame rest ih =>
    rcases rebindIn_cons_eq_some h with ⟨_, rfl⟩ | ⟨_, rest', hr, rfl⟩
    · rw [List.map_cons, List.map_cons, Dict.keys_modify]
    · rw [List.map_cons, List.map_cons, ih hr]

theorem length_rebindIn {name : String} {f : V → V} {frames frames' : List (Frame V)} {old : V}
    (h : rebindIn name f frames = some (old, frames')) : frames'.length = frames.length := by
  simpa using congrArg List.length (keys_rebindIn h)

/-- **A rebinding neither adds nor removes a binding,** in any frame. -/
theorem keys_rebind? {t t' : Table V} {name : String} {f : V → V} {old : V}
    (h : t.rebind? name f = some (old, t')) :
    t'.frames.map Dict.keys = t.frames.map Dict.keys := by
  obtain ⟨frames', hr, rfl⟩ := rebind?_eq_some h
  exact keys_rebindIn hr

end LexicalScope.Table
