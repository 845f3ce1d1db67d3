import LexicalScope.Table.Lemmas

/-!
# Bindings by depth

What the frame at each depth binds, as a view of the whole stack: two names at two depths never meet
in it. Each operation changes the view at no more than one depth and one name, or cuts it off above
a depth.

* `valueAt` — the view
* `valueAt_enterScope`, `valueAt_declare`, `valueAt_rebind?`, `valueAt_exitScope` — the operations
* `frames_rebindIn` — the one frame that a rebinding changes
* `outermost` — the frames below a depth, with the view of what they bind
* `resolveDepth?_eq_some_iff` — a name resolves to the greatest depth that binds it
-/

namespace LexicalScope.Table

variable {V : Type}

/-- What the frame at a depth of the stack binds `name` to. -/
def valueIn (frames : List (Frame V)) (depth : Nat) (name : String) : Option V :=
  frames.reverse[depth]?.bind fun frame => frame.get? name

/-- What the frame at a depth binds `name` to. -/
def valueAt (t : Table V) (depth : Nat) (name : String) : Option V := valueIn t.frames depth name

theorem getElem?_reverse_cons (frame : Frame V) (rest : List (Frame V)) (i : Nat) :
    (frame :: rest).reverse[i]? = if i = rest.length then some frame else rest.reverse[i]? := by
  rw [List.reverse_cons]
  rcases Nat.lt_trichotomy i rest.length with h | h | h
  · rw [if_neg (Nat.ne_of_lt h), List.getElem?_append_left (by simpa using h)]
  · rw [if_pos h, h, ← List.length_reverse, List.getElem?_concat_length]
  · rw [if_neg (Nat.ne_of_gt h), List.getElem?_eq_none (by simp; omega),
      List.getElem?_eq_none (by simp; omega)]

/-- The innermost frame has the greatest index. -/
theorem valueIn_cons (frame : Frame V) (rest : List (Frame V)) (i : Nat) (name : String) :
    valueIn (frame :: rest) i name =
      if i = rest.length then frame.get? name else valueIn rest i name := by
  unfold valueIn
  rw [getElem?_reverse_cons]
  split <;> rfl

theorem valueIn_eq_none_of_length_le {frames : List (Frame V)} {i : Nat}
    (h : frames.length ≤ i) (name : String) : valueIn frames i name = none := by
  unfold valueIn
  rw [List.getElem?_eq_none (by rwa [List.length_reverse])]
  rfl

/-! ## Opening and declaring -/

theorem valueAt_enterScope (t : Table V) (i : Nat) (name : String) :
    t.enterScope.valueAt i name = t.valueAt i name := by
  unfold valueAt enterScope
  rw [valueIn_cons]
  by_cases h : i = t.frames.length
  · rw [if_pos h, valueIn_eq_none_of_length_le (Nat.le_of_eq h.symm)]
    rfl
  · rw [if_neg h]

/-- **A declaration changes one name in the innermost frame.** -/
theorem valueAt_declare {t t' : Table V} {name : String} {value : V}
    (h : t.declare name value = .ok t') (i : Nat) (other : String) :
    t'.valueAt i other =
      if i + 1 = t.depth ∧ other = name then some value else t.valueAt i other := by
  obtain ⟨_, frame, rest, hf, rfl⟩ := declare_eq_ok_iff.mp h
  unfold valueAt depth
  rw [hf, valueIn_cons, valueIn_cons, Dict.get?_insert, List.length_cons]
  by_cases hi : i = rest.length
  · by_cases hn : other = name
    · rw [if_pos hi, if_pos hn, if_pos ⟨by omega, hn⟩]
    · rw [if_pos hi, if_neg hn, if_neg fun hc => hn hc.2, if_pos hi]
  · rw [if_neg hi, if_neg fun hc => hi (by omega), if_neg hi]

/-! ## Resolving and rebinding -/

theorem resolveDepth?_cons (frame : Frame V) (rest : List (Frame V)) (floor : Nat) (name : String) :
    (⟨frame :: rest, floor⟩ : Table V).resolveDepth? name =
      if (frame.get? name).isSome then some rest.length
      else (⟨rest, floor⟩ : Table V).resolveDepth? name := by
  unfold resolveDepth? depth Dict.contains
  rw [List.findIdx?_cons]
  by_cases h : (frame.get? name).isSome = true
  · rw [if_pos h, if_pos h]
    simp
  · rw [if_neg h, if_neg h, Option.map_map]
    refine Option.map_congr fun j _ => ?_
    simp only [Function.comp_apply, List.length_cons]
    omega

/-- **A name resolves to the greatest depth that binds it.** -/
theorem resolveDepth?_eq_some_iff {t : Table V} {name : String} {i : Nat} :
    t.resolveDepth? name = some i ↔
      (t.valueAt i name).isSome ∧ ∀ j, i < j → t.valueAt j name = none := by
  obtain ⟨frames, floor⟩ := t
  unfold valueAt
  induction frames with
  | nil => simp [resolveDepth?, valueIn]
  | cons frame rest ih =>
    rw [resolveDepth?_cons]
    by_cases h : (frame.get? name).isSome = true
    · rw [if_pos h, Option.some.injEq]
      constructor
      · rintro rfl
        refine ⟨by rw [valueIn_cons, if_pos rfl]; exact h, fun j hj => ?_⟩
        exact valueIn_eq_none_of_length_le hj name
      · rintro ⟨hs, hn⟩
        rcases Nat.lt_trichotomy i rest.length with hlt | heq | hgt
        · have hnone := hn rest.length hlt
          rw [valueIn_cons, if_pos rfl] at hnone
          rw [hnone] at h
          exact absurd h (by simp)
        · exact heq.symm
        · rw [valueIn_eq_none_of_length_le (by exact hgt)] at hs
          exact absurd hs (by simp)
    · rw [if_neg h, ih]
      have hnone : frame.get? name = none := by simpa using h
      have hcons : ∀ j, valueIn (frame :: rest) j name = valueIn rest j name := by
        intro j
        rw [valueIn_cons]
        by_cases hj : j = rest.length
        · rw [if_pos hj, hnone, valueIn_eq_none_of_length_le (Nat.le_of_eq hj.symm)]
        · rw [if_neg hj]
      simp only [hcons]

/-- A name resolves to a depth exactly if it is bound. -/
theorem resolveDepth?_eq_none_iff {t : Table V} {name : String} :
    t.resolveDepth? name = none ↔ t.get? name = none := by
  obtain ⟨frames, floor⟩ := t
  induction frames with
  | nil => exact ⟨fun _ => rfl, fun _ => rfl⟩
  | cons frame rest ih =>
    rw [resolveDepth?_cons, get?, List.findSome?_cons]
    cases h : frame.get? name with
    | some v => simp
    | none =>
      rw [if_neg (by simp)]
      exact ih

/-- A rebinding changes the frame that the name resolves to, and no other. -/
theorem frames_rebindIn {name : String} {f : V → V} {frames frames' : List (Frame V)} {old : V}
    (h : rebindIn name f frames = some (old, frames')) (floor : Nat) :
    ∃ i, (⟨frames, floor⟩ : Table V).resolveDepth? name = some i ∧
      valueIn frames i name = some old ∧
      ∀ j : Nat, frames'.reverse[j]? =
        if j = i then frames.reverse[j]?.map fun frame => frame.modify name f
        else frames.reverse[j]? := by
  induction frames generalizing frames' with
  | nil => simp [rebindIn] at h
  | cons frame rest ih =>
    rw [resolveDepth?_cons]
    rcases rebindIn_cons_eq_some h with ⟨hg, rfl⟩ | ⟨hg, rest', hr, rfl⟩
    · rw [hg]
      refine ⟨rest.length, rfl, by rw [valueIn_cons, if_pos rfl, hg], fun j => ?_⟩
      rw [getElem?_reverse_cons, getElem?_reverse_cons]
      by_cases hj : j = rest.length
      · simp [hj]
      · simp [hj]
    · rw [hg]
      obtain ⟨i, hres, hold, hframes⟩ := ih hr
      have hi : i < rest.length := by
        rcases Nat.lt_or_ge i rest.length with hlt | hge
        · exact hlt
        · rw [valueIn_eq_none_of_length_le hge] at hold
          cases hold
      refine ⟨i, hres, by rw [valueIn_cons, if_neg (Nat.ne_of_lt hi), hold], fun j => ?_⟩
      rw [getElem?_reverse_cons, getElem?_reverse_cons, length_rebindIn hr, hframes]
      by_cases hj : j = rest.length
      · simp [hj, Nat.ne_of_gt hi]
      · simp [hj]

/-- A rebinding changes one value, in the frame that the name is found in. -/
theorem valueIn_rebindIn {name : String} {f : V → V} {frames frames' : List (Frame V)} {old : V}
    (h : rebindIn name f frames = some (old, frames')) (floor : Nat) :
    ∃ i, (⟨frames, floor⟩ : Table V).resolveDepth? name = some i ∧
      valueIn frames i name = some old ∧ frames'.length = frames.length ∧
      ∀ j other, valueIn frames' j other =
        if j = i ∧ other = name then some (f old) else valueIn frames j other := by
  obtain ⟨i, hres, hold, hframes⟩ := frames_rebindIn h floor
  refine ⟨i, hres, hold, length_rebindIn h, ?_⟩
  intro j other
  unfold valueIn at hold ⊢
  rw [hframes]
  by_cases hj : j = i
  · subst hj
    obtain ⟨frame, hframe, hget⟩ := Option.bind_eq_some_iff.mp hold
    by_cases hn : other = name
    · simp [hframe, hn, hget, Dict.get?_modify]
    · simp [hframe, hn, Dict.get?_modify]
  · simp [hj]

/-- **A rebinding changes one name at the depth that the name resolves to.** -/
theorem valueAt_rebind? {t t' : Table V} {name : String} {f : V → V} {old : V}
    (h : t.rebind? name f = some (old, t')) :
    ∃ i, t.resolveDepth? name = some i ∧ t.valueAt i name = some old ∧
      t'.depth = t.depth ∧ t'.floor = t.floor ∧
      ∀ j other, t'.valueAt j other =
        if j = i ∧ other = name then some (f old) else t.valueAt j other := by
  obtain ⟨frames', hr, rfl⟩ := rebind?_eq_some h
  obtain ⟨i, hres, hold, hlen, hval⟩ := valueIn_rebindIn hr t.floor
  exact ⟨i, hres, hold, hlen, rfl, hval⟩

/-- A rebinding counts before the value of old, and only at the depth that the name resolves to. -/
theorem valueAt_rebind?_or {t t' : Table V} {name : String} {f : V → V} {old : V}
    (h : t.rebind? name f = some (old, t')) (i : Nat) (other : String) :
    t'.valueAt i other =
      (if name = other ∧ t.resolveDepth? other = some i then some (f old) else none).or
        (t.valueAt i other) := by
  obtain ⟨j, hres, _, _, _, hval⟩ := valueAt_rebind? h
  rw [hval]
  by_cases hn : name = other
  · subst hn
    by_cases hj : i = j
    · rw [if_pos ⟨hj, rfl⟩, if_pos ⟨rfl, by rw [hres, hj]⟩, Option.some_or]
    · rw [if_neg fun hc => hj hc.1, if_neg fun hc => hj (Option.some.inj (hc.2.symm.trans hres)),
        Option.none_or]
  · rw [if_neg fun hc => hn hc.2.symm, if_neg fun hc => hn hc.1, Option.none_or]

/-! ## The outermost frames -/

/-- The `n` outermost frames of a stack. -/
def outermost (n : Nat) (frames : List (Frame V)) : List (Frame V) :=
  frames.drop (frames.length - n)

theorem truncate_eq_outermost (t : Table V) (n : Nat) : t.truncate n = outermost n t.frames := rfl

theorem outermost_cons {n : Nat} {rest : List (Frame V)} (h : n ≤ rest.length) (frame : Frame V) :
    outermost n (frame :: rest) = outermost n rest := by
  unfold outermost
  rw [List.length_cons, Nat.succ_sub h, List.drop_succ_cons]

theorem outermost_of_length_le {n : Nat} {frames : List (Frame V)} (h : frames.length ≤ n) :
    outermost n frames = frames := by
  unfold outermost
  rw [Nat.sub_eq_zero_of_le h, List.drop_zero]

theorem outermost_outermost {m n : Nat} (h : m ≤ n) (frames : List (Frame V)) :
    outermost m (outermost n frames) = outermost m frames := by
  unfold outermost
  rw [List.drop_drop, List.length_drop]
  congr 1
  omega

/-- The frames that are left keep their indices and their values. -/
theorem valueIn_outermost (n : Nat) (frames : List (Frame V)) (i : Nat) (name : String) :
    valueIn (outermost n frames) i name = if i < n then valueIn frames i name else none := by
  induction frames with
  | nil => simp [outermost, valueIn]
  | cons frame rest ih =>
    by_cases h : n ≤ rest.length
    · rw [outermost_cons h, ih, valueIn_cons]
      by_cases hi : i < n
      · rw [if_pos hi, if_pos hi, if_neg (by omega)]
      · rw [if_neg hi, if_neg hi]
    · rw [outermost_of_length_le (by rw [List.length_cons]; omega)]
      by_cases hi : i < n
      · rw [if_pos hi]
      · rw [if_neg hi, valueIn_eq_none_of_length_le (by rw [List.length_cons]; omega)]

/-- Tables with the same outermost frames bind the same below that depth. -/
theorem valueAt_of_truncate_eq {t t' : Table V} {n : Nat} (h : t'.truncate n = t.truncate n)
    {i : Nat} (hi : i < n) (name : String) : t'.valueAt i name = t.valueAt i name := by
  have hval : valueIn (t'.truncate n) i name = valueIn (t.truncate n) i name := by rw [h]
  rwa [truncate_eq_outermost, truncate_eq_outermost, valueIn_outermost, valueIn_outermost,
    if_pos hi, if_pos hi] at hval

/-- Closing a scope leaves the frames outside of it. -/
theorem frames_exitScope {t t' : Table V} {frame : Frame V}
    (h : t.exitScope = .ok (frame, t')) : t'.frames = outermost t'.depth t.frames := by
  obtain ⟨hf, _, _⟩ := exitScope_eq_ok_iff.mp h
  rw [hf, depth, outermost_cons (Nat.le_refl _), outermost_of_length_le (Nat.le_refl _)]

/-- The frames that a closed scope leaves keep their values. -/
theorem valueAt_exitScope {t t' : Table V} {frame : Frame V}
    (h : t.exitScope = .ok (frame, t')) (i : Nat) (name : String) :
    t'.valueAt i name = if i < t'.depth then t.valueAt i name else none := by
  unfold valueAt
  rw [frames_exitScope h, valueIn_outermost]

/-- The frame that is handed back is what the greatest depth binds. -/
theorem get?_of_exitScope {t t' : Table V} {frame : Frame V}
    (h : t.exitScope = .ok (frame, t')) (name : String) :
    frame.get? name = t.valueAt t'.depth name := by
  obtain ⟨hf, _, _⟩ := exitScope_eq_ok_iff.mp h
  rw [valueAt, hf, valueIn_cons, depth, if_pos rfl]

end LexicalScope.Table
