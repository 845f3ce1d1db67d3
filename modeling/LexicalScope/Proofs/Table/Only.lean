import LexicalScope.Proofs.Script.Trace
import LexicalScope.Proofs.Table.ValueAt

/-!
# Tables of one name

What is left of a table when all names but one are forgotten. The frames stay, and so does the
floor. An operation on the name that is left does to such a table what it does to the whole one, and
an operation on another name does nothing to it.

* `Dict.only`, `Table.only` — the bindings of one name
* `declare_only`, `rebind?_only`, `get?_only`, `resolveDepth?_only`, `isLocal_only` — operations on
  the name
* `only_of_declare`, `only_of_rebind?` — operations on other names
* `exitScope_only`, `only_openScoped`, `only_closeScoped` — operations on frames
* `ext_only` — all names together are the table
-/

namespace LexicalScope

/-! ## Dictionaries -/

namespace Dict

variable {κ α : Type} [Ord κ]

/-- The entry of one key, if there is one. -/
def only (d : Dict κ α) (k : κ) : Dict κ α :=
  match d.get? k with
  | some v => ⟨[(k, v)]⟩
  | none => ∅

/-- What is left of a dictionary depends on the one key alone. -/
theorem only_congr {d d' : Dict κ α} {k : κ} (h : d.get? k = d'.get? k) : d.only k = d'.only k := by
  unfold only
  rw [h]

variable [Std.LawfulEqOrd κ]

theorem get?_only (d : Dict κ α) (k : κ) : (d.only k).get? k = d.get? k := by
  unfold only
  cases d.get? k with
  | none => rfl
  | some v => simp [get?, lookup]

theorem contains_only (d : Dict κ α) (k : κ) : (d.only k).contains k = d.contains k := by
  unfold contains
  rw [get?_only]

/-- An insertion of the key is made in what is left. -/
theorem only_insert_self (d : Dict κ α) (k : κ) (v : α) :
    (d.insert k v).only k = (d.only k).insert k v := by
  unfold only
  rw [get?_insert_self]
  cases d.get? k with
  | none => rfl
  | some old => simp [insert, place]

theorem only_insert_of_ne (d : Dict κ α) {k k' : κ} (h : k ≠ k') (v : α) :
    (d.insert k' v).only k = d.only k := only_congr (get?_insert_of_ne d h v)

variable [DecidableEq κ]

theorem only_modify_self (d : Dict κ α) (k : κ) (f : α → α) :
    (d.modify k f).only k = (d.only k).modify k f := by
  unfold only
  rw [get?_modify, if_pos rfl]
  cases d.get? k with
  | none => rfl
  | some old => simp [modify]

theorem only_modify_of_ne (d : Dict κ α) {k k' : κ} (h : k ≠ k') (f : α → α) :
    (d.modify k' f).only k = d.only k := by
  refine only_congr ?_
  rw [get?_modify, if_neg h]

end Dict

/-! ## Tables -/

namespace Table

variable {V : Type}

/-- The table that binds one name as the table does, and no other name. -/
def only (t : Table V) (name : String) : Table V := ⟨t.frames.map (·.only name), t.floor⟩

section Frames

variable (t : Table V) (name : String)

@[simp] theorem depth_only : (t.only name).depth = t.depth := List.length_map _

@[simp] theorem floor_only : (t.only name).floor = t.floor := rfl

theorem only_openScoped : t.openScoped.only name = (t.only name).openScoped := by
  simp [openScoped, only, enterScope, depth]
  rfl

theorem only_closeScoped (floor : Nat) :
    (t.closeScoped floor).only name = (t.only name).closeScoped floor := by
  simp [closeScoped, truncate, only, depth]

/-- A scope of what is left is closed, or refused, as that of the whole. -/
theorem exitScope_only :
    (t.only name).exitScope = t.exitScope.map fun r => (r.1.only name, r.2.only name) := by
  obtain ⟨frames, floor⟩ := t
  cases frames with
  | nil => rfl
  | cons frame rest =>
    unfold exitScope
    simp only [only, List.map_cons, List.length_map]
    split <;> rfl

/-- Every frame that is left has the value of the name. -/
theorem valueAt_only (i : Nat) : (t.only name).valueAt i name = t.valueAt i name := by
  unfold valueAt valueIn only
  rw [← List.map_reverse, List.getElem?_map]
  cases t.frames.reverse[i]? with
  | none => rfl
  | some frame => exact frame.get?_only name

theorem get?_only : (t.only name).get? name = t.get? name := by
  unfold get? only
  rw [List.findSome?_map]
  refine congrArg (fun f => List.findSome? f t.frames) (funext fun frame => ?_)
  exact frame.get?_only name

theorem resolveDepth?_only : (t.only name).resolveDepth? name = t.resolveDepth? name := by
  unfold resolveDepth?
  rw [depth_only]
  simp [only, List.findIdx?_map, Function.comp_def, Dict.contains_only]

theorem isLocal_only : (t.only name).isLocal name = t.isLocal name := by
  unfold isLocal only
  cases t.frames with
  | nil => rfl
  | cons frame rest => simp [Dict.contains_only]

end Frames

/-! ### Operations on the name -/

/-- **A declaration of the name** looks at nothing else. -/
theorem declare_only (t : Table V) (name : String) (v : V) :
    (t.only name).declare name v = (t.declare name v).map (·.only name) := by
  obtain ⟨frames, floor⟩ := t
  unfold declare
  by_cases hv : ValidName name
  · rw [if_pos hv, if_pos hv]
    cases frames with
    | nil => rfl
    | cons frame rest => simp [only, Except.map, Dict.only_insert_self]
  · rw [if_neg hv, if_neg hv]
    rfl

/-- A rebinding of the name is made in the same frame. -/
theorem rebindIn_only (name : String) (f : V → V) (frames : List (Frame V)) :
    rebindIn name f (frames.map (·.only name)) =
      (rebindIn name f frames).map fun r => (r.1, r.2.map (·.only name)) := by
  induction frames with
  | nil => rfl
  | cons frame rest ih =>
    rw [List.map_cons, rebindIn, rebindIn, Dict.get?_only, ih]
    cases frame.get? name with
    | some old => simp [Dict.only_modify_self]
    | none => cases rebindIn name f rest <;> simp

/-- **A rebinding of the name** looks at nothing else. -/
theorem rebind?_only (t : Table V) (name : String) (f : V → V) :
    (t.only name).rebind? name f = (t.rebind? name f).map fun r => (r.1, r.2.only name) := by
  unfold rebind?
  show (rebindIn name f (t.frames.map (·.only name))).map _ = _
  rw [rebindIn_only]
  cases rebindIn name f t.frames <;> rfl

/-! ### Operations on other names -/

section Other

variable {t t' : Table V} {name other : String} (hne : name ≠ other)

include hne

/-- A declaration of another name changes nothing of what is left. -/
theorem only_of_declare {v : V} (h : t.declare other v = .ok t') : t'.only name = t.only name := by
  obtain ⟨_, frame, rest, hf, rfl⟩ := declare_eq_ok_iff.mp h
  simp [only, hf, Dict.only_insert_of_ne frame hne]

theorem map_only_of_rebindIn {f : V → V} {frames frames' : List (Frame V)} {old : V}
    (h : rebindIn other f frames = some (old, frames')) :
    frames'.map (·.only name) = frames.map (·.only name) := by
  induction frames generalizing frames' with
  | nil => cases h
  | cons frame rest ih =>
    rcases rebindIn_cons_eq_some h with ⟨_, rfl⟩ | ⟨_, rest', hr, rfl⟩
    · simp [Dict.only_modify_of_ne frame hne]
    · simp [ih hr]

/-- A rebinding of another name changes nothing of what is left. -/
theorem only_of_rebind? {f : V → V} {old : V} (h : t.rebind? other f = some (old, t')) :
    t'.only name = t.only name := by
  obtain ⟨frames', hr, rfl⟩ := rebind?_eq_some h
  simp [only, map_only_of_rebindIn hne hr]

end Other

/-! ### All names -/

/-- Frames in order are equal if they are so name by name. -/
theorem eq_of_map_only {frames frames' : List (Frame V)} (hs : ∀ frame ∈ frames, frame.Sorted)
    (hs' : ∀ frame ∈ frames', frame.Sorted)
    (h : ∀ name, frames.map (·.only name) = frames'.map (·.only name)) : frames = frames' := by
  induction frames generalizing frames' with
  | nil => simpa using h ""
  | cons frame rest ih =>
    cases frames' with
    | nil => simpa using h ""
    | cons frame' rest' =>
      obtain ⟨hhead, htail⟩ := List.forall_mem_cons.mp hs
      obtain ⟨hhead', htail'⟩ := List.forall_mem_cons.mp hs'
      simp only [List.map_cons, List.cons.injEq] at h
      have hframe : frame = frame' := by
        refine Dict.ext_get? hhead hhead' fun name => ?_
        rw [← frame.get?_only name, (h name).1, frame'.get?_only name]
      rw [hframe, ih htail htail' fun name => (h name).2]

/-- **Tables that are the same for every name are equal.** -/
theorem ext_only {t t' : Table V} (ht : ∀ frame ∈ t.frames, frame.Sorted)
    (ht' : ∀ frame ∈ t'.frames, frame.Sorted) (h : ∀ name, t.only name = t'.only name) :
    t = t' := by
  have hframes : t.frames = t'.frames :=
    eq_of_map_only ht ht' fun name => congrArg (·.frames) (h name)
  have hfloor : t.floor = t'.floor := congrArg (·.floor) (h "")
  cases t
  cases t'
  exact Table.mk.injEq _ _ _ _ ▸ ⟨hframes, hfloor⟩

end Table

end LexicalScope
