import LexicalScope.Proofs.Table.ValueAt

/-!
# Ledgers

A table read name by name. For every name on its own there is a stack of its bindings, each with the
index of the frame that holds it, and for all names together there is one depth. No frame is left in
this picture: a name that no frame binds has an empty stack however many frames there are.

* `Ledger` — the stacks and the depth, with the operations on them
* `Table.ledger` — the ledger of a table
* `ledger_enterScope`, `ledger_declare`, `ledger_rebind?`, `ledger_truncate` — each operation on a
  table does to its ledger what the operation on ledgers does
* `get?_ledger`, `isLocal_ledger`, `resolveDepth?_ledger` — and each question has the same answer
* `decreasing_ledger` — the indices in a stack decrease from the top on, and are those of frames
-/

namespace LexicalScope

/-- For each name its bindings with the indices of their frames, the innermost first, and the number
of frames. -/
structure Ledger (V : Type) where
  depth : Nat
  stack : String → List (Nat × V)

namespace Ledger

variable {V : Type}

/-- One frame, and no name is bound. -/
def new : Ledger V := ⟨1, fun _ => []⟩

/-! ## Operations -/

def enter (l : Ledger V) : Ledger V := { l with depth := l.depth + 1 }

/-- Pops the pairs of the frames from `n` on, which are removed. -/
def cut (l : Ledger V) (n : Nat) : Ledger V :=
  ⟨n, fun name => (l.stack name).filter fun e => decide (e.1 < n)⟩

/-- The value that the frame of the index binds a name to. -/
def valueAt (l : Ledger V) (i : Nat) (name : String) : Option V :=
  ((l.stack name).find? fun e => e.1 == i).map (·.2)

/-- Changes the stack of one name. -/
def modify (l : Ledger V) (name : String) (f : List (Nat × V) → List (Nat × V)) : Ledger V :=
  { l with stack := fun other => if other = name then f (l.stack other) else l.stack other }

/-- The stack with its top pair replaced if it is of the innermost frame, and else with one pair
more. -/
def declareIn (depth : Nat) (v : V) : List (Nat × V) → List (Nat × V)
  | (i, old) :: rest =>
    if i + 1 = depth then (i, v) :: rest else (depth - 1, v) :: (i, old) :: rest
  | [] => [(depth - 1, v)]

/-- The stack with a new value in its top pair. -/
def setTopIn (v : V) : List (Nat × V) → List (Nat × V)
  | (i, _) :: rest => (i, v) :: rest
  | [] => []

/-- The name is bound in the innermost frame. -/
def declare (l : Ledger V) (name : String) (v : V) : Ledger V :=
  l.modify name (declareIn l.depth v)

/-- The innermost binding of the name gets another value. -/
def setTop (l : Ledger V) (name : String) (v : V) : Ledger V := l.modify name (setTopIn v)

/-! ## Questions -/

/-- The value of the innermost binding of the name. -/
def get? (l : Ledger V) (name : String) : Option V := (l.stack name).head?.map (·.2)

/-- The index of the frame that the name is bound in. -/
def resolveDepth? (l : Ledger V) (name : String) : Option Nat := (l.stack name).head?.map (·.1)

/-- Whether the name is bound in the innermost frame. -/
def isLocal (l : Ledger V) (name : String) : Bool :=
  (l.resolveDepth? name).any fun i => i + 1 == l.depth

/-- The indices of each stack decrease from the top on, and are all below the depth. -/
def Decreasing (l : Ledger V) : Prop :=
  ∀ name, (l.stack name).Pairwise (fun a b => b.1 < a.1) ∧ ∀ e ∈ l.stack name, e.1 < l.depth

end Ledger

namespace Table

variable {V : Type}

/-- The bindings of a name in some frames, with the indices of the frames. -/
def bindingsIn (name : String) : List (Frame V) → List (Nat × V)
  | [] => []
  | frame :: rest =>
    match frame.get? name with
    | some v => (rest.length, v) :: bindingsIn name rest
    | none => bindingsIn name rest

/-- A table name by name. -/
def ledger (t : Table V) : Ledger V := ⟨t.depth, fun name => bindingsIn name t.frames⟩

theorem bindingsIn_cons (name : String) (frame : Frame V) (rest : List (Frame V)) :
    bindingsIn name (frame :: rest) =
      match frame.get? name with
      | some v => (rest.length, v) :: bindingsIn name rest
      | none => bindingsIn name rest := rfl

theorem bindingsIn_lt (name : String) (frames : List (Frame V)) :
    ∀ e ∈ bindingsIn name frames, e.1 < frames.length := by
  induction frames with
  | nil => exact fun e he => absurd he List.not_mem_nil
  | cons frame rest ih =>
    intro e he
    rw [bindingsIn] at he
    split at he
    · rcases List.mem_cons.mp he with rfl | he
      · exact Nat.lt_succ_self _
      · exact Nat.lt_succ_of_lt (ih e he)
    · exact Nat.lt_succ_of_lt (ih e he)

/-- **The indices in a stack decrease,** and are those of frames. -/
theorem decreasing_ledger (t : Table V) : t.ledger.Decreasing := by
  intro name
  refine ⟨?_, bindingsIn_lt name t.frames⟩
  show (bindingsIn name t.frames).Pairwise _
  induction t.frames with
  | nil => exact .nil
  | cons frame rest ih =>
    rw [bindingsIn]
    split
    · exact .cons (bindingsIn_lt name rest) ih
    · exact ih

/-! ## Operations -/

theorem ledger_new : (new : Table V).ledger = .new := rfl

theorem ledger_enterScope (t : Table V) : t.enterScope.ledger = t.ledger.enter := rfl

/-- Taking frames away takes their bindings off every stack. -/
theorem bindingsIn_outermost {n : Nat} {frames : List (Frame V)} (h : n ≤ frames.length)
    (name : String) :
    bindingsIn name (outermost n frames) =
      (bindingsIn name frames).filter fun e => decide (e.1 < n) := by
  induction frames with
  | nil => rw [outermost_of_length_le (Nat.zero_le n)]; rfl
  | cons frame rest ih =>
    by_cases hn : n ≤ rest.length
    · -- the innermost frame is removed, and its pair is popped if it has one
      rw [outermost_cons hn, ih hn, bindingsIn]
      split
      · rw [List.filter_cons_of_neg (by simpa using hn)]
      · rfl
    · -- no frame is removed, and no index is as high as the number of frames
      rw [outermost_of_length_le (by rw [List.length_cons]; omega)]
      refine (List.filter_eq_self.mpr fun e he => ?_).symm
      have hlt := bindingsIn_lt name (frame :: rest) e he
      rw [List.length_cons] at h hlt
      exact decide_eq_true (by omega)

/-- **Where frames are removed,** the pairs of these frames are popped and no others. -/
theorem ledger_truncate {t : Table V} {n : Nat} (h : n ≤ t.depth) (floor : Nat) :
    (⟨t.truncate n, floor⟩ : Table V).ledger = t.ledger.cut n := by
  have hdepth : (t.truncate n).length = n := by rw [length_truncate, Nat.min_eq_left h]
  unfold ledger depth
  rw [Ledger.cut, hdepth]
  exact congrArg _ (funext fun name => bindingsIn_outermost h name)

/-- The ledger has the value of each frame for each name. -/
theorem valueAt_ledger (t : Table V) (i : Nat) (name : String) :
    t.ledger.valueAt i name = t.valueAt i name := by
  show ((bindingsIn name t.frames).find? _).map _ = valueIn t.frames i name
  induction t.frames with
  | nil => simp [bindingsIn, valueIn]
  | cons frame rest ih =>
    rw [valueIn_cons, bindingsIn]
    by_cases hi : i = rest.length
    · subst hi
      rw [if_pos rfl]
      cases hg : frame.get? name with
      | some v => simp
      | none =>
        rw [valueIn_eq_none_of_length_le (Nat.le_refl _)] at ih
        exact ih
    · rw [if_neg hi]
      cases hg : frame.get? name with
      | some v =>
        rw [← ih]
        simp [Ne.symm hi]
      | none => exact ih

/-- Closing a scope cuts the ledger by one frame, and returns the values of that frame. -/
theorem ledger_exitScope {t t' : Table V} {frame : Frame V}
    (h : t.exitScope = .ok (frame, t')) :
    t'.ledger = t.ledger.cut (t.depth - 1) ∧
      frame.get? = t.ledger.valueAt (t.depth - 1) := by
  obtain ⟨frames', floor'⟩ := t'
  have hframes := frames_exitScope h
  obtain ⟨hf, _, _⟩ := exitScope_eq_ok_iff.mp h
  have hdepth : t.depth = frames'.length + 1 := by rw [depth, hf, List.length_cons]
  constructor
  · rw [← ledger_truncate (Nat.sub_le _ _) floor', truncate_eq_outermost, hdepth]
    exact congrArg (fun frames => (⟨frames, floor'⟩ : Table V).ledger) hframes
  · funext name
    rw [valueAt_ledger, valueAt, hf, valueIn_cons, hdepth]
    exact (if_pos rfl).symm

/-- A declaration puts its value on the stack of its name, in place of one of the same frame. -/
theorem bindingsIn_insert (frame : Frame V) (rest : List (Frame V)) (name : String) (v : V) :
    bindingsIn name (frame.insert name v :: rest) =
      Ledger.declareIn (rest.length + 1) v (bindingsIn name (frame :: rest)) := by
  rw [bindingsIn_cons, bindingsIn_cons, Dict.get?_insert, if_pos rfl]
  cases frame.get? name with
  | some old => exact (if_pos rfl).symm
  | none =>
    -- the top pair is of an outer frame, and so the declaration is pushed
    have hlt := bindingsIn_lt name rest
    cases hb : bindingsIn name rest with
    | nil => rfl
    | cons e later =>
      rw [hb] at hlt
      have hne := hlt e List.mem_cons_self
      exact (if_neg fun hc => Nat.ne_of_lt hne (Nat.succ.inj hc)).symm

/-- **A declaration replaces the top pair** if it is of the innermost frame, and else is pushed. -/
theorem ledger_declare {t t' : Table V} {name : String} {v : V}
    (h : t.declare name v = .ok t') : t'.ledger = t.ledger.declare name v := by
  obtain ⟨frames, floor⟩ := t
  obtain ⟨_, frame, rest, hf, rfl⟩ := declare_eq_ok_iff.mp h
  obtain rfl : frames = frame :: rest := hf
  refine congrArg (Ledger.mk (rest.length + 1)) (funext fun other => ?_)
  by_cases hn : other = name
  · subst hn
    rw [if_pos rfl]
    exact bindingsIn_insert frame rest other v
  · rw [if_neg hn, bindingsIn_cons, Dict.get?_insert, if_neg hn]
    rfl

/-- A rebinding changes the value on the top of the stack of its name. -/
theorem bindingsIn_rebindIn {name : String} {f : V → V} {frames frames' : List (Frame V)} {old : V}
    (h : rebindIn name f frames = some (old, frames')) :
    frames'.length = frames.length ∧
      ∀ other, bindingsIn other frames' =
        if other = name then Ledger.setTopIn (f old) (bindingsIn other frames)
        else bindingsIn other frames := by
  induction frames generalizing frames' with
  | nil => cases h
  | cons frame rest ih =>
    rcases rebindIn_cons_eq_some h with ⟨hg, rfl⟩ | ⟨hg, rest', hr, rfl⟩
    · refine ⟨rfl, fun other => ?_⟩
      rw [bindingsIn_cons, bindingsIn_cons, Dict.get?_modify]
      by_cases hn : other = name
      · subst hn
        rw [if_pos rfl, if_pos rfl, hg]
        rfl
      · rw [if_neg hn, if_neg hn]
    · obtain ⟨hlen, hother⟩ := ih hr
      refine ⟨congrArg Nat.succ hlen, fun other => ?_⟩
      rw [bindingsIn_cons, bindingsIn_cons, hother, hlen]
      by_cases hn : other = name
      · subst hn
        rw [if_pos rfl, if_pos rfl, hg]
      · rw [if_neg hn, if_neg hn]

/-- **A rebinding changes the top pair in place,** whichever frame that is of. -/
theorem ledger_rebind? {t t' : Table V} {name : String} {f : V → V} {old : V}
    (h : t.rebind? name f = some (old, t')) : t'.ledger = t.ledger.setTop name (f old) := by
  obtain ⟨frames', hr, rfl⟩ := rebind?_eq_some h
  obtain ⟨hlen, hother⟩ := bindingsIn_rebindIn hr
  show (⟨frames'.length, fun other => bindingsIn other frames'⟩ : Ledger V) = _
  rw [hlen, funext hother]
  rfl

/-! ## Questions -/

/-- The value on the top of the stack is what the table finds. -/
theorem get?_ledger (t : Table V) (name : String) : t.ledger.get? name = t.get? name := by
  show (bindingsIn name t.frames).head?.map _ = t.frames.findSome? _
  induction t.frames with
  | nil => rfl
  | cons frame rest ih =>
    rw [bindingsIn, List.findSome?_cons]
    cases frame.get? name with
    | some v => rfl
    | none => exact ih

/-- The index on the top of the stack is that of the frame that the table finds. -/
theorem resolveDepth?_ledger (t : Table V) (name : String) :
    t.ledger.resolveDepth? name = t.resolveDepth? name := by
  obtain ⟨frames, floor⟩ := t
  show (bindingsIn name frames).head?.map _ = _
  induction frames with
  | nil => rfl
  | cons frame rest ih =>
    rw [bindingsIn, resolveDepth?_cons]
    cases frame.get? name with
    | some v => rfl
    | none => exact ih

theorem isLocal_ledger (t : Table V) (name : String) :
    t.ledger.isLocal name = t.isLocal name := by
  obtain ⟨frames, floor⟩ := t
  unfold Ledger.isLocal
  rw [resolveDepth?_ledger]
  cases frames with
  | nil => rfl
  | cons frame rest =>
    show _ = frame.contains name
    rw [resolveDepth?_cons, Dict.contains]
    cases frame.get? name with
    | some v => exact beq_self_eq_true _
    | none =>
      -- the nearest binding is in an outer frame, if there is one
      have hlt := bindingsIn_lt name rest
      rw [Option.isSome_none, if_neg Bool.false_ne_true, ← resolveDepth?_ledger]
      show (((bindingsIn name rest).head?.map _).any _) = false
      cases hb : bindingsIn name rest with
      | nil => rfl
      | cons e later =>
        rw [hb] at hlt
        have hne := hlt e List.mem_cons_self
        exact beq_false_of_ne (fun hc => Nat.ne_of_lt hne (Nat.succ.inj hc))

end Table

end LexicalScope
