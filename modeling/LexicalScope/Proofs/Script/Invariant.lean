import LexicalScope.Dict.Lemmas
import LexicalScope.Proofs.Script.Effect

/-!
# Invariants of runs

What holds of a new table and is kept by all that commands do to a table holds in every state of
every run, of the copies that have been saved too. A command can put a copy in the place of the
table, and so the copies have to be spoken of with it.

* `State.Forall` — a property of the store and of all copies
* `Invariant`, `Invariant.stateAfter` — from single changes of a table to all states of all runs
* `Invariant.of_frames` — a property of single frames, which insertion and modification keep
* `ordered_stateAfter` — every frame of every run has its names in order, each once
-/

namespace LexicalScope

namespace Table

variable {V : Type}

/-- Each frame keeps its entries in the order of their names. -/
def Ordered (t : Table V) : Prop := ∀ frame ∈ t.frames, frame.Sorted

theorem forall_rebindIn {Q : Frame V → Prop} {name : String} {f : V → V}
    (hQ : ∀ frame : Frame V, Q frame → Q (frame.modify name f)) {frames frames' : List (Frame V)}
    {old : V} (h : rebindIn name f frames = some (old, frames')) (hf : ∀ frame ∈ frames, Q frame) :
    ∀ frame ∈ frames', Q frame := by
  induction frames generalizing frames' with
  | nil => cases h
  | cons frame rest ih =>
    obtain ⟨hhead, hrest⟩ := List.forall_mem_cons.mp hf
    rcases rebindIn_cons_eq_some h with ⟨_, rfl⟩ | ⟨_, rest', hr, rfl⟩
    · exact List.forall_mem_cons.mpr ⟨hQ frame hhead, hrest⟩
    · exact List.forall_mem_cons.mpr ⟨hhead, ih hr hrest⟩

end Table

namespace Script

/-! ## The store and its copies -/

/-- The store and the copies of it that have been saved all have the property. -/
structure State.Forall (P : Store → Prop) (s : State) : Prop where
  store : P s.store
  slots : ∀ slot t, s.slots.get? slot = some t → P t

/-- A table comes from nowhere but the copies. -/
theorem replacement?_cases {c : Command} {s : State} {t : Store} (h : c.replacement? s = some t) :
    t = Table.new ∨ ∃ slot, s.slots.get? slot = some t := by
  cases c with
  | declare manner name v =>
    rw [Command.replacement?] at h
    split at h
    · cases h
    · split at h
      · exact Or.inl (Option.some.inj h).symm
      · cases h
  | restore slot => exact Or.inr ⟨slot, h⟩
  | reset => exact Or.inl (Option.some.inj h).symm
  | _ => cases h

/-- Nothing but saving makes a copy. -/
theorem slots_run_of_ne {c : Command} (hb : c.isBlock = false) (hc : ∀ slot, c ≠ .save slot)
    (s : State) : (c.run s).2.slots = s.slots := by
  cases c with
  | save slot => exact absurd rfl (hc slot)
  | block stops body => cases hb
  | declare manner name v =>
    show (declare manner name v s).2.slots = s.slots
    unfold declare
    split
    · rfl
    · dsimp only
      split <;> rfl
  | exitScope | update | updateOrDeclare | edit | declareValue | updateValue | lookup | restore =>
    rw [Command.run]
    split <;> rfl
  | _ => rfl

/-- A copy is only ever made of the store. -/
theorem slots_run {c : Command} (hb : c.isBlock = false) (s : State) :
    (c.run s).2.slots = s.slots ∨ ∃ slot, (c.run s).2.slots = s.slots.insert slot s.store := by
  by_cases hc : ∃ slot, c = .save slot
  · obtain ⟨slot, rfl⟩ := hc
    exact Or.inr ⟨slot, rfl⟩
  · exact Or.inl (slots_run_of_ne hb (fun slot h => hc ⟨slot, h⟩) s)

/-- What new tables have, and what the changes of a table by a command keep, the command keeps. -/
theorem State.Forall.run {P : Store → Prop} (hnew : P Table.new) {c : Command}
    (heffect : ∀ {t t' : Store}, Effect c t t' → P t → P t') (hb : c.isBlock = false) {s : State}
    (h : s.Forall P) : (c.run s).2.Forall P := by
  refine ⟨?_, ?_⟩
  · cases hr : c.replacement? s with
    | none => exact heffect (effect_run hb hr) h.store
    | some t =>
      rw [store_run_of_replacement hr]
      -- new tables and copies are all that can be put in place
      rcases replacement?_cases hr with rfl | ⟨slot, hslot⟩
      · exact hnew
      · exact h.slots slot t hslot
  · intro other t ht
    rcases slots_run hb s with hs | ⟨slot, hs⟩
    · rw [hs] at ht
      exact h.slots other t ht
    · rw [hs, Dict.get?_insert] at ht
      split at ht
      · rw [← Option.some.inj ht]
        exact h.store
      · exact h.slots other t ht

/-! ## From changes to runs -/

/-- The property holds of a new table, and all that can happen to a table keeps it. -/
structure Invariant (P : Store → Prop) : Prop where
  new : P Table.new
  effect : ∀ {c : Command} {t t' : Store}, Effect c t t' → P t → P t'
  openScoped : ∀ {t : Store}, P t → P t.openScoped
  closeScoped : ∀ {t : Store} (floor : Nat), P t → P (t.closeScoped floor)

namespace Invariant

variable {P : Store → Prop} {p q : Place} {m : Moment} {ms : List Moment}

/-- A step keeps an invariant of the store and of all copies. -/
theorem step (hP : Invariant P) (h : p.state.Forall P) (hs : Step p m q) : q.state.Forall P := by
  cases hs with
  | does hb s floors => exact State.Forall.run hP.new hP.effect hb h
  | opens stops body s floors => exact ⟨hP.openScoped h.store, h.slots⟩
  | closes s floor floors => exact ⟨hP.closeScoped floor h.store, h.slots⟩

/-- A run keeps an invariant of the store and of all copies. -/
theorem path (hP : Invariant P) (h : p.state.Forall P) (hp : Path p ms q) :
    q.state.Forall P := by
  induction hp with
  | nil => exact h
  | cons first _ ih => exact ih (hP.step h first)

/-- **An invariant holds in every state of every run,** of the store and of its copies. -/
theorem stateAfter (hP : Invariant P) {script : List Command} {past : List Moment}
    (h : past <+: trace script) : (stateAfter .initial past).Forall P := by
  obtain ⟨floors, hpath⟩ := path_stateAfter h
  exact hP.path ⟨hP.new, fun _ _ hslot => by cases hslot⟩ hpath

/-- **What an empty frame has,** and what declarations and rebindings keep, every frame has. -/
theorem of_frames {Q : Frame Json → Prop} (hempty : Q ∅)
    (hinsert : ∀ (frame : Frame Json) (name : String) (v : Json), ValidName name → Q frame →
      Q (frame.insert name v))
    (hmodify : ∀ (frame : Frame Json) (name : String) (f : Json → Json), Q frame →
      Q (frame.modify name f)) :
    Invariant fun t => ∀ frame ∈ t.frames, Q frame where
  new := List.forall_mem_singleton.mpr hempty
  openScoped h := List.forall_mem_cons.mpr ⟨hempty, h⟩
  closeScoped _ h := fun frame hf => h frame (List.mem_of_mem_drop hf)
  effect he h := by
    cases he with
    | stays => exact h
    | enters => exact List.forall_mem_cons.mpr ⟨hempty, h⟩
    | exits _ hexit =>
      rw [(Table.exitScope_eq_ok_iff.mp hexit).1] at h
      exact (List.forall_mem_cons.mp h).2
    | declares hd =>
      obtain ⟨hv, frame, rest, hf, rfl⟩ := Table.declare_eq_ok_iff.mp hd
      rw [hf] at h
      obtain ⟨hhead, hrest⟩ := List.forall_mem_cons.mp h
      exact List.forall_mem_cons.mpr ⟨hinsert frame _ _ hv hhead, hrest⟩
    | rebinds hr =>
      obtain ⟨frames', hin, rfl⟩ := Table.rebind?_eq_some hr
      exact Table.forall_rebindIn (fun frame => hmodify frame _ _) hin h

end Invariant

/-- The frames of a run have their names in order. -/
theorem invariant_ordered : Invariant (Table.Ordered (V := Json)) :=
  .of_frames Dict.sorted_empty (fun _ name v _ h => Dict.sorted_insert h name v)
    (fun _ name f h => Dict.sorted_modify h name f)

/-- The frames of every store of a run have their entries in order. -/
theorem ordered_stateAfter {script : List Command} {past : List Moment}
    (h : past <+: trace script) : (stateAfter .initial past).store.Ordered :=
  (invariant_ordered.stateAfter h).store

end Script

end LexicalScope
