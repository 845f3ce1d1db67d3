import LexicalScope.Proofs.Script.Trace
import LexicalScope.Proofs.Table.ValueAt

/-!
# What a command does to the store

A command that is no block puts another table in place of the store, or else does one of five things
to it, and no proof about runs needs to look at the single commands again.

* `Command.replacement?` — the table that a command puts in place
* `Command.write?` — the name and the value that a command wants to write over a binding
* `Command.declares?` — the name and the value that a command wants to bind in the innermost frame
* `Effect`, `effect_run` — the five things, and that there is no other
* `Place.Sound`, `Place.Sound.step` — the floors of the running blocks increase inwards, and the
  depth never falls below the innermost: what every step of a run keeps
* `store_run_block` — what a block leaves of the store, from what its body leaves
-/

namespace LexicalScope.Script

/-- The table that the command puts in place of the store: a copy, or a new one, which also comes
where a table is given away and lost. -/
def Command.replacement? : Command → State → Option Store
  | .declare manner name v, s =>
    match s.store.declare name v with
    | .ok _ => none
    | .error _ => if manner.handsOver then some Table.new else none
  | .restore slot, s => s.slots.get? slot
  | .reset, _ => some Table.new
  | _, _ => none

theorem store_run_of_replacement {c : Command} {s : State} {t : Store}
    (h : c.replacement? s = some t) : (c.run s).2.store = t := by
  cases c with
  | declare manner name v =>
    rw [Command.replacement?] at h
    show (declare manner name v s).2.store = t
    unfold declare
    cases hd : s.store.declare name v with
    | ok t' => rw [hd] at h; cases h
    | error e =>
      rw [hd] at h
      dsimp only at h ⊢
      split at h
      · next hm => rw [if_pos hm]; exact Option.some.inj h
      · cases h
  | restore slot =>
    rw [Command.replacement?] at h
    rw [Command.run, h]
  | reset => exact Option.some.inj h
  | _ => cases h

/-- A table with a frame is not replaced by a command that keeps it. -/
theorem replacement?_eq_none {c : Command} {s : State} (hk : c.keepsTable = true)
    (hd : 0 < s.store.depth) : c.replacement? s = none := by
  cases c with
  | declare manner name v =>
    rw [Command.replacement?]
    cases h : s.store.declare name v with
    | ok t => rfl
    | error e =>
      rw [Command.keepsTable, Bool.or_eq_true, Bool.not_eq_true', decide_eq_true_eq] at hk
      rcases hk with hk | hk
      · exact if_neg (by rw [hk]; exact Bool.false_ne_true)
      · -- a valid name is refused only where there is no frame to bind it in
        obtain ⟨t, ht⟩ := Table.exists_declare_eq_ok hd hk v
        rw [ht] at h
        cases h
  | restore slot => cases hk
  | reset => cases hk
  | _ => rfl

/-- The name whose nearest binding the command gives a new value, and the value. -/
def Command.write? : Command → Store → Option (String × Json)
  | .update name v, _ => some (name, v)
  | .updateOrDeclare name v, _ => some (name, v)
  | .updateValue name d, _ =>
    match Store.convert d with
    | .ok v => some (name, v)
    | .error _ => none
  | .edit name e, t => (t.get? name).map fun old => (name, e.apply old)
  | _, _ => none

/-- The name that the command wants to bind in the innermost frame, and the value. -/
def Command.declares? : Command → Store → Option (String × Json)
  | .declare _ name v, _ => some (name, v)
  | .updateOrDeclare name v, t => if t.contains name then none else some (name, v)
  | .declareValue name d, _ =>
    match Store.convert d with
    | .ok v => some (name, v)
    | .error _ => none
  | _, _ => none

/-- A write that the command asks for finds no binding. -/
def Command.MissesAt (c : Command) (t : Store) : Prop :=
  ∀ name v, c.write? t = some (name, v) → t.get? name = none

/-- The ways in which a command changes a store. -/
inductive Effect (c : Command) (t : Store) : Store → Prop where
  | stays (hw : c.MissesAt t) : Effect c t t
  | enters (hc : c = .enterScope) : Effect c t t.enterScope
  | exits {frame : Frame Json} {t' : Store} (hc : c = .exitScope)
    (h : t.exitScope = .ok (frame, t')) : Effect c t t'
  | declares {name : String} {v : Json} {t' : Store} (h : t.declare name v = .ok t')
    (hw : c.MissesAt t) (hc : c.declares? t = some (name, v)) : Effect c t t'
  | rebinds {name : String} {f : Json → Json} {old : Json} {t' : Store}
    (h : t.rebind? name f = some (old, t')) (hw : c.write? t = some (name, f old)) : Effect c t t'

theorem missesAt_of_eq_none {c : Command} {t : Store} (h : c.write? t = none) : c.MissesAt t := by
  intro name v hw
  rw [h] at hw
  cases hw

/-- A command that would write one name alone misses if the name is not bound. -/
theorem missesAt_of_get?_eq_none {c : Command} {t : Store} (name : String)
    (hname : ∀ n v, c.write? t = some (n, v) → n = name) (h : t.get? name = none) :
    c.MissesAt t := by
  intro n v hw
  rw [hname n v hw]
  exact h

/-- A declaration succeeds, or else it fails and leaves the store as it was. -/
theorem run_declare_cases {manner : Manner} {name : String} {v : Json} {s : State}
    (hr : (Command.declare manner name v).replacement? s = none) :
    (∃ t, s.store.declare name v = .ok t ∧
        ((Command.declare manner name v).run s).2.store = t ∧
        ((Command.declare manner name v).run s).1.isFailure = false) ∨
      (((Command.declare manner name v).run s).2.store = s.store ∧
        ((Command.declare manner name v).run s).1.isFailure = true) := by
  rw [Command.replacement?] at hr
  rw [Command.run, declare]
  cases h : s.store.declare name v with
  | ok t => exact Or.inl ⟨t, rfl, rfl, by cases manner.insists <;> rfl⟩
  | error e =>
    rw [h] at hr
    right
    dsimp only at hr ⊢
    split at hr
    · cases hr
    · next hm =>
      rw [if_neg hm]
      exact ⟨rfl, by cases manner.insists <;> cases e <;> rfl⟩

/-- A declaration declares, or else nothing happens to the store. -/
theorem effect_declare {manner : Manner} {name : String} {v : Json} {s : State}
    (hr : (Command.declare manner name v).replacement? s = none) :
    Effect (.declare manner name v) s.store ((Command.declare manner name v).run s).2.store := by
  have hmiss : (Command.declare manner name v).MissesAt s.store := missesAt_of_eq_none rfl
  rcases run_declare_cases hr with ⟨t, ht, hstore, _⟩ | ⟨hstore, _⟩
  · rw [hstore]
    exact .declares ht hmiss rfl
  · rw [hstore]
    exact .stays hmiss

/-- `update` as a command sees it. -/
theorem update_eq_ok {t t' : Store} {name : String} {v old : Json}
    (h : t.update name v = .ok (old, t')) :
    t.rebind? name (fun _ => v) = some (old, t') := by
  unfold Table.update at h
  split at h
  · next result hr => rw [hr, Except.ok.inj h]
  · cases h

theorem update_eq_error {t : Store} {name : String} {v : Json} {r : Refusal}
    (h : t.update name v = .error r) : t.get? name = none := by
  unfold Table.update at h
  split at h
  · cases h
  · next hr => exact Table.rebind?_eq_none_iff.mp hr

theorem missesAt_updateOrDeclare {t : Store} {name : String} (v : Json)
    (h : t.get? name = none) : (Command.updateOrDeclare name v).MissesAt t :=
  missesAt_of_get?_eq_none name (fun _ _ hw => by cases hw; rfl) h

/-- An update that may declare rebinds the name, or declares it, or nothing happens. -/
theorem effect_updateOrDeclare (name : String) (v : Json) (s : State) :
    Effect (.updateOrDeclare name v) s.store
      ((Command.updateOrDeclare name v).run s).2.store := by
  rw [Command.run]
  unfold Table.updateOrDeclare
  cases hr : s.store.rebind? name fun _ => v with
  | some result =>
    obtain ⟨old, t⟩ := result
    exact .rebinds hr rfl
  | none =>
    -- the name is bound nowhere, so that no write is missed by declaring it
    have hnone := Table.rebind?_eq_none_iff.mp hr
    have hmiss := missesAt_updateOrDeclare v hnone
    cases hd : s.store.declare name v with
    | ok t =>
      refine .declares hd hmiss (if_neg ?_)
      rw [Table.contains_eq_false_iff.mpr hnone]
      exact Bool.false_ne_true
    | error e => exact .stays hmiss

theorem effect_updateValue (name : String) (d : Datum) (s : State) :
    Effect (.updateValue name d) s.store ((Command.updateValue name d).run s).2.store := by
  rw [Command.run]
  unfold Store.updateValue
  cases hc : Store.convert d with
  | error e =>
    exact .stays (missesAt_of_eq_none (by rw [Command.write?, hc]))
  | ok v =>
    have hw : (Command.updateValue name d).write? s.store = some (name, v) := by
      rw [Command.write?, hc]
    dsimp only
    cases hu : s.store.update name v with
    | ok result =>
      obtain ⟨old, t⟩ := result
      exact .rebinds (update_eq_ok hu) hw
    | error r =>
      refine .stays (missesAt_of_get?_eq_none name ?_ (update_eq_error hu))
      intro n w hw'
      rw [hw] at hw'
      cases hw'
      rfl

/-- **What a command does to the store,** if it does not replace it. -/
theorem effect_run {c : Command} (hb : c.isBlock = false) {s : State}
    (hr : c.replacement? s = none) : Effect c s.store (c.run s).2.store := by
  cases c with
  | enterScope => exact .enters rfl
  | exitScope =>
    rw [Command.run]
    cases h : s.store.exitScope with
    | ok result => exact .exits rfl h
    | error r => exact .stays (missesAt_of_eq_none rfl)
  | declare manner name v => exact effect_declare hr
  | update name v =>
    rw [Command.run]
    cases h : s.store.update name v with
    | ok result => exact .rebinds (update_eq_ok h) rfl
    | error r =>
      refine .stays (missesAt_of_get?_eq_none name ?_ (update_eq_error h))
      intro n w hw
      cases hw
      rfl
  | updateOrDeclare name v => exact effect_updateOrDeclare name v s
  | edit name e =>
    rw [Command.run]
    cases h : s.store.rebind? name e.apply with
    | some result =>
      obtain ⟨old, t⟩ := result
      refine .rebinds h ?_
      rw [Command.write?, ← Table.rebind?_old s.store name e.apply, h]
      rfl
    | none =>
      refine .stays (missesAt_of_eq_none ?_)
      rw [Command.write?, Table.rebind?_eq_none_iff.mp h]
      rfl
  | declareValue name d =>
    rw [Command.run]
    unfold Store.declareValue
    cases hc : Store.convert d with
    | error e => exact .stays (missesAt_of_eq_none rfl)
    | ok v =>
      dsimp only
      cases h : s.store.declare name v with
      | ok t => exact .declares h (missesAt_of_eq_none rfl) (by rw [Command.declares?, hc])
      | error e => exact .stays (missesAt_of_eq_none rfl)
  | updateValue name d => exact effect_updateValue name d s
  | lookup name =>
    rw [Command.run]
    cases s.store.lookup name <;> exact .stays (missesAt_of_eq_none rfl)
  | restore slot =>
    rw [Command.replacement?] at hr
    rw [Command.run, hr]
    exact .stays (missesAt_of_eq_none rfl)
  | reset => cases hr
  | block stops body => cases hb
  | _ => exact .stays (missesAt_of_eq_none rfl)

/-! ## Depth and floor -/

theorem floor_rebind? {V : Type} {t t' : Table V} {name : String} {f : V → V} {old : V}
    (h : t.rebind? name f = some (old, t')) : t'.floor = t.floor := by
  obtain ⟨_, _, _, _, hfloor, _⟩ := Table.valueAt_rebind? h
  exact hfloor

theorem depth_rebind? {V : Type} {t t' : Table V} {name : String} {f : V → V} {old : V}
    (h : t.rebind? name f = some (old, t')) : t'.depth = t.depth := by
  obtain ⟨_, _, _, hdepth, _, _⟩ := Table.valueAt_rebind? h
  exact hdepth

theorem floor_declare {V : Type} {t t' : Table V} {name : String} {v : V}
    (h : t.declare name v = .ok t') : t'.floor = t.floor := by
  obtain ⟨_, frame, rest, _, rfl⟩ := Table.declare_eq_ok_iff.mp h
  rfl

theorem depth_exitScope {V : Type} {t t' : Table V} {frame : Frame V}
    (h : t.exitScope = .ok (frame, t')) : t'.depth + 1 = t.depth := by
  obtain ⟨hf, _, _⟩ := Table.exitScope_eq_ok_iff.mp h
  rw [Table.depth, Table.depth, hf, List.length_cons]

namespace Effect

variable {c : Command} {t t' : Store}

/-- Only blocks move the floor. -/
theorem floor_eq (h : Effect c t t') : t'.floor = t.floor := by
  cases h with
  | stays => rfl
  | enters => rfl
  | exits _ h => exact (Table.exitScope_eq_ok_iff.mp h).2.2
  | declares h => exact floor_declare h
  | rebinds h => exact floor_rebind? h

/-- Scopes are closed only down to the floor. -/
theorem le_depth (h : Effect c t t') {n : Nat} (hfloor : n ≤ t.floor) (hdepth : n ≤ t.depth) :
    n ≤ t'.depth := by
  cases h with
  | stays => exact hdepth
  | enters => exact Nat.le_succ_of_le hdepth
  | exits _ h =>
    have hlt := (Table.exitScope_eq_ok_iff.mp h).2.1
    have hpop := depth_exitScope h
    omega
  | declares h => rwa [Table.depth_declare h]
  | rebinds h => rwa [depth_rebind? h]

theorem floor_le_depth (h : Effect c t t') (ht : t.floor ≤ t.depth) : t'.floor ≤ t'.depth := by
  rw [h.floor_eq]
  exact h.le_depth (Nat.le_refl _) ht

/-- Only entering and leaving a scope change the depth. -/
theorem depth_eq (h : Effect c t t') (henter : c ≠ .enterScope) (hexit : c ≠ .exitScope) :
    t'.depth = t.depth := by
  cases h with
  | stays => rfl
  | enters hc => exact absurd hc henter
  | exits hc => exact absurd hc hexit
  | declares h => exact Table.depth_declare h
  | rebinds h => exact depth_rebind? h

end Effect

/-! ## The floors of running blocks -/

/-- The floors of a place increase inwards from `base + 1`, and no fewer frames are there than the
innermost says. -/
structure Place.Sound (base : Nat) (p : Place) : Prop where
  floor_le_depth : p.state.store.floor ≤ p.state.store.depth
  decreasing : (p.state.store.floor :: p.floors).Pairwise (· > ·)
  ends : ∃ inner, p.state.store.floor :: p.floors = inner ++ [base + 1]

namespace Place.Sound

variable {base : Nat} {p q : Place} {m : Moment} {ms : List Moment}

/-- All floors, those of the enclosing blocks too, lie above the base. -/
theorem base_lt (h : p.Sound base) : ∀ f ∈ p.state.store.floor :: p.floors, base < f := by
  obtain ⟨inner, hinner⟩ := h.ends
  have hpair := h.decreasing
  rw [hinner] at hpair ⊢
  intro f hf
  rcases List.mem_append.mp hf with hf | hf
  · have hgt := (List.pairwise_append.mp hpair).2.2 f hf (base + 1) (List.mem_singleton_self _)
    omega
  · rw [List.mem_singleton.mp hf]
    exact Nat.lt_succ_self base

theorem base_lt_floor (h : p.Sound base) : base < p.state.store.floor :=
  h.base_lt _ List.mem_cons_self

theorem base_lt_depth (h : p.Sound base) : base < p.state.store.depth :=
  Nat.lt_of_lt_of_le h.base_lt_floor h.floor_le_depth

/-- Where no block runs, the floor is the outermost one. -/
theorem floor_eq_of_floors_eq_nil (h : p.Sound base) (hf : p.floors = []) :
    p.state.store.floor = base + 1 := by
  obtain ⟨inner, hinner⟩ := h.ends
  rw [hf] at hinner
  cases inner with
  | nil => exact List.head_eq_of_cons_eq hinner
  | cons f rest =>
    have hlen := congrArg List.length hinner
    simp at hlen

/-- **A step that keeps the table keeps the floors in order.** -/
theorem step (h : p.Sound base) (hs : Step p m q) (hk : m.event.keepsTable = true) :
    q.Sound base := by
  have hlt := h.base_lt_depth
  obtain ⟨hle, hdec, inner, hinner⟩ := h
  cases hs with
  | does hb s floors =>
    have he := effect_run hb (replacement?_eq_none hk (Nat.zero_lt_of_lt hlt))
    have hfloor := he.floor_eq
    refine ⟨he.floor_le_depth hle, ?_, inner, ?_⟩
    · rw [hfloor]
      exact hdec
    · rw [hfloor]
      exact hinner
  | opens stops body s floors =>
    refine ⟨Nat.le_refl _, List.pairwise_cons.mpr ⟨?_, hdec⟩, s.openBlock.store.floor :: inner, ?_⟩
    · intro f hf
      have hopen : s.openBlock.store.floor = s.store.depth + 1 := Table.floor_openScoped s.store
      rcases List.mem_cons.mp hf with rfl | hf
      · exact Nat.lt_succ_of_le hle
      · have hgt := (List.pairwise_cons.mp hdec).1 f hf
        exact Nat.lt_succ_of_le (Nat.le_trans (Nat.le_of_lt hgt) hle)
    · rw [List.cons_append, ← hinner]
  | closes s floor floors =>
    obtain ⟨hgt, hrest⟩ := List.pairwise_cons.mp hdec
    refine ⟨?_, hrest, ?_⟩
    · -- the floor to come back to is below that of the block, which is no higher than the depth
      have hinner : s.store.floor > floor := hgt floor List.mem_cons_self
      show floor ≤ (s.store.closeScoped floor).depth
      rw [Table.depth_closeScoped]
      exact Nat.le_min.mpr ⟨Nat.le_sub_one_of_lt hinner, Nat.le_trans (Nat.le_of_lt hinner) hle⟩
    · cases inner with
      | nil =>
        have hlen := congrArg List.length hinner
        simp at hlen
      | cons f rest => exact ⟨rest, List.tail_eq_of_cons_eq hinner⟩

theorem path (hp : Path p ms q) (hk : ∀ m ∈ ms, m.event.keepsTable = true) (h : p.Sound base) :
    q.Sound base := by
  induction hp with
  | nil => exact h
  | cons first _ ih =>
    exact ih (fun m hm => hk m (List.mem_cons_of_mem _ hm))
      (h.step first (hk _ List.mem_cons_self))

/-- The body of a block starts with the frame of the block innermost. -/
theorem openBlock (s : State) : Place.Sound s.store.depth ⟨s.openBlock, []⟩ :=
  ⟨Nat.le_refl _, List.pairwise_singleton _ _, [], rfl⟩

end Place.Sound

section Body

variable (stops : Bool) {body : List Command} (s : State) (h : allKeep body = true)

include h

/-- The body of a block stays above the scopes that were open before the block. -/
theorem sound_runAll : Place.Sound s.store.depth ⟨(runAll stops body s.openBlock).2, []⟩ :=
  (Place.Sound.openBlock s).path (path_traceAll stops body s.openBlock [])
    (keepsTable_of_mem_traceAll stops h s.openBlock)

/-- **A body that keeps the table leaves the floor that it found,** and no fewer frames. -/
theorem floor_runAll_openBlock :
    (runAll stops body s.openBlock).2.store.floor = s.store.depth + 1 :=
  (sound_runAll stops s h).floor_eq_of_floors_eq_nil rfl

/-- At the end of the body its scope is still open. -/
theorem depth_lt_depth_runAll_openBlock :
    s.store.depth < (runAll stops body s.openBlock).2.store.depth :=
  (sound_runAll stops s h).base_lt_depth

/-- A block closes down to the frames that it found. -/
theorem store_run_block :
    ((Command.block stops body).run s).2.store =
      ⟨(runAll stops body s.openBlock).2.store.truncate s.store.depth, s.store.floor⟩ := by
  rw [run_block]
  show (⟨Table.truncate _ (_ - 1), _⟩ : Store) = _
  rw [floor_runAll_openBlock stops s h, Nat.add_sub_cancel]

/-- A block that keeps the table leaves the depth as it was. -/
theorem depth_store_run_block :
    ((Command.block stops body).run s).2.store.depth = s.store.depth := by
  rw [store_run_block stops s h, Table.depth, Table.length_truncate]
  exact Nat.min_eq_left (Nat.le_of_lt (depth_lt_depth_runAll_openBlock stops s h))

end Body

end LexicalScope.Script
