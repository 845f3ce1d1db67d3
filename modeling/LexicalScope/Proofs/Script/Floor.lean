import LexicalScope.Proofs.Script.Invariant

/-!
# The floor

A scoped block ends with a subtraction from the floor that its body leaves, and closing a scope with
taking a frame away. Where bodies put other tables in place, floor and depth have nothing to do with
each other any more: a floor may be above the depth, and there may be no frame at all. And yet no
floor is zero, for every floor is that of a new table, or a depth with one more frame, or one of
these that a block has kept. So there is something to subtract from, and where the floor lets a
scope be closed there is one.

* `Table.Reachable` — the tables that can be had, whatever the bodies of blocks do
* `Table.runScoped?`, `Table.exitScope?` — the same operations with a result only where subtracting
  and taking away can be done
* `reachable_stateAfter` — scripts have no other tables
* `floor_never_underflows` — the two are never without a result
-/

namespace LexicalScope

namespace Table

variable {V : Type}

/-! ## Operations that can fail -/

/-- Runs a scoped block, if there is something below the floor that its body leaves. -/
def runScoped? {α : Type} (t : Table V) (body : Table V → α × Table V) : Option (α × Table V) :=
  let (answer, after) := body t.openScoped
  match after.floor with
  | 0 => none
  | n + 1 => some (answer, ⟨after.truncate n, t.floor⟩)

/-- Closes the innermost frame or refuses to, in two steps: the floor is asked first, and then there
has to be a frame. -/
def exitScope? (t : Table V) : Option (Except Refusal (Frame V × Table V)) :=
  if t.depth ≤ t.floor then some (.error (if t.floor = 1 then .rootScope else .scopeFloor))
  else
    match t.frames with
    | [] => none
    | frame :: rest => some (.ok (frame, { t with frames := rest }))

/-- With a floor of at least one the checked block is the block. -/
theorem runScoped?_eq_some {α : Type} {t : Table V} {body : Table V → α × Table V}
    (h : 1 ≤ (body t.openScoped).2.floor) : t.runScoped? body = some (t.runScoped body) := by
  obtain ⟨n, hn⟩ := Nat.exists_eq_add_of_le' h
  rw [runScoped_eq, closeScoped, hn, Nat.add_sub_cancel]
  simp only [runScoped?, hn]

/-- The floor lets a scope be closed only where there is one. -/
theorem exitScope?_eq_some (t : Table V) : t.exitScope? = some t.exitScope := by
  unfold exitScope?
  by_cases h : t.depth ≤ t.floor
  · rw [if_pos h, exitScope_eq_error_iff.mpr ⟨h, rfl⟩]
  · rw [if_neg h]
    cases hf : t.frames with
    | nil =>
      have hdepth : t.depth = 0 := by simp [depth, hf]
      omega
    | cons frame rest =>
      have hexit : t.exitScope = .ok (frame, { t with frames := rest }) :=
        exitScope_eq_ok_iff.mpr ⟨hf, Nat.lt_of_not_le h, rfl⟩
      rw [hexit]

/-! ## The tables that can be had -/

/-- The tables that can be had by the operations, with any number of tables and copies at hand. The
body of a block may leave any such table in place of the one that it was given, and it need not come
to its end. -/
inductive Reachable : Table V → Prop where
  | new : Reachable new
  | enters {t : Table V} (h : t.Reachable) : Reachable t.enterScope
  | exits {t t' : Table V} {frame : Frame V} (h : t.Reachable)
    (he : t.exitScope = .ok (frame, t')) : Reachable t'
  | declares {t t' : Table V} {name : String} {value : V} (h : t.Reachable)
    (hd : t.declare name value = .ok t') : Reachable t'
  | rebinds {t t' : Table V} {name : String} {f : V → V} {old : V} (h : t.Reachable)
    (hr : t.rebind? name f = some (old, t')) : Reachable t'
  | opens {t : Table V} (h : t.Reachable) : Reachable t.openScoped
  | closes {t after : Table V} (h : t.Reachable) (ha : after.Reachable) :
    Reachable (after.closeScoped t.floor)

namespace Reachable

variable {t t' : Table V}

/-- **No floor is zero.** -/
theorem one_le_floor (h : t.Reachable) : 1 ≤ t.floor := by
  induction h with
  | new => exact Nat.le_refl 1
  | enters _ ih => exact ih
  | exits _ he ih =>
    rw [(exitScope_eq_ok_iff.mp he).2.2]
    exact ih
  | declares _ hd ih =>
    obtain ⟨_, _, _, _, rfl⟩ := declare_eq_ok_iff.mp hd
    exact ih
  | rebinds _ hr ih =>
    obtain ⟨_, _, rfl⟩ := rebind?_eq_some hr
    exact ih
  | opens _ _ => exact Nat.succ_pos _
  | closes _ _ ih _ =>
    -- the floor of the block goes, and the one that it found comes back
    exact ih

/-- **A scope is closed only if others are left,** as many as the floor says. -/
theorem floor_le_depth_of_exitScope (h : t.Reachable) {frame : Frame V}
    (he : t.exitScope = .ok (frame, t')) : t'.floor ≤ t'.depth ∧ 1 ≤ t'.depth := by
  have hpos := (h.exits he).one_le_floor
  obtain ⟨hf, hlt, hfloor⟩ := exitScope_eq_ok_iff.mp he
  have hdepth : t.depth = t'.depth + 1 := by simp [depth, hf]
  omega

end Reachable

end Table

namespace Script

/-! ## Scripts -/

/-- What a command does to a reachable table leaves a reachable one. -/
theorem Effect.reachable {c : Command} {t t' : Store} (he : Effect c t t') (h : t.Reachable) :
    t'.Reachable := by
  cases he with
  | stays => exact h
  | enters => exact h.enters
  | exits _ hexit => exact h.exits hexit
  | declares hd => exact h.declares hd
  | rebinds hr => exact h.rebinds hr

/-- The tables of a place can be had, and the floors that its blocks found are floors of such
tables. -/
structure Place.Reachable (p : Place) : Prop where
  state : p.state.Forall Table.Reachable
  floors : ∀ floor ∈ p.floors, ∃ t : Store, t.Reachable ∧ t.floor = floor

namespace Place.Reachable

variable {p q : Place} {m : Moment} {ms : List Moment}

theorem initial : Place.Reachable ⟨.initial, []⟩ := by
  refine ⟨⟨.new, fun _ _ hslot => ?_⟩, fun _ hfloor => absurd hfloor List.not_mem_nil⟩
  cases hslot

/-- A step keeps all tables reachable, the copies too. -/
theorem step (h : p.Reachable) (hs : Step p m q) : q.Reachable := by
  obtain ⟨hstate, hfloors⟩ := h
  cases hs with
  | does hb s floors =>
    exact ⟨State.Forall.run .new (fun he ht => he.reachable ht) hb hstate, hfloors⟩
  | opens stops body s floors =>
    refine ⟨⟨hstate.store.opens, hstate.slots⟩, ?_⟩
    intro floor hfloor
    rcases List.mem_cons.mp hfloor with rfl | hfloor
    · exact ⟨s.store, hstate.store, rfl⟩
    · exact hfloors floor hfloor
  | closes s floor floors =>
    obtain ⟨⟨t, ht, rfl⟩, hrest⟩ := List.forall_mem_cons.mp hfloors
    exact ⟨⟨ht.closes hstate.store, hstate.slots⟩, hrest⟩

/-- A run keeps all tables reachable. -/
theorem path (h : p.Reachable) (hp : Path p ms q) : q.Reachable := by
  induction hp with
  | nil => exact h
  | cons first _ ih => exact ih (h.step first)

end Place.Reachable

/-- **Scripts have no other tables,** in the store and in the copies of it. -/
theorem reachable_stateAfter {script : List Command} {past : List Moment}
    (h : past <+: trace script) : (stateAfter .initial past).Forall Table.Reachable := by
  obtain ⟨floors, hpath⟩ := path_stateAfter h
  exact (Place.Reachable.initial.path hpath).state

/-- Where a block of a script closes, there is something below the floor. -/
theorem frames_of_closes {script : List Command} {m : Moment} (hm : m ∈ trace script)
    (he : m.event = .closes) :
    ∃ n, m.before.store.floor = n + 1 ∧ m.after.store.frames = m.before.store.truncate n := by
  obtain ⟨past, p, q, _, hpath, hs⟩ := (path_traceAll false script .initial []).of_mem hm
  have hp : p.Reachable := Place.Reachable.initial.path hpath
  cases hs with
  | does hb s floors => cases he
  | opens stops body s floors => cases he
  | closes s floor floors =>
    obtain ⟨n, hn⟩ := Nat.exists_eq_add_of_le' hp.state.store.one_le_floor
    refine ⟨n, hn, ?_⟩
    show s.store.truncate (s.store.floor - 1) = s.store.truncate n
    rw [show s.store.floor = n + 1 from hn, Nat.add_sub_cancel]

/-- **The floor never underflows.** All states of a script, within its blocks too, and all copies in
them are tables that can be had, and where one of its blocks closes there is something below the
floor. The floor of a table that can be had is one at least, so a block is never without a result,
whatever such table its body leaves, and neither is closing a scope; where a scope is closed, as
many frames are left as the floor says. -/
theorem floor_never_underflows :
    (∀ script past, past <+: trace script →
        (stateAfter .initial past).Forall Table.Reachable) ∧
      (∀ script, ∀ m ∈ trace script, m.event = .closes →
        ∃ n, m.before.store.floor = n + 1 ∧
          m.after.store.frames = m.before.store.truncate n) ∧
      ∀ {V : Type} {t : Table V}, t.Reachable →
        1 ≤ t.floor ∧
        (∀ {α : Type} (body : Table V → α × Table V), (body t.openScoped).2.Reachable →
          t.runScoped? body = some (t.runScoped body) ∧ (t.runScoped body).2.Reachable) ∧
        t.exitScope? = some t.exitScope ∧
        ∀ frame t', t.exitScope = .ok (frame, t') →
          t'.Reachable ∧ t'.floor ≤ t'.depth ∧ 1 ≤ t'.depth := by
  refine ⟨fun _ _ h => reachable_stateAfter h, fun _ _ hm he => frames_of_closes hm he, ?_⟩
  intro V t h
  refine ⟨h.one_le_floor, fun body hbody => ⟨?_, h.closes hbody⟩,
    t.exitScope?_eq_some, fun frame t' he => ⟨h.exits he, h.floor_le_depth_of_exitScope he⟩⟩
  exact Table.runScoped?_eq_some hbody.one_le_floor

/-- A copy from within a block is put in place outside of it, and then a block starts anew and
closes the last frame: no frame is there, and the floor is two. It cannot be closed any further, and
a block opens and closes. -/
theorem floor_never_underflows_without_frames :
    let script : List Command :=
      [.block false [.save "inner"], .restore "inner", .block false [.reset]]
    let t := (stateAfter .initial (trace script)).store
    trace script <+: trace script ∧ t.depth = 0 ∧ t.floor = 2 ∧ t.Reachable ∧
      (∃ m ∈ trace script, m.event = .closes ∧ m.before.store.floor = 1 ∧
        m.after.store.frames = m.before.store.truncate 0) ∧
      t.openScoped.Reachable ∧
      t.runScoped? (fun inner => ((), inner)) = some (t.runScoped fun inner => ((), inner)) ∧
      t.exitScope? = some (.error .scopeFloor) := by
  intro script t
  obtain ⟨hstates, hcloses, htables⟩ := floor_never_underflows
  have hpast : trace script <+: trace script := List.prefix_refl _
  have ht : t.Reachable := (hstates script _ hpast).store
  obtain ⟨-, hblocks, hexit, -⟩ := htables ht
  have hbody : t.openScoped.Reachable := ht.opens
  obtain ⟨n, hn, hframes⟩ := hcloses script (trace script)[6] (List.getElem_mem _) rfl
  obtain rfl : 0 = n := Nat.succ.inj hn
  refine ⟨hpast, rfl, rfl, ht, ⟨_, List.getElem_mem _, rfl, hn, hframes⟩, hbody,
    (hblocks (fun inner => ((), inner)) hbody).1, hexit⟩

end Script

end LexicalScope
