import LexicalScope.Proofs.Script.Invariant

/-!
# The root frame

A block closes its scope by the floor that its body leaves, and not by the one that it gave to the
body. The two are the same unless the body puts another table in place. Then the block closes as
many frames as the floor of that table says, and this can be the root.

* `lastReplacement`, `floor_runAll` — the table that a body puts in place last tells the floor that
  the body leaves
* `Table.Rooted`, `rooted_traceAll` — the root stays if no body leaves a floor of one
* `closing_mem_traceAll` — a block that opens in a run closes in it
* `root_and_depth_iff` — the scripts that keep the root, and those whose blocks keep the depth too
* `reset_in_block_closes_root` — a body that starts anew is enough to lose the root
-/

namespace LexicalScope

/-- A table with its root, and a floor that leaves it there. -/
structure Table.Rooted {V : Type} (t : Table V) : Prop where
  floor_pos : 0 < t.floor
  depth_pos : 0 < t.depth

theorem Table.Rooted.new {V : Type} : (Table.new : Table V).Rooted := ⟨Nat.one_pos, Nat.one_pos⟩

namespace Script

/-! ## The floor that a body leaves -/

/-- The table that the commands put in place last, if they put one there; if `stops`, up to the
first failure. What a block among them does within its own body does not count. -/
def lastReplacement (stops : Bool) : List Command → State → Option Store
  | [], _ => none
  | c :: rest, s =>
    (if stops && (c.run s).1.isFailure then none
      else lastReplacement stops rest (c.run s).2).or (c.replacement? s)

/-- The floor is that of the store, or of the one that replaces it. -/
theorem floor_run (c : Command) (s : State) :
    (c.run s).2.store.floor = ((c.replacement? s).map (·.floor)).getD s.store.floor := by
  cases hr : c.replacement? s with
  | some t =>
    rw [store_run_of_replacement hr]
    rfl
  | none =>
    cases hb : c.isBlock with
    | false => exact (effect_run hb hr).floor_eq
    | true =>
      match c, hb with
      | .block _ _, _ => rfl

/-- **The floor is that of the table put in place last,** or else the one of before. -/
theorem floor_runAll (stops : Bool) (script : List Command) (s : State) :
    (runAll stops script s).2.store.floor =
      ((lastReplacement stops script s).map (·.floor)).getD s.store.floor := by
  induction script generalizing s with
  | nil => rfl
  | cons c rest ih =>
    rw [runAll_cons, lastReplacement]
    by_cases hf : (stops && (c.run s).1.isFailure) = true
    · rw [if_pos hf, if_pos hf, Option.none_or]
      exact floor_run c s
    · rw [if_neg hf, if_neg hf]
      show (runAll stops rest (c.run s).2).2.store.floor = _
      rw [ih, floor_run]
      cases lastReplacement stops rest (c.run s).2 <;> rfl

/-! ## States with a root -/

/-- The store and the copies of it that have been saved all have their root. -/
structure State.Rooted (s : State) : Prop where
  store : s.store.Rooted
  slots : ∀ slot t, s.slots.get? slot = some t → t.Rooted

theorem State.Rooted.initial : State.Rooted .initial :=
  ⟨.new, fun _ _ h => by cases h⟩

/-- What a command does leaves a root. -/
theorem Effect.rooted {c : Command} {t t' : Store} (he : Effect c t t') (h : t.Rooted) :
    t'.Rooted := by
  refine ⟨he.floor_eq ▸ h.floor_pos, ?_⟩
  cases he with
  | stays => exact h.depth_pos
  | enters => exact Nat.succ_pos _
  | exits _ hexit =>
    have hlt := (Table.exitScope_eq_ok_iff.mp hexit).2.1
    have hdepth := depth_exitScope hexit
    have hpos := h.floor_pos
    omega
  | declares hd => exact Table.depth_declare hd ▸ h.depth_pos
  | rebinds hr => exact depth_rebind? hr ▸ h.depth_pos

/-- No command but a block can take the root of a state. -/
theorem State.Rooted.run {c : Command} (hb : c.isBlock = false) {s : State} (h : s.Rooted) :
    (c.run s).2.Rooted := by
  obtain ⟨hstore, hslots⟩ :=
    State.Forall.run .new (fun he ht => he.rooted ht) hb ⟨h.store, h.slots⟩
  exact ⟨hstore, hslots⟩

/-! ## Blocks -/

/-- The state that the body of a block leaves to it. -/
def bodyEnd (stops : Bool) (body : List Command) (s : State) : State :=
  (runAll stops body s.openBlock).2

/-- The floor that the body of a block leaves to it. -/
def floorLeft (stops : Bool) (body : List Command) (s : State) : Nat :=
  ((lastReplacement stops body s.openBlock).map (·.floor)).getD (s.store.depth + 1)

theorem floor_bodyEnd (stops : Bool) (body : List Command) (s : State) :
    (bodyEnd stops body s).store.floor = floorLeft stops body s :=
  floor_runAll stops body s.openBlock

/-- A block truncates the store that its body leaves to the floor left there, less one. -/
theorem depth_run_block (stops : Bool) (body : List Command) (s : State) :
    ((Command.block stops body).run s).2.store.depth =
      min (floorLeft stops body s - 1) (bodyEnd stops body s).store.depth := by
  rw [← floor_bodyEnd]
  exact Table.depth_closeScoped _ _

/-- **A block keeps the root** exactly if its body does not leave a floor of one. -/
theorem State.Rooted.closeBlock {stops : Bool} {body : List Command} {s : State} (h : s.Rooted)
    (hend : (bodyEnd stops body s).Rooted) (hne : floorLeft stops body s ≠ 1) :
    ((bodyEnd stops body s).closeBlock s.store.floor).Rooted := by
  refine ⟨⟨h.store.floor_pos, ?_⟩, hend.slots⟩
  have hfloor := hend.store.floor_pos
  have hdepth := hend.store.depth_pos
  rw [floor_bodyEnd] at hfloor
  refine Nat.lt_of_lt_of_eq ?_ (depth_run_block stops body s).symm
  omega

/-- No block that opens in a table with a root leaves a floor of one. -/
def Sparing (ms : List Moment) : Prop :=
  ∀ m ∈ ms, ∀ stops body, m.event = .opens stops body → 0 < m.before.store.depth →
    floorLeft stops body m.before ≠ 1

mutual

/-- A command whose blocks spare the root leaves it at every moment. -/
theorem Command.rooted_trace {c : Command} {s : State} (hs : s.Rooted) (h : Sparing (c.trace s)) :
    (∀ m ∈ c.trace s, m.after.Rooted) ∧ (c.run s).2.Rooted := by
  cases hc : c.isBlock with
  | false =>
    rw [Command.trace_of_isBlock_eq_false hc]
    refine ⟨fun m hm => ?_, hs.run hc⟩
    rw [List.mem_singleton.mp hm]
    exact hs.run hc
  | true =>
    match c, hc, h with
    | .block stops body, _, h =>
      rw [Command.trace] at h ⊢
      have hopen : s.openBlock.Rooted := ⟨⟨Nat.succ_pos _, Nat.succ_pos _⟩, hs.slots⟩
      -- the block itself is the first of its moments, and the body starts with a frame of its own
      have hne : floorLeft stops body s ≠ 1 :=
        h _ List.mem_cons_self stops body rfl hs.store.depth_pos
      obtain ⟨hinner, hend⟩ := rooted_traceAll hopen fun m hm =>
        h m (List.mem_cons_of_mem _ (List.mem_append_left _ hm))
      have hclose := hs.closeBlock hend hne
      refine ⟨fun m hm => ?_, hclose⟩
      rw [List.mem_cons, List.mem_append, List.mem_singleton] at hm
      rcases hm with rfl | hm | rfl
      · exact hopen
      · exact hinner m hm
      · exact hclose
termination_by structural c

/-- Commands whose blocks spare the root leave it at every moment. -/
theorem rooted_traceAll {stops : Bool} {script : List Command} {s : State} (hs : s.Rooted)
    (h : Sparing (traceAll stops script s)) :
    (∀ m ∈ traceAll stops script s, m.after.Rooted) ∧ (runAll stops script s).2.Rooted := by
  match script with
  | [] => exact ⟨fun m hm => absurd hm List.not_mem_nil, hs⟩
  | c :: rest =>
    rw [traceAll] at h ⊢
    obtain ⟨hfirst, hrun⟩ := Command.rooted_trace hs fun m hm => h m (List.mem_append_left _ hm)
    rw [runAll_cons]
    by_cases hf : (stops && (c.run s).1.isFailure) = true
    · rw [if_pos hf, if_pos hf, List.append_nil]
      exact ⟨hfirst, hrun⟩
    · rw [if_neg hf] at h
      rw [if_neg hf, if_neg hf]
      have hsparing : Sparing (traceAll stops rest (c.run s).2) := fun m hm =>
        h m (List.mem_append_right _ hm)
      obtain ⟨hlater, hend⟩ := rooted_traceAll hrun hsparing
      refine ⟨fun m hm => ?_, hend⟩
      rcases List.mem_append.mp hm with hm | hm
      · exact hfirst m hm
      · exact hlater m hm
termination_by structural script

end

/-! ## Where blocks close -/

/-- The moment that closes the scope of a block. -/
def closing (stops : Bool) (body : List Command) (s : State) : Moment :=
  ⟨bodyEnd stops body s, .closes, ((Command.block stops body).run s).2⟩

mutual

/-- Each block that opens also closes. -/
theorem Command.closing_mem_trace {c : Command} {s : State} {m : Moment} (hm : m ∈ c.trace s)
    {stops : Bool} {body : List Command} (he : m.event = .opens stops body) :
    closing stops body m.before ∈ c.trace s := by
  cases hc : c.isBlock with
  | false =>
    rw [Command.trace_of_isBlock_eq_false hc, List.mem_singleton] at hm
    rw [hm] at he
    cases he
  | true =>
    match c, hc, hm with
    | .block stops' body', _, hm =>
      rw [Command.trace, List.mem_cons, List.mem_append, List.mem_singleton] at hm
      rw [Command.trace]
      rcases hm with rfl | hm | rfl
      · cases he
        exact List.mem_cons_of_mem _ (List.mem_append_right _ (List.mem_singleton_self _))
      · exact List.mem_cons_of_mem _ (List.mem_append_left _ (closing_mem_traceAll hm he))
      · cases he
termination_by structural c

/-- **Each block that opens in a run closes in it.** -/
theorem closing_mem_traceAll {stops' : Bool} {script : List Command} {s : State} {m : Moment}
    (hm : m ∈ traceAll stops' script s) {stops : Bool} {body : List Command}
    (he : m.event = .opens stops body) :
    closing stops body m.before ∈ traceAll stops' script s := by
  match script, hm with
  | [], hm => exact absurd hm List.not_mem_nil
  | c :: rest, hm =>
    rw [traceAll] at hm ⊢
    rcases List.mem_append.mp hm with hm | hm
    · exact List.mem_append_left _ (Command.closing_mem_trace hm he)
    · refine List.mem_append_right _ ?_
      split at hm
      · exact absurd hm List.not_mem_nil
      · next hf =>
        rw [if_neg hf]
        exact closing_mem_traceAll hm he
termination_by structural script

end

/-! ## Whole runs -/

/-- What was before a moment of a run, and what is after it, are states of the run. -/
theorem exists_stateAfter_of_mem {script : List Command} {m : Moment} (hm : m ∈ trace script) :
    (∃ past, past <+: trace script ∧ stateAfter .initial past = m.before) ∧
      ∃ past, past <+: trace script ∧ stateAfter .initial past = m.after := by
  obtain ⟨past, q, q', hpast, hq, hs⟩ := (path_traceAll false script .initial []).of_mem hm
  obtain ⟨early, late, hsplit⟩ := List.append_of_mem hm
  refine ⟨⟨past, hpast, ?_⟩, early ++ [m], ⟨late, ?_⟩, ?_⟩
  · rw [hs.before_eq, hq.state_eq]
  · rw [hsplit, List.append_assoc]
    rfl
  · rw [stateAfter, List.getLast?_append, List.getLast?_singleton]
    rfl

theorem stateAfter_cases (s : State) (past : List Moment) :
    stateAfter s past = s ∨ ∃ m ∈ past, stateAfter s past = m.after := by
  rw [stateAfter]
  cases hlast : past.getLast? with
  | none => exact Or.inl rfl
  | some m => exact Or.inr ⟨m, List.mem_of_getLast? hlast, rfl⟩

/-- In every state of the run there is a frame, and a valid name can be declared. -/
def HoldsRoot (script : List Command) : Prop :=
  ∀ past, past <+: trace script →
    0 < (stateAfter .initial past).store.depth ∧
      ∀ name v, ValidName name →
        (stateAfter .initial past).store.declare name v ≠ .error (.aborted .noFrame)

/-- Every block of the run leaves the depth that it found. -/
def HoldsDepth (script : List Command) : Prop :=
  ∀ m ∈ trace script, ∀ stops body, m.event = .opens stops body →
    ((Command.block stops body).run m.before).2.store.depth = m.before.store.depth

/-- A run whose blocks spare the root has one throughout. -/
theorem holdsRoot_of_sparing {script : List Command} (h : Sparing (trace script)) :
    HoldsRoot script := by
  intro past hpast
  have hdepth : 0 < (stateAfter .initial past).store.depth := by
    rcases stateAfter_cases .initial past with hs | ⟨m, hm, hs⟩
    · rw [hs]
      exact Nat.one_pos
    · rw [hs]
      exact ((rooted_traceAll .initial h).1 m (hpast.subset hm)).store.depth_pos
  refine ⟨hdepth, fun name v hv hc => ?_⟩
  obtain ⟨t, ht⟩ := Table.exists_declare_eq_ok hdepth hv v
  rw [ht] at hc
  cases hc

/-- A run that holds the root has it before each moment as well. -/
theorem HoldsRoot.depth_before_pos {script : List Command} (h : HoldsRoot script) {m : Moment}
    (hm : m ∈ trace script) : 0 < m.before.store.depth := by
  obtain ⟨past, hpast, hbefore⟩ := (exists_stateAfter_of_mem hm).1
  rw [← hbefore]
  exact (h past hpast).1

theorem HoldsRoot.depth_run_block_pos {script : List Command} (h : HoldsRoot script) {m : Moment}
    (hm : m ∈ trace script) {stops : Bool} {body : List Command}
    (he : m.event = .opens stops body) :
    0 < ((Command.block stops body).run m.before).2.store.depth := by
  obtain ⟨past, hpast, hafter⟩ := (exists_stateAfter_of_mem (closing_mem_traceAll hm he)).2
  have hpos := (h past hpast).1
  rw [hafter] at hpos
  exact hpos

/-! ## What bodies leave -/

/-- What the body leaves to the block makes it close down to the depth that it found: its own floor
and no frame of the outer ones missing, or else just as many frames and a floor that closes none. -/
def EndsLevel (stops : Bool) (body : List Command) (s : State) : Prop :=
  (floorLeft stops body s = s.store.depth + 1 ∧
      s.store.depth ≤ (bodyEnd stops body s).store.depth) ∨
    ((bodyEnd stops body s).store.depth = s.store.depth ∧
      s.store.depth < floorLeft stops body s)

/-- A block leaves the depth as it was exactly if it ends level. -/
theorem depth_run_block_iff {stops : Bool} {body : List Command} {s : State}
    (h : 0 < s.store.depth) :
    ((Command.block stops body).run s).2.store.depth = s.store.depth ↔
      EndsLevel stops body s := by
  rw [depth_run_block, EndsLevel]
  omega

/-- The floor is not left at one if no store with that floor takes the place of the block's. -/
theorem floorLeft_ne_one {stops : Bool} {body : List Command} {s : State} (hd : 0 < s.store.depth)
    (h : ∀ t, lastReplacement stops body s.openBlock = some t → t.floor ≠ 1) :
    floorLeft stops body s ≠ 1 := by
  rw [floorLeft]
  cases hr : lastReplacement stops body s.openBlock with
  | none => exact Nat.ne_of_gt (Nat.succ_lt_succ hd)
  | some t => exact h t hr

theorem EndsLevel.floorLeft_ne_one {stops : Bool} {body : List Command} {s : State}
    (h : EndsLevel stops body s) (hd : 0 < s.store.depth) : floorLeft stops body s ≠ 1 := by
  rcases h with ⟨hfloor, _⟩ | ⟨_, hlt⟩
  · rw [hfloor]
    exact Nat.ne_of_gt (Nat.succ_lt_succ hd)
  · exact Nat.ne_of_gt (Nat.lt_of_le_of_lt hd hlt)

/-- **Exactly which scripts keep the root, and which keep the depth of every block too.** The root
is lost where the table that a body puts in place last has a floor of one, as a new table has, and
every copy made outside of all blocks. -/
theorem root_and_depth_iff (script : List Command) :
    (HoldsRoot script ↔
        ∀ m ∈ trace script, ∀ stops body, m.event = .opens stops body →
          ∀ t, lastReplacement stops body m.before.openBlock = some t → t.floor ≠ 1) ∧
      (HoldsRoot script ∧ HoldsDepth script ↔
        ∀ m ∈ trace script, ∀ stops body, m.event = .opens stops body →
          EndsLevel stops body m.before) := by
  refine ⟨⟨?_, ?_⟩, ?_, ?_⟩
  · intro h m hm stops body he t ht hone
    have hleft : floorLeft stops body m.before = 1 := by
      rw [floorLeft, ht]
      exact hone
    -- with a floor of one the block closes every frame
    have hpos := h.depth_run_block_pos hm he
    rw [depth_run_block, hleft, Nat.sub_self, Nat.zero_min] at hpos
    exact Nat.lt_irrefl 0 hpos
  · intro h
    refine holdsRoot_of_sparing fun m hm stops body he hd => ?_
    exact floorLeft_ne_one hd (h m hm stops body he)
  · rintro ⟨hroot, hdepth⟩ m hm stops body he
    exact (depth_run_block_iff (hroot.depth_before_pos hm)).mp (hdepth m hm stops body he)
  · intro h
    have hroot : HoldsRoot script := by
      refine holdsRoot_of_sparing fun m hm stops body he hd => ?_
      exact (h m hm stops body he).floorLeft_ne_one hd
    refine ⟨hroot, fun m hm stops body he => ?_⟩
    exact (depth_run_block_iff (hroot.depth_before_pos hm)).mpr (h m hm stops body he)

/-- A body that starts anew leaves its block a floor of one: the root is closed, a valid name can no
longer be declared, and the depth is not what it was. -/
theorem reset_in_block_closes_root :
    let script : List Command := [.block false [.reset]]
    ((run script).2.store.depth = 0 ∧ ValidName "x" ∧
        (run script).2.store.declare "x" .null = .error (.aborted .noFrame)) ∧
      ¬ HoldsRoot script ∧ ¬ HoldsDepth script := by
  intro script
  have hdepth : (run script).2.store.depth = 0 := rfl
  refine ⟨⟨hdepth, by decide, rfl⟩, ?_, ?_⟩
  · intro h
    have hpos := (h (trace script) (List.prefix_refl _)).1
    exact absurd (show (0 : Nat) < (run script).2.store.depth from hpos) (by rw [hdepth]; decide)
  · intro h
    have hblock := h _ (List.mem_cons_self : _ ∈ trace script) false [.reset] rfl
    cases hblock

end Script

end LexicalScope
