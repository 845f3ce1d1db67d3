import LexicalScope.Proofs.Script.Effect
import Mathlib.Data.List.Basic

/-!
# Nesting

Which scopes are open at a moment of a run, told from the moments alone: what was opened and has not
been closed. The table keeps no such record. It has its depth and a floor, and they say all that
`exitScope` needs.

* `openScopes`, `runningBlocks` — the record: the moments that opened what is open
* `Tracked` — how depth and floors stand to the record, at every place of a run
* `floor_and_exit_of_run` — floor, depth and refusals at every moment of a run
-/

namespace LexicalScope.Script

/-- The moment opens the scope of a block. -/
def Moment.opensBlock (m : Moment) : Bool :=
  match m.event with
  | .opens _ _ => true
  | _ => false

/-! ## The record -/

/-- The open scopes after one moment more. A scope that `exitScope` hands back is closed, and at the
end of a block its scope is, with all those in it. -/
def openAfter (scopes : List Moment) (m : Moment) : List Moment :=
  match m.event with
  | .opens _ _ => m :: scopes
  | .closes => (scopes.dropWhile (!·.opensBlock)).tail
  | .does .enterScope _ => m :: scopes
  | .does .exitScope (.closed _) => scopes.tail
  | .does _ _ => scopes

/-- The scopes that are open after some moments, as the moments that opened them, innermost first.
-/
def openScopes (past : List Moment) : List Moment := past.foldl openAfter []

/-- The running blocks after one moment more. -/
def runningAfter (blocks : List Moment) (m : Moment) : List Moment :=
  match m.event with
  | .opens _ _ => m :: blocks
  | .closes => blocks.tail
  | .does _ _ => blocks

/-- The blocks that run after some moments, as the moments that opened them, innermost first. -/
def runningBlocks (past : List Moment) : List Moment := past.foldl runningAfter []

/-- The scopes that were opened since the innermost running block opened its own, and are open. -/
def openedSince (past : List Moment) : List Moment :=
  (openScopes past).takeWhile (!·.opensBlock)

/-- The scopes that `enterScope` opened and that are open. -/
def enteredScopes (past : List Moment) : List Moment :=
  (openScopes past).filter (!·.opensBlock)

/-! ## The table against the record -/

/-- Each scope was opened on top of those below it in the record. -/
def Numbered : List Moment → Prop
  | [] => True
  | m :: rest => m.after.store.depth = rest.length + 2 ∧ Numbered rest

/-- The depth and the floors of a place say what the record says. -/
structure Tracked (p : Place) (scopes blocks : List Moment) : Prop where
  depth_eq : p.state.store.depth = scopes.length + 1
  blocks_eq : blocks = scopes.filter (·.opensBlock)
  floors_eq : p.state.store.floor :: p.floors = blocks.map (·.after.store.depth) ++ [1]
  numbered : Numbered scopes

theorem Numbered.of_suffix {scopes rest : List Moment} (h : Numbered scopes)
    (hs : rest <:+ scopes) : Numbered rest := by
  obtain ⟨inner, rfl⟩ := hs
  induction inner with
  | nil => exact h
  | cons m inner ih => exact ih h.2

theorem filter_dropWhile_not (scopes : List Moment) :
    (scopes.dropWhile (!·.opensBlock)).filter (·.opensBlock) = scopes.filter (·.opensBlock) := by
  induction scopes with
  | nil => rfl
  | cons m rest ih =>
    cases hm : m.opensBlock with
    | true => rw [List.dropWhile_cons_of_neg (by simp [hm])]
    | false =>
      rw [List.dropWhile_cons_of_pos (by simp [hm]), ih, List.filter_cons_of_neg (by simp [hm])]

theorem opensBlock_of_dropWhile_eq_cons {scopes rest : List Moment} {m : Moment}
    (h : scopes.dropWhile (!·.opensBlock) = m :: rest) : m.opensBlock = true := by
  have hm := List.head?_dropWhile_not (fun m : Moment => !m.opensBlock) scopes
  rw [h] at hm
  simpa using hm

namespace Tracked

variable {p q : Place} {m : Moment} {scopes blocks : List Moment}

/-- **The floor is the number of frames up to that of the innermost running block.** -/
theorem floor_eq_length (h : Tracked p scopes blocks) :
    p.state.store.floor = (scopes.dropWhile (!·.opensBlock)).length + 1 := by
  obtain ⟨_, rfl, hfloors, hnum⟩ := h
  -- the innermost running block is the first scope of a block in the record, and has a number there
  have hnum' := hnum.of_suffix (List.dropWhile_suffix (!·.opensBlock))
  rw [← filter_dropWhile_not] at hfloors
  cases hd : scopes.dropWhile (!·.opensBlock) with
  | nil =>
    rw [hd] at hfloors
    exact List.head_eq_of_cons_eq hfloors
  | cons b rest =>
    rw [hd] at hnum'
    rw [hd, List.filter_cons_of_pos (opensBlock_of_dropWhile_eq_cons hd)] at hfloors
    exact (List.head_eq_of_cons_eq hfloors).trans hnum'.1

/-- Above the floor there are the scopes opened since the innermost block did. -/
theorem depth_eq_floor_add (h : Tracked p scopes blocks) :
    p.state.store.depth = p.state.store.floor + (scopes.takeWhile (!·.opensBlock)).length := by
  have hsplit : (scopes.takeWhile (!·.opensBlock) ++ scopes.dropWhile (!·.opensBlock)).length =
      scopes.length := congrArg List.length List.takeWhile_append_dropWhile
  rw [List.length_append] at hsplit
  rw [h.depth_eq, h.floor_eq_length]
  omega

/-- As many frames as the floor says: no scope is open above the innermost running block. -/
theorem depth_le_floor_iff (h : Tracked p scopes blocks) :
    p.state.store.depth ≤ p.state.store.floor ↔ scopes.takeWhile (!·.opensBlock) = [] := by
  rw [h.depth_eq_floor_add, ← List.length_eq_zero_iff]
  omega

/-- The floor is the depth right after the innermost block has opened its scope. -/
theorem floor_eq_head (h : Tracked p scopes blocks) :
    p.state.store.floor = (blocks.head?.map (·.after.store.depth)).getD 1 := by
  have hfloors := h.floors_eq
  cases blocks with
  | nil => exact List.head_eq_of_cons_eq hfloors
  | cons b rest => exact List.head_eq_of_cons_eq hfloors

/-- Only outside of all blocks is the floor that of the root. -/
theorem floor_eq_one_iff (h : Tracked p scopes blocks) :
    p.state.store.floor = 1 ↔ blocks = [] := by
  rw [h.floor_eq_length, h.blocks_eq, ← filter_dropWhile_not]
  cases hd : scopes.dropWhile (!·.opensBlock) with
  | nil => simp
  | cons b rest =>
    rw [List.filter_cons_of_pos (opensBlock_of_dropWhile_eq_cons hd)]
    simp

/-- The depth is the root, the blocks that run and the scopes that are open. -/
theorem depth_eq_count (h : Tracked p scopes blocks) :
    p.state.store.depth =
      1 + blocks.length + (scopes.filter (!·.opensBlock)).length := by
  have hcount := scopes.length_eq_length_filter_add (·.opensBlock)
  rw [h.depth_eq, h.blocks_eq, hcount]
  omega

theorem floor_le_depth (h : Tracked p scopes blocks) :
    p.state.store.floor ≤ p.state.store.depth := by
  rw [h.depth_eq_floor_add]
  exact Nat.le_add_right _ _

theorem initial : Tracked ⟨.initial, []⟩ [] [] := ⟨rfl, rfl, rfl, trivial⟩

/-- Closing a scope takes one off the record, or is refused and leaves the record. -/
theorem step_exitScope {s : State} {floors : List Nat} (h : Tracked ⟨s, floors⟩ scopes blocks) :
    Tracked ⟨(Command.exitScope.run s).2, floors⟩
      (openAfter scopes ⟨s, .does .exitScope (Command.exitScope.run s).1,
        (Command.exitScope.run s).2⟩) blocks := by
  rw [Command.run]
  cases he : s.store.exitScope with
  | error r => exact h
  | ok result =>
    obtain ⟨frame, t⟩ := result
    obtain ⟨_, hlt, hfloor⟩ := Table.exitScope_eq_ok_iff.mp he
    have hadd : s.store.depth = s.store.floor + _ := h.depth_eq_floor_add
    obtain ⟨hdepth, hblocks, hfloors, hnum⟩ := h
    have hpop := depth_exitScope he
    -- the innermost scope of the record is none of a block, for the floor is below the depth
    cases scopes with
    | nil => simp at hadd; omega
    | cons m rest =>
      have hm : m.opensBlock = false := by
        cases hm : m.opensBlock with
        | false => rfl
        | true => rw [List.takeWhile_cons_of_neg (by simp [hm]), List.length_nil] at hadd; omega
      refine ⟨?_, ?_, ?_, hnum.2⟩
      · have hlen : s.store.depth = (m :: rest).length + 1 := hdepth
        rw [List.length_cons] at hlen
        show t.depth = rest.length + 1
        omega
      · rw [hblocks, List.filter_cons_of_neg (by simp [hm])]
        rfl
      · show t.floor :: floors = _
        rw [hfloor]
        exact hfloors

theorem openAfter_of_ne {c : Command} (henter : c ≠ .enterScope) (hexit : c ≠ .exitScope)
    (scopes : List Moment) (s s' : State) (a : Answer) :
    openAfter scopes ⟨s, .does c a, s'⟩ = scopes := by
  cases c with
  | enterScope => exact absurd rfl henter
  | exitScope => exact absurd rfl hexit
  | _ => rfl

/-- A command that is no block keeps to the record. -/
theorem step_does {c : Command} {s : State} {floors : List Nat}
    (h : Tracked ⟨s, floors⟩ scopes blocks) (hb : c.isBlock = false)
    (hk : c.keepsTable = true) :
    Tracked ⟨(c.run s).2, floors⟩ (openAfter scopes ⟨s, .does c (c.run s).1, (c.run s).2⟩)
      blocks := by
  by_cases hexit : c = .exitScope
  · subst hexit
    exact h.step_exitScope
  · obtain ⟨hdepth, hblocks, hfloors, hnum⟩ := h
    by_cases henter : c = .enterScope
    · subst henter
      refine ⟨congrArg Nat.succ hdepth, ?_, hfloors, congrArg Nat.succ hdepth, hnum⟩
      rw [hblocks]
      exact (List.filter_cons_of_neg Bool.false_ne_true).symm
    · have hd : s.store.depth = scopes.length + 1 := hdepth
      have he := effect_run hb (replacement?_eq_none hk (by rw [hd]; exact Nat.succ_pos _))
      rw [openAfter_of_ne henter hexit]
      refine ⟨(he.depth_eq henter hexit).trans hdepth, hblocks, ?_, hnum⟩
      show (c.run s).2.store.floor :: floors = _
      rw [he.floor_eq]
      exact hfloors

/-- A block that closes takes all scopes off the record that were opened within it. -/
theorem step_closes {s : State} {floor : Nat} {floors : List Nat}
    (h : Tracked ⟨s, floor :: floors⟩ scopes blocks) :
    Tracked ⟨s.closeBlock floor, floors⟩ ((scopes.dropWhile (!·.opensBlock)).tail) blocks.tail := by
  have hfloor : s.store.floor = _ := h.floor_eq_length
  have hle : s.store.floor ≤ s.store.depth := h.floor_le_depth
  obtain ⟨_, hblocks, hfloors, hnum⟩ := h
  have hnum' := hnum.of_suffix (List.dropWhile_suffix (!·.opensBlock))
  rw [← filter_dropWhile_not] at hblocks
  cases hd : scopes.dropWhile (!·.opensBlock) with
  | nil =>
    -- there is a floor to come back to, and so there is a block
    rw [hblocks, hd] at hfloors
    have hlen := congrArg List.length hfloors
    simp at hlen
  | cons b rest =>
    rw [hd] at hnum' hfloor
    rw [hd, List.filter_cons_of_pos (opensBlock_of_dropWhile_eq_cons hd)] at hblocks
    rw [hblocks, List.map_cons, List.cons_append] at hfloors
    refine ⟨?_, by rw [hblocks]; rfl, ?_, hnum'.2⟩
    · show (s.store.closeScoped floor).depth = _
      rw [Table.depth_closeScoped]
      rw [List.length_cons] at hfloor
      show _ = rest.length + 1
      omega
    · rw [hblocks]
      exact List.tail_eq_of_cons_eq hfloors

/-- **Each moment changes the table as it changes the record.** -/
theorem step (h : Tracked p scopes blocks) (hs : Step p m q) (hk : m.event.keepsTable = true) :
    Tracked q (openAfter scopes m) (runningAfter blocks m) := by
  cases hs with
  | does hb s floors => exact h.step_does hb hk
  | opens stops body s floors =>
    obtain ⟨hdepth, hblocks, hfloors, hnum⟩ := h
    refine ⟨congrArg Nat.succ hdepth, ?_, ?_, congrArg Nat.succ hdepth, hnum⟩
    · show _ :: blocks = _
      rw [hblocks]
      exact (List.filter_cons_of_pos rfl).symm
    · show _ :: _ :: floors = _ :: _ ++ [1]
      rw [List.cons_append, ← hfloors]
      rfl
  | closes s floor floors => exact h.step_closes

/-- Every run keeps to the record of its moments. -/
theorem path {ms : List Moment} (hp : Path p ms q)
    (hk : ∀ m ∈ ms, m.event.keepsTable = true) (h : Tracked p scopes blocks) :
    Tracked q (ms.foldl openAfter scopes) (ms.foldl runningAfter blocks) := by
  induction hp generalizing scopes blocks with
  | nil => exact h
  | cons first _ ih =>
    exact ih (fun m hm => hk m (List.mem_cons_of_mem _ hm)) (h.step first (hk _ List.mem_cons_self))

end Tracked

/-! ## Runs -/

theorem tracked_stateAfter {script : List Command} {past : List Moment}
    (h : allKeep script = true) (hp : past <+: trace script) :
    ∃ floors,
      Tracked ⟨stateAfter .initial past, floors⟩ (openScopes past) (runningBlocks past) := by
  obtain ⟨floors, hpath⟩ := path_stateAfter hp
  have hkeep := keepsTable_of_mem_traceAll false h .initial
  exact ⟨floors, Tracked.initial.path hpath fun m hm => hkeep m (hp.subset hm)⟩

/-- **At every moment of a run that keeps its table** the floor is the depth right after the
innermost running block opened its scope, or one if no block runs, and the depth is no less. So a
scope cannot be closed exactly if all that were opened since then are closed, the refusal says
whether a block runs, and the depth counts the root, the running blocks and the scopes entered and
not closed. -/
theorem floor_and_exit_of_run {script : List Command} {past : List Moment}
    (h : allKeep script = true) (hp : past <+: trace script) :
    (stateAfter .initial past).store.floor =
        ((runningBlocks past).head?.map (·.after.store.depth)).getD 1 ∧
      (stateAfter .initial past).store.floor ≤ (stateAfter .initial past).store.depth ∧
      ((∃ r, (stateAfter .initial past).store.exitScope = .error r) ↔ openedSince past = []) ∧
      ((stateAfter .initial past).store.exitScope = .error .rootScope ↔
        openedSince past = [] ∧ runningBlocks past = []) ∧
      ((stateAfter .initial past).store.exitScope = .error .scopeFloor ↔
        openedSince past = [] ∧ runningBlocks past ≠ []) ∧
      (stateAfter .initial past).store.depth =
        1 + (runningBlocks past).length + (enteredScopes past).length := by
  obtain ⟨floors, ht⟩ := tracked_stateAfter h hp
  have hone := ht.floor_eq_one_iff
  have hfull : (stateAfter .initial past).store.depth ≤ (stateAfter .initial past).store.floor ↔
      openedSince past = [] := ht.depth_le_floor_iff
  refine ⟨ht.floor_eq_head, ht.floor_le_depth, ?_, ?_, ?_, ht.depth_eq_count⟩
  · rw [← hfull]
    constructor
    · rintro ⟨r, hr⟩
      exact (Table.exitScope_eq_error_iff.mp hr).1
    · exact fun hle => ⟨_, Table.exitScope_eq_error_iff.mpr ⟨hle, rfl⟩⟩
  · rw [Table.exitScope_eq_rootScope_iff, hfull, hone]
  · rw [Table.exitScope_eq_scopeFloor_iff, hfull, Ne, hone]

/-- In the inner of two blocks, with the scope closed that was entered in it: the next `exitScope`
is refused, though a scope that the outer block entered is open. -/
theorem floor_and_exit_of_run_nested :
    let script : List Command :=
      [.block false [.enterScope, .block false [.enterScope, .exitScope, .exitScope], .exitScope]]
    let past := (trace script).take 5
    allKeep script = true ∧ past <+: trace script ∧
      (stateAfter .initial past).store.exitScope = .error .scopeFloor ∧
      (stateAfter .initial past).store.depth = 4 := by
  intro script past
  have hk : allKeep script = true := rfl
  have hpast : past <+: trace script := List.take_prefix _ _
  obtain ⟨_, _, _, _, hexit, hdepth⟩ := floor_and_exit_of_run hk hpast
  refine ⟨hk, hpast, hexit.mpr ⟨rfl, ?_⟩, hdepth.trans rfl⟩
  exact List.cons_ne_nil _ _

end LexicalScope.Script
