import LexicalScope.Script.Basic
import LexicalScope.Table.Lemmas

/-!
# Traces

What a script does, moment by moment, within its blocks as well as between them. The interpreter
runs a block as one command; a trace opens it up into a moment that opens the scope, the moments of
the body, and a moment that closes the scope.

* `Moment`, `Command.trace`, `traceAll` — the moments of a run, each with the state before and after
* `Place`, `Step`, `Path` — the same as a machine, which keeps the floors that the running blocks
  found
* `path_traceAll` — a trace is a path from the first state of its run to the last
* `Command.keepsTable`, `allKeep` — commands that put no other table in place of the one at hand

What every step keeps, every state of a run has: a statement about runs is an induction on a path.
-/

namespace LexicalScope

namespace Table

variable {V : Type}

/-- The table in which the body of a scoped block starts. -/
def openScoped (t : Table V) : Table V := { t.enterScope with floor := t.enterScope.depth }

/-- The table after a scoped block, from the one that its body leaves and the floor it found. -/
def closeScoped (t : Table V) (floor : Nat) : Table V := ⟨t.truncate (t.floor - 1), floor⟩

theorem runScoped_eq {α : Type} (t : Table V) (body : Table V → α × Table V) :
    t.runScoped body = ((body t.openScoped).1, (body t.openScoped).2.closeScoped t.floor) := rfl

theorem floor_openScoped (t : Table V) : t.openScoped.floor = t.depth + 1 := rfl

/-- A block leaves as many frames as the floor its body leaves says, less its own. -/
theorem depth_closeScoped (t : Table V) (floor : Nat) :
    (t.closeScoped floor).depth = min (t.floor - 1) t.depth :=
  length_truncate t (t.floor - 1)

end Table

namespace Script

namespace State

/-- The state in which the body of a block starts. -/
def openBlock (s : State) : State := { s with store := s.store.openScoped }

/-- The state after a block, from the one that its body leaves and the floor it found. -/
def closeBlock (s : State) (floor : Nat) : State := { s with store := s.store.closeScoped floor }

end State

/-! ## The moments of a run -/

/-- What can happen in one step of a run. -/
inductive Event where
  /-- a command other than a block runs, and this is its answer -/
  | does (c : Command) (answer : Answer)
  /-- a block opens its scope -/
  | opens (stops : Bool) (body : List Command)
  /-- the innermost running block closes its scope, and all that its body left open -/
  | closes

/-- Something that happens, with the state in which it finds the program and leaves it. -/
structure Moment where
  before : State
  event : Event
  after : State

mutual

/-- The moments of a command. -/
def Command.trace : Command → State → List Moment
  | .block stops body, s =>
    let last := (runAll stops body s.openBlock).2
    ⟨s, .opens stops body, s.openBlock⟩ ::
      (traceAll stops body s.openBlock ++ [⟨last, .closes, last.closeBlock s.store.floor⟩])
  | c, s => [⟨s, .does c (c.run s).1, (c.run s).2⟩]
termination_by structural c => c

/-- The moments of commands that run one after the other; if `stops`, up to the first failure. -/
def traceAll (stops : Bool) : List Command → State → List Moment
  | [], _ => []
  | c :: rest, s =>
    c.trace s ++
      if stops && (c.run s).1.isFailure then [] else traceAll stops rest (c.run s).2
termination_by structural script => script

end

/-- The moments of a script on a new store. -/
def trace (script : List Command) : List Moment := traceAll false script .initial

/-- The state after some moments. -/
def stateAfter (s : State) (past : List Moment) : State := (past.getLast?.map (·.after)).getD s

/-- The command is a block with commands of its own. -/
def Command.isBlock : Command → Bool
  | .block _ _ => true
  | _ => false

/-- A command that is no block is a single moment. -/
theorem Command.trace_of_isBlock_eq_false {c : Command} (h : c.isBlock = false) (s : State) :
    c.trace s = [⟨s, .does c (c.run s).1, (c.run s).2⟩] := by
  cases c <;> first | rfl | cases h

/-- The result of a block is that of its body, with its scope closed. -/
theorem run_block (stops : Bool) (body : List Command) (s : State) :
    (Command.block stops body).run s =
      (.block (runAll stops body s.openBlock).1,
        (runAll stops body s.openBlock).2.closeBlock s.store.floor) := by
  rw [Command.run, Table.runScoped_eq]
  rfl

/-- The first command runs, and if that does not end the run, the rest on what it leaves. -/
theorem runAll_cons (stops : Bool) (c : Command) (rest : List Command) (s : State) :
    runAll stops (c :: rest) s =
      if stops && (c.run s).1.isFailure then ([((c.run s).1, (c.run s).2.store)], (c.run s).2)
      else
        (((c.run s).1, (c.run s).2.store) :: (runAll stops rest (c.run s).2).1,
          (runAll stops rest (c.run s).2).2) := rfl

/-! ## Runs as paths of a machine -/

/-- A place in a run: the state, and the floors that the running blocks found, innermost first. -/
structure Place where
  state : State
  floors : List Nat

/-- One moment. -/
inductive Step : Place → Moment → Place → Prop where
  | does {c : Command} (h : c.isBlock = false) (s : State) (floors : List Nat) :
    Step ⟨s, floors⟩ ⟨s, .does c (c.run s).1, (c.run s).2⟩ ⟨(c.run s).2, floors⟩
  | opens (stops : Bool) (body : List Command) (s : State) (floors : List Nat) :
    Step ⟨s, floors⟩ ⟨s, .opens stops body, s.openBlock⟩ ⟨s.openBlock, s.store.floor :: floors⟩
  | closes (s : State) (floor : Nat) (floors : List Nat) :
    Step ⟨s, floor :: floors⟩ ⟨s, .closes, s.closeBlock floor⟩ ⟨s.closeBlock floor, floors⟩

/-- Moments that follow each other. -/
inductive Path : Place → List Moment → Place → Prop where
  | nil (p : Place) : Path p [] p
  | cons {p q r : Place} {m : Moment} {rest : List Moment} (first : Step p m q)
    (later : Path q rest r) : Path p (m :: rest) r

theorem Step.before_eq {p q : Place} {m : Moment} (h : Step p m q) : m.before = p.state := by
  cases h <;> rfl

theorem Step.after_eq {p q : Place} {m : Moment} (h : Step p m q) : m.after = q.state := by
  cases h <;> rfl

theorem Path.single {p q : Place} {m : Moment} (h : Step p m q) : Path p [m] q :=
  .cons h (.nil q)

theorem Path.append {p q r : Place} {ms ns : List Moment} (h : Path p ms q) (h' : Path q ns r) :
    Path p (ms ++ ns) r := by
  induction h with
  | nil => exact h'
  | cons first _ ih => exact .cons first (ih h')

/-- A run can be cut anywhere. -/
theorem Path.of_append {p r : Place} {ms ns : List Moment} (h : Path p (ms ++ ns) r) :
    ∃ q, Path p ms q ∧ Path q ns r := by
  induction ms generalizing p with
  | nil => exact ⟨p, .nil p, h⟩
  | cons m ms ih =>
    cases h with
    | cons first later =>
      obtain ⟨q, hq, hr⟩ := ih later
      exact ⟨q, .cons first hq, hr⟩

/-- The state at the end of a path is the one after its last moment. -/
theorem Path.state_eq {p q : Place} {ms : List Moment} (h : Path p ms q) :
    q.state = stateAfter p.state ms := by
  induction h with
  | nil p => rfl
  | @cons p q r m rest first later ih =>
    -- the last moment of the rest is the last of all, unless the rest is empty
    rw [ih, stateAfter, stateAfter, List.getLast?_cons, ← first.after_eq]
    cases rest.getLast? <;> rfl

/-- A moment of a path is one of its steps, with a path before it. -/
theorem Path.of_mem {p r : Place} {ms : List Moment} {m : Moment} (h : Path p ms r) (hm : m ∈ ms) :
    ∃ past q q', past <+: ms ∧ Path p past q ∧ Step q m q' := by
  obtain ⟨past, rest, rfl⟩ := List.append_of_mem hm
  obtain ⟨q, hpast, hrest⟩ := h.of_append
  cases hrest with
  | cons first _ => exact ⟨past, q, _, List.prefix_append _ _, hpast, first⟩

mutual

/-- **A trace is a path** from the first state of its run to the last, in the blocks it began in. -/
theorem Command.path_trace (c : Command) (s : State) (floors : List Nat) :
    Path ⟨s, floors⟩ (c.trace s) ⟨(c.run s).2, floors⟩ := by
  cases hc : c.isBlock with
  | false =>
    rw [Command.trace_of_isBlock_eq_false hc]
    exact .single (.does hc s floors)
  | true =>
    match c, hc with
    | .block stops body, _ =>
      rw [Command.trace, run_block]
      -- the floor that the block finds waits in the place until the block closes
      refine .cons (.opens stops body s floors) ?_
      refine (path_traceAll stops body s.openBlock (s.store.floor :: floors)).append ?_
      exact .single (.closes _ s.store.floor floors)
termination_by structural c

/-- **The moments of a run are a path** from its state to the one that it leaves. -/
theorem path_traceAll (stops : Bool) (script : List Command) (s : State) (floors : List Nat) :
    Path ⟨s, floors⟩ (traceAll stops script s) ⟨(runAll stops script s).2, floors⟩ := by
  match script with
  | [] => exact .nil _
  | c :: rest =>
    rw [traceAll, runAll_cons]
    refine (c.path_trace s floors).append ?_
    by_cases hf : (stops && (c.run s).1.isFailure) = true
    · rw [if_pos hf, if_pos hf]
      exact .nil _
    · rw [if_neg hf, if_neg hf]
      exact path_traceAll stops rest (c.run s).2 floors
termination_by structural script

end

/-! ## Scripts that keep the table -/

mutual

/-- The command puts no other table in place of the one at hand: it neither restores a copy nor
starts anew, nor gives the table away with a name that is refused. The body of a block included. -/
def Command.keepsTable : Command → Bool
  | .declare manner name _ => !manner.handsOver || decide (ValidName name)
  | .restore _ => false
  | .reset => false
  | .block _ body => allKeep body
  | _ => true
termination_by structural c => c

/-- All the commands keep the table. -/
def allKeep : List Command → Bool
  | [] => true
  | c :: rest => c.keepsTable && allKeep rest
termination_by structural script => script

end

/-- What happens keeps the table. -/
def Event.keepsTable : Event → Bool
  | .does c _ => c.keepsTable
  | .opens _ body => allKeep body
  | .closes => true

mutual

theorem Command.keepsTable_of_mem_trace {c : Command} (h : c.keepsTable = true) (s : State) :
    ∀ m ∈ c.trace s, m.event.keepsTable = true := by
  intro m hm
  cases hc : c.isBlock with
  | false =>
    rw [Command.trace_of_isBlock_eq_false hc, List.mem_singleton] at hm
    rw [hm]
    exact h
  | true =>
    match c, hc, h with
    | .block stops body, _, h =>
      rw [Command.keepsTable] at h
      rw [Command.trace, List.mem_cons, List.mem_append, List.mem_singleton] at hm
      rcases hm with rfl | hm | rfl
      · exact h
      · exact keepsTable_of_mem_traceAll stops h s.openBlock m hm
      · rfl
termination_by structural c

/-- Commands that keep the table do so at every moment, within blocks too. -/
theorem keepsTable_of_mem_traceAll (stops : Bool) {script : List Command}
    (h : allKeep script = true) (s : State) :
    ∀ m ∈ traceAll stops script s, m.event.keepsTable = true := by
  match script, h with
  | [], _ => exact fun m hm => absurd hm List.not_mem_nil
  | c :: rest, h =>
    intro m hm
    rw [allKeep, Bool.and_eq_true] at h
    rw [traceAll, List.mem_append] at hm
    rcases hm with hm | hm
    · exact Command.keepsTable_of_mem_trace h.1 s m hm
    · split at hm
      · exact absurd hm List.not_mem_nil
      · exact keepsTable_of_mem_traceAll stops h.2 (c.run s).2 m hm
termination_by structural script

end

/-- Up to any moment of a run there is a path. -/
theorem path_stateAfter {script : List Command} {past : List Moment} (h : past <+: trace script) :
    ∃ floors, Path ⟨.initial, []⟩ past ⟨stateAfter .initial past, floors⟩ := by
  obtain ⟨rest, hrest⟩ := h
  -- the path of the whole run goes through the state
  have hpath := path_traceAll false script .initial []
  rw [← trace, ← hrest] at hpath
  obtain ⟨⟨s, floors⟩, hq, _⟩ := hpath.of_append
  obtain rfl : s = stateAfter .initial past := hq.state_eq
  exact ⟨floors, hq⟩

end Script

end LexicalScope
