import LexicalScope.Proofs.Ledger.Basic
import LexicalScope.Proofs.Script.Effect

/-!
# Scripts on ledgers

A script can be run on a ledger as well as on a store, and nobody can tell the two apart: every
command has the same answer, and the ledger after it is that of the store after it. There is no
floor on a ledger. Which scopes can be closed is told by the block that the command stands in.

* `Reply` — the answers that a ledger can give
* `Command.runLedger`, `runAllLedger` — the interpreter on ledgers
* `Answer.reply`, `replies` — what an answer of a store is on a ledger
* `Guarded` — the floor of a store is told by the innermost running block
* `run_ledger` — the simulation
-/

namespace LexicalScope.Script

/-! ## Replies -/

/-- An answer as far as a ledger can give it. -/
inductive Reply where
  | done
  | granted
  | refused (r : Refusal)
  | aborted (f : Fault)
  /-- what the closed frame bound each name to -/
  | closed (bindings : String → Option Json)
  | value (v : Json)
  | replaced (v : Option Json)
  | found (v : Option Json)
  | flag (b : Bool)
  | number (n : Option Nat)
  | block (outcomes : List (Reply × Ledger Json))
  /-- an answer on whole frames, which a ledger does not have -/
  | onFrames

/-- Whether the answer tells a refusal or an end without answer. -/
def Reply.isFailure : Reply → Bool
  | refused _ => true
  | aborted _ => true
  | _ => false

mutual

/-- The answer as a ledger gives it. -/
def Answer.reply : Answer → Reply
  | .done => .done
  | .granted => .granted
  | .refused r => .refused r
  | .aborted f => .aborted f
  | .closed frame => .closed frame.get?
  | .value v => .value v
  | .replaced v => .replaced v
  | .found v => .found v
  | .flag b => .flag b
  | .number n => .number n
  | .block outcomes => .block (replies outcomes)
  | .optionalFlag _ => .onFrames
  | .data _ => .onFrames
  | .frames _ => .onFrames
  | .visible _ => .onFrames
termination_by structural a => a

/-- The outcomes as a ledger has them: each reply with the ledger after it. -/
def replies : List (Answer × Store) → List (Reply × Ledger Json)
  | [] => []
  | outcome :: rest => replyTo outcome :: replies rest
termination_by structural outcomes => outcomes

/-- An answer and a store, as the ledger has them. -/
def replyTo : Answer × Store → Reply × Ledger Json
  | (a, t) => (a.reply, t.ledger)
termination_by structural outcome => outcome

end

/-- A reply tells a failure exactly if the answer does. -/
theorem isFailure_reply (a : Answer) : a.reply.isFailure = a.isFailure := by
  cases a <;> rfl

/-! ## Commands on a ledger -/

section Commands

variable (name : String) (l : Ledger Json)

/-- Closes the innermost scope, unless it is the root or that of the running block. The guard is the
depth right after the innermost running block opened its scope. -/
def exitLedger (guard : Option Nat) : Reply × Ledger Json :=
  if guard.getD 1 < l.depth then (.closed (l.valueAt (l.depth - 1)), l.cut (l.depth - 1))
  else (.refused (if guard.isSome then .scopeFloor else .rootScope), l)

/-- What a declaration does to the ledger; one that insists ends with a fault. -/
def declareLedger (insists : Bool) (v : Json) : Reply × Ledger Json :=
  if ValidName name then (if insists then .done else .granted, l.declare name v)
  else
    (if insists then .aborted (Refusal.invalidName name).fault else .refused (.invalidName name), l)

def updateLedger (v : Json) : Reply × Ledger Json :=
  match l.get? name with
  | some old => (.value old, l.setTop name v)
  | none => (.refused (.undefined name), l)

/-- What an update does that declares a name without binding. -/
def updateOrDeclareLedger (v : Json) : Reply × Ledger Json :=
  match l.get? name with
  | some old => (.replaced (some old), l.setTop name v)
  | none =>
    if ValidName name then (.replaced none, l.declare name v)
    else (.refused (.invalidName name), l)

/-- What an edit does to the ledger: the value stays where it is, and is another one. -/
def editLedger (e : Edit) : Reply × Ledger Json :=
  match l.get? name with
  | some old => (.found (some (e.apply old)), l.setTop name (e.apply old))
  | none => (.found none, l)

def lookupLedger : Reply :=
  match l.get? name with
  | some v => .value v
  | none => .refused (.undefined name)

/-- What a look-up with a type finds in the ledger. -/
def lookupAsLedger (schema : Schema) : Reply :=
  match l.get? name with
  | none => .refused (.undefined name)
  | some v =>
    match schema.read v with
    | .error e => .refused (.unconvertible e.message)
    | .ok x =>
      match Store.convert (schema.datum x) with
      | .ok v => .value v
      | .error r => .refused r

end Commands

mutual

/-- Runs a command on a ledger. -/
def Command.runLedger (guard : Option Nat) : Command → Ledger Json → Reply × Ledger Json
  | .enterScope, l => (.done, l.enter)
  | .exitScope, l => exitLedger l guard
  | .declare manner name v, l => declareLedger name l manner.insists v
  | .update name v, l => updateLedger name l v
  | .updateOrDeclare name v, l => updateOrDeclareLedger name l v
  | .edit name e, l => editLedger name l e
  | .declareValue name d, l =>
    match Store.convert d with
    | .ok v => declareLedger name l false v
    | .error r => (.refused r, l)
  | .updateValue name d, l =>
    match Store.convert d with
    | .ok v => updateLedger name l v
    | .error r => (.refused r, l)
  | .lookup name, l => (lookupLedger name l, l)
  | .get name, l => (.found (l.get? name), l)
  | .lookupAs name schema, l => (lookupAsLedger name l schema, l)
  | .contains name, l => (.flag (l.get? name).isSome, l)
  | .isLocal name, l => (.flag (l.isLocal name), l)
  | .resolveDepth name, l => (.number (l.resolveDepth? name), l)
  | .depth, l => (.number (some l.depth), l)
  | .save _, l => (.done, l)
  | .block stops body, l =>
    let (outcomes, after) := runAllLedger (some (l.depth + 1)) stops body l.enter
    (.block outcomes, after.cut l.depth)
  | _, l => (.onFrames, l)
termination_by structural c => c

/-- Runs commands on a ledger one after the other; if `stops`, up to the first failure. -/
def runAllLedger (guard : Option Nat) (stops : Bool) :
    List Command → Ledger Json → List (Reply × Ledger Json) × Ledger Json
  | [], l => ([], l)
  | c :: rest, l =>
    let (reply, l') := c.runLedger guard l
    if stops && reply.isFailure then ([(reply, l')], l')
    else
      let (outcomes, final) := runAllLedger guard stops rest l'
      ((reply, l') :: outcomes, final)
termination_by structural script => script

end

theorem runLedger_block (guard : Option Nat) (stops : Bool) (body : List Command)
    (l : Ledger Json) :
    (Command.block stops body).runLedger guard l =
      (.block (runAllLedger (some (l.depth + 1)) stops body l.enter).1,
        (runAllLedger (some (l.depth + 1)) stops body l.enter).2.cut l.depth) := rfl

/-- Runs a script on a ledger with one frame and no bindings. -/
def runLedger (script : List Command) : List (Reply × Ledger Json) × Ledger Json :=
  runAllLedger none false script .new

/-! ## One operation -/

/-- The floor is the depth right after the innermost running block opened its scope, or one. -/
structure Guarded (guard : Option Nat) (t : Store) : Prop where
  floor_eq : t.floor = guard.getD 1
  floor_le_depth : t.floor ≤ t.depth
  one_lt : ∀ d, guard = some d → 1 < d

section Operations

variable {guard : Option Nat} {t : Store}

theorem Guarded.floor_eq_one_iff (h : Guarded guard t) : t.floor = 1 ↔ guard.isSome = false := by
  rw [h.floor_eq]
  cases hg : guard with
  | none => exact ⟨fun _ => rfl, fun _ => rfl⟩
  | some d => exact ⟨fun hd => absurd hd (Nat.ne_of_gt (h.one_lt d hg)), fun hc => by cases hc⟩

theorem Guarded.depth_pos (h : Guarded guard t) : 0 < t.depth := by
  refine Nat.lt_of_lt_of_le ?_ h.floor_le_depth
  rw [h.floor_eq]
  cases hg : guard with
  | none => exact Nat.one_pos
  | some d => exact Nat.zero_lt_of_lt (h.one_lt d hg)

/-- Closing a scope on the ledger does what it does on the table. -/
theorem exitLedger_ledger (h : Guarded guard t) :
    exitLedger t.ledger guard =
      match t.exitScope with
      | .ok (frame, t') => (.closed frame.get?, t'.ledger)
      | .error r => (.refused r, t.ledger) := by
  unfold exitLedger
  rw [← h.floor_eq]
  cases he : t.exitScope with
  | ok result =>
    obtain ⟨frame, t'⟩ := result
    have hlt : t.floor < t.ledger.depth := (Table.exitScope_eq_ok_iff.mp he).2.1
    obtain ⟨hledger, hframe⟩ := Table.ledger_exitScope he
    rw [if_pos hlt]
    dsimp only
    rw [hledger, hframe]
    rfl
  | error r =>
    obtain ⟨hle, rfl⟩ := Table.exitScope_eq_error_iff.mp he
    rw [if_neg (Nat.not_lt.mpr hle : ¬ t.floor < t.ledger.depth)]
    by_cases hone : t.floor = 1
    · rw [if_pos hone, h.floor_eq_one_iff.mp hone]
      rfl
    · have hguard : guard.isSome = true := by
        rw [← Bool.not_eq_false]
        exact fun hc => hone (h.floor_eq_one_iff.mpr hc)
      rw [if_neg hone, hguard]
      rfl

variable (name : String) (v : Json)

/-- A declaration on the ledger does what it does on the table, where there is a frame. -/
theorem declareLedger_ledger (hd : 0 < t.depth) (insists : Bool) :
    declareLedger name t.ledger insists v =
      match t.declare name v with
      | .ok t' => (if insists then .done else .granted, t'.ledger)
      | .error e =>
        (if insists then .aborted e.fault else (Answer.ofFailure e).reply, t.ledger) := by
  unfold declareLedger
  by_cases hv : ValidName name
  · obtain ⟨t', h⟩ := Table.exists_declare_eq_ok hd hv v
    rw [if_pos hv, h]
    dsimp only
    rw [Table.ledger_declare h]
  · rw [if_neg hv, Table.declare_of_not_validName hv]
    rfl

theorem get?_of_rebind? {f : Json → Json} {t' : Store} {old : Json}
    (h : t.rebind? name f = some (old, t')) : t.ledger.get? name = some old := by
  rw [Table.get?_ledger, ← Table.rebind?_old t name f, h]
  rfl

theorem get?_ledger_of_rebind?_eq_none {f : Json → Json} (h : t.rebind? name f = none) :
    t.ledger.get? name = none := by
  rw [Table.get?_ledger]
  exact Table.rebind?_eq_none_iff.mp h

theorem updateLedger_ledger :
    updateLedger name t.ledger v =
      match t.update name v with
      | .ok (old, t') => (.value old, t'.ledger)
      | .error r => (.refused r, t.ledger) := by
  unfold updateLedger Table.update
  cases h : t.rebind? name fun _ => v with
  | some result =>
    obtain ⟨old, t'⟩ := result
    rw [get?_of_rebind? name h]
    dsimp only
    rw [Table.ledger_rebind? h]
  | none => rw [get?_ledger_of_rebind?_eq_none name h]

/-- An update that may declare does what it does on the table. -/
theorem updateOrDeclareLedger_ledger (hd : 0 < t.depth) :
    updateOrDeclareLedger name t.ledger v =
      match t.updateOrDeclare name v with
      | .ok (old, t') => (.replaced old, t'.ledger)
      | .error e => ((Answer.ofFailure e).reply, t.ledger) := by
  unfold updateOrDeclareLedger Table.updateOrDeclare
  cases h : t.rebind? name fun _ => v with
  | some result =>
    obtain ⟨old, t'⟩ := result
    rw [get?_of_rebind? name h]
    dsimp only
    rw [Table.ledger_rebind? h]
  | none =>
    rw [get?_ledger_of_rebind?_eq_none name h]
    dsimp only
    by_cases hv : ValidName name
    · obtain ⟨t', h⟩ := Table.exists_declare_eq_ok hd hv v
      rw [if_pos hv, h]
      dsimp only
      rw [Table.ledger_declare h]
    · rw [if_neg hv, Table.declare_of_not_validName hv]
      rfl

theorem editLedger_ledger (e : Edit) :
    editLedger name t.ledger e =
      match t.rebind? name e.apply with
      | some (old, t') => (.found (some (e.apply old)), t'.ledger)
      | none => (.found none, t.ledger) := by
  unfold editLedger
  cases h : t.rebind? name e.apply with
  | some result =>
    obtain ⟨old, t'⟩ := result
    rw [get?_of_rebind? name h]
    dsimp only
    rw [Table.ledger_rebind? h]
  | none => rw [get?_ledger_of_rebind?_eq_none name h]

theorem lookupLedger_ledger :
    lookupLedger name t.ledger =
      match t.lookup name with
      | .ok v => .value v
      | .error r => .refused r := by
  unfold lookupLedger Table.lookup
  rw [Table.get?_ledger]
  cases t.get? name <;> rfl

theorem lookupAsLedger_ledger (schema : Schema) :
    lookupAsLedger name t.ledger schema = (lookupAs name schema t).reply := by
  unfold lookupAsLedger lookupAs Store.lookupAs Table.lookup
  rw [Table.get?_ledger]
  cases t.get? name with
  | none => rfl
  | some v =>
    dsimp only
    cases schema.read v with
    | error e => rfl
    | ok x =>
      dsimp only
      cases Store.convert (schema.datum x) <;> rfl

end Operations

/-! ## Runs -/

/-- A command that keeps the table leaves the floor to the running block. -/
theorem Guarded.run {guard : Option Nat} {c : Command} {s : State} (h : Guarded guard s.store)
    (hk : c.keepsTable = true) : Guarded guard (c.run s).2.store := by
  cases hc : c.isBlock with
  | false =>
    have he := effect_run hc (replacement?_eq_none hk h.depth_pos)
    exact ⟨he.floor_eq.trans h.floor_eq, he.floor_le_depth h.floor_le_depth, h.one_lt⟩
  | true =>
    match c, hc, hk with
    | .block stops body, _, hk =>
      refine ⟨h.floor_eq, ?_, h.one_lt⟩
      rw [Command.keepsTable] at hk
      rw [depth_store_run_block stops s hk]
      exact h.floor_le_depth

/-- The body of a block is guarded by the block. -/
theorem Guarded.openBlock {guard : Option Nat} {s : State} (h : Guarded guard s.store) :
    Guarded (some (s.store.depth + 1)) s.openBlock.store := by
  refine ⟨rfl, Nat.le_refl _, fun d hd => ?_⟩
  rw [← Option.some.inj hd]
  exact Nat.succ_lt_succ h.depth_pos

/-- **A command that is no block** has the same answer on a ledger, and the same effect. -/
theorem runLedger_of_isBlock_eq_false {guard : Option Nat} {c : Command} (hb : c.isBlock = false)
    {s : State} (hk : c.keepsTable = true) (h : Guarded guard s.store) :
    c.runLedger guard s.store.ledger = ((c.run s).1.reply, (c.run s).2.store.ledger) := by
  have hd := h.depth_pos
  cases c with
  | enterScope => rw [Command.runLedger, ← Table.ledger_enterScope]; rfl
  | exitScope =>
    rw [Command.runLedger, exitLedger_ledger h, Command.run]
    cases s.store.exitScope <;> rfl
  | declare manner name v =>
    rw [Command.runLedger, declareLedger_ledger name v hd]
    show _ = ((declare manner name v s).1.reply, (declare manner name v s).2.store.ledger)
    have hr := replacement?_eq_none hk hd
    rw [Command.replacement?] at hr
    unfold declare
    cases hdec : s.store.declare name v with
    | ok t => cases manner.insists <;> rfl
    | error e =>
      rw [hdec] at hr
      dsimp only at hr ⊢
      -- a table that was given away would have been replaced
      split at hr
      · cases hr
      · next hm =>
        rw [if_neg hm]
        cases manner.insists <;> rfl
  | update name v =>
    rw [Command.runLedger, updateLedger_ledger, Command.run]
    cases s.store.update name v <;> rfl
  | updateOrDeclare name v =>
    rw [Command.runLedger, updateOrDeclareLedger_ledger name v hd, Command.run]
    cases s.store.updateOrDeclare name v <;> rfl
  | edit name e =>
    rw [Command.runLedger, editLedger_ledger, Command.run]
    cases s.store.rebind? name e.apply <;> rfl
  | declareValue name d =>
    rw [Command.runLedger, Command.run, Store.declareValue]
    cases Store.convert d with
    | error r => rfl
    | ok v =>
      dsimp only
      rw [declareLedger_ledger name v hd]
      cases s.store.declare name v <;> rfl
  | updateValue name d =>
    rw [Command.runLedger, Command.run, Store.updateValue]
    cases Store.convert d with
    | error r => rfl
    | ok v =>
      dsimp only
      rw [updateLedger_ledger]
      cases s.store.update name v <;> rfl
  | lookup name =>
    rw [Command.runLedger, lookupLedger_ledger, Command.run]
    cases s.store.lookup name <;> rfl
  | get name => rw [Command.runLedger, Table.get?_ledger]; rfl
  | lookupAs name schema => rw [Command.runLedger, lookupAsLedger_ledger]; rfl
  | contains name => rw [Command.runLedger, Table.get?_ledger]; rfl
  | isLocal name => rw [Command.runLedger, Table.isLocal_ledger]; rfl
  | resolveDepth name => rw [Command.runLedger, Table.resolveDepth?_ledger]; rfl
  | restore slot => cases hk
  | reset => cases hk
  | block stops body => cases hb
  | _ => rfl

mutual

/-- **A command on the ledger does what it does on the table,** a block included. -/
theorem Command.runLedger_ledger {guard : Option Nat} {c : Command} {s : State}
    (hk : c.keepsTable = true) (h : Guarded guard s.store) :
    c.runLedger guard s.store.ledger = ((c.run s).1.reply, (c.run s).2.store.ledger) := by
  cases hc : c.isBlock with
  | false => exact runLedger_of_isBlock_eq_false hc hk h
  | true =>
    match c, hc, hk with
    | .block stops body, _, hk =>
      rw [Command.keepsTable] at hk
      -- on a ledger too the body starts with one frame more, and the block takes all of them back
      have hbody :
          runAllLedger (some (s.store.ledger.depth + 1)) stops body s.store.ledger.enter = _ :=
        runAllLedger_ledger hk h.openBlock
      have hdepth := depth_lt_depth_runAll_openBlock stops s hk
      rw [runLedger_block, hbody, store_run_block stops s hk,
        Table.ledger_truncate (Nat.le_of_lt hdepth)]
      rfl
termination_by structural c

/-- Commands one after the other do on the ledger what they do on the table. -/
theorem runAllLedger_ledger {guard : Option Nat} {stops : Bool} {script : List Command} {s : State}
    (hk : allKeep script = true) (h : Guarded guard s.store) :
    runAllLedger guard stops script s.store.ledger =
      (replies (runAll stops script s).1, (runAll stops script s).2.store.ledger) := by
  match script, hk with
  | [], _ => rfl
  | c :: rest, hk =>
    rw [allKeep, Bool.and_eq_true] at hk
    have hfirst := Command.runLedger_ledger hk.1 h
    have hrest : runAllLedger guard stops rest (c.run s).2.store.ledger = _ :=
      runAllLedger_ledger hk.2 (h.run hk.1)
    rw [runAllLedger, runAll_cons, hfirst]
    dsimp only
    rw [isFailure_reply, hrest]
    by_cases hf : (stops && (c.run s).1.isFailure) = true
    · rw [if_pos hf, if_pos hf]
      rfl
    · rw [if_neg hf, if_neg hf]
      rfl
termination_by structural script

end

/-- **A script that keeps its table runs on a ledger as it does on a table.** All answers are the
same, within blocks and between them, and so is the ledger after each command; and in every state of
the run the indices of each stack decrease. -/
theorem run_ledger {script : List Command} (h : allKeep script = true) :
    runLedger script = (replies (run script).1, (run script).2.store.ledger) ∧
      ∀ past, past <+: trace script → (stateAfter .initial past).store.ledger.Decreasing := by
  refine ⟨?_, fun past _ => Table.decreasing_ledger _⟩
  have hstart : Guarded none State.initial.store := ⟨rfl, Nat.le_refl 1, fun d hd => by cases hd⟩
  rw [runLedger, ← Table.ledger_new]
  exact runAllLedger_ledger h hstart

/-- A name that is bound in the root and in a block, and written two scopes further in: the pair of
the block takes the write and goes with the block. -/
theorem run_ledger_shadowing :
    let script : List Command :=
      [.declare {} "x" .null,
        .block false [.declare {} "x" (.bool true), .enterScope, .enterScope,
          .update "x" (.bool false), .resolveDepth "x", .exitScope]]
    allKeep script = true ∧
      runLedger script = (replies (run script).1, (run script).2.store.ledger) ∧
      (runLedger script).2.stack "x" = [(0, .null)] := by
  intro script
  have hk : allKeep script = true := rfl
  obtain ⟨hrun, _⟩ := run_ledger hk
  refine ⟨hk, hrun, ?_⟩
  rw [hrun]
  rfl

end LexicalScope.Script
