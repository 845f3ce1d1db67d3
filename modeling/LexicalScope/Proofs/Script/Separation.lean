import LexicalScope.Proofs.Script.Names
import LexicalScope.Proofs.Table.Only
import Mathlib.Data.List.Forall2

/-!
# Separation of names

Names do not meet. A script from which all commands about other names are taken out does to one name
what the whole script does to it, in blocks too, and with copies that are saved and put in place. So
commands about different names can change places.

* `Command.concerns`, `allAbout` — the commands that are left when all about other names are taken
  out
* `allSeparable` — the scripts in which nothing else hangs on the commands that are taken out
* `State.only` — what is left of a state when all names but one are forgotten
* `run_only`, `only_run` — a command about the name, and a command about another one
* `runAll_about` — the script that is left does what the script does, moment by moment
* `run_reordered` — commands about different names change places
* `SameOn` — tables that are the same as far as one name goes
* `names_do_not_interfere` — both together, for whole runs
-/

namespace LexicalScope.Script

/-! ## Taking commands out -/

/-- The command asks for all names at once. -/
def Command.surveys : Command → Bool
  | .snapshot | .frames _ | .frameEq _ _ | .innermostIsEmpty | .visible | .equals _ => true
  | _ => false

/-- The command is about the name, or about no name at all. -/
def Command.concerns (name : String) (c : Command) : Bool :=
  match c.subject? with
  | some other => other == name
  | none => !c.surveys

mutual

/-- The command with the commands about other names taken out of its body. -/
def Command.about (name : String) : Command → Command
  | .block stops body => .block stops (allAbout name body)
  | c => c
termination_by structural c => c

/-- The script without the commands about other names. -/
def allAbout (name : String) : List Command → List Command
  | [] => []
  | c :: rest =>
    if c.concerns name then c.about name :: allAbout name rest else allAbout name rest
termination_by structural script => script

end

mutual

/-- A command about another name does not give the table away, and it cannot end a body: one that
stops at a failure has no such command. -/
def Command.separable (name : String) : Command → Bool
  | .declare manner other _ => other == name || !manner.handsOver
  | .block stops body => (!stops || body.all (·.concerns name)) && allSeparable name body
  | _ => true
termination_by structural c => c

/-- Each command of the script is separable. -/
def allSeparable (name : String) : List Command → Bool
  | [] => true
  | c :: rest => c.separable name && allSeparable name rest
termination_by structural script => script

end

/-- A command that does not concern a name is no block. -/
theorem isBlock_of_concerns_eq_false {name : String} {c : Command}
    (h : c.concerns name = false) : c.isBlock = false := by
  cases c with
  | block stops body => cases h
  | _ => rfl

/-- Only within blocks is anything taken out of a command. -/
theorem about_of_isBlock_eq_false {c : Command} (h : c.isBlock = false) (name : String) :
    c.about name = c := by
  cases c with
  | block stops body => cases h
  | _ => rfl

/-! ## Forgetting names -/

/-- The state that binds one name as the state does, in the copies too, and no other name. -/
def State.only (s : State) (name : String) : State :=
  ⟨s.store.only name, s.slots.mapValues (·.only name)⟩

/-- The answer, of which a frame that is handed back has one name left. -/
def Answer.only (name : String) : Answer → Answer
  | .closed frame => .closed (frame.only name)
  | a => a

/-- Whether something happens that the name can notice; scopes concern every name. -/
def Event.concerns (name : String) : Event → Bool
  | .does c _ => c.concerns name
  | _ => true

/-- What happens, as the script about the name alone has it. -/
def Event.only (name : String) : Event → Event
  | .does c a => .does c (a.only name)
  | .opens stops body => .opens stops (allAbout name body)
  | .closes => .closes

/-- The moment with all that is about other names left out. -/
def Moment.only (name : String) (m : Moment) : Moment :=
  ⟨m.before.only name, m.event.only name, m.after.only name⟩

@[simp] theorem isFailure_only (name : String) (a : Answer) :
    (a.only name).isFailure = a.isFailure := by cases a <;> rfl

theorem only_ofFailure (name : String) (e : Failure) :
    (Answer.ofFailure e).only name = .ofFailure e := by cases e <;> rfl

theorem only_lookupAs (name other : String) (schema : Schema) (t : Store) :
    (lookupAs other schema t).only name = lookupAs other schema t := by
  unfold lookupAs
  repeat' split
  all_goals rfl

section States

variable (s : State) (name : String)

@[simp] theorem store_only : (s.only name).store = s.store.only name := rfl

theorem only_initial : State.initial.only name = .initial := rfl

theorem only_openBlock : s.openBlock.only name = (s.only name).openBlock := by
  simp [State.only, State.openBlock, Table.only_openScoped]

theorem only_closeBlock (floor : Nat) :
    (s.closeBlock floor).only name = (s.only name).closeBlock floor := by
  simp [State.only, State.closeBlock, Table.only_closeScoped]

theorem get?_slots_only (slot : String) :
    (s.only name).slots.get? slot = (s.slots.get? slot).map (·.only name) :=
  Dict.get?_mapValues s.slots slot

end States

/-! ## Commands about the name -/

/-- The command does to one name what it does, when all others are forgotten. -/
def RunsOnly (name : String) (c : Command) (s : State) : Prop :=
  c.run (s.only name) = ((c.run s).1.only name, (c.run s).2.only name)

section About

variable {s : State} {name : String}

/-- A declaration of the name is refused, granted or a fault in both states alike. -/
theorem runsOnly_declare (manner : Manner) (v : Json) :
    RunsOnly name (.declare manner name v) s := by
  unfold RunsOnly
  rw [Command.run, Command.run, declare, declare, store_only, Table.declare_only]
  cases s.store.declare name v with
  | ok t => cases manner.insists <;> simp [Except.map, Answer.only, State.only]
  | error e =>
    simp only [Except.map]
    cases manner.insists <;> cases manner.handsOver <;> cases e <;> rfl

/-- An update finds the same binding. -/
theorem runsOnly_update (v : Json) : RunsOnly name (.update name v) s := by
  unfold RunsOnly
  rw [Command.run, Command.run, Table.update, Table.update, store_only, Table.rebind?_only]
  cases s.store.rebind? name fun _ => v <;> rfl

/-- An update that may declare does the one or the other in both states. -/
theorem runsOnly_updateOrDeclare (v : Json) : RunsOnly name (.updateOrDeclare name v) s := by
  unfold RunsOnly
  rw [Command.run, Command.run, Table.updateOrDeclare, Table.updateOrDeclare, store_only,
    Table.rebind?_only]
  cases s.store.rebind? name fun _ => v with
  | some result => rfl
  | none =>
    simp only [Option.map_none, Table.declare_only]
    cases s.store.declare name v with
    | ok t => rfl
    | error e => cases e <;> rfl

theorem runsOnly_edit (e : Edit) : RunsOnly name (.edit name e) s := by
  unfold RunsOnly
  rw [Command.run, Command.run, store_only, Table.rebind?_only]
  cases s.store.rebind? name e.apply <;> rfl

/-- A command that converts its value first does what another does, or nothing. -/
theorem RunsOnly.of_converted {c : Command} {plain : Json → Command} {d : Datum}
    (hrun : ∀ s : State, (∀ v, d.toJson = .ok v → c.run s = (plain v).run s) ∧
      ∀ e, d.toJson = .error e → c.run s = (.refused (.unconvertible e.message), s))
    (hplain : ∀ v, RunsOnly name (plain v) s) : RunsOnly name c s := by
  obtain ⟨hok, herror⟩ := hrun s
  obtain ⟨hok', herror'⟩ := hrun (s.only name)
  unfold RunsOnly
  cases hd : d.toJson with
  | ok v =>
    rw [hok v hd, hok' v hd]
    exact hplain v
  | error e =>
    rw [herror e hd, herror' e hd]
    rfl

theorem runsOnly_lookup : RunsOnly name (.lookup name) s := by
  unfold RunsOnly
  rw [Command.run, Command.run, Table.lookup, Table.lookup, store_only, Table.get?_only]
  cases s.store.get? name <;> rfl

theorem runsOnly_lookupAs (schema : Schema) : RunsOnly name (.lookupAs name schema) s := by
  have hread : Store.lookupAs (s.store.only name) name schema =
      Store.lookupAs s.store name schema := by
    rw [Store.lookupAs, Store.lookupAs, Table.lookup, Table.lookup, Table.get?_only]
  unfold RunsOnly
  rw [Command.run, Command.run, query, query, only_lookupAs, store_only, lookupAs, hread]
  rfl

/-- Scopes are closed in both states or in none; of the closed frame the name is left. -/
theorem runsOnly_exitScope : RunsOnly name .exitScope s := by
  unfold RunsOnly
  rw [Command.run, Command.run, store_only, Table.exitScope_only]
  cases s.store.exitScope <;> rfl

theorem runsOnly_save (slot : String) : RunsOnly name (.save slot) s := by
  simp [RunsOnly, Command.run, Answer.only, State.only, Dict.mapValues_insert]

theorem runsOnly_restore (slot : String) : RunsOnly name (.restore slot) s := by
  unfold RunsOnly
  rw [Command.run, Command.run, get?_slots_only]
  cases s.slots.get? slot <;> rfl

/-- Every command about the name alone does to what is left what it does to the whole. -/
theorem run_only_of_subject {c : Command} (h : c.subject? = some name) (s : State) :
    RunsOnly name c s := by
  cases c with
  | declare manner n v => cases h; exact runsOnly_declare manner v
  | update n v => cases h; exact runsOnly_update v
  | updateOrDeclare n v => cases h; exact runsOnly_updateOrDeclare v
  | edit n e => cases h; exact runsOnly_edit e
  | declareValue n d =>
    cases h
    exact .of_converted (fun s => run_declareValue s name) (fun v => runsOnly_declare {} v)
  | updateValue n d =>
    cases h
    exact .of_converted (fun s => run_updateValue s name) (fun v => runsOnly_update v)
  | lookup n => cases h; exact runsOnly_lookup
  | lookupAs n schema => cases h; exact runsOnly_lookupAs schema
  | get n => cases h; simp [RunsOnly, Command.run, query, Answer.only, Table.get?_only]
  | contains n =>
    cases h
    simp [RunsOnly, Command.run, query, Answer.only, Table.contains, Table.get?_only]
  | isLocal n => cases h; simp [RunsOnly, Command.run, query, Answer.only, Table.isLocal_only]
  | resolveDepth n =>
    cases h
    simp [RunsOnly, Command.run, query, Answer.only, Table.resolveDepth?_only]
  | _ => cases h

/-- **A command about the name, or about none,** does the same when all other names are
forgotten. -/
theorem run_only {c : Command} (hb : c.isBlock = false) (h : c.concerns name = true) (s : State) :
    RunsOnly name c s := by
  cases hsubject : c.subject? with
  | some n =>
    obtain rfl : n = name := by simpa [Command.concerns, hsubject] using h
    exact run_only_of_subject hsubject s
  | none =>
    cases c with
    | depth => simp [RunsOnly, Command.run, query, Answer.only]
    | exitScope => exact runsOnly_exitScope
    | save slot => exact runsOnly_save slot
    | restore slot => exact runsOnly_restore slot
    | enterScope | reset => rfl
    | block stops body => cases hb
    | snapshot | frames | frameEq | innermostIsEmpty | visible | equals => cases h
    | _ => cases hsubject

end About

/-! ## Commands about other names -/

section Other

variable {c : Command} {name : String}

theorem isBlock_of_subject {n : String} (h : c.subject? = some n) : c.isBlock = false := by
  cases c with
  | block stops body => cases h
  | _ => rfl

/-- A command that declares a name is about that name. -/
theorem subject_of_declares? {t : Store} {n : String} {v : Json}
    (h : c.declares? t = some (n, v)) : c.subject? = some n := by
  cases c with
  | declare manner m w => cases h; rfl
  | updateOrDeclare m w =>
    rw [Command.declares?] at h
    split at h <;> cases h
    rfl
  | declareValue m d =>
    rw [Command.declares?] at h
    split at h <;> cases h
    rfl
  | _ => cases h

theorem subject_of_write? {t : Store} {n : String} {v : Json}
    (h : c.write? t = some (n, v)) : c.subject? = some n := by
  cases c with
  | update m w => cases h; rfl
  | updateOrDeclare m w => cases h; rfl
  | edit m e =>
    obtain ⟨old, _, heq⟩ := Option.map_eq_some_iff.mp h
    cases heq
    rfl
  | updateValue m d =>
    rw [Command.write?] at h
    split at h <;> cases h
    rfl
  | _ => cases h

/-- A command about a name leaves the copies as they are. -/
theorem slots_run_of_subject {n : String} (h : c.subject? = some n) (s : State) :
    (c.run s).2.slots = s.slots := by
  refine slots_run_of_ne (isBlock_of_subject h) ?_ s
  rintro slot rfl
  cases h

theorem replacement?_of_subject {n : String} (h : c.subject? = some n)
    (hc : c.handsOver = false) (s : State) : c.replacement? s = none := by
  cases c with
  | declare manner m v =>
    have hm : manner.handsOver = false := hc
    rw [Command.replacement?]
    split
    · rfl
    · rw [hm]
      rfl
  | restore slot => cases h
  | reset => cases h
  | _ => rfl

/-- A command about another name changes no binding of the name. -/
theorem only_store_run {n : String} (h : c.subject? = some n) (hne : name ≠ n)
    (hc : c.handsOver = false) (s : State) : (c.run s).2.store.only name = s.store.only name := by
  have he : Effect c s.store (c.run s).2.store :=
    effect_run (isBlock_of_subject h) (replacement?_of_subject h hc s)
  generalize (c.run s).2.store = t' at he ⊢
  cases he with
  | stays => rfl
  | enters hcommand =>
    subst hcommand
    cases h
  | exits hcommand =>
    subst hcommand
    cases h
  | declares hd _ hdeclares =>
    rw [subject_of_declares? hdeclares] at h
    cases h
    exact Table.only_of_declare hne hd
  | rebinds hr hwrite =>
    rw [subject_of_write? hwrite] at h
    cases h
    exact Table.only_of_rebind? hne hr

/-- **A command about other names** does nothing, when these are forgotten. -/
theorem only_run (h : c.concerns name = false) (hs : c.separable name = true) (s : State) :
    (c.run s).2.only name = s.only name := by
  cases hsubject : c.subject? with
  | none =>
    -- the command asks for all names, and changes none
    cases c with
    | snapshot | frames | frameEq | innermostIsEmpty | visible | equals => rfl
    | enterScope | exitScope | depth | save | restore | reset | block => cases h
    | _ => cases hsubject
  | some n =>
    have hne : n ≠ name := by simpa [Command.concerns, hsubject] using h
    have hc : c.handsOver = false := by
      cases c with
      | declare manner m v =>
        cases hsubject
        show manner.handsOver = false
        simpa [Command.separable, hne] using hs
      | _ => rfl
    rw [State.only, only_store_run hsubject hne.symm hc, slots_run_of_subject hsubject]
    rfl

end Other

/-! ## Scripts -/

mutual

/-- The command that is left does to the name what the command does. -/
theorem Command.run_about {name : String} {c : Command} (hc : c.concerns name = true)
    (hs : c.separable name = true) (s : State) :
    ((c.about name).run (s.only name)).1.isFailure = (c.run s).1.isFailure ∧
      ((c.about name).run (s.only name)).2 = (c.run s).2.only name ∧
      (c.about name).trace (s.only name) =
        ((c.trace s).filter (·.event.concerns name)).map (·.only name) := by
  cases hb : c.isBlock with
  | false =>
    have hrun : c.run (s.only name) = _ := run_only hb hc s
    rw [about_of_isBlock_eq_false hb, Command.trace_of_isBlock_eq_false hb,
      Command.trace_of_isBlock_eq_false hb, hrun]
    refine ⟨isFailure_only name _, rfl, ?_⟩
    simp [Event.concerns, hc, Moment.only, Event.only]
  | true =>
    match c, hb, hs with
    | .block stops body, _, hs =>
      simp only [Command.separable, Bool.and_eq_true, Bool.or_eq_true, Bool.not_eq_true'] at hs
      obtain ⟨hfinal, hmoments⟩ := runAll_about hs.1 hs.2 s.openBlock
      rw [only_openBlock] at hfinal hmoments
      rw [Command.about, run_block, run_block, Command.trace, Command.trace, hfinal, hmoments]
      refine ⟨rfl, (only_closeBlock _ _ _).symm, ?_⟩
      rw [List.filter_cons_of_pos rfl, List.filter_append, List.map_cons, List.map_append]
      simp [Moment.only, Event.only, Event.concerns, only_openBlock, only_closeBlock]
termination_by structural c

/-- **The script that is left does to the name what the script does,** moment by moment. -/
theorem runAll_about {name : String} {stops : Bool} {script : List Command}
    (hstops : stops = false ∨ script.all (·.concerns name) = true)
    (hs : allSeparable name script = true) (s : State) :
    (runAll stops (allAbout name script) (s.only name)).2 = (runAll stops script s).2.only name ∧
      traceAll stops (allAbout name script) (s.only name) =
        ((traceAll stops script s).filter (·.event.concerns name)).map (·.only name) := by
  match script, hstops, hs with
  | [], _, _ => exact ⟨rfl, rfl⟩
  | c :: rest, hstops, hs =>
    rw [allSeparable, Bool.and_eq_true] at hs
    rw [List.all_cons, Bool.and_eq_true] at hstops
    obtain ⟨hfinal, hmoments⟩ :=
      runAll_about (hstops.imp_right And.right) hs.2 (c.run s).2
    rw [allAbout]
    cases hc : c.concerns name with
    | true =>
      obtain ⟨hfails, hstate, htrace⟩ := Command.run_about hc hs.1 s
      rw [if_pos rfl, runAll_cons, runAll_cons, traceAll, traceAll, hfails, hstate, htrace,
        List.filter_append, List.map_append]
      by_cases hf : (stops && (c.run s).1.isFailure) = true
      · rw [if_pos hf, if_pos hf, if_pos hf, if_pos hf]
        exact ⟨rfl, rfl⟩
      · rw [if_neg hf, if_neg hf, if_neg hf, if_neg hf]
        exact ⟨hfinal, by rw [hmoments]⟩
    | false =>
      -- a command that is taken out ends no body
      obtain rfl : stops = false := by
        rcases hstops with hstops | ⟨hc', _⟩
        · exact hstops
        · rw [hc] at hc'
          cases hc'
      rw [only_run hc hs.1 s] at hfinal hmoments
      rw [if_neg Bool.false_ne_true, runAll_cons, traceAll, Bool.false_and,
        if_neg Bool.false_ne_true, if_neg Bool.false_ne_true, hfinal, hmoments,
        List.filter_append,
        Command.trace_of_isBlock_eq_false (isBlock_of_concerns_eq_false hc),
        List.filter_cons_of_neg (by simp [Event.concerns, hc])]
      exact ⟨rfl, rfl⟩
termination_by structural script

end

mutual

/-- At each moment that is taken out nothing happens to the name. -/
theorem Command.only_of_mem_trace {name : String} {c : Command} (hs : c.separable name = true)
    (s : State) : ∀ m ∈ c.trace s, m.event.concerns name = false →
      m.after.only name = m.before.only name := by
  intro m hm hc
  cases hb : c.isBlock with
  | false =>
    rw [Command.trace_of_isBlock_eq_false hb, List.mem_singleton] at hm
    subst hm
    exact only_run hc hs s
  | true =>
    match c, hb, hs with
    | .block stops body, _, hs =>
      rw [Command.separable, Bool.and_eq_true] at hs
      rw [Command.trace, List.mem_cons, List.mem_append, List.mem_singleton] at hm
      rcases hm with rfl | hm | rfl
      · cases hc
      · exact only_of_mem_traceAll stops hs.2 s.openBlock m hm hc
      · cases hc
termination_by structural c

/-- What does not concern the name leaves what is left as it is. -/
theorem only_of_mem_traceAll {name : String} (stops : Bool) {script : List Command}
    (hs : allSeparable name script = true) (s : State) :
    ∀ m ∈ traceAll stops script s, m.event.concerns name = false →
      m.after.only name = m.before.only name := by
  match script, hs with
  | [], _ => exact fun m hm => absurd hm List.not_mem_nil
  | c :: rest, hs =>
    intro m hm hc
    rw [allSeparable, Bool.and_eq_true] at hs
    rw [traceAll, List.mem_append] at hm
    rcases hm with hm | hm
    · exact Command.only_of_mem_trace hs.1 s m hm hc
    · split at hm
      · exact absurd hm List.not_mem_nil
      · exact only_of_mem_traceAll stops hs.2 (c.run s).2 m hm hc
termination_by structural script

end

/-! ## Commands in another order -/

/-- Each command is about a name, and none gives the table away. -/
def Named (commands : List Command) : Prop :=
  ∀ c ∈ commands, c.subject?.isSome = true ∧ c.handsOver = false

/-- The commands about the name, in their order. -/
def commandsOn (name : String) (commands : List Command) : List Command :=
  commands.filter fun c => c.subject? == some name

/-- The commands about the name with the answers they get, in their order. -/
def eventsOn (name : String) (commands : List Command) (s : State) : List Event :=
  ((traceAll false commands s).filter (·.event.concerns name)).map (·.event)

section Order

variable {commands commands' : List Command} {s : State}

/-- An answer about a name hands no frame back. -/
theorem only_answer_of_subject {c : Command} {n : String} (h : c.subject? = some n) (s : State)
    (name : String) : (c.run s).1.only name = (c.run s).1 := by
  cases c with
  | declare manner m v =>
    rw [Command.run, declare]
    cases s.store.declare m v with
    | ok t => cases manner.insists <;> rfl
    | error e =>
      cases manner.insists with
      | true => rfl
      | false => exact only_ofFailure name e
  | updateOrDeclare | declareValue =>
    rw [Command.run]
    split
    · rfl
    · exact only_ofFailure name _
  | update | edit | updateValue | lookup =>
    rw [Command.run]
    split <;> rfl
  | lookupAs m schema => exact only_lookupAs name m schema s.store
  | get | contains | isLocal | resolveDepth => rfl
  | _ => cases h

theorem concerns_of_subject {c : Command} {n : String} (h : c.subject? = some n) (name : String) :
    c.concerns name = (c.subject? == some name) := by
  simp [Command.concerns, h]

/-- Commands that each name a single name can be told apart by names. -/
theorem allSeparable_of_named (name : String) (h : Named commands) :
    allSeparable name commands = true := by
  induction commands with
  | nil => rfl
  | cons c rest ih =>
    obtain ⟨⟨hsubject, hgives⟩, hrest⟩ := List.forall_mem_cons.mp h
    rw [allSeparable, ih hrest, Bool.and_true]
    cases c with
    | declare manner n v =>
      have hm : manner.handsOver = false := hgives
      simp [Command.separable, hm]
    | block stops body => cases hsubject
    | _ => rfl

/-- Of commands that each name a single name, those about a name are the commands on it. -/
theorem allAbout_of_named (name : String) (h : Named commands) :
    allAbout name commands = commandsOn name commands := by
  unfold commandsOn
  induction commands with
  | nil => rfl
  | cons c rest ih =>
    obtain ⟨⟨hsubject, _⟩, hrest⟩ := List.forall_mem_cons.mp h
    obtain ⟨n, hn⟩ := Option.isSome_iff_exists.mp hsubject
    rw [allAbout, ih hrest, concerns_of_subject hn,
      about_of_isBlock_eq_false (isBlock_of_subject hn), List.filter_cons]

/-- Commands that each name a single name save no copies. -/
theorem slots_runAll_of_named (h : Named commands) (s : State) :
    (runAll false commands s).2.slots = s.slots := by
  induction commands generalizing s with
  | nil => rfl
  | cons c rest ih =>
    obtain ⟨⟨hsubject, _⟩, hrest⟩ := List.forall_mem_cons.mp h
    obtain ⟨n, hn⟩ := Option.isSome_iff_exists.mp hsubject
    exact (ih hrest (c.run s).2).trans (slots_run_of_subject hn s)

theorem only_event_of_named (h : Named commands) (name : String) (s : State) :
    ∀ m ∈ traceAll false commands s, m.event.only name = m.event := by
  induction commands generalizing s with
  | nil => exact fun m hm => absurd hm List.not_mem_nil
  | cons c rest ih =>
    intro m hm
    obtain ⟨⟨hsubject, _⟩, hrest⟩ := List.forall_mem_cons.mp h
    obtain ⟨n, hn⟩ := Option.isSome_iff_exists.mp hsubject
    rw [traceAll, Command.trace_of_isBlock_eq_false (isBlock_of_subject hn)] at hm
    rcases List.mem_cons.mp hm with rfl | hm
    · exact congrArg (Event.does c) (only_answer_of_subject hn s name)
    · exact ih hrest (c.run s).2 m hm

/-- Neighbours about different names can be swapped. -/
theorem commandsOn_swap {c c' : Command} (h : c.subject? ≠ c'.subject?) (l r : List Command)
    (name : String) :
    commandsOn name (l ++ c :: c' :: r) = commandsOn name (l ++ c' :: c :: r) := by
  unfold commandsOn
  rw [List.filter_append, List.filter_append]
  refine congrArg (l.filter _ ++ ·) ?_
  by_cases hc : c.subject? = some name
  · have hc' : c'.subject? ≠ some name := fun hc' => h (hc.trans hc'.symm)
    simp [List.filter_cons, hc']
  · simp [List.filter_cons, hc]

/-- What happens to a name hangs on the commands about it. -/
theorem eventsOn_of_named (h : Named commands) (name : String) (s : State) :
    eventsOn name commands s =
      (traceAll false (commandsOn name commands) (s.only name)).map (·.event) := by
  obtain ⟨_, hmoments⟩ := runAll_about (Or.inl rfl) (allSeparable_of_named name h) s
  rw [allAbout_of_named name h] at hmoments
  rw [hmoments, List.map_map]
  refine List.map_congr_left fun m hm => ?_
  exact (only_event_of_named h name s m (List.mem_of_mem_filter hm)).symm

/-- **Commands about different names change places,** and nothing shows it. -/
theorem run_reordered (hs : s.Forall Table.Ordered) (h : Named commands) (h' : Named commands')
    (hsame : ∀ name, commandsOn name commands = commandsOn name commands') :
    (runAll false commands s).2 = (runAll false commands' s).2 ∧
      ∀ name, eventsOn name commands s = eventsOn name commands' s := by
  have honly : ∀ name, (runAll false commands s).2.only name =
      (runAll false commands' s).2.only name := by
    intro name
    obtain ⟨hfinal, _⟩ := runAll_about (Or.inl rfl) (allSeparable_of_named name h) s
    obtain ⟨hfinal', _⟩ := runAll_about (Or.inl rfl) (allSeparable_of_named name h') s
    rw [← hfinal, ← hfinal', allAbout_of_named name h, allAbout_of_named name h', hsame]
  have hordered := invariant_ordered.path hs (path_traceAll false commands s [])
  have hordered' := invariant_ordered.path hs (path_traceAll false commands' s [])
  have hstore : (runAll false commands s).2.store = (runAll false commands' s).2.store :=
    Table.ext_only hordered.store hordered'.store fun name => congrArg (·.store) (honly name)
  have hslots : (runAll false commands s).2.slots = (runAll false commands' s).2.slots := by
    rw [slots_runAll_of_named h, slots_runAll_of_named h']
  refine ⟨congrArg₂ State.mk hstore hslots, fun name => ?_⟩
  rw [eventsOn_of_named h, eventsOn_of_named h', hsame]

end Order

/-! ## Two runs side by side -/

/-- The tables have as many frames and the same floor, and each two frames bind the name to the same
value, or do not bind it. -/
structure SameOn (name : String) (t t' : Store) : Prop where
  depth_eq : t.depth = t'.depth
  floor_eq : t.floor = t'.floor
  valueAt_eq : ∀ i, t.valueAt i name = t'.valueAt i name

/-- The answers are the same. Of frames that are handed back, what they say of the name is. -/
def Answer.SameOn (name : String) : Answer → Answer → Prop
  | .closed frame, a => ∃ frame', a = .closed frame' ∧ frame.get? name = frame'.get? name
  | a, a' => a = a'

/-- The same happens. A block of the second run has a body from which commands are taken out. -/
inductive Event.SameOn (name : String) : Event → Event → Prop where
  | does (c : Command) {a a' : Answer} (h : a.SameOn name a') : SameOn name (.does c a) (.does c a')
  | opens (stops : Bool) (body : List Command) :
    SameOn name (.opens stops body) (.opens stops (allAbout name body))
  | closes : SameOn name .closes .closes

/-- Two moments that the name cannot tell apart. -/
structure Moment.SameOn (name : String) (m m' : Moment) : Prop where
  before : Script.SameOn name m.before.store m'.before.store
  event : m.event.SameOn name m'.event
  after : Script.SameOn name m.after.store m'.after.store

section SameOn

variable {name : String}

theorem sameOn_of_only_eq {t t' : Store} (h : t'.only name = t.only name) : SameOn name t t' where
  depth_eq := by rw [← t.depth_only name, ← h, t'.depth_only]
  floor_eq := by rw [← t.floor_only name, ← h, t'.floor_only]
  valueAt_eq i := by rw [← t.valueAt_only, ← h, t'.valueAt_only]

/-- A name cannot tell a store from what is left of it. -/
theorem sameOn_only (t : Store) : SameOn name t (t.only name) where
  depth_eq := (t.depth_only name).symm
  floor_eq := (t.floor_only name).symm
  valueAt_eq i := (t.valueAt_only name i).symm

theorem Answer.sameOn_only (a : Answer) : a.SameOn name (a.only name) := by
  cases a with
  | closed frame => exact ⟨_, rfl, (frame.get?_only name).symm⟩
  | _ => rfl

theorem Event.sameOn_only (e : Event) : e.SameOn name (e.only name) := by
  cases e with
  | does c a => exact .does c a.sameOn_only
  | opens stops body => exact .opens stops body
  | closes => exact .closes

theorem Moment.sameOn_only (m : Moment) : m.SameOn name (m.only name) :=
  ⟨Script.sameOn_only _, m.event.sameOn_only, Script.sameOn_only _⟩

end SameOn

/-- **Names do not interfere.** A script and what is left of it without the commands about other
names do the same to a name, moment by moment: the tables before and after are as deep and bind the
name alike in every frame, and the answers are the same, faults and frames that are handed back
included. At the moments in between, those of the commands that are taken out, nothing happens to
the name. So where commands about names follow each other, it does not matter in which order those
about different names stand: the answers are the same and so is the state, in any run. -/
theorem names_do_not_interfere (name : String) {script : List Command}
    (h : allSeparable name script = true) :
    List.Forall₂ (Moment.SameOn name) ((trace script).filter (·.event.concerns name))
        (trace (allAbout name script)) ∧
      (∀ m ∈ trace script, m.event.concerns name = false →
        SameOn name m.before.store m.after.store) ∧
      SameOn name (run script).2.store (run (allAbout name script)).2.store ∧
      ∀ {script' : List Command} {past : List Moment}, past <+: trace script' →
        ∀ commands commands', Named commands → Named commands' →
          (∀ other, commandsOn other commands = commandsOn other commands') →
          let s := stateAfter .initial past
          (runAll false commands s).2 = (runAll false commands' s).2 ∧
            ∀ other, eventsOn other commands s = eventsOn other commands' s := by
  obtain ⟨hfinal, hmoments⟩ := runAll_about (Or.inl rfl) h .initial
  rw [only_initial] at hfinal hmoments
  refine ⟨?_, ?_, ?_, ?_⟩
  · rw [trace, trace, hmoments]
    exact List.forall₂_map_right_iff.mpr (List.forall₂_same.mpr fun m _ => m.sameOn_only)
  · intro m hm hc
    have honly := only_of_mem_traceAll false h .initial m hm hc
    exact sameOn_of_only_eq (congrArg (·.store) honly)
  · rw [run, run, hfinal]
    exact sameOn_only _
  · intro script' past hpast commands commands' hn hn' hsame
    exact run_reordered (invariant_ordered.stateAfter hpast) hn hn' hsame

/-- With a copy of a table that shadows the name, a block that leaves no frame behind, so that a
declaration is a fault, and the copy in its place at last. Then the name is edited and another one
declared, in either order. -/
theorem names_do_not_interfere_without_frames :
    let script : List Command :=
      [.declare {} "x" .null, .declare {} "y" .null, .enterScope, .declare {} "x" (.bool true),
        .save "copy", .block false [.update "y" (.bool true), .exitScope, .reset, .visible],
        .declare {} "x" .null, .declare {} "y" .null, .restore "copy"]
    let left : List Command :=
      [.declare {} "x" .null, .enterScope, .declare {} "x" (.bool true), .save "copy",
        .block false [.exitScope, .reset], .declare {} "x" .null, .restore "copy"]
    let s := stateAfter .initial (trace script)
    allSeparable "x" script = true ∧ allAbout "x" script = left ∧
      List.Forall₂ (Moment.SameOn "x") ((trace script).filter (·.event.concerns "x"))
        (trace left) ∧
      SameOn "x" (run script).2.store (run left).2.store ∧
      (runAll false [.edit "x" .take, .declare {} "y" .null] s).2 =
        (runAll false [.declare {} "y" .null, .edit "x" .take] s).2 := by
  intro script left s
  have hs : allSeparable "x" script = true := by decide
  have hpast : trace script <+: trace script := List.prefix_refl _
  have hn : Named [.edit "x" .take, .declare {} "y" .null] := by
    simp [Named, Command.subject?, Command.handsOver]
  have hn' : Named [.declare {} "y" .null, .edit "x" .take] := by
    simp [Named, Command.subject?, Command.handsOver]
  have hdiffer : (Command.edit "x" .take).subject? ≠ (Command.declare {} "y" .null).subject? := by
    decide
  have hsame := commandsOn_swap hdiffer [] []
  obtain ⟨hmoments, _, hfinal, hreorder⟩ := names_do_not_interfere "x" hs
  exact ⟨hs, rfl, hmoments, hfinal, (hreorder hpast _ _ hn hn' hsame).1⟩

end LexicalScope.Script
