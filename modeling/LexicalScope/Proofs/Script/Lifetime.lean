import LexicalScope.Proofs.Script.Block
import LexicalScope.Proofs.Script.Failure
import LexicalScope.Proofs.Script.Invariant
import Mathlib.Data.List.Dedup

/-!
# The lifetime of a scope

A scope that is entered and later closed hands its frame back. What is in it is told from the
moments between: the names are those that were declared while it was innermost, and a value is the
one that was put there last, be it by a declaration or by a write from further in.

* `Lifetime` — a scope of a run, from the moment that enters it to the one that closes it
* `Moment.declared?`, `declaredNames` — what is declared in the frame at a depth
* `Moment.put?`, `lastPut` — what is declared there or written there
* `valueAt_put`, `isSome_valueAt_declared` — the frame along a path that does not close it
* `closed_frame` — the names and the values that are handed back
-/

namespace LexicalScope.Script

/-! ## Declarations and writes at a depth -/

/-- The name and the value that the moment declares in the frame at depth `k`, which has to be the
innermost. A declaration that fails declares nothing. -/
def Moment.declared? (k : Nat) (m : Moment) : Option (String × Json) :=
  match m.event with
  | .does c a =>
    if m.before.store.depth = k + 1 ∧ a.isFailure = false then c.declares? m.before.store else none
  | _ => none

/-- The names that are declared in the frame at depth `k`, in the order of their declarations. -/
def declaredNames (k : Nat) (ms : List Moment) : List String :=
  (ms.filterMap (·.declared? k)).map (·.1)

/-- The value that the moment declares for `name` in the frame at depth `k`, or else writes to the
binding of `name` there. -/
def Moment.put? (k : Nat) (name : String) (m : Moment) : Option Json :=
  match m.declared? k with
  | some (n, v) => if n = name then some v else none
  | none => m.write? k name

/-- The value that is put last, if one is. -/
def lastPut (k : Nat) (name : String) (ms : List Moment) : Option Json :=
  (ms.filterMap (·.put? k name)).getLast?

theorem declared?_does (k : Nat) (c : Command) (a : Answer) (s s' : State) :
    Moment.declared? k ⟨s, .does c a, s'⟩ =
      if s.store.depth = k + 1 ∧ a.isFailure = false then c.declares? s.store else none := rfl

/-- The last value put is that of the rest, if the rest puts one, and else that of the moment. -/
theorem lastPut_cons (k : Nat) (name : String) (m : Moment) (rest : List Moment) :
    lastPut k name (m :: rest) = (lastPut k name rest).or (m.put? k name) :=
  getLast?_filterMap_cons (Moment.put? k name) m rest

theorem mem_declaredNames_cons {k : Nat} {name : String} {m : Moment} {rest : List Moment} :
    name ∈ declaredNames k (m :: rest) ↔
      (∃ v, m.declared? k = some (name, v)) ∨ name ∈ declaredNames k rest := by
  unfold declaredNames
  rw [List.filterMap_cons]
  cases m.declared? k with
  | none => simp
  | some e =>
    obtain ⟨n, v⟩ := e
    simp [eq_comm]

/-- A write is made where there is a binding. -/
theorem isSome_valueAt_of_write? {k : Nat} {name : String} {m : Moment} {v : Json}
    (h : m.write? k name = some v) : (m.before.store.valueAt k name).isSome = true := by
  unfold Moment.write? at h
  split at h
  · split at h
    · split at h
      · next hcond => exact (Table.resolveDepth?_eq_some_iff.mp hcond.2).1
      · cases h
    · cases h
  · cases h

/-- A moment puts a value if it declares the name, and else only where there is a binding. -/
theorem isSome_put?_or_iff (k : Nat) (name : String) (m : Moment) :
    ((m.put? k name).or (m.before.store.valueAt k name)).isSome = true ↔
      (∃ v, m.declared? k = some (name, v)) ∨
        (m.before.store.valueAt k name).isSome = true := by
  unfold Moment.put?
  cases m.declared? k with
  | some e =>
    obtain ⟨n, v⟩ := e
    by_cases hn : n = name
    · simp [hn]
    · simp [hn]
  | none =>
    cases hw : m.write? k name with
    | none => simp
    | some v => simp [isSome_valueAt_of_write? hw]

/-! ## One moment -/

/-- A command that wants to declare a name wants to write none that is bound. -/
theorem missesAt_of_declares? {c : Command} {t : Store} {name : String} {v : Json}
    (h : c.declares? t = some (name, v)) : c.MissesAt t := by
  cases c with
  | declare manner n w => exact missesAt_of_eq_none rfl
  | declareValue n d => exact missesAt_of_eq_none rfl
  | updateOrDeclare n w =>
    rw [Command.declares?] at h
    split at h
    · cases h
    · next hc =>
      have hnone := Table.contains_eq_false_iff.mp ((Bool.not_eq_true _).mp hc)
      exact missesAt_updateOrDeclare w hnone
  | _ => cases h

/-- **A command that wants to declare a name declares it,** or else it fails and leaves the store as
it was. -/
theorem run_cases_of_declares? {c : Command} {s : State} (hr : c.replacement? s = none)
    {name : String} {v : Json} (h : c.declares? s.store = some (name, v)) :
    (∃ t, s.store.declare name v = .ok t ∧ (c.run s).2.store = t ∧
        (c.run s).1.isFailure = false) ∨
      ((c.run s).2.store = s.store ∧ (c.run s).1.isFailure = true) := by
  cases c with
  | declare manner n w =>
    cases h
    exact run_declare_cases hr
  | declareValue n d =>
    rw [Command.declares?] at h
    cases hd : d.toJson with
    | error e => simp [Store.convert, hd] at h
    | ok w =>
      have hw : some (n, w) = some (name, v) := by simpa [Store.convert, hd] using h
      cases hw
      rw [(run_declareValue s name).1 v hd]
      refine run_declare_cases ?_
      rw [Command.replacement?]
      split <;> rfl
  | updateOrDeclare n w =>
    rw [Command.declares?] at h
    split at h
    · cases h
    · next hc =>
      cases h
      have hnone := Table.contains_eq_false_iff.mp ((Bool.not_eq_true _).mp hc)
      rw [Command.run, Table.updateOrDeclare, Table.rebind?_eq_none_iff.mpr hnone]
      dsimp only
      cases hd : s.store.declare name v with
      | ok t => exact Or.inl ⟨t, rfl, rfl, rfl⟩
      | error e => exact Or.inr ⟨rfl, by cases e <;> rfl⟩
  | _ => cases h

/-- What a command that wants to declare a name does to the frame at a depth. -/
theorem valueAt_run_of_declares? {c : Command} {s : State} (hr : c.replacement? s = none)
    {n : String} {v : Json} (h : c.declares? s.store = some (n, v)) (k : Nat) (name : String) :
    (c.run s).2.store.valueAt k name =
      (Moment.put? k name ⟨s, .does c (c.run s).1, (c.run s).2⟩).or (s.store.valueAt k name) := by
  have hwrite : Moment.write? k name ⟨s, .does c (c.run s).1, (c.run s).2⟩ = none :=
    write?_of_missesAt (missesAt_of_declares? h) k name
  rcases run_cases_of_declares? hr h with ⟨t, ht, hstore, hfails⟩ | ⟨hstore, hfails⟩
  · have hdeclared : Moment.declared? k ⟨s, .does c (c.run s).1, (c.run s).2⟩ =
        if s.store.depth = k + 1 then some (n, v) else none := by
      simp [declared?_does, h, hfails]
    rw [Moment.put?, hdeclared, hwrite, hstore, Table.valueAt_declare ht]
    by_cases hk : s.store.depth = k + 1
    · by_cases hn : n = name
      · simp [hk, hn]
      · simp [hk, hn, Ne.symm hn]
    · simp [hk, Ne.symm hk]
  · simp [Moment.put?, declared?_does, hwrite, hstore, hfails]

/-- What any other command does to it. -/
theorem valueAt_effect {c : Command} {s s' : State} {a : Answer} {t : Store}
    (he : Effect c s.store t) (h : c.declares? s.store = none) {k : Nat} (hk : k < t.depth)
    (name : String) :
    t.valueAt k name =
      (Moment.write? k name ⟨s, .does c a, s'⟩).or (s.store.valueAt k name) := by
  cases he with
  | stays hw => rw [write?_of_missesAt hw, Option.none_or]
  | enters hc =>
    subst hc
    rw [write?_of_missesAt (missesAt_of_eq_none rfl), Option.none_or, Table.valueAt_enterScope]
  | exits hc hexit =>
    subst hc
    rw [write?_of_missesAt (missesAt_of_eq_none rfl), Option.none_or,
      Table.valueAt_exitScope hexit, if_pos hk]
  | declares _ _ hc =>
    rw [h] at hc
    cases hc
  | rebinds hrebind hw =>
    rw [write?_of_eq_some hw]
    exact Table.valueAt_rebind?_or hrebind k name

section Frames

variable {p q : Place} {m : Moment} {ms : List Moment} {k : Nat}

/-- **A moment that does not close the frame at a depth** gives a name there the value that it puts,
or else leaves the one it has. -/
theorem valueAt_put_step (hs : Step p m q) (hk : m.event.keepsTable = true)
    (hp : k < p.state.store.depth) (hq : k < q.state.store.depth) (name : String) :
    q.state.store.valueAt k name = (m.put? k name).or (p.state.store.valueAt k name) := by
  cases hs with
  | @does c hb s floors =>
    have hr : c.replacement? s = none := replacement?_eq_none hk (Nat.zero_lt_of_lt hp)
    cases h : c.declares? s.store with
    | some e => exact valueAt_run_of_declares? hr h k name
    | none =>
      rw [Moment.put?, declared?_does, h, ite_self]
      exact valueAt_effect (effect_run hb hr) h hq name
  | opens stops body s floors => exact Table.valueAt_enterScope s.store k name
  | closes s floor floors =>
    have hlt : k < s.store.floor - 1 := by
      have hdepth : k < (s.store.closeScoped floor).depth := hq
      rw [Table.depth_closeScoped] at hdepth
      omega
    show Table.valueIn (s.store.truncate (s.store.floor - 1)) k name = _
    rw [Table.truncate_eq_outermost, Table.valueIn_outermost, if_pos hlt]
    rfl

/-- **A name has the value that was put last,** or else the one it had, as long as its frame is not
closed. -/
theorem valueAt_put (h : Path p ms q) (hk : ∀ m ∈ ms, m.event.keepsTable = true)
    (hp : k < p.state.store.depth) (hopen : ∀ m ∈ ms, k < m.after.store.depth) (name : String) :
    q.state.store.valueAt k name = (lastPut k name ms).or (p.state.store.valueAt k name) := by
  induction h with
  | nil => rfl
  | cons first later ih =>
    obtain ⟨hkfirst, hklater⟩ := List.forall_mem_cons.mp hk
    obtain ⟨hfirst, hlater⟩ := List.forall_mem_cons.mp hopen
    rw [first.after_eq] at hfirst
    rw [ih hklater hfirst hlater, valueAt_put_step first hkfirst hp hfirst, lastPut_cons,
      Option.or_assoc]

/-- **A name is bound if it was declared, or was bound before,** as long as its frame is not closed.
-/
theorem isSome_valueAt_declared (h : Path p ms q) (hk : ∀ m ∈ ms, m.event.keepsTable = true)
    (hp : k < p.state.store.depth) (hopen : ∀ m ∈ ms, k < m.after.store.depth) (name : String) :
    (q.state.store.valueAt k name).isSome = true ↔
      name ∈ declaredNames k ms ∨ (p.state.store.valueAt k name).isSome = true := by
  induction h with
  | nil => simp [declaredNames]
  | @cons p q r m rest first later ih =>
    obtain ⟨hkfirst, hklater⟩ := List.forall_mem_cons.mp hk
    obtain ⟨hfirst, hlater⟩ := List.forall_mem_cons.mp hopen
    rw [first.after_eq] at hfirst
    rw [ih hklater hfirst hlater, valueAt_put_step first hkfirst hp hfirst, ← first.before_eq,
      isSome_put?_or_iff, mem_declaredNames_cons, or_left_comm, or_assoc]

end Frames

/-! ## From entering to closing -/

/-- One scope of a run: `enter` opens it, it is open throughout `between`, and `exit` closes it and
hands its frame back. -/
structure Lifetime (script : List Command) (enter : Moment) (between : List Moment)
    (exit : Moment) (frame : Frame Json) : Prop where
  occurs : ∃ past rest, trace script = past ++ enter :: (between ++ exit :: rest)
  enters : ∃ a, enter.event = .does .enterScope a
  exits : exit.event = .does .exitScope (.closed frame)
  stays_open : ∀ m ∈ between, enter.before.store.depth < m.after.store.depth
  innermost : exit.before.store.depth = enter.before.store.depth + 1

/-- A scope was closed if a closed frame is the answer. -/
theorem exitScope_of_closed {p q : Place} {m : Moment} {frame : Frame Json} (hs : Step p m q)
    (h : m.event = .does .exitScope (.closed frame)) :
    ∃ t, p.state.store.exitScope = .ok (frame, t) := by
  cases hs with
  | opens => cases h
  | closes => cases h
  | does hb s floors =>
    obtain ⟨rfl, hanswer⟩ := Event.does.inj h
    rw [Command.run] at hanswer
    cases he : s.store.exitScope with
    | error r =>
      rw [he] at hanswer
      cases hanswer
    | ok result =>
      obtain ⟨f, t⟩ := result
      rw [he] at hanswer
      cases hanswer
      exact ⟨t, rfl⟩

theorem store_of_enters {p q : Place} {m : Moment} {a : Answer} (hs : Step p m q)
    (h : m.event = .does .enterScope a) : q.state.store = p.state.store.enterScope := by
  cases hs with
  | opens => cases h
  | closes => cases h
  | does hb s floors =>
    obtain ⟨rfl, _⟩ := Event.does.inj h
    rfl

section Run

variable {script : List Command} {enter exit : Moment} {between : List Moment}
  {frame : Frame Json}

/-- The moments of a lifetime are a path, from the new scope to the one that is closed. -/
theorem Lifetime.path (h : Lifetime script enter between exit frame) :
    ∃ p q t, Path p between q ∧ p.state.store = enter.before.store.enterScope ∧
      q.state.store.exitScope = .ok (frame, t) ∧ t.depth = enter.before.store.depth ∧
      q.state.store.Ordered := by
  obtain ⟨⟨past, rest, htrace⟩, ⟨a, henter⟩, hexit, _, hinner⟩ := h
  have hpath := path_traceAll false script .initial []
  rw [← trace, htrace] at hpath
  -- the run, cut before the scope is entered and before it is closed
  obtain ⟨before, hpast, hrun⟩ := hpath.of_append
  cases hrun with
  | @cons _ p _ _ _ first hlater =>
    obtain ⟨q, hbetween, hend⟩ := hlater.of_append
    cases hend with
    | cons last _ =>
      obtain ⟨t, hclosed⟩ := exitScope_of_closed last hexit
      have hprefix : past ++ enter :: between <+: trace script :=
        ⟨exit :: rest, by rw [htrace, List.append_assoc, List.cons_append]⟩
      have hordered : q.state.store.Ordered := by
        rw [(hpast.append (.cons first hbetween)).state_eq]
        exact ordered_stateAfter hprefix
      refine ⟨p, q, t, hbetween, ?_, hclosed, ?_, hordered⟩
      · rw [store_of_enters first henter, first.before_eq]
      · have hpop := depth_exitScope hclosed
        rw [last.before_eq] at hinner
        omega

/-- Commands that keep the table keep it throughout the life of a frame. -/
theorem Lifetime.keeps (h : Lifetime script enter between exit frame)
    (hk : allKeep script = true) : ∀ m ∈ between, m.event.keepsTable = true := by
  obtain ⟨past, rest, htrace⟩ := h.occurs
  intro m hm
  refine keepsTable_of_mem_traceAll false hk .initial m ?_
  rw [← trace, htrace]
  simp [hm]

/-- **What a scope hands back when it is closed.** Its frame binds the names that were declared in
it while it was innermost, each once, with the values that were put there last: by such a
declaration, or by a write to a name that resolved to this frame then, from further in too. -/
theorem closed_frame (hk : allKeep script = true)
    (h : Lifetime script enter between exit frame) :
    (∀ name, frame.contains name = true ↔
        name ∈ declaredNames enter.before.store.depth between) ∧
      frame.keys.Nodup ∧
      frame.size = (declaredNames enter.before.store.depth between).dedup.length ∧
      ∀ name, frame.get? name = lastPut enter.before.store.depth name between := by
  obtain ⟨p, q, t, hpath, hentered, hclosed, hdepth, hordered⟩ := h.path
  have hkeep := h.keeps hk
  have hfirst : enter.before.store.depth < p.state.store.depth := by
    rw [hentered, Table.depth_enterScope]
    exact Nat.lt_succ_self _
  -- the scope starts with nothing in it
  have hstart : ∀ name, p.state.store.valueAt enter.before.store.depth name = none := fun name => by
    rw [hentered, Table.valueAt_enterScope]
    exact Table.valueIn_eq_none_of_length_le (Nat.le_refl _) name
  have hget : ∀ name, frame.get? name = q.state.store.valueAt enter.before.store.depth name :=
    fun name => by rw [Table.get?_of_exitScope hclosed, hdepth]
  have hcontains : ∀ name, frame.contains name = true ↔
      name ∈ declaredNames enter.before.store.depth between := fun name => by
    rw [Dict.contains, hget, isSome_valueAt_declared hpath hkeep hfirst h.stays_open, hstart]
    exact or_iff_left Bool.false_ne_true
  have hnodup : frame.keys.Nodup := by
    refine Dict.nodup_keys (hordered frame ?_)
    rw [(Table.exitScope_eq_ok_iff.mp hclosed).1]
    exact List.mem_cons_self
  refine ⟨hcontains, hnodup, ?_, fun name => ?_⟩
  · -- two lists of the same names, each of them once
    have hperm : frame.keys.Perm (declaredNames enter.before.store.depth between).dedup :=
      (List.perm_ext_iff_of_nodup hnodup (List.nodup_dedup _)).mpr fun name => by
        rw [List.mem_dedup, ← hcontains]
        exact Dict.mem_keys_iff
    rw [← hperm.length_eq, Dict.keys, List.length_map]
    rfl
  · rw [hget, valueAt_put hpath hkeep hfirst h.stays_open, hstart, Option.or_none]

end Run

/-- A name that is declared twice, then written from further in, where another write is held up by
a declaration, and last from a block; and a name that is declared because no frame binds it. -/
theorem closed_frame_shadowing :
    let script : List Command :=
      [.declare {} "x" .null, .enterScope, .declare {} "x" .null, .declare {} "x" (.bool true),
        .enterScope, .update "x" .null, .declare {} "x" .null, .update "x" (.bool true), .exitScope,
        .block false [.updateOrDeclare "y" .null, .edit "x" (.set (.bool false))],
        .updateOrDeclare "y" (.bool true), .exitScope]
    ∃ enter between exit frame, Lifetime script enter between exit frame ∧ frame.size = 2 ∧
      frame.get? "x" = some (.bool false) ∧ frame.get? "y" = some (.bool true) := by
  intro script
  have hlife : Lifetime script ((trace script).get ⟨1, Nat.lt_of_sub_eq_succ rfl⟩)
      (((trace script).drop 2).take 12) ((trace script).get ⟨14, Nat.lt_of_sub_eq_succ rfl⟩)
      ⟨[("x", .bool false), ("y", .bool true)]⟩ :=
    ⟨⟨(trace script).take 1, [], rfl⟩, ⟨_, rfl⟩, rfl, by decide, rfl⟩
  obtain ⟨_, _, hsize, hget⟩ := closed_frame rfl hlife
  exact ⟨_, _, _, _, hlife, hsize.trans rfl, (hget "x").trans rfl, (hget "y").trans rfl⟩

end LexicalScope.Script
