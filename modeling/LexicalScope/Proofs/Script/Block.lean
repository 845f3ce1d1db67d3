import LexicalScope.Proofs.Script.Effect

/-!
# What a block changes outside itself

A block leaves the frames that it found where they are. Their values can change, but only through
writes, and each write goes to the depth that its name resolves to when it is made.

* `Moment.write?`, `lastWrite` — the writes that reach a name at a depth
* `truncate_step` — a moment leaves the outer frames as they are, or rebinds a name
* `valueAt_path`, `keys_path` — the outer frames along a path
* `run_block_outer` — the depth, the floor, the names and the values of the outer frames
-/

namespace LexicalScope.Script

/-- The value that the moment writes to the binding of `name` at depth `i`. -/
def Moment.write? (i : Nat) (name : String) (m : Moment) : Option Json :=
  match m.event with
  | .does c _ =>
    match c.write? m.before.store with
    | some (n, v) =>
      if n = name ∧ m.before.store.resolveDepth? name = some i then some v else none
    | none => none
  | _ => none

/-- The value that is written last to the binding of `name` at depth `i`, if one is written. -/
def lastWrite (i : Nat) (name : String) (ms : List Moment) : Option Json :=
  (ms.filterMap (·.write? i name)).getLast?

/-- What comes last comes in the rest, or else at the head. -/
theorem getLast?_filterMap_cons {α β : Type} (f : α → Option β) (a : α) (rest : List α) :
    ((a :: rest).filterMap f).getLast? = ((rest.filterMap f).getLast?).or (f a) := by
  rw [List.filterMap_cons]
  cases f a with
  | none => rw [Option.or_none]
  | some b =>
    dsimp only
    rw [List.getLast?_cons]
    cases (rest.filterMap f).getLast? <;> rfl

theorem lastWrite_cons (i : Nat) (name : String) (m : Moment) (rest : List Moment) :
    lastWrite i name (m :: rest) = (lastWrite i name rest).or (m.write? i name) :=
  getLast?_filterMap_cons (Moment.write? i name) m rest

/-! ## One moment -/

theorem write?_of_missesAt {c : Command} {s s' : State} {a : Answer} (h : c.MissesAt s.store)
    (i : Nat) (name : String) : Moment.write? i name ⟨s, .does c a, s'⟩ = none := by
  unfold Moment.write?
  dsimp only
  split
  · next n v hw =>
    refine if_neg ?_
    rintro ⟨rfl, hres⟩
    rw [Table.resolveDepth?_eq_none_iff.mpr (h n v hw)] at hres
    cases hres
  · rfl

/-- A command that writes a name writes where the name is bound. -/
theorem write?_of_eq_some {c : Command} {s s' : State} {a : Answer} {n : String} {v : Json}
    (h : c.write? s.store = some (n, v)) (i : Nat) (name : String) :
    Moment.write? i name ⟨s, .does c a, s'⟩ =
      if n = name ∧ s.store.resolveDepth? name = some i then some v else none := by
  unfold Moment.write?
  simp only [h]

/-- A command leaves the outer frames as they are, or else it rebinds a name. -/
theorem truncate_effect {base : Nat} {c : Command} {t t' : Store} (he : Effect c t t')
    (ht : base < t.depth) (ht' : base < t'.depth) :
    (c.MissesAt t ∧ t'.truncate base = t.truncate base) ∨
      ∃ n f old, t.rebind? n f = some (old, t') ∧ c.write? t = some (n, f old) := by
  rw [Table.truncate_eq_outermost, Table.truncate_eq_outermost]
  cases he with
  | stays hw => exact Or.inl ⟨hw, rfl⟩
  | enters hc =>
    subst hc
    exact Or.inl ⟨missesAt_of_eq_none rfl, Table.outermost_cons (Nat.le_of_lt ht) _⟩
  | exits hc h =>
    subst hc
    obtain ⟨hf, _, _⟩ := Table.exitScope_eq_ok_iff.mp h
    rw [hf, Table.outermost_cons (Nat.le_of_lt ht')]
    exact Or.inl ⟨missesAt_of_eq_none rfl, rfl⟩
  | declares h hw =>
    obtain ⟨_, frame, rest, hf, rfl⟩ := Table.declare_eq_ok_iff.mp h
    rw [Table.depth, hf, List.length_cons] at ht
    have hbase := Nat.le_of_lt_succ ht
    rw [hf, Table.outermost_cons hbase, Table.outermost_cons hbase]
    exact Or.inl ⟨hw, rfl⟩
  | rebinds h hw => exact Or.inr ⟨_, _, _, h, hw⟩

/-- **A moment leaves the outer frames as they are,** or else it rebinds a name, and that is its
write. -/
theorem truncate_step {base : Nat} {p q : Place} {m : Moment} (hp : p.Sound base)
    (hs : Step p m q) (hk : m.event.keepsTable = true) :
    ((∀ i name, m.write? i name = none) ∧
        q.state.store.truncate base = p.state.store.truncate base) ∨
      ∃ n f old, p.state.store.rebind? n f = some (old, q.state.store) ∧
        ∀ i name, m.write? i name =
          if n = name ∧ p.state.store.resolveDepth? name = some i then some (f old) else none := by
  have hq := hp.step hs hk
  have hdepth := hp.base_lt_depth
  have hfloor := hp.base_lt_floor
  cases hs with
  | does hb s floors =>
    have he := effect_run hb (replacement?_eq_none hk (Nat.zero_lt_of_lt hdepth))
    rcases truncate_effect he hdepth hq.base_lt_depth with ⟨hmiss, htrunc⟩ | ⟨n, f, old, h, hw⟩
    · exact Or.inl ⟨write?_of_missesAt hmiss, htrunc⟩
    · exact Or.inr ⟨n, f, old, h, write?_of_eq_some hw⟩
  | opens stops body s floors =>
    exact Or.inl ⟨fun _ _ => rfl, Table.outermost_cons (Nat.le_of_lt hdepth) _⟩
  | closes s floor floors =>
    exact Or.inl ⟨fun _ _ => rfl, Table.outermost_outermost (Nat.le_sub_one_of_lt hfloor) _⟩

section Outer

variable {base : Nat} {p q : Place} {m : Moment} {ms : List Moment}

/-- What one step does below the base: a write there is the new value, and all else stays. -/
theorem valueAt_step (hp : p.Sound base) (hs : Step p m q) (hk : m.event.keepsTable = true)
    {i : Nat} (hi : i < base) (name : String) :
    q.state.store.valueAt i name = (m.write? i name).or (p.state.store.valueAt i name) := by
  rcases truncate_step hp hs hk with ⟨hw, htrunc⟩ | ⟨n, f, old, h, hw⟩
  · rw [hw, Option.none_or]
    exact Table.valueAt_of_truncate_eq htrunc hi name
  · rw [hw]
    exact Table.valueAt_rebind?_or h i name

/-- No step adds or removes a name below the base. -/
theorem keys_step (hp : p.Sound base) (hs : Step p m q) (hk : m.event.keepsTable = true) :
    (q.state.store.truncate base).map Dict.keys = (p.state.store.truncate base).map Dict.keys := by
  rcases truncate_step hp hs hk with ⟨_, htrunc⟩ | ⟨n, f, old, h, _⟩
  · rw [htrunc]
  · have hdepth := depth_rebind? h
    rw [Table.truncate, Table.truncate, List.map_drop, List.map_drop, Table.keys_rebind? h, hdepth]

/-- **Along a path an outer binding has the value written to it last,** or else the one it had. -/
theorem valueAt_path (h : Path p ms q) (hp : p.Sound base)
    (hk : ∀ m ∈ ms, m.event.keepsTable = true) {i : Nat} (hi : i < base) (name : String) :
    q.state.store.valueAt i name = (lastWrite i name ms).or (p.state.store.valueAt i name) := by
  induction h with
  | nil => rfl
  | cons first later ih =>
    have hfirst := hk _ List.mem_cons_self
    -- a later write counts before the first, and any write before the value of old
    rw [ih (hp.step first hfirst) fun m hm => hk m (List.mem_cons_of_mem _ hm),
      valueAt_step hp first hfirst hi, lastWrite_cons, Option.or_assoc]

/-- Along a path no name comes or goes in an outer frame. -/
theorem keys_path (h : Path p ms q) (hp : p.Sound base)
    (hk : ∀ m ∈ ms, m.event.keepsTable = true) :
    (q.state.store.truncate base).map Dict.keys = (p.state.store.truncate base).map Dict.keys := by
  induction h with
  | nil => rfl
  | cons first later ih =>
    have hfirst := hk _ List.mem_cons_self
    rw [ih (hp.step first hfirst) fun m hm => hk m (List.mem_cons_of_mem _ hm),
      keys_step hp first hfirst]

end Outer

/-! ## Declarations -/

/-- The moment declares a name, where no write could have been made in its place. -/
def Moment.isDeclaration (m : Moment) : Bool :=
  match m.event with
  | .does (.declare _ _ _) _ => true
  | .does (.declareValue _ _) _ => true
  | .does (.updateOrDeclare name _) _ => !m.before.store.contains name
  | _ => false

/-- What declares a name makes no write. -/
theorem missesAt_of_isDeclaration {c : Command} {s s' : State} {a : Answer}
    (h : Moment.isDeclaration ⟨s, .does c a, s'⟩ = true) : c.MissesAt s.store := by
  cases c with
  | declare manner name v => exact missesAt_of_eq_none rfl
  | declareValue name d => exact missesAt_of_eq_none rfl
  | updateOrDeclare name v =>
    have hnone : s.store.contains name = false := by simpa [Moment.isDeclaration] using h
    exact missesAt_updateOrDeclare v (Table.contains_eq_false_iff.mp hnone)
  | _ => cases h

/-- What declares a name leaves the frames below the base as they are. -/
theorem truncate_of_isDeclaration {base : Nat} {p q : Place} {m : Moment} (hp : p.Sound base)
    (hs : Step p m q) (hk : m.event.keepsTable = true) (hd : m.isDeclaration = true) :
    m.after.store.truncate base = m.before.store.truncate base := by
  have hq := hp.step hs hk
  have hdepth := hp.base_lt_depth
  cases hs with
  | opens => cases hd
  | closes => cases hd
  | does hb s floors =>
    have hmiss := missesAt_of_isDeclaration hd
    have he := effect_run hb (replacement?_eq_none hk (Nat.zero_lt_of_lt hdepth))
    rcases truncate_effect he hdepth hq.base_lt_depth with ⟨_, htrunc⟩ | ⟨n, f, old, h, hw⟩
    · exact htrunc
    · -- what was rebound was bound, and then the command would not have declared it
      rw [Table.rebind?_eq_none_iff.mpr (hmiss n (f old) hw)] at h
      cases h

/-! ## The whole block -/

/-- **What a block changes outside itself.** The depth and the floor are those of before, each outer
frame binds the names that it bound, and its values are those that were written to them last. A
declaration in the body changes no outer frame. -/
theorem run_block_outer (stops : Bool) (body : List Command) (s : State)
    (h : allKeep body = true) :
    ((Command.block stops body).run s).2.store.depth = s.store.depth ∧
      ((Command.block stops body).run s).2.store.floor = s.store.floor ∧
      ((Command.block stops body).run s).2.store.frames.map Dict.keys =
        s.store.frames.map Dict.keys ∧
      (∀ i name, i < s.store.depth →
        ((Command.block stops body).run s).2.store.valueAt i name =
          (lastWrite i name (traceAll stops body s.openBlock)).or (s.store.valueAt i name)) ∧
      ∀ m ∈ traceAll stops body s.openBlock, m.isDeclaration = true →
        m.after.store.truncate s.store.depth = m.before.store.truncate s.store.depth := by
  have hpath := path_traceAll stops body s.openBlock []
  have hkeep := keepsTable_of_mem_traceAll stops h s.openBlock
  have hopen := Place.Sound.openBlock s
  have hframes : ((Command.block stops body).run s).2.store.frames =
      (runAll stops body s.openBlock).2.store.truncate s.store.depth :=
    congrArg (·.frames) (store_run_block stops s h)
  -- the frame of the block itself is none of the outer ones
  have hstart : s.openBlock.store.truncate s.store.depth = s.store.frames := by
    show Table.outermost s.store.frames.length (∅ :: s.store.frames) = _
    rw [Table.outermost_cons (Nat.le_refl _), Table.outermost_of_length_le (Nat.le_refl _)]
  refine ⟨depth_store_run_block stops s h, rfl, ?_, ?_, ?_⟩
  · rw [hframes, keys_path hpath hopen hkeep, hstart]
  · intro i name hi
    rw [Table.valueAt, hframes, Table.truncate_eq_outermost, Table.valueIn_outermost, if_pos hi]
    refine (valueAt_path hpath hopen hkeep hi name).trans ?_
    exact congrArg _ (Table.valueAt_enterScope s.store i name)
  · intro m hm hd
    obtain ⟨past, q, q', hpast, hq, hstep⟩ := hpath.of_mem hm
    have hsound := hopen.path hq fun m hm => hkeep m (hpast.subset hm)
    exact truncate_of_isDeclaration hsound hstep (hkeep m hm) hd

/-- A write from within the block reaches the root, and one behind a declaration of its name does
not. -/
theorem run_block_outer_shadowing :
    let s : State := ⟨⟨[⟨[("x", .null)]⟩], 1⟩, ∅⟩
    let body : List Command :=
      [.update "x" (.bool true), .enterScope, .declare {} "x" .null,
        .block true [.update "x" (.bool false), .exitScope, .update "x" .null], .exitScope,
        .exitScope]
    allKeep body = true ∧
      ((Command.block false body).run s).2.store.valueAt 0 "x" = some (.bool true) := by
  intro s body
  have hk : allKeep body = true := rfl
  obtain ⟨_, _, _, hval, _⟩ := run_block_outer false body s hk
  refine ⟨hk, ?_⟩
  rw [hval 0 "x" (by decide)]
  have hw : lastWrite 0 "x" (traceAll false body s.openBlock) = some (.bool true) := rfl
  rw [hw]
  rfl

end LexicalScope.Script
