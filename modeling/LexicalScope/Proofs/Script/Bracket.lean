import LexicalScope.Proofs.Script.Failure
import LexicalScope.Proofs.Script.Nesting

/-!
# Blocks and brackets

A block can be written by hand: a scope is entered, the commands run, and scopes are closed until
the depth is what it was. The commands see another floor then, the one of before and not that of the
block. They cannot tell the two apart, but for an `exitScope` that the block refuses.

* `Command.comparesCopies` — commands that can see the floor in another way
* `Table.withFloor`, `Command.run_withFloor` — one command under two floors
* `runAll_withFloor` — a script under two floors, of which the higher refuses no `exitScope`
* `exitTo`, `runAll_exits` — the scopes above a depth closed one by one are cut off
* `Bracketed`, `bracketed_iff` — a block is its bracket exactly if the floor is no higher than the
  depth
-/

namespace LexicalScope

namespace Table

variable {V : Type}

/-- The table with another floor. -/
def withFloor (t : Table V) (floor : Nat) : Table V := { t with floor := floor }

theorem declare_withFloor (t : Table V) (floor : Nat) (name : String) (v : V) :
    (t.withFloor floor).declare name v =
      (t.declare name v).map fun t' => t'.withFloor floor := by
  obtain ⟨frames, floor'⟩ := t
  unfold declare
  by_cases hv : ValidName name
  · rw [if_pos hv, if_pos hv]
    cases frames <;> rfl
  · rw [if_neg hv, if_neg hv]
    rfl

theorem rebind?_withFloor (t : Table V) (floor : Nat) (name : String) (f : V → V) :
    (t.withFloor floor).rebind? name f =
      (t.rebind? name f).map fun r => (r.1, r.2.withFloor floor) := by
  unfold rebind? withFloor
  rw [Option.map_map]
  rfl

/-- The scope of a block is opened with a floor of its own. -/
theorem openScoped_withFloor (t : Table V) (floor : Nat) :
    (t.withFloor floor).openScoped = t.openScoped := rfl

/-- A scope that can be closed over a floor can be closed over any that is not higher. -/
theorem exitScope_withFloor {t t' : Table V} {frame : Frame V}
    (h : t.exitScope = .ok (frame, t')) {floor : Nat} (hle : floor ≤ t.floor) :
    (t.withFloor floor).exitScope = .ok (frame, t'.withFloor floor) := by
  obtain ⟨hf, hlt, _⟩ := exitScope_eq_ok_iff.mp h
  exact exitScope_eq_ok_iff.mpr ⟨hf, Nat.lt_of_le_of_lt hle hlt, rfl⟩

end Table

namespace Script

/-! ## Commands that see the floor -/

mutual

/-- The command compares the table with a copy, and so their floors, or else a command in its body
does. -/
def Command.comparesCopies : Command → Bool
  | .equals _ => true
  | .block _ body => anyCompares body
  | _ => false
termination_by structural c => c

/-- Some command compares the table with a copy. -/
def anyCompares : List Command → Bool
  | [] => false
  | c :: rest => c.comparesCopies || anyCompares rest
termination_by structural script => script

end

/-- The command does with another floor, and with other copies, what it does without. -/
def SameWithFloor (c : Command) (s : State) (floor : Nat) (s' : State) : Prop :=
  (c.run s').1 = (c.run s).1 ∧ (c.run s').2.store = (c.run s).2.store.withFloor floor

section Floors

variable {base : Nat} {s s' : State} {floor : Nat}

theorem sameWithFloor_declare {manner : Manner} {name : String} {v : Json}
    (hr : (Command.declare manner name v).replacement? s = none)
    (h : s'.store = s.store.withFloor floor) :
    SameWithFloor (.declare manner name v) s floor s' := by
  rw [Command.replacement?] at hr
  unfold SameWithFloor
  rw [Command.run, Command.run, declare, declare, h, Table.declare_withFloor]
  cases hd : s.store.declare name v with
  | ok t => exact ⟨rfl, rfl⟩
  | error e =>
    rw [hd] at hr
    dsimp only [Except.map] at hr ⊢
    -- a table that was given away would have been replaced
    split at hr
    · cases hr
    · next hm =>
      rw [if_neg hm, if_neg hm]
      exact ⟨rfl, h⟩

theorem sameWithFloor_update (name : String) (v : Json) (h : s'.store = s.store.withFloor floor) :
    SameWithFloor (.update name v) s floor s' := by
  unfold SameWithFloor
  rw [Command.run, Command.run, Table.update, Table.update, h, Table.rebind?_withFloor]
  cases s.store.rebind? name fun _ => v with
  | some result => exact ⟨rfl, rfl⟩
  | none => exact ⟨rfl, h⟩

theorem sameWithFloor_updateOrDeclare (name : String) (v : Json)
    (h : s'.store = s.store.withFloor floor) :
    SameWithFloor (.updateOrDeclare name v) s floor s' := by
  unfold SameWithFloor
  rw [Command.run, Command.run, Table.updateOrDeclare, Table.updateOrDeclare, h,
    Table.rebind?_withFloor]
  cases s.store.rebind? name fun _ => v with
  | some result => exact ⟨rfl, rfl⟩
  | none =>
    dsimp only [Option.map_none]
    rw [Table.declare_withFloor]
    cases s.store.declare name v with
    | ok t => exact ⟨rfl, rfl⟩
    | error e => exact ⟨rfl, h⟩

/-- A command that converts its value first does what another does, or nothing. -/
theorem SameWithFloor.of_converted {c : Command} {plain : Json → Command} {d : Datum}
    (hrun : ∀ s : State, (∀ v, d.toJson = .ok v → c.run s = (plain v).run s) ∧
      ∀ e, d.toJson = .error e → c.run s = (.refused (.unconvertible e.message), s))
    (hplain : ∀ v, SameWithFloor (plain v) s floor s') (h : s'.store = s.store.withFloor floor) :
    SameWithFloor c s floor s' := by
  obtain ⟨hok, herror⟩ := hrun s
  obtain ⟨hok', herror'⟩ := hrun s'
  unfold SameWithFloor
  cases hd : d.toJson with
  | ok v =>
    rw [hok v hd, hok' v hd]
    exact hplain v
  | error e =>
    rw [herror e hd, herror' e hd]
    exact ⟨rfl, h⟩

/-- A scope is closed under the other floor as well if that is the same or lower, and the scope
could be closed under the floor itself. -/
theorem sameWithFloor_exitScope (h : s'.store = s.store.withFloor floor)
    (hle : floor = s.store.floor ∨ floor ≤ s.store.floor ∧ s.store.floor < s.store.depth) :
    SameWithFloor .exitScope s floor s' := by
  unfold SameWithFloor
  rw [Command.run, Command.run, h]
  cases he : s.store.exitScope with
  | ok result =>
    obtain ⟨frame, t⟩ := result
    have hfloor : floor ≤ s.store.floor := by
      rcases hle with rfl | ⟨hle, _⟩
      · exact Nat.le_refl _
      · exact hle
    rw [Table.exitScope_withFloor he hfloor]
    exact ⟨rfl, rfl⟩
  | error r =>
    rcases hle with rfl | ⟨_, hlt⟩
    · have hself : (s.store.withFloor s.store.floor).exitScope = .error r := he
      rw [hself]
      exact ⟨rfl, h⟩
    · exact absurd (Table.exitScope_eq_error_iff.mp he).1 (Nat.not_le.mpr hlt)

/-- **A command that is no block does the same under another floor,** where that floor lets it close
the scope that it closes. -/
theorem sameWithFloor_of_isBlock_eq_false {c : Command} (hb : c.isBlock = false)
    (hk : c.keepsTable = true) (hc : c.comparesCopies = false) (hd : 0 < s.store.depth)
    (h : s'.store = s.store.withFloor floor)
    (hexit : c = .exitScope →
      floor = s.store.floor ∨ floor ≤ s.store.floor ∧ s.store.floor < s.store.depth) :
    SameWithFloor c s floor s' := by
  have hdeclare : ∀ name v, SameWithFloor (.declare {} name v) s floor s' := fun name v =>
    sameWithFloor_declare (replacement?_eq_none rfl hd) h
  cases c with
  | exitScope => exact sameWithFloor_exitScope h (hexit rfl)
  | declare manner name v => exact sameWithFloor_declare (replacement?_eq_none hk hd) h
  | update name v => exact sameWithFloor_update name v h
  | updateOrDeclare name v => exact sameWithFloor_updateOrDeclare name v h
  | declareValue name d =>
    exact .of_converted (fun s => run_declareValue s name) (fun v => hdeclare name v) h
  | updateValue name d =>
    exact .of_converted (fun s => run_updateValue s name)
      (fun v => sameWithFloor_update name v h) h
  | edit name e =>
    unfold SameWithFloor
    rw [Command.run, Command.run, h, Table.rebind?_withFloor]
    cases s.store.rebind? name e.apply with
    | some result => exact ⟨rfl, rfl⟩
    | none => exact ⟨rfl, h⟩
  | lookup name =>
    unfold SameWithFloor
    have hlookup : (s.store.withFloor floor).lookup name = s.store.lookup name := rfl
    rw [Command.run, Command.run, h, hlookup]
    cases s.store.lookup name <;> exact ⟨rfl, h⟩
  | enterScope => exact ⟨rfl, congrArg Table.enterScope h⟩
  | save slot => exact ⟨rfl, h⟩
  | restore slot => cases hk
  | reset => cases hk
  | equals slot => cases hc
  | block stops body => cases hb
  | _ =>
    unfold SameWithFloor
    rw [Command.run, Command.run, h]
    exact ⟨rfl, h⟩

end Floors

/-! ## Scripts under two floors -/

theorem Place.Sound.run {base : Nat} {s : State} (h : Place.Sound base ⟨s, []⟩) {c : Command}
    (hk : c.keepsTable = true) : Place.Sound base ⟨(c.run s).2, []⟩ :=
  h.path (c.path_trace s []) (Command.keepsTable_of_mem_trace hk s)

/-- A command that keeps the table leaves the floor that it found. -/
theorem Place.Sound.floor_run {base : Nat} {s : State} (h : Place.Sound base ⟨s, []⟩) {c : Command}
    (hk : c.keepsTable = true) : (c.run s).2.store.floor = s.store.floor :=
  ((h.run hk).floor_eq_of_floors_eq_nil rfl).trans (h.floor_eq_of_floors_eq_nil rfl).symm

mutual

/-- **A command does the same under another floor,** for a block opens its scope with a floor of its
own. -/
theorem Command.run_withFloor {c : Command} {base : Nat} {s s' : State} (hk : c.keepsTable = true)
    (hc : c.comparesCopies = false) (hs : Place.Sound base ⟨s, []⟩) {floor : Nat}
    (h : s'.store = s.store.withFloor floor)
    (hexit : c = .exitScope →
      floor = s.store.floor ∨ floor ≤ s.store.floor ∧ s.store.floor < s.store.depth) :
    SameWithFloor c s floor s' := by
  cases hb : c.isBlock with
  | false =>
    exact sameWithFloor_of_isBlock_eq_false hb hk hc (Nat.zero_lt_of_lt hs.base_lt_depth) h hexit
  | true =>
    match c, hb, hk, hc with
    | .block stops body, _, hk, hc =>
      rw [Command.keepsTable] at hk
      rw [Command.comparesCopies] at hc
      have hopen : s'.openBlock.store = s.openBlock.store := by
        show s'.store.openScoped = s.store.openScoped
        rw [h, Table.openScoped_withFloor]
      obtain ⟨houtcomes, hstore⟩ := runAll_copies stops hk hc (Place.Sound.openBlock s) hopen
      have hfloor : s'.store.floor = floor := congrArg (·.floor) h
      unfold SameWithFloor
      rw [run_block, run_block, houtcomes, hfloor]
      refine ⟨rfl, ?_⟩
      show Table.closeScoped _ floor = _
      rw [hstore]
      rfl
termination_by structural c

/-- Under the same floor all is the same, whatever copies there are. -/
theorem runAll_copies (stops : Bool) {script : List Command} {base : Nat} {s s' : State}
    (hk : allKeep script = true) (hc : anyCompares script = false)
    (hs : Place.Sound base ⟨s, []⟩) (h : s'.store = s.store) :
    (runAll stops script s').1 = (runAll stops script s).1 ∧
      (runAll stops script s').2.store = (runAll stops script s).2.store := by
  match script, hk, hc with
  | [], _, _ => exact ⟨rfl, h⟩
  | c :: rest, hk, hc =>
    rw [allKeep, Bool.and_eq_true] at hk
    rw [anyCompares, Bool.or_eq_false_iff] at hc
    have hself : s'.store = s.store.withFloor s.store.floor := h
    obtain ⟨hanswer, hstore⟩ := Command.run_withFloor hk.1 hc.1 hs hself fun _ => Or.inl rfl
    have hsame : (c.run s').2.store = (c.run s).2.store := by
      rw [hstore, ← hs.floor_run hk.1]
      rfl
    rw [runAll_cons, runAll_cons, hanswer, hsame]
    by_cases hf : (stops && (c.run s).1.isFailure) = true
    · rw [if_pos hf, if_pos hf]
      exact ⟨rfl, hsame⟩
    · obtain ⟨houtcomes, hend⟩ := runAll_copies stops hk.2 hc.2 (hs.run hk.1) hsame
      rw [if_neg hf, if_neg hf]
      exact ⟨by rw [houtcomes], hend⟩
termination_by structural script

end

def Command.isExit : Command → Bool
  | .exitScope => true
  | _ => false

/-- Each `exitScope` of the script itself closes a scope. Those of its blocks are not spoken of. -/
def ExitsSucceed (stops : Bool) (script : List Command) (s : State) : Prop :=
  ∀ step ∈ script.zip (runAll stops script s).1,
    step.1.isExit = true → step.2.1.isFailure = false

instance (stops : Bool) (script : List Command) (s : State) :
    Decidable (ExitsSucceed stops script s) :=
  inferInstanceAs (Decidable (∀ step ∈ _, _))

/-- The exits of a script are that of its first command, if it is one, and those of the rest. -/
theorem ExitsSucceed.cons {stops : Bool} {c : Command} {rest : List Command} {s : State}
    (h : ExitsSucceed stops (c :: rest) s) :
    (c.isExit = true → (c.run s).1.isFailure = false) ∧
      ((stops && (c.run s).1.isFailure) ≠ true → ExitsSucceed stops rest (c.run s).2) := by
  unfold ExitsSucceed at h
  rw [runAll_cons] at h
  by_cases hf : (stops && (c.run s).1.isFailure) = true
  · rw [if_pos hf] at h
    exact ⟨h _ List.mem_cons_self, fun hc => absurd hf hc⟩
  · rw [if_neg hf] at h
    exact ⟨h _ List.mem_cons_self, fun _ step hstep => h step (List.mem_cons_of_mem _ hstep)⟩

/-- **A script does the same under a lower floor,** if the higher refuses no `exitScope` of its own.
-/
theorem runAll_withFloor (stops : Bool) {script : List Command} {base : Nat} {s s' : State}
    (hk : allKeep script = true) (hc : anyCompares script = false)
    (hs : Place.Sound base ⟨s, []⟩) {floor : Nat} (hle : floor ≤ s.store.floor)
    (h : s'.store = s.store.withFloor floor) (hexits : ExitsSucceed stops script s) :
    (runAll stops script s').1.map (·.1) = (runAll stops script s).1.map (·.1) ∧
      (runAll stops script s').2.store = (runAll stops script s).2.store.withFloor floor := by
  induction script generalizing s s' with
  | nil => exact ⟨rfl, h⟩
  | cons c rest ih =>
    rw [allKeep, Bool.and_eq_true] at hk
    rw [anyCompares, Bool.or_eq_false_iff] at hc
    obtain ⟨hhead, hrest⟩ := hexits.cons
    -- what the higher floor does not refuse, the lower does not
    have hexit : c = .exitScope →
        floor = s.store.floor ∨ floor ≤ s.store.floor ∧ s.store.floor < s.store.depth := by
      rintro rfl
      refine Or.inr ⟨hle, Nat.not_le.mp fun hd => ?_⟩
      rw [(failsIff_exitScope s).fails_iff.mpr hd] at hhead
      cases hhead rfl
    obtain ⟨hanswer, hstore⟩ := Command.run_withFloor hk.1 hc.1 hs h hexit
    rw [runAll_cons, runAll_cons, hanswer]
    by_cases hf : (stops && (c.run s).1.isFailure) = true
    · rw [if_pos hf, if_pos hf]
      exact ⟨rfl, hstore⟩
    · have hle' : floor ≤ (c.run s).2.store.floor := by rwa [hs.floor_run hk.1]
      obtain ⟨hanswers, hend⟩ := ih hk.2 hc.2 (hs.run hk.1) hle' hstore (hrest hf)
      rw [if_neg hf, if_neg hf]
      exact ⟨congrArg (List.cons _) hanswers, hend⟩

/-! ## Frames that no script closes -/

section Above

variable {n : Nat} {s : State}

/-- Where the floor is no lower than `n`, a command that keeps the table leaves `n` frames, and the
floor. -/
theorem le_depth_run {c : Command} (hn : 0 < n) (hk : c.keepsTable = true)
    (hfloor : n ≤ s.store.floor) (hdepth : n ≤ s.store.depth) :
    (c.run s).2.store.floor = s.store.floor ∧ n ≤ (c.run s).2.store.depth := by
  cases hb : c.isBlock with
  | false =>
    have he := effect_run hb (replacement?_eq_none hk (Nat.lt_of_lt_of_le hn hdepth))
    exact ⟨he.floor_eq, he.le_depth hfloor hdepth⟩
  | true =>
    cases c with
    | block stops body =>
      rw [Command.keepsTable] at hk
      refine ⟨?_, ?_⟩
      · rw [run_block]
        rfl
      · rwa [depth_store_run_block stops s hk]
    | _ => cases hb

/-- Commands that keep the table keep its floor, and at least `n` frames if that is no lower. -/
theorem le_depth_runAll (stops : Bool) {script : List Command} (hn : 0 < n)
    (hk : allKeep script = true) (hfloor : n ≤ s.store.floor) (hdepth : n ≤ s.store.depth) :
    (runAll stops script s).2.store.floor = s.store.floor ∧
      n ≤ (runAll stops script s).2.store.depth := by
  induction script generalizing s with
  | nil => exact ⟨rfl, hdepth⟩
  | cons c rest ih =>
    rw [allKeep, Bool.and_eq_true] at hk
    obtain ⟨hsame, hle⟩ := le_depth_run hn hk.1 hfloor hdepth
    rw [runAll_cons]
    split
    · exact ⟨hsame, hle⟩
    · obtain ⟨hsame', hle'⟩ := ih hk.2 (by rwa [hsame]) hle
      exact ⟨hsame'.trans hsame, hle'⟩

end Above

/-! ## Closing one by one -/

/-- As many scopes are closed as there are frames above `n`. -/
def exitTo (n : Nat) (s : State) : List (Answer × Store) × State :=
  runAll false (List.replicate (s.store.depth - n) .exitScope) s

/-- Every command of the run succeeds. -/
def AllSucceed (outcomes : List (Answer × Store)) : Prop :=
  ∀ step ∈ outcomes, step.1.isFailure = false

/-- **Scopes that are closed one by one are cut off.** -/
theorem runAll_exits {k : Nat} {s : State} (h : s.store.floor + k ≤ s.store.depth) :
    AllSucceed (runAll false (List.replicate k .exitScope) s).1 ∧
      (runAll false (List.replicate k .exitScope) s).2.store =
        ⟨s.store.frames.drop k, s.store.floor⟩ := by
  induction k generalizing s with
  | zero => exact ⟨fun step hstep => absurd hstep List.not_mem_nil, rfl⟩
  | succ k ih =>
    rw [List.replicate_succ, runAll_cons, Bool.false_and, if_neg Bool.false_ne_true, Command.run]
    cases he : s.store.exitScope with
    | error r =>
      have hle := (Table.exitScope_eq_error_iff.mp he).1
      omega
    | ok result =>
      obtain ⟨frame, t⟩ := result
      obtain ⟨hf, _, hfloor⟩ := Table.exitScope_eq_ok_iff.mp he
      have hpop := depth_exitScope he
      obtain ⟨hrest, hstore⟩ := ih (s := { s with store := t }) (by dsimp only; omega)
      refine ⟨List.forall_mem_cons.mpr ⟨rfl, hrest⟩, ?_⟩
      dsimp only at hstore ⊢
      rw [hstore, hf, hfloor, List.drop_succ_cons]

/-- Scopes can be closed one by one only down to the floor. -/
theorem le_depth_of_allSucceed {k : Nat} {s : State} (hk : 0 < k)
    (h : AllSucceed (runAll false (List.replicate k .exitScope) s).1) :
    s.store.floor + k ≤ s.store.depth := by
  induction k generalizing s with
  | zero => exact absurd hk (Nat.lt_irrefl 0)
  | succ k ih =>
    rw [List.replicate_succ, runAll_cons, Bool.false_and, if_neg Bool.false_ne_true,
      Command.run] at h
    cases he : s.store.exitScope with
    | error r =>
      rw [he] at h
      exact absurd (List.forall_mem_cons.mp h).1 (by simp [query, Answer.isFailure])
    | ok result =>
      obtain ⟨frame, t⟩ := result
      obtain ⟨_, hlt, hfloor⟩ := Table.exitScope_eq_ok_iff.mp he
      have hpop := depth_exitScope he
      rw [he] at h
      rcases Nat.eq_zero_or_pos k with rfl | hpos
      · omega
      · have hle := ih hpos (List.forall_mem_cons.mp h).2
        dsimp only at hle
        omega

/-! ## Brackets -/

/-- The bracket of a block, before its scopes are closed: a scope is entered, and the commands run.
-/
def runEntered (stops : Bool) (body : List Command) (s : State) : List (Answer × Store) × State :=
  runAll stops body (Command.enterScope.run s).2

/-- The block is its bracket: the commands have the same answers, all scopes can be closed down to
the old depth, and the tables after it are equal in all frames and in the floor. -/
structure Bracketed (stops : Bool) (body : List Command) (s : State) : Prop where
  answers : ∃ outcomes, ((Command.block stops body).run s).1 = .block outcomes ∧
    (runEntered stops body s).1.map (·.1) = outcomes.map (·.1)
  closes : AllSucceed (exitTo s.store.depth (runEntered stops body s).2).1
  depth_eq : (exitTo s.store.depth (runEntered stops body s).2).2.store.depth = s.store.depth
  store_eq : (exitTo s.store.depth (runEntered stops body s).2).2.store =
    ((Command.block stops body).run s).2.store

section

variable {stops : Bool} {body : List Command} {s : State} (hk : allKeep body = true)

include hk

/-- As many frames as the floor says are enough for the two brackets to agree. -/
theorem Bracketed.of_floor_le_depth (hc : anyCompares body = false)
    (hexits : ExitsSucceed stops body s.openBlock) (hle : s.store.floor ≤ s.store.depth) :
    Bracketed stops body s := by
  have hfloor := floor_runAll_openBlock stops s hk
  have hdepth := depth_lt_depth_runAll_openBlock stops s hk
  -- the body in the block has the higher floor of the two
  have hentered : (Command.enterScope.run s).2.store =
      s.openBlock.store.withFloor s.store.floor := rfl
  obtain ⟨hanswers, hstore⟩ := runAll_withFloor stops hk hc (Place.Sound.openBlock s)
    (Nat.le_succ_of_le hle) hentered hexits
  have hend : (runEntered stops body s).2.store =
      (runAll stops body s.openBlock).2.store.withFloor s.store.floor := hstore
  have hroom : (runEntered stops body s).2.store.floor +
      ((runEntered stops body s).2.store.depth - s.store.depth) ≤
        (runEntered stops body s).2.store.depth := by
    rw [hend]
    show s.store.floor + ((runAll stops body s.openBlock).2.store.depth - s.store.depth) ≤
      (runAll stops body s.openBlock).2.store.depth
    omega
  obtain ⟨hcloses, hclosed⟩ := runAll_exits hroom
  have hsame : (exitTo s.store.depth (runEntered stops body s).2).2.store =
      ((Command.block stops body).run s).2.store := by
    rw [exitTo, hclosed, store_run_block stops s hk, hend]
    rfl
  refine ⟨⟨_, by rw [run_block], hanswers⟩, hcloses, ?_, hsame⟩
  rw [hsame, depth_store_run_block stops s hk]

/-- With fewer frames than the floor says the closing exit is refused, although the block closes. -/
theorem Bracketed.floor_le_depth (h : Bracketed stops body s) :
    s.store.floor ≤ s.store.depth := by
  refine Nat.not_lt.mp fun hlt => ?_
  -- under a floor that high the frame entered cannot be closed
  obtain ⟨hfloor, hdepth⟩ := le_depth_runAll stops (s := (Command.enterScope.run s).2)
    (Nat.succ_pos s.store.depth) hk hlt (Nat.le_refl _)
  have hsame : (runEntered stops body s).2.store.floor = s.store.floor := hfloor
  have hmore : s.store.depth < (runEntered stops body s).2.store.depth := hdepth
  have hle := le_depth_of_allSucceed (Nat.sub_pos_of_lt hmore) h.closes
  omega

end

/-- **A block is its bracket exactly if the floor is no higher than the depth,** for a body that
closes scopes of its own only and compares no copies; and so it is one in every state of a run that
keeps its table, within blocks too. -/
theorem bracketed_iff (stops : Bool) {body : List Command} (s : State) (hk : allKeep body = true)
    (hc : anyCompares body = false) (hexits : ExitsSucceed stops body s.openBlock) :
    (Bracketed stops body s ↔ s.store.floor ≤ s.store.depth) ∧
      ∀ script past, allKeep script = true → past <+: trace script →
        s = stateAfter .initial past → Bracketed stops body s := by
  have hiff : Bracketed stops body s ↔ s.store.floor ≤ s.store.depth :=
    ⟨Bracketed.floor_le_depth hk, Bracketed.of_floor_le_depth hk hc hexits⟩
  refine ⟨hiff, ?_⟩
  rintro script past hscript hpast rfl
  obtain ⟨floors, htracked⟩ := tracked_stateAfter hscript hpast
  exact hiff.mpr htracked.floor_le_depth

/-- A body that closes the scope it entered, shadows a name and leaves scopes open, with a block in
it that is refused an `exitScope`; where the run is within a block itself. -/
theorem bracketed_shadowing :
    let script : List Command := [.declare {} "x" .null, .block false []]
    let s := stateAfter .initial ((trace script).take 2)
    let body : List Command :=
      [.enterScope, .declare {} "x" (.bool true), .block false [.exitScope, .update "x" .null],
        .exitScope, .update "x" (.bool false), .enterScope, .enterScope, .declare {} "y" .null]
    s.store.floor = 2 ∧ ExitsSucceed false body s.openBlock ∧ Bracketed false body s := by
  intro script s body
  have hexits : ExitsSucceed false body s.openBlock := by decide
  have hpast : (trace script).take 2 <+: trace script := List.take_prefix _ _
  obtain ⟨_, hbracketed⟩ := bracketed_iff false s rfl rfl hexits
  exact ⟨rfl, hexits, hbracketed script _ rfl hpast rfl⟩

/-- After a block that resets the table no frame is there and the floor is one, so that the scope of
the next bracket cannot be closed. -/
theorem not_bracketed_after_reset :
    let s := stateAfter .initial (trace [.block false [.reset]])
    allKeep [] = true ∧ anyCompares [] = false ∧ ExitsSucceed false [] s.openBlock ∧
      ¬ Bracketed false [] s := by
  intro s
  refine ⟨rfl, rfl, by decide, fun h => ?_⟩
  exact absurd (h.floor_le_depth rfl) (by decide)

end Script

end LexicalScope
