import LexicalScope.Script.Basic
import LexicalScope.Table.Lemmas

/-!
# Failures

When a command fails, and for which cause: told from the name and the value of the command and from
what the table binds. A command that fails has done nothing.

* `Table.Binds` — some frame binds the name
* `FailsIff` — the exact condition of a failure, with its cause
* `failsIff_declare`, `failsIff_update`, `failsIff_lookup`, `failsIff_updateOrDeclare`,
  `failsIff_exitScope` — the commands one by one
* `run_declareValue`, `run_updateValue` — a value is converted before the name is looked at
* `ConvertsFirst` — and then the command is another
* `run_eq_of_isFailure` — a failed command leaves the state as it was
* `failure_conditions` — all of it together
-/

namespace LexicalScope

namespace Table

variable {V : Type}

/-- Some frame binds the name. -/
def Binds (t : Table V) (name : String) : Prop := ∃ frame ∈ t.frames, frame.contains name = true

theorem get?_eq_none_iff_not_binds {t : Table V} {name : String} :
    t.get? name = none ↔ ¬ t.Binds name := by
  unfold get? Binds Dict.contains
  rw [List.findSome?_eq_none_iff]
  simp

theorem exists_get?_of_binds {t : Table V} {name : String} (h : t.Binds name) :
    ∃ v, t.get? name = some v :=
  Option.ne_none_iff_exists'.mp fun hc => get?_eq_none_iff_not_binds.mp hc h

/-- A name that is bound can be rebound. -/
theorem exists_rebind?_of_binds {t : Table V} {name : String} (h : t.Binds name) (f : V → V) :
    ∃ old t', t.rebind? name f = some (old, t') := by
  obtain ⟨⟨old, t'⟩, hr⟩ := Option.ne_none_iff_exists'.mp fun hc =>
    get?_eq_none_iff_not_binds.mp (rebind?_eq_none_iff.mp hc) h
  exact ⟨old, t', hr⟩

theorem rebind?_eq_none_of_not_binds {t : Table V} {name : String} (h : ¬ t.Binds name)
    (f : V → V) : t.rebind? name f = none :=
  rebind?_eq_none_iff.mpr (get?_eq_none_iff_not_binds.mpr h)

/-- The refusal of a scope that cannot be closed, told from the floor. -/
def closingRefusal (floor : Nat) : Refusal := if floor = 1 then .rootScope else .scopeFloor

theorem kind_closingRefusal (floor : Nat) :
    (closingRefusal floor).kind = .invalidScopeOperation := by
  unfold closingRefusal
  split <;> rfl

end Table

namespace Script

/-! ## Conditions -/

/-- The command fails exactly if the condition holds, and is then refused for this cause. -/
structure FailsIff (c : Command) (s : State) (r : Refusal) (condition : Prop) : Prop where
  fails_iff : (c.run s).1.isFailure = true ↔ condition
  refused : condition → (c.run s).1 = .refused r

/-- It is enough to know the answer under the condition and without it. -/
theorem FailsIff.of_cases {c : Command} {s : State} {r : Refusal} {condition : Prop}
    (hyes : condition → (c.run s).1 = .refused r)
    (hno : ¬ condition → (c.run s).1.isFailure = false) : FailsIff c s r condition := by
  refine ⟨⟨fun hf => ?_, fun hc => ?_⟩, hyes⟩
  · refine Classical.byContradiction fun hc => ?_
    rw [hno hc] at hf
    cases hf
  · rw [hyes hc]
    rfl

theorem FailsIff.ne_refused {c : Command} {s : State} {r r' : Refusal} {condition : Prop}
    (h : FailsIff c s r condition) (hne : r' ≠ r) : (c.run s).1 ≠ .refused r' := by
  intro hc
  have hcondition : condition := h.fails_iff.mp (by rw [hc]; rfl)
  rw [h.refused hcondition] at hc
  exact hne (Answer.refused.inj hc).symm

section Commands

variable (s : State) (name : String) (v : Json)

/-- A declaration is refused for its name alone, where there is a frame. -/
theorem failsIff_declare (hd : 0 < s.store.depth) :
    FailsIff (.declare {} name v) s (.invalidName name) (¬ ValidName name) := by
  refine .of_cases (fun hv => ?_) (fun hv => ?_)
  · rw [Command.run, declare, Table.declare_of_not_validName hv]
    rfl
  · obtain ⟨t, ht⟩ := Table.exists_declare_eq_ok hd (Classical.not_not.mp hv) v
    rw [Command.run, declare, ht]
    rfl

/-- An update is refused exactly if no frame binds the name. -/
theorem failsIff_update :
    FailsIff (.update name v) s (.undefined name) (¬ s.store.Binds name) := by
  refine .of_cases (fun hn => ?_) (fun hn => ?_)
  · rw [Command.run, Table.update, Table.rebind?_eq_none_of_not_binds hn]
    rfl
  · obtain ⟨old, t, ht⟩ := Table.exists_rebind?_of_binds (Classical.not_not.mp hn) fun _ => v
    rw [Command.run, Table.update, ht]
    rfl

theorem failsIff_lookup :
    FailsIff (.lookup name) s (.undefined name) (¬ s.store.Binds name) := by
  refine .of_cases (fun hn => ?_) (fun hn => ?_)
  · rw [Command.run, Table.lookup, Table.get?_eq_none_iff_not_binds.mpr hn]
    rfl
  · obtain ⟨w, hw⟩ := Table.exists_get?_of_binds (Classical.not_not.mp hn)
    rw [Command.run, Table.lookup, hw]
    rfl

/-- An update that may declare is refused only where it has to declare and cannot. -/
theorem failsIff_updateOrDeclare (hd : 0 < s.store.depth) :
    FailsIff (.updateOrDeclare name v) s (.invalidName name)
      (¬ s.store.Binds name ∧ ¬ ValidName name) := by
  refine .of_cases (fun h => ?_) (fun h => ?_)
  · rw [Command.run, Table.updateOrDeclare, Table.rebind?_eq_none_of_not_binds h.1,
      Table.declare_of_not_validName h.2]
    rfl
  · by_cases hn : s.store.Binds name
    · obtain ⟨old, t, ht⟩ := Table.exists_rebind?_of_binds hn fun _ => v
      rw [Command.run, Table.updateOrDeclare, ht]
      rfl
    · have hv : ValidName name := Classical.not_not.mp fun hv => h ⟨hn, hv⟩
      obtain ⟨t, ht⟩ := Table.exists_declare_eq_ok hd hv v
      rw [Command.run, Table.updateOrDeclare, Table.rebind?_eq_none_of_not_binds hn, ht]
      rfl

/-- A scope is not closed exactly if no frame lies above the floor. -/
theorem failsIff_exitScope :
    FailsIff .exitScope s (Table.closingRefusal s.store.floor)
      (s.store.depth ≤ s.store.floor) := by
  refine .of_cases (fun hle => ?_) (fun hle => ?_)
  · rw [Command.run, Table.exitScope_eq_error_iff.mpr ⟨hle, rfl⟩]
    rfl
  · rw [Command.run]
    cases h : s.store.exitScope with
    | ok result => rfl
    | error r => exact absurd (Table.exitScope_eq_error_iff.mp h).1 hle

/-- A declaration that insists is cut short where another would be refused. -/
theorem aborted_declare_iff :
    (∃ f, ((Command.declare { insists := true } name v).run s).1 = .aborted f) ↔
      ((Command.declare {} name v).run s).1.isFailure = true := by
  rw [Command.run, Command.run, declare, declare]
  cases s.store.declare name v with
  | ok t => simp [Answer.isFailure]
  | error e => cases e <;> simp [Answer.ofFailure, Answer.isFailure]

end Commands

/-! ## Values that are converted first -/

section Conversion

variable (s : State) (name : String) {d : Datum}

/-- **A value that can be converted is declared as its data value is,** and one that cannot is
refused whatever the name. -/
theorem run_declareValue :
    (∀ v, d.toJson = .ok v →
        (Command.declareValue name d).run s = (Command.declare {} name v).run s) ∧
      ∀ e, d.toJson = .error e →
        (Command.declareValue name d).run s = (.refused (.unconvertible e.message), s) := by
  refine ⟨fun v hv => ?_, fun e he => ?_⟩
  · rw [Command.run, Command.run, Store.declareValue, Store.convert, hv, declare]
    dsimp only
    cases s.store.declare name v <;> rfl
  · rw [Command.run, Store.declareValue, Store.convert, he]
    rfl

theorem run_updateValue :
    (∀ v, d.toJson = .ok v →
        (Command.updateValue name d).run s = (Command.update name v).run s) ∧
      ∀ e, d.toJson = .error e →
        (Command.updateValue name d).run s = (.refused (.unconvertible e.message), s) := by
  refine ⟨fun v hv => ?_, fun e he => ?_⟩
  · rw [Command.run, Command.run, Store.updateValue, Store.convert, hv]
    rfl
  · rw [Command.run, Store.updateValue, Store.convert, he]
    rfl

/-- The command is refused for the conversion of its value exactly if there is none, and else does
what the plain command does with the data value. -/
structure ConvertsFirst (d : Datum) (c : Command) (plain : Json → Command) (s : State) : Prop where
  unconvertible_iff :
    (∃ details, (c.run s).1 = .refused (.unconvertible details)) ↔ ∃ e, d.toJson = .error e
  run_eq : ∀ v, d.toJson = .ok v → c.run s = (plain v).run s

/-- A command that runs as its plain form does, or is refused for the value, converts first. -/
theorem ConvertsFirst.of_run {c : Command} {plain : Json → Command}
    (hrun : (∀ v, d.toJson = .ok v → c.run s = (plain v).run s) ∧
      ∀ e, d.toJson = .error e → c.run s = (.refused (.unconvertible e.message), s))
    (hplain : ∀ v details, ((plain v).run s).1 ≠ .refused (.unconvertible details)) :
    ConvertsFirst d c plain s := by
  obtain ⟨hok, herror⟩ := hrun
  refine ⟨⟨?_, ?_⟩, hok⟩
  · rintro ⟨details, hr⟩
    cases hd : d.toJson with
    | ok v =>
      rw [hok v hd] at hr
      exact absurd hr (hplain v details)
    | error e => exact ⟨e, rfl⟩
  · rintro ⟨e, he⟩
    exact ⟨e.message, by rw [herror e he]⟩

end Conversion

/-! ## Reading as a value of a type -/

section Reading

variable (t : Store) (name : String) (schema : Schema)

theorem lookupAs_eq_undefined_iff :
    Store.lookupAs t name schema = .error (.undefined name) ↔ ¬ t.Binds name := by
  rw [← Table.get?_eq_none_iff_not_binds, Store.lookupAs, Table.lookup]
  cases hget : t.get? name with
  | none => simp
  | some v =>
    dsimp only
    cases schema.read v <;> simp

/-- A reading that fails does so because the name is not bound, or else because of the value. -/
theorem lookupAs_eq_error {r : Refusal} (h : Store.lookupAs t name schema = .error r) :
    r = .undefined name ∨
      ∃ v e, t.get? name = some v ∧ schema.read v = .error e ∧ r = .unconvertible e.message := by
  rw [Store.lookupAs, Table.lookup] at h
  cases hget : t.get? name with
  | none =>
    rw [hget] at h
    exact Or.inl (Except.error.inj h).symm
  | some v =>
    rw [hget] at h
    dsimp only at h
    cases hread : schema.read v with
    | ok x =>
      rw [hread] at h
      cases h
    | error e =>
      rw [hread] at h
      exact Or.inr ⟨v, e, rfl, hread, (Except.error.inj h).symm⟩

end Reading

/-! ## A failed command has done nothing -/

/-- The store is given away with the command. -/
def Command.handsOver : Command → Bool
  | .declare manner _ _ => manner.handsOver
  | _ => false

/-- **A failed command leaves the state as it was,** unless the store was given away with it. -/
theorem run_eq_of_isFailure {c : Command} (hc : c.handsOver = false) {s : State}
    (h : (c.run s).1.isFailure = true) : (c.run s).2 = s := by
  cases c with
  | declare manner name v =>
    have hm : manner.handsOver = false := hc
    revert h
    rw [Command.run, declare]
    cases s.store.declare name v with
    | ok t => cases manner.insists <;> exact fun h => absurd h Bool.false_ne_true
    | error e =>
      intro _
      show (if manner.handsOver then _ else s) = s
      rw [hm]
      rfl
  | exitScope | update | updateOrDeclare | edit | declareValue | updateValue | lookup | restore =>
    revert h
    rw [Command.run]
    split
    · exact fun h => absurd h Bool.false_ne_true
    · exact fun _ => rfl
  | enterScope | save | reset | block => exact absurd h Bool.false_ne_true
  | _ => rfl

/-! ## All conditions -/

/-- **When commands fail, and that they then do nothing.** In a table with a frame a declaration is
refused for its name alone, and a rebinding or a look-up because no frame binds the name, whatever
the name is. `updateOrDeclare` is refused only where both would be. A value that has no data value
is refused before the name is looked at. A scope is not closed exactly if the depth is no more than
the floor. After a failure the state is that of before. -/
theorem failure_conditions (s : State) (hd : 0 < s.store.depth) :
    (∀ name v, FailsIff (.declare {} name v) s (.invalidName name) (¬ ValidName name)) ∧
      (∀ name v, FailsIff (.update name v) s (.undefined name) (¬ s.store.Binds name)) ∧
      (∀ name, FailsIff (.lookup name) s (.undefined name) (¬ s.store.Binds name)) ∧
      (∀ name v, FailsIff (.updateOrDeclare name v) s (.invalidName name)
        (¬ s.store.Binds name ∧ ¬ ValidName name)) ∧
      (∀ name d, ConvertsFirst d (.declareValue name d) (.declare {} name) s ∧
        ConvertsFirst d (.updateValue name d) (.update name) s) ∧
      (∀ name schema,
        (Store.lookupAs s.store name schema = .error (.undefined name) ↔ ¬ s.store.Binds name) ∧
          ∀ r, Store.lookupAs s.store name schema = .error r →
            r = .undefined name ∨ s.store.Binds name ∧ ∃ details, r = .unconvertible details) ∧
      (FailsIff .exitScope s (Table.closingRefusal s.store.floor)
          (s.store.depth ≤ s.store.floor) ∧
        (Table.closingRefusal s.store.floor).kind = .invalidScopeOperation) ∧
      (∀ name v, (∃ f, ((Command.declare { insists := true } name v).run s).1 = .aborted f) ↔
        ((Command.declare {} name v).run s).1.isFailure = true) ∧
      ∀ c : Command, c.handsOver = false → (c.run s).1.isFailure = true → (c.run s).2 = s := by
  refine ⟨fun name v => failsIff_declare s name v hd, fun name v => failsIff_update s name v,
    fun name => failsIff_lookup s name, fun name v => failsIff_updateOrDeclare s name v hd,
    fun name d => ⟨?_, ?_⟩, fun name schema => ⟨lookupAs_eq_undefined_iff s.store name schema, ?_⟩,
    ⟨failsIff_exitScope s, Table.kind_closingRefusal _⟩,
    fun name v => aborted_declare_iff s name v, fun c hc hf => run_eq_of_isFailure hc hf⟩
  · refine .of_run s (run_declareValue s name) fun v details => ?_
    exact (failsIff_declare s name v hd).ne_refused (fun hc => by cases hc)
  · refine .of_run s (run_updateValue s name) fun v details => ?_
    exact (failsIff_update s name v).ne_refused (fun hc => by cases hc)
  · intro r hr
    refine (lookupAs_eq_error s.store name schema hr).imp_right ?_
    rintro ⟨v, e, hget, _, rfl⟩
    refine ⟨Classical.not_not.mp fun hn => ?_, e.message, rfl⟩
    rw [Table.get?_eq_none_iff_not_binds.mpr hn] at hget
    cases hget

/-- In a block that has declared nothing, with one name bound outside of it: its scope cannot be
closed, a name that is neither bound nor valid can be given no value, and a value that cannot be
converted is refused under that name too. -/
theorem failure_conditions_in_block :
    let s : State := ⟨⟨[∅, ⟨[("x", .null)]⟩], 2⟩, ∅⟩
    0 < s.store.depth ∧ (Command.exitScope.run s).1 = .refused .scopeFloor ∧
      ((Command.updateOrDeclare "" .null).run s).1 = .refused (.invalidName "") ∧
      (∃ details, ((Command.updateValue "" (.failing "no")).run s).1 =
        .refused (.unconvertible details)) ∧
      ((Command.updateValue "" (.failing "no")).run s).2 = s := by
  intro s
  have hd : 0 < s.store.depth := by decide
  obtain ⟨_, _, _, hboth, hconvert, _, ⟨hexit, _⟩, _, hkeep⟩ := failure_conditions s hd
  have hunbound : ¬ s.store.Binds "" := Table.get?_eq_none_iff_not_binds.mp rfl
  have hrefused := (hconvert "" (.failing "no")).2.unconvertible_iff.mpr ⟨_, rfl⟩
  refine ⟨hd, hexit.refused (by decide), (hboth "" .null).refused ⟨hunbound, by decide⟩, hrefused,
    hkeep _ rfl ?_⟩
  obtain ⟨details, hdetails⟩ := hrefused
  rw [hdetails]
  rfl

end Script

end LexicalScope
