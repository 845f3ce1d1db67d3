import LexicalScope.Proofs.Script.Failure
import LexicalScope.Proofs.Script.Invariant

/-!
# Bound names

Only a declaration looks at the characters of a name. A rebinding takes whatever name it is given,
and yet no name that is not valid is ever bound: a rebinding finds a name only where a declaration
has put it, in the table at hand or in the one that a copy was made of.

* `NamesValid`, `Table.ValidNames` — a frame, and a table, that bind valid names only
* `invariant_validNames` — every table of a run is one
* `Command.subject?` — the name that a command is about
* `run_of_not_binds` — a name that is neither bound nor valid cannot be used to change the table
* `only_valid_names_bound` — every state of every run, and what its commands say of such a name
-/

namespace LexicalScope

/-- All names that the frame binds are valid. -/
def NamesValid {V : Type} (frame : Frame V) : Prop := ∀ name ∈ frame.keys, ValidName name

namespace Table

variable {V : Type}

/-- All names that are bound in the table are valid. -/
def ValidNames (t : Table V) : Prop := ∀ frame ∈ t.frames, NamesValid frame

/-- Where all bound names are valid, an invalid name is bound nowhere. -/
theorem not_binds_of_not_validName {t : Table V} (h : t.ValidNames) {name : String}
    (hv : ¬ ValidName name) : ¬ t.Binds name := by
  rintro ⟨frame, hframe, hcontains⟩
  exact hv (h frame hframe name (Dict.mem_keys_iff.mpr hcontains))

end Table

namespace Script

/-! ## An invariant of runs -/

theorem namesValid_insert {frame : Frame Json} {name : String} (v : Json) (hv : ValidName name)
    (h : NamesValid frame) : NamesValid (frame.insert name v) := by
  intro other hother
  rcases Dict.mem_keys_insert.mp hother with rfl | hother
  · exact hv
  · exact h other hother

/-- **A table binds valid names only,** for a declaration is what binds a name, and a rebinding
leaves the names as they are. -/
theorem invariant_validNames : Invariant (Table.ValidNames (V := Json)) := by
  refine .of_frames ?_ (fun _ _ v hv h => namesValid_insert v hv h) ?_
  · intro name hname
    exact absurd hname List.not_mem_nil
  · intro frame name f h
    show ∀ other ∈ (frame.modify name f).keys, ValidName other
    rwa [Dict.keys_modify]

/-! ## Commands about a name -/

/-- The name that the command is about: the one that it declares, rebinds, or asks for. -/
def Command.subject? : Command → Option String
  | .declare _ name _ | .update name _ | .updateOrDeclare name _ | .edit name _ => some name
  | .declareValue name _ | .updateValue name _ => some name
  | .lookup name | .get name | .lookupAs name _ | .contains name | .isLocal name => some name
  | .resolveDepth name => some name
  | _ => none

section Invalid

variable {s : State} {name : String}

section Unbound

variable (hn : ¬ s.store.Binds name)

include hn

theorem rebind?_eq_none (f : Json → Json) : s.store.rebind? name f = none :=
  Table.rebind?_eq_none_of_not_binds hn f

theorem run_update_of_not_binds (v : Json) :
    (Command.update name v).run s = (.refused (.undefined name), s) := by
  rw [Command.run, Table.update, rebind?_eq_none hn]
  rfl

/-- An update that may declare refuses an invalid name without binding, and nothing happens. -/
theorem run_updateOrDeclare_of_not_binds (hv : ¬ ValidName name) (v : Json) :
    (Command.updateOrDeclare name v).run s = (.refused (.invalidName name), s) := by
  rw [Command.run, Table.updateOrDeclare, rebind?_eq_none hn, Table.declare_of_not_validName hv]
  rfl

end Unbound

variable (hv : ¬ ValidName name)

include hv

/-- A table that is given away with such a name does not come back. -/
theorem isFailure_of_handsOver {c : Command} (hc : c.subject? = some name)
    (hgives : c.handsOver = true) : (c.run s).1.isFailure = true := by
  cases c with
  | declare manner n v =>
    cases hc
    rw [Command.run, declare, Table.declare_of_not_validName hv]
    cases manner.insists <;> rfl
  | _ => cases hgives

/-- **A name that is neither bound nor valid cannot be used to change the state,** but that a new
table is in the place of one that was given away. -/
theorem run_of_not_binds (hn : ¬ s.store.Binds name) {c : Command}
    (hc : c.subject? = some name) :
    (c.run s).2 = if c.handsOver then { s with store := Table.new } else s := by
  have hdeclare : ∀ manner v, ((Command.declare manner name v).run s).2 =
      if manner.handsOver then { s with store := Table.new } else s := by
    intro manner v
    rw [Command.run, declare, Table.declare_of_not_validName hv]
  cases c with
  | declare manner n v =>
    cases hc
    exact hdeclare manner v
  | update n v =>
    cases hc
    rw [run_update_of_not_binds hn]
    rfl
  | updateOrDeclare n v =>
    cases hc
    rw [run_updateOrDeclare_of_not_binds hn hv]
    rfl
  | edit n e =>
    cases hc
    rw [Command.run, rebind?_eq_none hn]
    rfl
  | declareValue n d =>
    cases hc
    obtain ⟨hok, herror⟩ := run_declareValue s name (d := d)
    cases hd : d.toJson with
    | ok v => rw [hok v hd]; exact hdeclare {} v
    | error e => rw [herror e hd]; rfl
  | updateValue n d =>
    cases hc
    obtain ⟨hok, herror⟩ := run_updateValue s name (d := d)
    cases hd : d.toJson with
    | ok v => rw [hok v hd, run_update_of_not_binds hn]; rfl
    | error e => rw [herror e hd]; rfl
  | lookup n =>
    rw [Command.run]
    cases s.store.lookup n <;> rfl
  | get | lookupAs | contains | isLocal | resolveDepth => rfl
  | _ => cases hc

end Invalid

/-! ## Runs -/

/-- **Only valid names are ever bound,** in the store and in the copies of it, whatever table the
commands put in place; and so the frames that are handed back bind no others. A name that is not
valid is therefore never found, `updateOrDeclare` refuses it as a name even where it would only
rebind, and no command about it changes the state. A declaration that takes the table along fails,
and then there is no table to be had back from it. -/
theorem only_valid_names_bound {script : List Command} {past : List Moment}
    (h : past <+: trace script) :
    let s := stateAfter .initial past
    s.Forall Table.ValidNames ∧
      (∀ frame, (Command.exitScope.run s).1 = .closed frame → NamesValid frame) ∧
      ∀ name, ¬ ValidName name →
        (∀ v, ((Command.update name v).run s).1 = .refused (.undefined name)) ∧
        (∀ d v, d.toJson = .ok v →
          ((Command.updateValue name d).run s).1 = .refused (.undefined name)) ∧
        (s.store.get? name = none ∧ ∀ f, s.store.rebind? name f = none) ∧
        (∀ v, ((Command.updateOrDeclare name v).run s).1 = .refused (.invalidName name)) ∧
        ∀ c : Command, c.subject? = some name →
          ((c.run s).2 = if c.handsOver then { s with store := Table.new } else s) ∧
            (c.handsOver = true → (c.run s).1.isFailure = true) := by
  intro s
  have hall : s.Forall Table.ValidNames := invariant_validNames.stateAfter h
  refine ⟨hall, ?_, ?_⟩
  · intro frame hclosed
    rw [Command.run] at hclosed
    cases he : s.store.exitScope with
    | error r =>
      rw [he] at hclosed
      cases hclosed
    | ok result =>
      obtain ⟨frame', t⟩ := result
      rw [he] at hclosed
      cases hclosed
      refine hall.store frame ?_
      rw [(Table.exitScope_eq_ok_iff.mp he).1]
      exact List.mem_cons_self
  · intro name hv
    have hn := Table.not_binds_of_not_validName hall.store hv
    refine ⟨?_, ?_, ⟨Table.get?_eq_none_iff_not_binds.mpr hn, rebind?_eq_none hn⟩, ?_,
      fun c hc => ⟨run_of_not_binds hv hn hc, isFailure_of_handsOver hv hc⟩⟩
    · intro v
      rw [run_update_of_not_binds hn]
    · intro d v hd
      rw [(run_updateValue s name).1 v hd, run_update_of_not_binds hn]
    · intro v
      rw [run_updateOrDeclare_of_not_binds hn hv]

/-- In a block that has put a copy in place, after two declarations that were refused: the copy
binds what it bound, and a name with a blank can be given no value. -/
theorem only_valid_names_bound_after_restore :
    let script : List Command :=
      [.declare {} "x" .null, .save "copy",
        .block false [.declare {} "a b" .null, .updateOrDeclare "" .null, .restore "copy"]]
    let past := (trace script).take 6
    let s := stateAfter .initial past
    past <+: trace script ∧ ¬ ValidName "a b" ∧ s.store.contains "x" = true ∧
      s.store.get? "a b" = none ∧
      ((Command.updateOrDeclare "a b" .null).run s).1 = .refused (.invalidName "a b") ∧
      ((Command.declareValue "a b" .unit).run s).2 = s := by
  intro script past s
  have hpast : past <+: trace script := List.take_prefix _ _
  have hv : ¬ ValidName "a b" := by decide
  obtain ⟨_, _, hinvalid⟩ := only_valid_names_bound hpast
  obtain ⟨_, _, ⟨hget, _⟩, hboth, hkeep⟩ := hinvalid "a b" hv
  exact ⟨hpast, hv, rfl, hget, hboth .null, (hkeep (.declareValue "a b" .unit) rfl).1⟩

end Script

end LexicalScope
