import LexicalScope.Proofs.Script.Stored
import LexicalScope.Proofs.Typed.Parts

/-!
# Data values through the typed path

A data value that is stored as typed data is bound as it is, whether it is handed over whole or part
by part, and a binding that is read as a data value is read as it is. Put together from parts, a
value has its members in order. That the old value had them so is due to where it comes from: what a
command binds is in order if the values that come with the command are, and so are the values of
every store of a run.

* `Store.lookupWith` — reading with any reader
* `Store.HoldsOrdered` — all values that are bound have their members in order
* `Command.values`, `Moment.Ordered` — the values that come with a command
* `holdsOrdered_effect`, `holdsOrdered_step`, `holdsOrdered_stateAfter` — from what a command does
  to a store to all stores of a run
* `data_values_pass_unchanged` — all of it together
-/

namespace LexicalScope

namespace Store

/-- The nearest binding of a name as what a reader makes of it. -/
def lookupWith {α : Type} (t : Store) (name : String) (read : Typed.TypedReader α) :
    Except Refusal α :=
  match t.lookup name with
  | .error r => .error r
  | .ok v =>
    match read v with
    | .ok x => .ok x
    | .error e => .error (.unconvertible e.message)

/-- A look-up with a type is one with its reader. -/
theorem lookupAs_eq_lookupWith (t : Store) (name : String) (s : Schema) :
    lookupAs t name s = lookupWith t name s.read := by
  rw [lookupAs, lookupWith]
  cases t.lookup name with
  | error r => rfl
  | ok v =>
    dsimp only
    cases s.read v <;> rfl

/-- A reader that gives back what is bound finds what a look-up finds. -/
theorem lookupWith_eq_lookup {t : Store} {name : String} {read : Typed.TypedReader Json}
    (h : ∀ v, t.get? name = some v → read v = .ok v) : lookupWith t name read = t.lookup name := by
  rw [lookupWith, Table.lookup]
  cases hget : t.get? name with
  | none => rfl
  | some v => simp only [h v hget]

/-- A value is bound for its data value alone. -/
theorem bind_of_toJson_eq {d : Datum} {v : Json} (h : d.toJson = .ok v) (t : Store)
    (name : String) :
    declareValue t name d = t.declare name v ∧ updateValue t name d = t.update name v := by
  have hconvert : convert d = .ok v := by
    rw [convert, h]
  exact ⟨by rw [declareValue, hconvert], by rw [updateValue, hconvert]⟩

/-- All values that are bound have their members in order. -/
def HoldsOrdered (t : Store) : Prop := ∀ k name v, t.valueAt k name = some v → v.Ordered

theorem HoldsOrdered.of_get? {t : Store} (h : t.HoldsOrdered) {name : String} {v : Json}
    (hget : t.get? name = some v) : v.Ordered := by
  obtain ⟨k, -, hvalue⟩ := Table.exists_resolveDepth?_of_get? hget
  exact h k name v hvalue

theorem holdsOrdered_new : HoldsOrdered Table.new := by
  intro k name v hv
  cases k <;> cases hv

end Store

namespace Script

/-! ## What comes with a command -/

/-- The data values that come with the edit. -/
def Edit.values : Edit → List Json
  | .push v | .insert _ v | .set v => [v]
  | .take => []

/-- The data values that come with the command, within typed data too. -/
def Command.values : Command → List Json
  | .declare _ _ v | .update _ v | .updateOrDeclare _ v => [v]
  | .edit _ e => e.values
  | .declareValue _ d | .updateValue _ d => d.jsons
  | _ => []

/-- The members of the values that come with what happens are in order. -/
def Moment.Ordered (m : Moment) : Prop :=
  ∀ c a, m.event = .does c a → ∀ v ∈ c.values, v.Ordered

/-- An edit leaves a value in order if what comes with it is. -/
theorem Edit.ordered_apply {e : Edit} (he : ∀ v ∈ e.values, v.Ordered) {old : Json}
    (hold : old.Ordered) : (e.apply old).Ordered := by
  cases e with
  | push v =>
    cases old with
    | array items =>
      have hv := List.forall_mem_singleton.mp he
      have hitems := Json.ordered_array_iff.mp hold
      exact Json.ordered_array_iff.mpr
        (List.forall_mem_append.mpr ⟨hitems, List.forall_mem_singleton.mpr hv⟩)
    | _ => exact hold
  | insert name v =>
    cases old with
    | object members =>
      have hv := List.forall_mem_singleton.mp he
      obtain ⟨hsorted, hmembers⟩ := Json.ordered_object_iff.mp hold
      refine Json.ordered_object_iff.mpr ⟨Dict.sorted_insert hsorted name v, fun e he => ?_⟩
      rcases Dict.mem_place he with rfl | he
      · exact hv
      · exact hmembers e he
    | _ => exact hold
  | take => exact Json.ordered_null
  | set v => exact List.forall_mem_singleton.mp he

section Command

variable {c : Command} {t : Store} {name : String} {v : Json}

/-- The data value of a typed value is in order. -/
theorem ordered_of_convert {d : Datum} (hd : ∀ v ∈ d.jsons, v.Ordered)
    (h : Store.convert d = .ok v) : v.Ordered := by
  rw [Store.convert] at h
  split at h
  · next hjson =>
    cases h
    exact Datum.ordered_toJson hd hjson
  · cases h

/-- What a command declares is in order. -/
theorem ordered_of_declares? (hc : ∀ v ∈ c.values, v.Ordered)
    (h : c.declares? t = some (name, v)) : v.Ordered := by
  cases c with
  | declare manner n w =>
    cases h
    exact List.forall_mem_singleton.mp hc
  | updateOrDeclare n w =>
    rw [Command.declares?] at h
    split at h
    · cases h
    · cases h
      exact List.forall_mem_singleton.mp hc
  | declareValue n d =>
    rw [Command.declares?] at h
    split at h
    · next hconvert =>
      cases h
      exact ordered_of_convert hc hconvert
    · cases h
  | _ => cases h

/-- What a command writes over a binding is in order, for an edit keeps the order. -/
theorem ordered_of_write? (hc : ∀ v ∈ c.values, v.Ordered) (ht : t.HoldsOrdered)
    (h : c.write? t = some (name, v)) : v.Ordered := by
  cases c with
  | update n w | updateOrDeclare n w =>
    cases h
    exact List.forall_mem_singleton.mp hc
  | edit n e =>
    obtain ⟨old, hold, heq⟩ := Option.map_eq_some_iff.mp h
    cases heq
    exact e.ordered_apply hc (ht.of_get? hold)
  | updateValue n d =>
    rw [Command.write?] at h
    split at h
    · next hconvert =>
      cases h
      exact ordered_of_convert hc hconvert
    · cases h
  | _ => cases h

end Command

/-! ## Stores of a run -/

/-- **What a command does to a store** keeps its values in order. -/
theorem holdsOrdered_effect {c : Command} (hc : ∀ v ∈ c.values, v.Ordered) {t t' : Store}
    (he : Effect c t t') (ht : t.HoldsOrdered) : t'.HoldsOrdered := by
  intro k name v hv
  cases he with
  | stays => exact ht k name v hv
  | enters =>
    rw [Table.valueAt_enterScope] at hv
    exact ht k name v hv
  | exits _ hexit =>
    rw [Table.valueAt_exitScope hexit] at hv
    split at hv
    · exact ht k name v hv
    · cases hv
  | declares hd _ hdeclares =>
    rw [Table.valueAt_declare hd] at hv
    split at hv
    · cases hv
      exact ordered_of_declares? hc hdeclares
    · exact ht k name v hv
  | rebinds hr hwrite =>
    obtain ⟨i, _, _, _, _, hvalue⟩ := Table.valueAt_rebind? hr
    rw [hvalue] at hv
    split at hv
    · cases hv
      exact ordered_of_write? hc ht hwrite
    · exact ht k name v hv

/-- A block that closes keeps the values of the frames that are left. -/
theorem holdsOrdered_closeScoped {t : Store} (ht : t.HoldsOrdered) (floor : Nat) :
    Store.HoldsOrdered (t.closeScoped floor) := by
  intro k name v hv
  have hvalue : (t.closeScoped floor).valueAt k name =
      if k < t.floor - 1 then t.valueAt k name else none :=
    Table.valueIn_outermost (t.floor - 1) t.frames k name
  rw [hvalue] at hv
  split at hv
  · exact ht k name v hv
  · cases hv

section Runs

variable {p q : Place} {m : Moment} {ms : List Moment}

/-- A step keeps all values in order if the values that come with it are. -/
theorem holdsOrdered_step (hs : Step p m q) (hm : m.Ordered)
    (h : p.state.Forall Store.HoldsOrdered) : q.state.Forall Store.HoldsOrdered := by
  cases hs with
  | does hb s floors =>
    have hc := hm _ _ rfl
    exact State.Forall.run Store.holdsOrdered_new (holdsOrdered_effect hc) hb h
  | opens stops body s floors =>
    refine ⟨fun k name v hv => h.store k name v ?_, h.slots⟩
    exact (Table.valueAt_enterScope s.store k name).symm.trans hv
  | closes s floor floors => exact ⟨holdsOrdered_closeScoped h.store floor, h.slots⟩

/-- A run keeps all values in order if the values that come with it are. -/
theorem holdsOrdered_path (hp : Path p ms q) (hms : ∀ m ∈ ms, m.Ordered)
    (h : p.state.Forall Store.HoldsOrdered) : q.state.Forall Store.HoldsOrdered := by
  induction hp with
  | nil => exact h
  | cons first _ ih =>
    obtain ⟨hfirst, hlater⟩ := List.forall_mem_cons.mp hms
    exact ih hlater (holdsOrdered_step first hfirst h)

end Runs

/-- **The stores of a run hold values in order,** and so do the copies, if such values come with the
commands. -/
theorem holdsOrdered_stateAfter {script : List Command} {past : List Moment}
    (h : past <+: trace script) (hms : ∀ m ∈ past, m.Ordered) :
    (stateAfter .initial past).Forall Store.HoldsOrdered := by
  obtain ⟨floors, hpath⟩ := path_stateAfter h
  exact holdsOrdered_path hpath hms ⟨Store.holdsOrdered_new, fun _ _ hslot => by cases hslot⟩

/-- **Data values pass through the typed path unchanged.** In every store of every run, a data value
that is declared as typed data is declared, or refused, as it is, and so is one that a name is
updated with; and a binding that is read as a data value is what a look-up finds, or is not there
for either. All of this holds as well where values are handed over part by part and put together
again, if the values are as a program has them, with the members of objects in order. -/
theorem data_values_pass_unchanged {script : List Command} {past : List Moment}
    (h : past <+: trace script) (hms : ∀ m ∈ past, m.Ordered) (name : String) :
    let t := (stateAfter .initial past).store
    (∀ j : Json, Store.declareValue t name (.json j) = t.declare name j ∧
        Store.updateValue t name (.json j) = t.update name j) ∧
      Store.lookupAs t name .value = t.lookup name ∧
      (∀ j : Json, j.Ordered → Store.declareValue t name j.typed = t.declare name j ∧
        Store.updateValue t name j.typed = t.update name j) ∧
      Store.lookupWith t name Typed.readParts = t.lookup name := by
  intro t
  have hordered : t.HoldsOrdered := (holdsOrdered_stateAfter h hms).store
  refine ⟨fun j => Store.bind_of_toJson_eq rfl t name, ?_,
    fun j hj => Store.bind_of_toJson_eq ?_ t name, ?_⟩
  · rw [Store.lookupAs_eq_lookupWith]
    exact Store.lookupWith_eq_lookup fun _ _ => rfl
  · exact Json.toJson_typed hj
  · exact Store.lookupWith_eq_lookup fun v hget => Typed.readParts_eq (hordered.of_get? hget)

/-- An object with the least and the greatest integer, a double that is a negative zero, and another
object in it, which is handed over part by part and then gets one more member. -/
theorem data_values_pass_unchanged_nested :
    let j : Json := .object ⟨[("inner", .object ⟨[("zero", .float (.zero true))]⟩),
      ("limits", .array [.whole ⟨-2 ^ 63, by decide, by decide⟩,
        .whole ⟨2 ^ 64 - 1, by decide, by decide⟩])]⟩
    let script : List Command :=
      [.declareValue "x" j.typed, .enterScope, .edit "x" (.insert "more" .null)]
    let t := (stateAfter .initial (trace script)).store
    j.Ordered ∧ Store.declareValue t "y" j.typed = t.declare "y" j ∧
      (t.lookup "x").isOk = true ∧ Store.lookupWith t "x" Typed.readParts = t.lookup "x" := by
  intro j script t
  have hj : j.Ordered := by
    have hinner : (Json.object ⟨[("zero", .float (.zero true))]⟩).Ordered :=
      Json.ordered_object_iff.mpr ⟨List.pairwise_singleton _ _, by simp⟩
    refine Json.ordered_object_iff.mpr ⟨?_, by simp [hinner, Json.ordered_array_iff]⟩
    unfold Dict.Sorted
    decide
  have hms : ∀ m ∈ trace script, m.Ordered := by
    intro m hm
    rcases List.mem_cons.mp hm with rfl | hm
    · rintro _ _ ⟨⟩
      show ∀ v ∈ j.typed.jsons, v.Ordered
      simp [Json.jsons_typed]
    rcases List.mem_cons.mp hm with rfl | hm
    · rintro _ _ ⟨⟩ v hv
      cases hv
    obtain rfl := List.mem_singleton.mp hm
    rintro _ _ ⟨⟩
    exact List.forall_mem_singleton.mpr Json.ordered_null
  obtain ⟨-, -, hbind, -⟩ := data_values_pass_unchanged (List.prefix_refl _) hms "y"
  obtain ⟨-, -, -, hread⟩ := data_values_pass_unchanged (List.prefix_refl _) hms "x"
  exact ⟨hj, (hbind j hj).1, rfl, hread⟩

end Script

end LexicalScope
