import LexicalScope.Proofs.Script.Effect

/-!
# Rebindings

A bound name is given another value in four ways: by `update`, by `updateOrDeclare`, by
`updateValue`, and in place. All four change the binding that the name resolves to, and nothing
else. Only `updateOrDeclare` takes a name that is not bound, and then it is a declaration, in the
innermost frame and nowhere else.

* `Table.RebindsAt` — two tables that differ in the value of one name in one frame
* `rebindsAt_of_rebind?` — what a rebinding does to a table
* `updateOrDeclare_of_declare` — what is declared first is declared again
* `rebinding_paths_agree` — the four ways in every state
-/

namespace LexicalScope

namespace Table

variable {V : Type}

/-- The second table has another value of the name in the frame at the depth, and is the first in
all else. -/
structure RebindsAt (t t' : Table V) (i : Nat) (name : String) (value : V) : Prop where
  floor_eq : t'.floor = t.floor
  depth_eq : t'.depth = t.depth
  /-- each frame binds the names that it bound -/
  keys_eq : t'.frames.map Dict.keys = t.frames.map Dict.keys
  size_eq : t'.frames.map Dict.size = t.frames.map Dict.size
  /-- the other frames are as they were, what they bind the name to included -/
  frame_eq : ∀ j : Nat, j ≠ i → t'.rootFirst[j]? = t.rootFirst[j]?
  valueAt_eq : ∀ j other, t'.valueAt j other =
    if j = i ∧ other = name then some value else t.valueAt j other
  resolveDepth?_eq : ∀ other, t'.resolveDepth? other = t.resolveDepth? other
  get?_eq : ∀ other, t'.get? other = if other = name then some value else t.get? other

theorem size_eq_of_keys_eq {frames frames' : List (Frame V)}
    (h : frames'.map Dict.keys = frames.map Dict.keys) :
    frames'.map Dict.size = frames.map Dict.size := by
  have hsize : ∀ frames : List (Frame V),
      frames.map Dict.size = (frames.map Dict.keys).map List.length := by
    intro frames
    simp [Dict.size, Dict.keys]
  rw [hsize, hsize, h]

/-- Where a name resolves to is told by the names that the frames bind. -/
theorem resolveDepth?_eq_of_keys_eq {t t' : Table V}
    (h : t'.frames.map Dict.keys = t.frames.map Dict.keys) (name : String) :
    t'.resolveDepth? name = t.resolveDepth? name := by
  have hdepth : t'.depth = t.depth := by
    simpa [depth] using congrArg List.length h
  have hfind : ∀ frames : List (Frame V), (frames.findIdx? fun frame => frame.contains name) =
      (frames.map Dict.keys).findIdx? fun names => decide (name ∈ names) := by
    intro frames
    rw [List.findIdx?_map]
    congr 1
    funext frame
    rw [Function.comp_apply, Bool.eq_iff_iff, decide_eq_true_iff]
    exact Dict.mem_keys_iff.symm
  unfold resolveDepth?
  rw [hfind, hfind, h, hdepth]

/-- A name that resolves to a depth can be rebound. -/
theorem exists_rebind?_of_resolveDepth? {t : Table V} {name : String} {i : Nat}
    (h : t.resolveDepth? name = some i) (f : V → V) :
    ∃ old t', t.get? name = some old ∧ t.rebind? name f = some (old, t') := by
  cases hr : t.rebind? name f with
  | none =>
    rw [resolveDepth?_eq_none_iff.mpr (rebind?_eq_none_iff.mp hr)] at h
    cases h
  | some result =>
    obtain ⟨old, t'⟩ := result
    refine ⟨old, t', ?_, rfl⟩
    rw [← rebind?_old t name f, hr]
    rfl

/-- **A rebinding changes the value of its name in the frame that the name resolves to, and nothing
else.** -/
theorem rebindsAt_of_rebind? {t t' : Table V} {name : String} {f : V → V} {old : V}
    (h : t.rebind? name f = some (old, t')) {i : Nat} (hi : t.resolveDepth? name = some i) :
    t.RebindsAt t' i name (f old) := by
  have hkeys := keys_rebind? h
  obtain ⟨j, hj, _, hdepth, hfloor, hvalue⟩ := valueAt_rebind? h
  obtain rfl : j = i := Option.some.inj (hj.symm.trans hi)
  refine ⟨hfloor, hdepth, hkeys, size_eq_of_keys_eq hkeys, ?_, hvalue,
    resolveDepth?_eq_of_keys_eq hkeys, get?_rebind? h⟩
  obtain ⟨frames', hr, rfl⟩ := rebind?_eq_some h
  obtain ⟨k, hk, _, hframes⟩ := frames_rebindIn hr t.floor
  obtain rfl : k = j := Option.some.inj (hk.symm.trans hj)
  intro other hother
  simpa [rootFirst, hother] using hframes other

/-- Where the name is bound, an update that may declare is an update. -/
theorem updateOrDeclare_of_rebind? {t t' : Table V} {name : String} {value old : V}
    (h : t.rebind? name (fun _ => value) = some (old, t')) :
    t.updateOrDeclare name value = .ok (some old, t') := by
  rw [updateOrDeclare, h]

/-! ## Names that are not bound -/

/-- A name that has just been declared is local. -/
theorem isLocal_of_declare {t t' : Table V} {name : String} {value : V}
    (h : t.declare name value = .ok t') : t'.isLocal name = true := by
  obtain ⟨_, frame, rest, _, rfl⟩ := declare_eq_ok_iff.mp h
  simp [isLocal, Dict.contains, Dict.get?_insert_self]

section Unbound

variable {t : Table V} {name : String} (hn : t.resolveDepth? name = none)

include hn

theorem updateOrDeclare_of_unbound (value : V) :
    t.updateOrDeclare name value = (t.declare name value).map fun t' => (none, t') := by
  have hr : t.rebind? name (fun _ => value) = none :=
    rebind?_eq_none_iff.mpr (resolveDepth?_eq_none_iff.mp hn)
  rw [updateOrDeclare, hr]
  cases t.declare name value <;> rfl

/-- **What has been declared is declared again by `updateOrDeclare`,** which finds it in the
innermost frame. -/
theorem updateOrDeclare_of_declare {t' : Table V} {value : V}
    (h : t.declare name value = .ok t') (again : V) :
    ∃ t'', t'.declare name again = .ok t'' ∧
      t'.updateOrDeclare name again = .ok (some value, t'') := by
  obtain ⟨hv, frame, rest, hf, rfl⟩ := declare_eq_ok_iff.mp h
  have hunbound : frame.get? name = none := by
    have hget := resolveDepth?_eq_none_iff.mp hn
    rw [get?, hf, List.findSome?_cons] at hget
    cases hg : frame.get? name with
    | none => rfl
    | some v => simp [hg] at hget
  refine ⟨⟨frame.insert name again :: rest, t.floor⟩, ?_, ?_⟩
  · -- the second declaration takes the place of the first
    refine declare_eq_ok_iff.mpr ⟨hv, _, rest, rfl, ?_⟩
    rw [Dict.insert_insert]
  · rw [updateOrDeclare, rebind?, rebindIn, Dict.get?_insert_self]
    simp [Dict.modify_insert_of_get?_eq_none hunbound]

end Unbound

end Table

namespace Script

/-! ## The four ways -/

section Bound

variable {s : State} {name : String} {v old : Json} {t : Store}
  (h : s.store.rebind? name (fun _ => v) = some (old, t))

include h

/-- The old value is the answer of an update. -/
theorem run_update_of_rebind? :
    (Command.update name v).run s = (.value old, { s with store := t }) := by
  rw [Command.run, Table.update, h]

theorem run_updateValue_of_rebind? {d : Datum} (hd : d.toJson = .ok v) :
    (Command.updateValue name d).run s = (.value old, { s with store := t }) := by
  rw [Command.run, Store.updateValue, Store.convert, hd]
  dsimp only
  rw [Table.update, h]

theorem run_edit_of_rebind? :
    (Command.edit name (.set v)).run s = (.found (some v), { s with store := t }) := by
  have hedit : s.store.rebind? name (Edit.set v).apply = some (old, t) := h
  rw [Command.run, hedit]
  rfl

end Bound

theorem run_declare_of_declare {s : State} {name : String} {v : Json} {t : Store}
    (h : s.store.declare name v = .ok t) :
    (Command.declare {} name v).run s = (.granted, { s with store := t }) := by
  rw [Command.run, declare, h]
  rfl

theorem run_updateOrDeclare_of_ok {s : State} {name : String} {v : Json} {old : Option Json}
    {t : Store} (h : s.store.updateOrDeclare name v = .ok (old, t)) :
    (Command.updateOrDeclare name v).run s = (.replaced old, { s with store := t }) := by
  rw [Command.run, h]

/-- **All ways to rebind a name agree.** In every state a name that resolves to a depth is given the
same new value by each of them, in the frame at that depth and with no other change, and each of
them finds the old value that a look-up finds. A valid name that is not bound is declared by
`updateOrDeclare`, which finds no old value. From then on the name is local, and `updateOrDeclare`
does to it what another declaration does, but that it tells the value of the first. -/
theorem rebinding_paths_agree (s : State) (name : String) (v : Json) :
    (∀ i, s.store.resolveDepth? name = some i →
      ∃ old t, s.store.get? name = some old ∧ s.store.RebindsAt t i name v ∧
        (Command.update name v).run s = (.value old, { s with store := t }) ∧
        (Command.updateOrDeclare name v).run s =
          (.replaced (some old), { s with store := t }) ∧
        (∀ d : Datum, d.toJson = .ok v →
          (Command.updateValue name d).run s = (.value old, { s with store := t })) ∧
        s.store.rebind? name (Edit.set v).apply = some (old, t) ∧
        (Command.edit name (.set v)).run s = (.found (some v), { s with store := t })) ∧
      (0 < s.store.depth → ValidName name → s.store.resolveDepth? name = none →
        ∃ t, (Command.declare {} name v).run s = (.granted, { s with store := t }) ∧
          (Command.updateOrDeclare name v).run s = (.replaced none, { s with store := t }) ∧
          t.isLocal name = true ∧
          ∀ w, ∃ t',
            (Command.declare {} name w).run { s with store := t } =
                (.granted, { s with store := t' }) ∧
              (Command.updateOrDeclare name w).run { s with store := t } =
                (.replaced (some v), { s with store := t' })) := by
  constructor
  · intro i hi
    obtain ⟨old, t, hold, hr⟩ := Table.exists_rebind?_of_resolveDepth? hi fun _ => v
    exact ⟨old, t, hold, Table.rebindsAt_of_rebind? hr hi, run_update_of_rebind? hr,
      run_updateOrDeclare_of_ok (Table.updateOrDeclare_of_rebind? hr),
      fun d hd => run_updateValue_of_rebind? hr hd, hr, run_edit_of_rebind? hr⟩
  · intro hd hv hn
    obtain ⟨t, ht⟩ := Table.exists_declare_eq_ok hd hv v
    have hfirst : s.store.updateOrDeclare name v = .ok (none, t) := by
      rw [Table.updateOrDeclare_of_unbound hn, ht]
      rfl
    refine ⟨t, run_declare_of_declare ht, run_updateOrDeclare_of_ok hfirst,
      Table.isLocal_of_declare ht, fun w => ?_⟩
    obtain ⟨t', hagain, hupdate⟩ := Table.updateOrDeclare_of_declare hn ht w
    exact ⟨t', run_declare_of_declare hagain, run_updateOrDeclare_of_ok hupdate⟩

/-- A name that is bound in the root and in a scope, with a scope in between: the binding of the
scope is given the new value, and that of the root is found again when the scope is closed. A name
that is bound nowhere is declared in the innermost scope. -/
theorem rebinding_paths_agree_shadowing :
    let s : State := ⟨⟨[∅, ⟨[("x", .bool true), ("y", .null)]⟩, ⟨[("x", .null)]⟩], 1⟩, ∅⟩
    s.store.resolveDepth? "x" = some 1 ∧
      (∃ t,
        (Command.update "x" (.string "n")).run s = (.value (.bool true), { s with store := t }) ∧
        (Command.updateValue "x" (.char 'n')).run s =
          (.value (.bool true), { s with store := t }) ∧
        t.valueAt 0 "x" = some .null ∧ t.get? "y" = some .null) ∧
      0 < s.store.depth ∧ ValidName "z" ∧ s.store.resolveDepth? "z" = none ∧
      ∃ t, (Command.updateOrDeclare "z" .null).run s = (.replaced none, { s with store := t }) ∧
        t.isLocal "z" = true := by
  intro s
  have hd : 0 < s.store.depth := by decide
  have hv : ValidName "z" := by decide
  have hz : s.store.resolveDepth? "z" = none := rfl
  obtain ⟨hbound, -⟩ := rebinding_paths_agree s "x" (.string "n")
  obtain ⟨old, t, hold, hchange, hupdate, -, hvalue, -, -⟩ := hbound 1 rfl
  obtain rfl : Json.bool true = old := Option.some.inj hold
  obtain ⟨-, hunbound⟩ := rebinding_paths_agree s "z" .null
  obtain ⟨t', -, hdeclared, hlocal, -⟩ := hunbound hd hv hz
  refine ⟨rfl, ⟨t, hupdate, hvalue (.char 'n') rfl, ?_, ?_⟩, hd, hv, hz, t', hdeclared, hlocal⟩
  · rw [hchange.valueAt_eq]
    rfl
  · rw [hchange.get?_eq]
    rfl

end Script

end LexicalScope
