import LexicalScope.Proofs.Script.Lifetime
import LexicalScope.Proofs.Script.Queries
import LexicalScope.Proofs.Typed.RoundTrip
import Mathlib.Algebra.Group.Int.Defs

/-!
# Typed values in a store

A typed value that is stored under a name is read from the name as it was, and it stays so for as
long as the frame is there that the name resolved to, nothing is put under the name there, and the
name is not bound further in.

* `Store.declareValue_lookupAs`, `Store.updateValue_lookupAs` — reading right after storing
* `Moment.Stores`, `Moment.Spares` — what stores a value, and what leaves a binding alone
* `valueAt_of_spares` — a binding along a path that leaves it alone
* `stored_value_survives` — typed values in every run
-/

namespace LexicalScope

namespace Table

variable {V : Type} {t : Table V} {name : String} {v : V}

theorem lt_depth_of_valueAt {k : Nat} (h : t.valueAt k name = some v) : k < t.depth := by
  refine Nat.lt_of_not_le fun hle => ?_
  rw [valueAt, valueIn_eq_none_of_length_le hle] at h
  cases h

/-- A name that is found resolves to a depth where it has the value that is found. -/
theorem exists_resolveDepth?_of_get? (h : t.get? name = some v) :
    ∃ k, t.resolveDepth? name = some k ∧ t.valueAt k name = some v := by
  rw [get?_eq_nearest?] at h
  exact Option.bind_eq_some_iff.mp h

end Table

namespace Store

variable {t : Store} {name : String} {s : Schema} {x : s.Carrier}

/-- What a name is bound to is what it is read from. -/
theorem lookupAs_of_get? {v : Json} (hget : t.get? name = some v) (hread : s.read v = .ok x) :
    lookupAs t name s = .ok x := by
  rw [lookupAs, Table.lookup, hget]
  simp only [hread]

/-- **A value that is declared is read back.** -/
theorem declareValue_lookupAs (hd : 0 < t.depth) (hv : ValidName name) (hs : s.isNarrow = true)
    (hx : s.Proper x) :
    ∃ t', declareValue t name (s.datum x) = .ok t' ∧ lookupAs t' name s = .ok x := by
  obtain ⟨v, hjson, hread⟩ := Schema.readsBack hs hx
  obtain ⟨t', ht'⟩ := Table.exists_declare_eq_ok hd hv v
  have hget : t'.get? name = some v := by
    rw [Table.get?_declare ht', if_pos rfl]
  refine ⟨t', ?_, lookupAs_of_get? hget hread⟩
  rw [declareValue, convert, hjson]
  exact ht'

/-- **A value that a bound name is updated with is read back.** -/
theorem updateValue_lookupAs (hb : t.Binds name) (hs : s.isNarrow = true) (hx : s.Proper x) :
    ∃ old t', updateValue t name (s.datum x) = .ok (old, t') ∧ lookupAs t' name s = .ok x := by
  obtain ⟨v, hjson, hread⟩ := Schema.readsBack hs hx
  obtain ⟨old, t', hr⟩ := Table.exists_rebind?_of_binds hb fun _ => v
  have hget : t'.get? name = some v := by
    rw [Table.get?_rebind? hr, if_pos rfl]
  refine ⟨old, t', ?_, lookupAs_of_get? hget hread⟩
  rw [updateValue, convert, hjson]
  simp only [Table.update, hr]

end Store

namespace Script

/-! ## Bindings that are left alone -/

/-- The moment stores the value under the name. -/
def Moment.Stores (m : Moment) (name : String) (d : Datum) : Prop :=
  ∃ a, a.isFailure = false ∧
    (m.event = .does (.declareValue name d) a ∨ m.event = .does (.updateValue name d) a)

/-- The moment leaves the table in place, the frame at depth `k` open, and puts nothing under the
name there. -/
structure Moment.Spares (m : Moment) (k : Nat) (name : String) : Prop where
  keeps : ∀ c a, m.event = .does c a → c.keepsTable = true
  stays_open : k < m.after.store.depth
  puts_none : m.put? k name = none

theorem Moment.Spares.does {c : Command} {a : Answer} {s s' : State} {k : Nat} {name : String}
    (hc : c.keepsTable = true) (hopen : k < s'.store.depth)
    (hputs : Moment.put? k name ⟨s, .does c a, s'⟩ = none) :
    Moment.Spares ⟨s, .does c a, s'⟩ k name := by
  refine ⟨fun c' a' h => ?_, hopen, hputs⟩
  obtain ⟨rfl, -⟩ := Event.does.inj h
  exact hc

section Frames

variable {p q : Place} {m : Moment} {ms : List Moment} {k : Nat} {name : String}

/-- A step that spares a binding leaves its value. -/
theorem valueAt_of_spares_step (hs : Step p m q) (h : m.Spares k name)
    (hp : k < p.state.store.depth) :
    q.state.store.valueAt k name = p.state.store.valueAt k name := by
  obtain ⟨hkeeps, hopen, hputs⟩ := h
  rw [hs.after_eq] at hopen
  cases hs with
  | opens stops body s floors => exact Table.valueAt_enterScope s.store k name
  | does hb s floors =>
    rw [valueAt_put_step (.does hb s floors) (hkeeps _ _ rfl) hp hopen, hputs, Option.none_or]
  | closes s floor floors =>
    rw [valueAt_put_step (.closes s floor floors) rfl hp hopen, hputs, Option.none_or]

/-- **A binding that is left alone keeps its value.** -/
theorem valueAt_of_spares (h : Path p ms q) (hms : ∀ m ∈ ms, m.Spares k name)
    (hp : k < p.state.store.depth) :
    q.state.store.valueAt k name = p.state.store.valueAt k name := by
  induction h with
  | nil => rfl
  | cons first later ih =>
    obtain ⟨hfirst, hlater⟩ := List.forall_mem_cons.mp hms
    have hopen := hfirst.stays_open
    rw [first.after_eq] at hopen
    rw [ih hlater hopen, valueAt_of_spares_step first hfirst hp]

end Frames

/-! ## Runs -/

/-- What a moment has stored is what the name is bound to after it. -/
theorem get?_of_stores {p q : Place} {m : Moment} {name : String} {d : Datum} {v : Json}
    (hs : Step p m q) (h : m.Stores name d) (hjson : d.toJson = .ok v) :
    q.state.store.get? name = some v := by
  obtain ⟨a, ha, hevent⟩ := h
  cases hs with
  | opens => rcases hevent with hevent | hevent <;> cases hevent
  | closes => rcases hevent with hevent | hevent <;> cases hevent
  | does hb s floors =>
    rcases hevent with hevent | hevent
    · -- a declaration that does not fail
      obtain ⟨rfl, rfl⟩ := Event.does.inj hevent
      rw [(run_declareValue s name).1 v hjson] at ha ⊢
      have hreplace : (Command.declare {} name v).replacement? s = none := by
        rw [Command.replacement?]
        split <;> rfl
      rcases run_declare_cases hreplace with ⟨t, ht, hstore, -⟩ | ⟨-, hfails⟩
      · rw [hstore, Table.get?_declare ht, if_pos rfl]
      · rw [ha] at hfails
        cases hfails
    · -- an update that does not fail
      obtain ⟨rfl, rfl⟩ := Event.does.inj hevent
      rw [(run_updateValue s name).1 v hjson] at ha ⊢
      rw [Command.run] at ha ⊢
      cases hu : s.store.update name v with
      | error r =>
        rw [hu] at ha
        cases ha
      | ok result =>
        obtain ⟨old, t⟩ := result
        show t.get? name = some v
        rw [Table.get?_rebind? (update_eq_ok hu), if_pos rfl]

/-- **Typed values survive in a store.** A value of a type that data values can hold is declared
under every valid name where there is a frame, and updates every name that is bound, and it is read
back as the same value. After a moment of a run that stores it the name resolves to the depth where
the value is, and after any moments that leave this binding alone it is still read as the same
value, unless the name is bound further in. -/
theorem stored_value_survives {s : Schema} (hs : s.isNarrow = true) {x : s.Carrier}
    (hx : s.Proper x) (name : String) :
    (∀ t : Store, 0 < t.depth → ValidName name →
        ∃ t', Store.declareValue t name (s.datum x) = .ok t' ∧
          Store.lookupAs t' name s = .ok x) ∧
      (∀ t : Store, t.Binds name →
        ∃ old t', Store.updateValue t name (s.datum x) = .ok (old, t') ∧
          Store.lookupAs t' name s = .ok x) ∧
      ∀ script past m, past ++ [m] <+: trace script → m.Stores name (s.datum x) →
        ∃ k, m.after.store.resolveDepth? name = some k ∧
          ∀ between, past ++ m :: between <+: trace script →
            (∀ m' ∈ between, m'.Spares k name) →
            let t := (stateAfter .initial (past ++ m :: between)).store
            (∀ j, k < j → t.valueAt j name = none) → Store.lookupAs t name s = .ok x := by
  refine ⟨fun t hd hv => Store.declareValue_lookupAs hd hv hs hx,
    fun t hb => Store.updateValue_lookupAs hb hs hx, fun script past m hm hstores => ?_⟩
  obtain ⟨v, hjson, hread⟩ := Schema.readsBack hs hx
  have hstored : m.after.store.get? name = some v := by
    obtain ⟨floors, hpath⟩ := path_stateAfter hm
    obtain ⟨p, -, hmoment⟩ := hpath.of_append
    cases hmoment with
    | cons first _ =>
      rw [first.after_eq]
      exact get?_of_stores first hstores hjson
  obtain ⟨k, hresolve, hvalue⟩ := Table.exists_resolveDepth?_of_get? hstored
  refine ⟨k, hresolve, ?_⟩
  intro between hbetween hspares t hnearest
  have hkept : t.valueAt k name = some v := by
    obtain ⟨floors, hpath⟩ := path_stateAfter hbetween
    obtain ⟨p, -, hmoments⟩ := hpath.of_append
    cases hmoments with
    | cons first later =>
      rw [first.after_eq] at hvalue
      exact (valueAt_of_spares later hspares (Table.lt_depth_of_valueAt hvalue)).trans hvalue
  have hshown : t.resolveDepth? name = some k :=
    Table.resolveDepth?_eq_some_iff.mpr ⟨by rw [hkept]; rfl, hnearest⟩
  refine Store.lookupAs_of_get? ?_ hread
  rw [Table.get?_eq_nearest?, Table.nearest?, hshown]
  exact hkept

/-- A map whose keys are the least and the greatest integers of their kind, and are in another order
as texts. It stays under a name that is bound once more in a scope and written there. -/
theorem stored_value_survives_shadowing :
    let x : Schema.integerKeys.Carrier :=
      ⟨[(⟨-2 ^ 63, by decide⟩, true), (⟨0, by decide⟩, false), (⟨2 ^ 63 - 1, by decide⟩, true)]⟩
    let script : List Command :=
      [.declare {} "x" .null, .updateValue "x" (Schema.integerKeys.datum x), .enterScope,
        .declare {} "x" .null, .updateOrDeclare "x" (.bool true), .exitScope]
    Schema.integerKeys.isNarrow = true ∧ Schema.integerKeys.Proper x ∧
      (∃ t', Store.declareValue Table.new "x" (Schema.integerKeys.datum x) = .ok t' ∧
        Store.lookupAs t' "x" .integerKeys = .ok x) ∧
      Store.lookupAs (stateAfter .initial (trace script)).store "x" .integerKeys = .ok x := by
  intro x script
  have hx : Schema.integerKeys.Proper x := by
    show x.entries.Pairwise fun a b => compare a.1 b.1 = .lt
    decide
  obtain ⟨hdeclare, _, hsurvive⟩ := stored_value_survives (s := .integerKeys) rfl hx "x"
  refine ⟨rfl, hx, hdeclare _ (by decide) (by decide), ?_⟩
  obtain ⟨k, hk, hlater⟩ := hsurvive script ((trace script).take 1)
    ((trace script).get ⟨1, Nat.lt_of_sub_eq_succ rfl⟩) ⟨(trace script).drop 2, rfl⟩
    ⟨.value .null, rfl, Or.inr rfl⟩
  obtain rfl : 0 = k := Option.some.inj hk
  refine hlater ((trace script).drop 2) (List.prefix_refl _) ?_ ?_
  · intro m hm
    rcases List.mem_cons.mp hm with rfl | hm
    · exact .does rfl (by decide) rfl
    rcases List.mem_cons.mp hm with rfl | hm
    · exact .does rfl (by decide) rfl
    rcases List.mem_cons.mp hm with rfl | hm
    · exact .does rfl (by decide) rfl
    obtain rfl := List.mem_singleton.mp hm
    exact .does rfl (by decide) rfl
  · intro j hj
    exact Table.valueIn_eq_none_of_length_le hj "x"

end Script

end LexicalScope
