import LexicalScope.Proofs.Ledger.Basic
import LexicalScope.Proofs.Script.Invariant
import LexicalScope.Proofs.Table.Visible

/-!
# Queries

A table can be asked in many ways what a name means. All of them go through the frames on their own,
some from the inside and some from the outside, and all of them tell of the same binding: the one in
the frame that the name resolves to.

* `Table.nearest?` — the value in the frame that a name resolves to
* `get?_eq_nearest?`, `lookup_eq_nearest?`, `rebind?_eq_nearest?` — what looking up and rebinding
  find
* `isLocal_eq_true_iff` — local names resolve to the innermost frame
* `queries_agree` — all queries in every state of every run
-/

namespace LexicalScope

namespace Table

variable {V : Type}

/-- What the frame that the name resolves to binds it to. -/
def nearest? (t : Table V) (name : String) : Option V :=
  (t.resolveDepth? name).bind fun i => t.valueAt i name

/-- **A look-up finds the binding in the frame that the name resolves to.** -/
theorem get?_eq_nearest? (t : Table V) (name : String) : t.get? name = t.nearest? name := by
  unfold nearest?
  cases hr : t.rebind? name id with
  | none =>
    have hget : t.get? name = none := rebind?_eq_none_iff.mp hr
    rw [hget, resolveDepth?_eq_none_iff.mpr hget]
    rfl
  | some result =>
    -- a rebinding tells both: the old value, and the depth that it is at
    obtain ⟨old, t'⟩ := result
    obtain ⟨i, hres, hold, _⟩ := valueAt_rebind? hr
    rw [← rebind?_old t name id, hr, hres]
    exact hold.symm

/-- A look-up finds the nearest binding, or says that there is none. -/
theorem lookup_eq_nearest? (t : Table V) (name : String) :
    t.lookup name = (t.nearest? name).elim (.error (.undefined name)) .ok := by
  rw [← get?_eq_nearest?, lookup]
  cases t.get? name <;> rfl

/-- A rebinding replaces the nearest binding. -/
theorem rebind?_eq_nearest? (t : Table V) (name : String) (f : V → V) :
    (t.rebind? name f).map (·.1) = t.nearest? name := by
  rw [rebind?_old, get?_eq_nearest?]

theorem nearest?_eq_none_iff {t : Table V} {name : String} :
    t.nearest? name = none ↔ t.resolveDepth? name = none := by
  rw [← get?_eq_nearest?, resolveDepth?_eq_none_iff]

theorem contains_eq_false_iff_resolveDepth? {t : Table V} {name : String} :
    t.contains name = false ↔ t.resolveDepth? name = none := by
  rw [contains_eq_false_iff, resolveDepth?_eq_none_iff]

/-- **Local names are those that resolve to the innermost frame.** -/
theorem isLocal_eq_true_iff {t : Table V} {name : String} :
    t.isLocal name = true ↔ 1 ≤ t.depth ∧ t.resolveDepth? name = some (t.depth - 1) := by
  rw [← isLocal_ledger, Ledger.isLocal, resolveDepth?_ledger]
  cases t.resolveDepth? name with
  | none => simp
  | some i =>
    have hdepth : t.ledger.depth = t.depth := rfl
    simp only [Option.any_some, beq_iff_eq, Option.some.injEq, hdepth]
    omega

end Table

namespace Script

/-- **All queries agree in every state of every run.** A name resolves to the greatest depth that
binds it, and every look-up finds the value that is there. A name that resolves to no depth is not
found, and local names resolve to the innermost frame. In whatever order the frames are listed, the
bindings that can be seen are those that a look-up finds, each name once. -/
theorem queries_agree {script : List Command} {past : List Moment} (h : past <+: trace script) :
    let t := (stateAfter .initial past).store
    (∀ name i, t.resolveDepth? name = some i ↔
        (t.valueAt i name).isSome ∧ ∀ j, i < j → t.valueAt j name = none) ∧
      (∀ name, t.get? name = t.nearest? name ∧
        t.lookup name = (t.nearest? name).elim (.error (.undefined name)) .ok ∧
        (∀ f, (t.rebind? name f).map (·.1) = t.nearest? name) ∧
        (t.nearest? name = none ↔ t.resolveDepth? name = none) ∧
        (t.contains name = false ↔ t.resolveDepth? name = none)) ∧
      (∀ name, t.isLocal name = true ↔
        1 ≤ t.depth ∧ t.resolveDepth? name = some (t.depth - 1)) ∧
      ∀ orders, t.Listing orders →
        ((unseen [] orders.flatten).map (·.1)).Nodup ∧
          (∀ name v, (name, v) ∈ unseen [] orders.flatten ↔ t.get? name = some v) ∧
          (unseen [] orders.flatten).Perm t.visible := by
  intro t
  have hordered : t.Ordered := ordered_stateAfter h
  refine ⟨fun name i => Table.resolveDepth?_eq_some_iff, fun name => ?_,
    fun name => Table.isLocal_eq_true_iff, fun orders horders => ?_⟩
  · exact ⟨t.get?_eq_nearest? name, t.lookup_eq_nearest? name, t.rebind?_eq_nearest? name,
      Table.nearest?_eq_none_iff, Table.contains_eq_false_iff_resolveDepth?⟩
  · exact ⟨nodup_names_unseen [] _,
      fun name v => Table.mem_unseen_listing_iff hordered horders,
      Table.perm_unseen_listing hordered horders⟩

/-- A name that is bound in the root and again in a scope, with the root listed backwards: the
binding of the scope is seen, and the one of the root is not. -/
theorem queries_agree_shadowing :
    let script : List Command :=
      [.declare {} "x" .null, .declare {} "y" .null, .enterScope, .declare {} "x" (.bool true)]
    let orders : List (List (String × Json)) :=
      [[("x", .bool true)], [("y", .null), ("x", .null)]]
    trace script <+: trace script ∧ (stateAfter .initial (trace script)).store.Listing orders ∧
      ("x", .bool true) ∈ unseen [] orders.flatten ∧ ("x", .null) ∉ unseen [] orders.flatten ∧
      (stateAfter .initial (trace script)).store.isLocal "y" = false := by
  intro script orders
  have hpast : trace script <+: trace script := List.prefix_refl _
  obtain ⟨_, _, hlocal, hvisible⟩ := queries_agree hpast
  have hlisting : (stateAfter .initial (trace script)).store.Listing orders :=
    .cons (List.Perm.refl _) (.cons (List.Perm.swap _ _ _) .nil)
  obtain ⟨_, hmem, _⟩ := hvisible orders hlisting
  refine ⟨hpast, hlisting, (hmem _ _).mpr rfl, fun hc => ?_, ?_⟩
  · cases (hmem _ _).mp hc
  · rw [← Bool.not_eq_true, hlocal]
    rintro ⟨_, hres⟩
    cases hres

end Script

end LexicalScope
