import LexicalScope.Proofs.Script.Stored

/-!
# Integers in a store

An integer is stored as it is or not at all. A store holds the integers from -2^63 to 2^64 - 1,
whatever kind an integer has when it is stored; and of those that it holds, each kind reads the ones
in its own range, as they are, and no other.

* `Whole.Fits` — the integers that a store holds
* `toJson_integer_of_fits`, `toJson_integer_of_not_fits`, `toJson_integer_congr` — what becomes of
  an integer goes by its value and not by its kind
* `Store.reading`, `Store.lookupAs_integer` — what a kind reads of an integer
* `isFailure_declare_iff`, `isFailure_update_iff` — what else storing a value needs: a valid name
  and a frame, or a binding
* `integers_stay_exact_iff` — all of it together
* `no_integer_after_reset_in_block` — a block can leave no frame to declare anything in
-/

namespace LexicalScope

/-! ## Integers as data values -/

namespace Whole

/-- The integer is not below the least of 64 bits with a sign, nor above the greatest without. -/
def Fits (n : Int) : Prop := -2 ^ 63 ≤ n ∧ n ≤ 2 ^ 64 - 1

instance (n : Int) : Decidable (Fits n) := inferInstanceAs (Decidable (_ ∧ _))

variable {n : Int}

/-- An integer that fits, as a data value holds it. -/
def ofFits (h : Fits n) : Whole := ⟨n, h.1, Int.lt_of_le_sub_one h.2⟩

theorem ofInt?_of_fits (h : Fits n) : ofInt? n = some (ofFits h) :=
  dif_pos ⟨h.1, Int.lt_of_le_sub_one h.2⟩

theorem ofInt?_of_not_fits (h : ¬ Fits n) : ofInt? n = none :=
  dif_neg fun hn => h ⟨hn.1, Int.le_sub_one_of_lt hn.2⟩

end Whole

section Writing

variable {k : IntegerKind} {n : BoundedInt k}

/-- An integer that fits is its own data value, whatever its kind. -/
theorem toJson_integer_of_fits (h : Whole.Fits n.val) :
    (Datum.integer k n).toJson = .ok (.whole (.ofFits h)) := by
  rw [Datum.toJson, Whole.ofInt?_of_fits h]

theorem toJson_integer_of_not_fits (h : ¬ Whole.Fits n.val) :
    (Datum.integer k n).toJson = .error .numberOutOfRange := by
  rw [Datum.toJson, Whole.ofInt?_of_not_fits h]

/-- The kind leaves no trace in the data value. -/
theorem toJson_integer_congr {j : IntegerKind} {m : BoundedInt j} (h : m.val = n.val) :
    (Datum.integer j m).toJson = (Datum.integer k n).toJson := by
  rw [Datum.toJson, Datum.toJson, h]

end Writing

namespace Store

/-- What a kind reads of an integer: the integer itself, or that it is out of range. -/
def reading (k : IntegerKind) (n : Int) : Except Refusal (BoundedInt k) :=
  if h : k.Mem n then .ok ⟨n, h⟩
  else .error (.unconvertible (ReadError.invalidValue (.integer n) k.name).message)

/-- **An integer is read as it is or refused.** -/
theorem lookupAs_integer {t : Store} {name : String} {w : Whole}
    (hget : t.get? name = some (.whole w)) (k : IntegerKind) :
    lookupAs t name (.integer k) = reading k w.val := by
  rw [lookupAs, Table.lookup, hget]
  by_cases h : k.Mem w.val
  · have hread : (Schema.integer k).read (.whole w) = .ok ⟨w.val, h⟩ := by
      rw [Schema.read, Typed.readInteger, BoundedInt.ofInt?, dif_pos h]
    rw [reading, dif_pos h]
    simp only [hread]
  · have hread : (Schema.integer k).read (.whole w) =
        .error (.invalidValue (.integer w.val) k.name) := by
      rw [Schema.read, Typed.readInteger, BoundedInt.ofInt?_eq_none h]
    rw [reading, dif_neg h]
    simp only [hread]

end Store

namespace Script

variable {s : State} {name : String}

/-! ## What else storing a value needs -/

/-- A declaration succeeds exactly if the name is valid and there is a frame. -/
theorem isFailure_declare_iff (v : Json) :
    ((Command.declare {} name v).run s).1.isFailure = false ↔
      ValidName name ∧ 0 < s.store.depth := by
  rw [Command.run, declare]
  constructor
  · intro h
    cases hd : s.store.declare name v with
    | error e =>
      rw [hd] at h
      cases e <;> cases h
    | ok t =>
      obtain ⟨hv, frame, rest, hframes, -⟩ := Table.declare_eq_ok_iff.mp hd
      refine ⟨hv, ?_⟩
      rw [Table.depth, hframes]
      exact Nat.succ_pos _
  · rintro ⟨hv, hd⟩
    obtain ⟨t, ht⟩ := Table.exists_declare_eq_ok hd hv v
    rw [ht]
    rfl

theorem isFailure_update_iff (v : Json) :
    ((Command.update name v).run s).1.isFailure = false ↔ s.store.Binds name := by
  rw [← Bool.not_eq_true, (failsIff_update s name v).fails_iff, Classical.not_not]

/-- A value is stored for its data value alone. -/
theorem run_eq_of_toJson_eq {d d' : Datum} (h : d'.toJson = d.toJson) :
    (Command.declareValue name d').run s = (Command.declareValue name d).run s ∧
      (Command.updateValue name d').run s = (Command.updateValue name d).run s := by
  have hconvert : Store.convert d' = Store.convert d := by
    rw [Store.convert, Store.convert, h]
  refine ⟨?_, ?_⟩
  · rw [Command.run, Command.run, Store.declareValue, Store.declareValue, hconvert]
  · rw [Command.run, Command.run, Store.updateValue, Store.updateValue, hconvert]

/-! ## Storing an integer -/

/-- The commands that store a typed value under a name. -/
def storing (name : String) (d : Datum) : List Command :=
  [.declareValue name d, .updateValue name d]

theorem mem_storing_iff {c : Command} {d : Datum} :
    c ∈ storing name d ↔ c = .declareValue name d ∨ c = .updateValue name d := by
  simp [storing]

section Storing

variable {k : IntegerKind} {n : BoundedInt k}

/-- An integer that does not fit is refused, and nothing happens. -/
theorem run_integer_of_not_fits (h : ¬ Whole.Fits n.val) {c : Command}
    (hc : c ∈ storing name (.integer k n)) :
    c.run s = (.refused (.unconvertible "number out of range"), s) := by
  have herror := toJson_integer_of_not_fits h
  rcases mem_storing_iff.mp hc with rfl | rfl
  · exact (run_declareValue s name).2 _ herror
  · exact (run_updateValue s name).2 _ herror

theorem isFailure_of_not_fits (h : ¬ Whole.Fits n.val) {c : Command}
    (hc : c ∈ storing name (.integer k n)) : (c.run s).1.isFailure = true := by
  rw [run_integer_of_not_fits h hc]
  rfl

/-- A valid name is declared exactly if the integer fits and there is a frame. -/
theorem isFailure_declareValue_iff (hv : ValidName name) :
    ((Command.declareValue name (.integer k n)).run s).1.isFailure = false ↔
      Whole.Fits n.val ∧ 0 < s.store.depth := by
  by_cases h : Whole.Fits n.val
  · rw [(run_declareValue s name).1 _ (toJson_integer_of_fits h), isFailure_declare_iff]
    simp only [hv, h]
  · simp [isFailure_of_not_fits h (mem_storing_iff.mpr (Or.inl rfl)), h]

/-- A bound name is updated exactly if the integer fits. -/
theorem isFailure_updateValue_iff (hb : s.store.Binds name) :
    ((Command.updateValue name (.integer k n)).run s).1.isFailure = false ↔
      Whole.Fits n.val := by
  by_cases h : Whole.Fits n.val
  · rw [(run_updateValue s name).1 _ (toJson_integer_of_fits h), isFailure_update_iff]
    simp only [hb, h]
  · simp [isFailure_of_not_fits h (mem_storing_iff.mpr (Or.inr rfl)), h]

/-- **An integer that was stored is what the name is bound to.** -/
theorem lookupAs_run_integer {c : Command} (hc : c ∈ storing name (.integer k n))
    (hok : (c.run s).1.isFailure = false) (j : IntegerKind) :
    Store.lookupAs (c.run s).2.store name (.integer j) = Store.reading j n.val := by
  by_cases h : Whole.Fits n.val
  · have hjson := toJson_integer_of_fits h
    refine Store.lookupAs_integer (w := .ofFits h) ?_ j
    rcases mem_storing_iff.mp hc with rfl | rfl
    · exact get?_of_stores (.does rfl s []) ⟨_, hok, Or.inl rfl⟩ hjson
    · exact get?_of_stores (.does rfl s []) ⟨_, hok, Or.inr rfl⟩ hjson
  · rw [isFailure_of_not_fits h hc] at hok
    cases hok

/-- **Integers are never cut or wrapped.** An integer of any kind is declared under a valid name
exactly if it fits and there is a frame to bind the name in, and a bound name is updated with it
exactly if it fits. An integer that does not fit is refused under every name, and nothing is
changed. One that was stored is read as itself by each kind whose range it is in, and as no other
integer by any kind; and nothing of this depends on the kind that it was stored under. -/
theorem integers_stay_exact_iff (k : IntegerKind) (n : BoundedInt k) (name : String) (s : State) :
    let declare := Command.declareValue name (.integer k n)
    let update := Command.updateValue name (.integer k n)
    (ValidName name →
        ((declare.run s).1.isFailure = false ↔ Whole.Fits n.val ∧ 0 < s.store.depth)) ∧
      (s.store.Binds name → ((update.run s).1.isFailure = false ↔ Whole.Fits n.val)) ∧
      (¬ Whole.Fits n.val → ∀ c ∈ storing name (.integer k n),
        c.run s = (.refused (.unconvertible "number out of range"), s)) ∧
      (∀ c ∈ storing name (.integer k n), (c.run s).1.isFailure = false →
        ∀ j, Store.lookupAs (c.run s).2.store name (.integer j) = Store.reading j n.val) ∧
      ∀ (j : IntegerKind) (m : BoundedInt j), m.val = n.val →
        (Command.declareValue name (.integer j m)).run s = declare.run s ∧
          (Command.updateValue name (.integer j m)).run s = update.run s := by
  refine ⟨isFailure_declareValue_iff, isFailure_updateValue_iff,
    fun h c hc => run_integer_of_not_fits h hc, fun c hc => lookupAs_run_integer hc,
    fun j m hm => ?_⟩
  exact run_eq_of_toJson_eq (toJson_integer_congr hm)

end Storing

/-- A number that only an unsigned 64-bit integer holds is read as that and not as a signed one, and
one more than the greatest of them is refused. The least number is stored as a wider integer as it
is as a narrower one. -/
theorem integers_stay_exact_at_limits :
    let s := State.initial
    let greatest : BoundedInt .u64 := ⟨2 ^ 64 - 1, by decide⟩
    let tooLarge : BoundedInt .i128 := ⟨2 ^ 64, by decide⟩
    let least : BoundedInt .i64 := ⟨-2 ^ 63, by decide⟩
    let declare := Command.declareValue "x" (.integer .u64 greatest)
    let t := (declare.run s).2
    let update := Command.updateValue "x" (.integer .i128 ⟨-2 ^ 63, by decide⟩)
    (declare.run s).1.isFailure = false ∧
      Store.lookupAs t.store "x" (.integer .u64) = .ok greatest ∧
      (∃ details, Store.lookupAs t.store "x" (.integer .i64) = .error (.unconvertible details)) ∧
      ((Command.updateValue "x" (.integer .i128 tooLarge)).run t).2 = t ∧
      (update.run t).1.isFailure = false ∧
      (Command.updateValue "x" (.integer .i64 least)).run t = update.run t := by
  intro s greatest tooLarge least declare t update
  obtain ⟨hdeclare, -, -, hread, -⟩ := integers_stay_exact_iff .u64 greatest "x" s
  have hok : (declare.run s).1.isFailure = false := (hdeclare (by decide)).mpr (by decide)
  have hlookup := hread declare (mem_storing_iff.mpr (Or.inl rfl)) hok
  have hbinds : t.store.Binds "x" := ⟨_, List.mem_cons_self, rfl⟩
  obtain ⟨-, -, hrefused, -⟩ := integers_stay_exact_iff .i128 tooLarge "x" t
  obtain ⟨-, hupdate, -, -, hsame⟩ := integers_stay_exact_iff .i128 ⟨-2 ^ 63, by decide⟩ "x" t
  refine ⟨hok, hlookup .u64, ⟨_, hlookup .i64⟩, ?_, (hupdate hbinds).mpr (by decide),
    (hsame .i64 least rfl).2⟩
  rw [hrefused (by decide) _ (mem_storing_iff.mpr (Or.inr rfl))]

/-- A block whose body puts a new table in place of the one at hand leaves no frame, and then an
integer that fits cannot be declared under a valid name. -/
theorem no_integer_after_reset_in_block :
    let s := stateAfter .initial (trace [.block false [.reset]])
    let declare := Command.declareValue "x" (.integer .i64 ⟨1, by decide⟩)
    ValidName "x" ∧ (declare.run s).1 = .aborted .noFrame ∧
      ¬ ((declare.run s).1.isFailure = false ↔ Whole.Fits 1) := by
  intro s declare
  refine ⟨by decide, rfl, fun h => ?_⟩
  exact absurd (h.mpr (by decide)) (by decide)

end Script

end LexicalScope
