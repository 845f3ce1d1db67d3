import LexicalScope.Proofs.Script.Names
import LexicalScope.Proofs.Table.Visible

/-!
# Snapshots

A snapshot is data, and can be run as a script: the members of the first object are declared in the
root, and for each further object a scope is entered first. In whatever order the members of an
object are taken, the script builds the table that the snapshot was made of.

* `Completes` — a script whose commands all succeed, and the state that it ends in
* `replay`, `completes_replay` — the script of a snapshot, and the table that it builds
* `Json.ListsMembers` — an order for the members of each object in an array
* `replay_snapshot` — every table of every run is built again from its snapshot
-/

namespace LexicalScope

/-- In whatever order the bindings of the frames are listed, a snapshot loses none of them. -/
theorem snapshot_eq_of_listing {t : Store} (ht : t.Ordered) {orders : List (List (String × Json))}
    (h : t.Listing orders) :
    Store.snapshot t = .array (orders.reverse.map fun entries => .object (.ofList entries)) := by
  have hframes : orders.map Dict.ofList = t.frames := by
    unfold Table.Listing at h
    unfold Table.Ordered at ht
    generalize t.frames = frames at h ht
    induction h with
    | nil => rfl
    | cons hp _ ih =>
      obtain ⟨hhead, hrest⟩ := List.forall_mem_cons.mp ht
      rw [List.map_cons, Dict.ofList_of_perm hhead hp, ih hrest]
  rw [Store.snapshot, Table.rootFirst, ← hframes, ← List.map_reverse, List.map_map]
  rfl

/-- An order for the members of each object, where the value is an array of objects. -/
def Json.ListsMembers (v : Json) (orders : List (List (String × Json))) : Prop :=
  ∃ objects : List (Dict String Json), v = .array (objects.map .object) ∧
    List.Forall₂ (fun entries object => entries.Perm object.entries) orders objects

/-- To list the members of a snapshot is to list the frames, the root last. -/
theorem listsMembers_snapshot {t : Store} {orders : List (List (String × Json))} :
    (Store.snapshot t).ListsMembers orders ↔ t.Listing orders.reverse := by
  have hinjective : Function.Injective Json.object := fun _ _ h => Json.object.inj h
  unfold Json.ListsMembers Table.Listing
  rw [← List.forall₂_reverse_iff, List.reverse_reverse]
  constructor
  · rintro ⟨objects, hsnapshot, horders⟩
    have hobjects : t.frames.reverse = objects := hinjective.list_map (Json.array.inj hsnapshot)
    rwa [hobjects]
  · intro horders
    exact ⟨t.rootFirst, rfl, horders⟩

namespace Script

/-! ## Scripts that succeed -/

/-- Every command of the script has an answer and succeeds, and the script ends in this state. -/
structure Completes (script : List Command) (s s' : State) : Prop where
  answered : (runAll false script s).1.length = script.length
  succeeds : ∀ outcome ∈ (runAll false script s).1, outcome.1.isFailure = false
  final : (runAll false script s).2 = s'

namespace Completes

variable {s s' s'' : State} {c : Command} {script script' : List Command}

theorem nil (s : State) : Completes [] s s :=
  ⟨rfl, fun _ h => absurd h List.not_mem_nil, rfl⟩

theorem cons (hc : (c.run s).1.isFailure = false) (hs : (c.run s).2 = s')
    (h : Completes script s' s'') : Completes (c :: script) s s'' := by
  subst hs
  obtain ⟨hlength, hsucceeds, hfinal⟩ := h
  refine ⟨congrArg Nat.succ hlength, ?_, hfinal⟩
  exact List.forall_mem_cons.mpr ⟨hc, hsucceeds⟩

theorem append (h : Completes script s s') (h' : Completes script' s' s'') :
    Completes (script ++ script') s s'' := by
  induction script generalizing s with
  | nil =>
    obtain rfl : s = s' := h.final
    exact h'
  | cons c script ih =>
    obtain ⟨hlength, hsucceeds, hfinal⟩ := h
    obtain ⟨hc, hrest⟩ := List.forall_mem_cons.mp hsucceeds
    exact .cons hc rfl (ih ⟨Nat.succ.inj hlength, hrest, hfinal⟩)

end Completes

/-! ## Building a table -/

/-- Declares the entries, one after the other. -/
def declarations (entries : List (String × Json)) : List Command :=
  entries.map fun e => .declare {} e.1 e.2

/-- Builds a scope for each list of entries, in those that are there. -/
def scopes (orders : List (List (String × Json))) : List Command :=
  orders.flatMap fun entries => .enterScope :: declarations entries

/-- Builds a table from the entries of its frames, the root first. The root need not be entered. -/
def replay : List (List (String × Json)) → List Command
  | [] => []
  | root :: inner => declarations root ++ scopes inner

/-- Declarations of valid names all succeed, and put their values into the innermost frame. -/
theorem completes_declarations {entries : List (String × Json)}
    (h : ∀ e ∈ entries, ValidName e.1) (frame : Frame Json) (rest : List (Frame Json))
    (floor : Nat) (slots : Dict String Store) :
    Completes (declarations entries) ⟨⟨frame :: rest, floor⟩, slots⟩
      ⟨⟨entries.foldl (fun d e => d.insert e.1 e.2) frame :: rest, floor⟩, slots⟩ := by
  induction entries generalizing frame with
  | nil => exact .nil _
  | cons e entries ih =>
    obtain ⟨hv, hrest⟩ := List.forall_mem_cons.mp h
    have hrun : (Command.declare {} e.1 e.2).run ⟨⟨frame :: rest, floor⟩, slots⟩ =
        (.granted, ⟨⟨frame.insert e.1 e.2 :: rest, floor⟩, slots⟩) := by
      simp [Command.run, declare, Table.declare, hv]
    exact .cons (by rw [hrun]; rfl) (by rw [hrun]) (ih hrest _)

section Frames

variable {orders : List (List (String × Json))} {frame : Frame Json} {frames : List (Frame Json)}

/-- An empty frame becomes the one whose entries are declared in it. -/
theorem completes_frame {entries : List (String × Json)} (hs : frame.Sorted) (hv : NamesValid frame)
    (hp : entries.Perm frame.entries) (rest : List (Frame Json)) (floor : Nat)
    (slots : Dict String Store) :
    Completes (declarations entries) ⟨⟨∅ :: rest, floor⟩, slots⟩
      ⟨⟨frame :: rest, floor⟩, slots⟩ := by
  have hnames : ∀ e ∈ entries, ValidName e.1 := by
    intro e he
    exact hv e.1 (List.mem_map_of_mem (hp.mem_iff.mp he))
  have h := completes_declarations hnames ∅ rest floor slots
  have hframe : entries.foldl (fun d e => d.insert e.1 e.2) ∅ = frame := Dict.ofList_of_perm hs hp
  rwa [hframe] at h

/-- Scopes are built on top of what is there, the outermost first. -/
theorem completes_scopes (h : List.Forall₂ (fun entries frame => entries.Perm frame.entries)
      orders frames)
    (hs : ∀ frame ∈ frames, frame.Sorted) (hv : ∀ frame ∈ frames, NamesValid frame)
    (base : List (Frame Json)) (floor : Nat) (slots : Dict String Store) :
    Completes (scopes orders) ⟨⟨base, floor⟩, slots⟩
      ⟨⟨frames.reverse ++ base, floor⟩, slots⟩ := by
  induction h generalizing base with
  | nil => exact .nil _
  | @cons entries frame orders frames hp _ ih =>
    obtain ⟨hshead, hsrest⟩ := List.forall_mem_cons.mp hs
    obtain ⟨hvhead, hvrest⟩ := List.forall_mem_cons.mp hv
    rw [List.reverse_cons, List.append_assoc]
    refine .cons rfl rfl (.append ?_ (ih hsrest hvrest (frame :: base)))
    exact completes_frame hshead hvhead hp base floor slots

/-- **The entries of the frames, in any order, build the table.** -/
theorem completes_replay {t : Store} (hs : t.Ordered) (hv : t.ValidNames) (hd : 0 < t.depth)
    (hf : t.floor = 1) (h : t.Listing orders.reverse) :
    Completes (replay orders) .initial ⟨t, ∅⟩ := by
  obtain ⟨frames, floor⟩ := t
  obtain rfl : floor = 1 := hf
  -- from here on the frames are taken with the root first, as the script builds them
  obtain ⟨rootFirst, rfl⟩ : ∃ rootFirst : List (Frame Json), frames = rootFirst.reverse :=
    ⟨frames.reverse, (List.reverse_reverse frames).symm⟩
  replace h := List.forall₂_reverse_iff.mp h
  cases h with
  | nil => exact absurd hd (Nat.lt_irrefl 0)
  | @cons entries root orders rootFirst hp hinner =>
    have hs' : ∀ frame ∈ root :: rootFirst, frame.Sorted := by
      intro frame hframe
      exact hs frame (List.mem_reverse.mpr hframe)
    have hv' : ∀ frame ∈ root :: rootFirst, NamesValid frame := by
      intro frame hframe
      exact hv frame (List.mem_reverse.mpr hframe)
    obtain ⟨hshead, hsrest⟩ := List.forall_mem_cons.mp hs'
    obtain ⟨hvhead, hvrest⟩ := List.forall_mem_cons.mp hv'
    rw [List.reverse_cons]
    refine .append (completes_frame hshead hvhead hp [] 1 ∅) ?_
    exact completes_scopes hinner hsrest hvrest [root] 1 ∅

end Frames

/-! ## Runs -/

/-- **A snapshot loses nothing.** In a table of a run with a frame and the floor of a new table, the
snapshot is an array of as many objects as there are frames, and in whatever order the bindings of
the frames are listed, it is the same. With the members of each object in any order it is a script
all of whose commands succeed on a new store, and that ends in the table. -/
theorem replay_snapshot {script : List Command} {past : List Moment} (h : past <+: trace script)
    (hd : 0 < (stateAfter .initial past).store.depth)
    (hf : (stateAfter .initial past).store.floor = 1) :
    let t := (stateAfter .initial past).store
    (∃ objects : List (Dict String Json), Store.snapshot t = .array (objects.map .object) ∧
        objects.length = t.depth) ∧
      (∀ orders, t.Listing orders → Store.snapshot t =
        .array (orders.reverse.map fun entries => .object (.ofList entries))) ∧
      ∀ orders, (Store.snapshot t).ListsMembers orders →
        Completes (replay orders) .initial ⟨t, ∅⟩ ∧
          Store.same (run (replay orders)).2.store t = true ∧
          Store.snapshot (run (replay orders)).2.store = Store.snapshot t := by
  intro t
  have hordered : t.Ordered := ordered_stateAfter h
  have hvalid : t.ValidNames := (invariant_validNames.stateAfter h).store
  refine ⟨⟨t.rootFirst, rfl, List.length_reverse⟩,
    fun orders horders => snapshot_eq_of_listing hordered horders, fun orders horders => ?_⟩
  have hcompletes := completes_replay hordered hvalid hd hf (listsMembers_snapshot.mp horders)
  have hstore : (run (replay orders)).2.store = t := congrArg (·.store) hcompletes.final
  refine ⟨hcompletes, ?_, ?_⟩
  · rw [hstore]
    exact Store.same_refl t
  · rw [hstore]

/-- A name that is bound in the root and in a scope, after a block that bound it too, with the root
told backwards. -/
theorem replay_snapshot_shadowing :
    let script : List Command :=
      [.declare {} "y" .null, .declare {} "x" .null, .block true [.declare {} "x" .null],
        .enterScope, .declare {} "x" (.bool true)]
    let t := (stateAfter .initial (trace script)).store
    let orders : List (List (String × Json)) := [[("y", .null), ("x", .null)], [("x", .bool true)]]
    trace script <+: trace script ∧ 0 < t.depth ∧ t.floor = 1 ∧
      (Store.snapshot t).ListsMembers orders ∧ Completes (replay orders) .initial ⟨t, ∅⟩ := by
  intro script t orders
  have hpast : trace script <+: trace script := List.prefix_refl _
  have hmembers : (Store.snapshot t).ListsMembers orders :=
    ⟨t.rootFirst, rfl, .cons (List.Perm.swap _ _ _) (.cons (List.Perm.refl _) .nil)⟩
  obtain ⟨_, _, hreplay⟩ := replay_snapshot hpast (by decide) (by decide)
  exact ⟨hpast, by decide, by decide, hmembers, (hreplay orders hmembers).1⟩

end Script

end LexicalScope
