import LexicalScope.Proofs.Script.Failure
import LexicalScope.Proofs.Table.Map
import LexicalScope.Proofs.Typed.Agree

/-!
# Equality of stores is a congruence

Stores are equal if they have the same floor and bind the same names to the same values, frame by
frame. That is all that a command finds out about a store: run on equal stores it gives answers that
are the same, and leaves stores that are equal. How the bindings came to be makes no difference, and
neither does which of the two zeros a number is.

The stores are compared by their normal forms, in which every zero is positive. A command on a
normal form does what it does on the store, and so stores of one normal form go on to have one.

* `Store.same_iff` — equal stores have the same normal form
* `Answer.same`, `Command.sameAnswer` — answers that are the same; a reading that fails is told by
  its kind
* `Command.run_same`, `runAll_same` — one command, and a script
* `equal_stores_behave_alike` — equal stores of any runs
-/

namespace LexicalScope

namespace Store

/-! ## Normal forms of stores -/

/-- Frames are the same exactly if their normal forms are. -/
theorem sameFrame_iff {a b : Frame Json} :
    a.mapValues Json.normal = b.mapValues Json.normal ↔ sameFrame a b = true := by
  rw [sameFrame, ← Json.normalMembers_eq_iff, Json.normalMembers_eq_map, Json.normalMembers_eq_map]
  exact Dict.mk.injEq _ _ ▸ Iff.rfl

theorem sameFrames_iff {as bs : List (Frame Json)} :
    as.map (·.mapValues Json.normal) = bs.map (·.mapValues Json.normal) ↔
      sameFrames as bs = true := by
  induction as generalizing bs with
  | nil => cases bs <;> simp [sameFrames]
  | cons a as ih => cases bs <;> simp [sameFrames, sameFrame_iff, ih]

/-- **Stores are equal exactly if they have the same normal form.** -/
theorem same_iff {t u : Store} :
    t.map Json.normal = u.map Json.normal ↔ same t u = true := by
  obtain ⟨frames, floor⟩ := t
  obtain ⟨frames', floor'⟩ := u
  simp only [Table.map, Table.mk.injEq, same, Bool.and_eq_true, decide_eq_true_eq,
    sameFrames_iff]

/-- The snapshot of a normal form is the normal form of the snapshot. -/
theorem normal_snapshot (t : Store) :
    (snapshot t).normal = snapshot (t.map Json.normal) := by
  rw [snapshot, snapshot, Table.rootFirst_map, Json.normal_array, List.map_map, List.map_map]
  refine congrArg Json.array (List.map_congr_left fun frame _ => ?_)
  exact Json.normal_object frame

end Store

namespace Script

/-! ## Answers that are the same -/

/-- Equality of frames, and of what they say of the name. -/
def sameViews : List FrameView → List FrameView → Bool
  | [], [] => true
  | a :: as, b :: bs =>
    Store.sameFrame a.frame b.frame && Json.sameOption a.value b.value && sameViews as bs
  | _, _ => false

/-- Equality of answers under the equality of values. The outcomes of blocks are compared command by
command, in `sameOutcomes`. -/
def Answer.same : Answer → Answer → Bool
  | .done, .done => true
  | .granted, .granted => true
  | .refused r, .refused r' => r = r'
  | .aborted f, .aborted f' => f = f'
  | .closed a, .closed b => Store.sameFrame a b
  | .value v, .value w => v.sameValue w
  | .replaced v, .replaced w => Json.sameOption v w
  | .found v, .found w => Json.sameOption v w
  | .flag a, .flag b => a == b
  | .optionalFlag a, .optionalFlag b => a == b
  | .number a, .number b => a == b
  | .data v, .data w => v.sameValue w
  | .frames as, .frames bs => sameViews as bs
  | .visible a, .visible b => Json.sameMembers a.entries b.entries
  | _, _ => false

mutual

/-- Equality of two answers to the command. Readings as values of a type that fail are compared by
their kind, for their messages tell what was found. -/
def Command.sameAnswer : Command → Answer → Answer → Bool
  | .lookupAs _ _, .refused r, .refused r' => r.kind = r'.kind
  | .block _ body, .block as, .block bs => sameOutcomes body as bs
  | _, a, b => a.same b
termination_by structural c => c

/-- Equality of the outcomes of a script: of the answers, and of the stores after them. -/
def sameOutcomes : List Command → List (Answer × Store) → List (Answer × Store) → Bool
  | _, [], [] => true
  | c :: rest, (a, t) :: as, (b, u) :: bs =>
    c.sameAnswer a b && Store.same t u && sameOutcomes rest as bs
  | _, _, _ => false
termination_by structural script => script

end

/-! ## Edits -/

/-- The edit with the normal form of what it puts in. -/
def Edit.normal : Edit → Edit
  | push v => push v.normal
  | insert name v => insert name v.normal
  | take => take
  | set v => set v.normal

/-- **A value is edited as its normal form is.** -/
theorem Edit.normal_apply (e : Edit) (v : Json) : (e.apply v).normal = e.normal.apply v.normal := by
  cases e with
  | take => rfl
  | set w => rfl
  | push w =>
    cases v with
    | array items =>
      simp only [normal, apply, Json.normal_array, List.map_append, List.map_cons, List.map_nil]
    | object members => rw [Json.normal_object, normal, apply, apply, Json.normal_object] <;> simp
    | _ => rfl
  | insert name w =>
    cases v with
    | object members =>
      simp only [normal, apply, Json.normal_object, Dict.mapValues_insert]
    | array items => rw [Json.normal_array, normal, apply, apply, Json.normal_array] <;> simp
    | _ => rfl

/-! ## States of one normal form -/

/-- The state with the normal forms of all values. -/
def State.normal (s : State) : State :=
  ⟨s.store.map Json.normal, s.slots.mapValues (Table.map Json.normal)⟩

/-- The answers to the command are the same, and the states have the same normal form. -/
structure Corresponds (c : Command) (r r' : Answer × State) : Prop where
  answer : c.sameAnswer r.1 r'.1 = true
  state : r.2.normal = r'.2.normal

section Commands

variable {s s' : State} (h : s.normal = s'.normal)
include h

theorem store_of_normal : s.store.map Json.normal = s'.store.map Json.normal :=
  congrArg State.store h

theorem slots_of_normal :
    s.slots.mapValues (Table.map Json.normal) = s'.slots.mapValues (Table.map Json.normal) :=
  congrArg State.slots h

/-- What is asked of the stores has equal images, if its image can be told from normal forms. -/
theorem images_eq {α β : Type} {ask : Store → α} {image : α → β} (ask' : Store → β)
    (hask : ∀ t, image (ask t) = ask' (t.map Json.normal)) :
    image (ask s.store) = image (ask s'.store) := by
  rw [hask, hask, store_of_normal h]

/-- What is found in normal forms as in the stores is found alike. -/
theorem found_alike {α : Type} (ask : Store → α) (hask : ∀ t, ask (t.map Json.normal) = ask t) :
    ask s.store = ask s'.store := by
  rw [← hask, store_of_normal h, hask]

/-- States stay alike if their stores are exchanged for stores that are alike. -/
theorem normal_with_store {t t' : Store} (ht : t.map Json.normal = t'.map Json.normal) :
    State.normal { s with store := t } = State.normal { s' with store := t' } := by
  unfold State.normal
  rw [ht, slots_of_normal h]

/-- An answer of a query is the same if nothing is said of the state. -/
theorem corresponds_query {c : Command} {a b : Answer} (hab : c.sameAnswer a b = true) :
    Corresponds c (query s a) (query s' b) :=
  ⟨hab, h⟩

/-- **A failure is the same as itself,** whichever command failed. -/
theorem corresponds_failure {c : Command} (e : Failure) :
    Corresponds c (query s (.ofFailure e)) (query s' (.ofFailure e)) := by
  refine corresponds_query h ?_
  cases e <;> cases c <;> exact decide_eq_true rfl

/-- A command that converts its value first is refused in both states, or does in both what the
plain command does with the data value. -/
theorem corresponds_of_converted {c : Command} {plain : Json → Command} {d : Datum}
    (hrun : ∀ s, (∀ v, d.toJson = .ok v → c.run s = (plain v).run s) ∧
      ∀ e, d.toJson = .error e → c.run s = (.refused (.unconvertible e.message), s))
    (hplain : ∀ v, Corresponds c ((plain v).run s) ((plain v).run s')) :
    Corresponds c (c.run s) (c.run s') := by
  cases hd : d.toJson with
  | ok v =>
    rw [(hrun s).1 v hd, (hrun s').1 v hd]
    exact hplain v
  | error e =>
    rw [(hrun s).2 e hd, (hrun s').2 e hd]
    exact corresponds_failure h (.refused (.unconvertible e.message))

/-- Closing a scope asks for depth and floor alone, and closes frames that are alike. -/
theorem run_exitScope_same :
    Corresponds .exitScope (Command.exitScope.run s) (Command.exitScope.run s') := by
  have hexit := images_eq h Table.exitScope Table.map_exitScope
  rw [Command.run, Command.run]
  rcases except_cases_of_map_eq hexit with ⟨r, hr, hr'⟩ | ⟨⟨frame, t⟩, ⟨frame', t'⟩, hr, hr', hsame⟩
  · rw [hr, hr']
    exact corresponds_failure h (.refused r)
  · rw [hr, hr']
    obtain ⟨hframe, ht⟩ := Prod.mk.inj hsame
    exact ⟨Store.sameFrame_iff.mp hframe, normal_with_store h ht⟩

/-- A declaration is refused for its name or the missing frame, not for what is bound. -/
theorem run_declare_same (manner : Manner) (name : String) (v : Json) :
    Corresponds (.declare manner name v) ((Command.declare manner name v).run s)
      ((Command.declare manner name v).run s') := by
  have hdeclare := images_eq h (·.declare name v.normal) (Table.map_declare · name v)
  rw [Command.run, Command.run, declare, declare]
  rcases except_cases_of_map_eq hdeclare with ⟨e, he, he'⟩ | ⟨t, t', ht, ht', hsame⟩
  · rw [he, he']
    refine ⟨?_, ?_⟩
    · cases manner.insists <;> cases e <;> exact decide_eq_true rfl
    · cases manner.handsOver
      · exact h
      · exact normal_with_store h rfl
  · rw [ht, ht']
    refine ⟨?_, normal_with_store h hsame⟩
    cases manner.insists <;> rfl

/-- An update finds the name in both stores or in none, and old values that are alike. -/
theorem run_update_same (name : String) (v : Json) :
    Corresponds (.update name v) ((Command.update name v).run s)
      ((Command.update name v).run s') := by
  have hupdate := images_eq h (·.update name v.normal) (Table.map_update · name v)
  rw [Command.run, Command.run]
  rcases except_cases_of_map_eq hupdate with ⟨r, hr, hr'⟩ | ⟨⟨old, t⟩, ⟨old', t'⟩, hr, hr', hsame⟩
  · rw [hr, hr']
    exact corresponds_failure h (.refused r)
  · rw [hr, hr']
    obtain ⟨hold, ht⟩ := Prod.mk.inj hsame
    exact ⟨(Json.normal_eq_iff old old').mp hold, normal_with_store h ht⟩

/-- An update that may declare updates both stores, declares in both, or is refused for both. -/
theorem run_updateOrDeclare_same (name : String) (v : Json) :
    Corresponds (.updateOrDeclare name v) ((Command.updateOrDeclare name v).run s)
      ((Command.updateOrDeclare name v).run s') := by
  have hupdate := images_eq h (·.updateOrDeclare name v.normal) (Table.map_updateOrDeclare · name v)
  rw [Command.run, Command.run]
  rcases except_cases_of_map_eq hupdate with ⟨e, he, he'⟩ | ⟨⟨old, t⟩, ⟨old', t'⟩, he, he', hsame⟩
  · rw [he, he']
    exact corresponds_failure h e
  · rw [he, he']
    obtain ⟨hold, ht⟩ := Prod.mk.inj hsame
    exact ⟨Json.map_normal_eq_iff.mp hold, normal_with_store h ht⟩

/-- An edit makes values that are alike of values that are alike. -/
theorem run_edit_same (name : String) (e : Edit) :
    Corresponds (.edit name e) ((Command.edit name e).run s) ((Command.edit name e).run s') := by
  have hedit := images_eq h (·.rebind? name e.normal.apply)
    (Table.map_rebind? e.normal_apply · name)
  rw [Command.run, Command.run]
  rcases option_cases_of_map_eq hedit with ⟨hr, hr'⟩ | ⟨⟨old, t⟩, ⟨old', t'⟩, hr, hr', hsame⟩
  · rw [hr, hr']
    exact corresponds_query h rfl
  · rw [hr, hr']
    obtain ⟨hold, ht⟩ := Prod.mk.inj hsame
    refine ⟨(Json.normal_eq_iff _ _).mp ?_, normal_with_store h ht⟩
    rw [e.normal_apply, e.normal_apply, hold]

/-- A typed value is converted before a store is looked at, and then declared. -/
theorem run_declareValue_same (name : String) (d : Datum) :
    Corresponds (.declareValue name d) ((Command.declareValue name d).run s)
      ((Command.declareValue name d).run s') := by
  refine corresponds_of_converted h (fun s => run_declareValue s name) fun v => ?_
  obtain ⟨hanswer, hstate⟩ := run_declare_same h {} name v
  exact ⟨hanswer, hstate⟩

/-- A typed value that a name is updated with is converted before a store is looked at, too. -/
theorem run_updateValue_same (name : String) (d : Datum) :
    Corresponds (.updateValue name d) ((Command.updateValue name d).run s)
      ((Command.updateValue name d).run s') := by
  refine corresponds_of_converted h (fun s => run_updateValue s name) fun v => ?_
  obtain ⟨hanswer, hstate⟩ := run_update_same h name v
  exact ⟨hanswer, hstate⟩

/-- A name is bound in both stores or in none, and to values that are alike. -/
theorem get?_same (name : String) :
    (s.store.get? name).map Json.normal = (s'.store.get? name).map Json.normal :=
  images_eq h (·.get? name) fun t => (Table.get?_map t name).symm

/-- A look-up finds values that are alike, or is refused for both stores. -/
theorem run_lookup_same (name : String) :
    Corresponds (.lookup name) ((Command.lookup name).run s) ((Command.lookup name).run s') := by
  have hlookup := images_eq h (·.lookup name) fun t => (Table.lookup_map t name).symm
  rw [Command.run, Command.run]
  rcases except_cases_of_map_eq hlookup with ⟨r, hr, hr'⟩ | ⟨v, w, hv, hw, hsame⟩
  · rw [hr, hr']
    exact corresponds_failure h (.refused r)
  · rw [hv, hw]
    exact corresponds_query h ((Json.normal_eq_iff v w).mp hsame)

omit h in
/-- How a value failed to be read may be told in other words. -/
theorem sameAnswer_unconvertible {name : String} {schema : Schema} (details details' : String) :
    (Command.lookupAs name schema).sameAnswer (.refused (.unconvertible details))
      (.refused (.unconvertible details')) = true := by
  have hkind : (Refusal.unconvertible details).kind = (Refusal.unconvertible details').kind := rfl
  exact decide_eq_true hkind

/-- **Equal stores are read alike as values of a type.** -/
theorem run_lookupAs_same (name : String) (schema : Schema) :
    Corresponds (.lookupAs name schema) ((Command.lookupAs name schema).run s)
      ((Command.lookupAs name schema).run s') := by
  refine corresponds_query h ?_
  unfold lookupAs Store.lookupAs Table.lookup
  rcases option_cases_of_map_eq (get?_same h name) with ⟨hv, hw⟩ | ⟨v, w, hv, hw, hsame⟩
  · rw [hv, hw]
    exact (corresponds_failure h (.refused (.undefined name))).answer
  · simp only [hv, hw]
    rcases schema.readsAlike hsame with ⟨e, e', hx, hy⟩ | ⟨x, y, hx, hy, hdata⟩
    · -- the messages of the two failures may differ
      simp only [hx, hy]
      exact sameAnswer_unconvertible e.message e'.message
    · simp only [hx, hy, Store.convert]
      rcases except_cases_of_map_eq hdata with ⟨e, he, he'⟩ | ⟨v, w, hv, hw, hsame⟩
      · simp only [he, he']
        exact sameAnswer_unconvertible e.message e.message
      · simp only [hv, hw]
        exact (Json.normal_eq_iff v w).mp hsame

theorem rootFirst_same :
    s.store.rootFirst.map (·.mapValues Json.normal) =
      s'.store.rootFirst.map (·.mapValues Json.normal) :=
  images_eq h Table.rootFirst fun t => (Table.rootFirst_map t).symm

/-- Snapshots are alike because their normal forms are those of the normal forms. -/
theorem run_snapshot_same :
    Corresponds .snapshot (Command.snapshot.run s) (Command.snapshot.run s') := by
  have hdata := images_eq h Store.snapshot Store.normal_snapshot
  exact corresponds_query h ((Json.normal_eq_iff _ _).mp hdata)

omit h in
/-- Frames that are alike one by one look alike, and say the like of each name. -/
theorem sameViews_of_forall₂ {as bs : List (Frame Json)}
    (hframes : List.Forall₂
      (fun a b => a.mapValues Json.normal = b.mapValues Json.normal) as bs) (name : String) :
    sameViews (as.map fun a => ⟨a, a.get? name⟩) (bs.map fun b => ⟨b, b.get? name⟩) = true := by
  induction hframes with
  | nil => rfl
  | @cons a b as bs hab _ ih =>
    have hvalue : (a.get? name).map Json.normal = (b.get? name).map Json.normal := by
      rw [← Dict.get?_mapValues, hab, Dict.get?_mapValues]
    rw [List.map_cons, List.map_cons, sameViews, ih, Store.sameFrame_iff.mp hab,
      Json.map_normal_eq_iff.mp hvalue]
    rfl

/-- All frames of the two stores look alike. -/
theorem run_frames_same (name : String) :
    Corresponds (.frames name) ((Command.frames name).run s) ((Command.frames name).run s') :=
  corresponds_query h (sameViews_of_forall₂ (forall₂_of_map_eq (rootFirst_same h)) name)

/-- Two frames of one store are equal exactly if the like frames of the other are. -/
theorem run_frameEq_same (a b : Nat) :
    Corresponds (.frameEq a b) ((Command.frameEq a b).run s) ((Command.frameEq a b).run s') := by
  refine corresponds_query h (beq_iff_eq.mpr ?_)
  have hframe : ∀ i : Nat, s.store.rootFirst[i]?.map (Dict.mapValues Json.normal) =
      s'.store.rootFirst[i]?.map (Dict.mapValues Json.normal) := by
    intro i
    rw [← List.getElem?_map, rootFirst_same h, List.getElem?_map]
  unfold frameEq
  rcases option_cases_of_map_eq (hframe a) with ⟨hx, hx'⟩ | ⟨x, x', hx, hx', hxs⟩
  · rw [hx, hx']
  · rcases option_cases_of_map_eq (hframe b) with ⟨hy, hy'⟩ | ⟨y, y', hy, hy', hys⟩
    · rw [hx, hx', hy, hy']
    · rw [hx, hx', hy, hy']
      -- the two comparisons are the same equation between normal forms
      refine congrArg some (Bool.eq_iff_iff.mpr ?_)
      rw [← Store.sameFrame_iff, ← Store.sameFrame_iff, hxs, hys]

/-- The visible bindings are collected from frames that are alike, and are so too. -/
theorem run_visible_same :
    Corresponds .visible (Command.visible.run s) (Command.visible.run s') := by
  have hvisible := images_eq h (fun t => Dict.ofList t.visible) fun t => by
    rw [Table.visible_map, ← Dict.mapValues_ofList]
  exact corresponds_query h (Store.sameFrame_iff.mp hvisible)

/-- A frame that is alike has as many entries. -/
theorem run_innermostIsEmpty_same :
    Corresponds .innermostIsEmpty (Command.innermostIsEmpty.run s)
      (Command.innermostIsEmpty.run s') := by
  refine corresponds_query h (beq_iff_eq.mpr ?_)
  refine found_alike h (fun t => t.frames.head?.map Dict.isEmpty) fun t => ?_
  obtain ⟨frames, floor⟩ := t
  cases frames with
  | nil => rfl
  | cons frame rest => exact congrArg some List.isEmpty_map

/-! ## Copies -/

theorem slot_same (slot : String) :
    (s.slots.get? slot).map (Table.map Json.normal) =
      (s'.slots.get? slot).map (Table.map Json.normal) := by
  rw [← Dict.get?_mapValues, slots_of_normal h, Dict.get?_mapValues]

/-- Saving adds copies that are alike. -/
theorem run_save_same (slot : String) :
    Corresponds (.save slot) ((Command.save slot).run s) ((Command.save slot).run s') := by
  refine ⟨rfl, ?_⟩
  rw [Command.run, Command.run, State.normal, State.normal]
  rw [Dict.mapValues_insert, Dict.mapValues_insert, slots_of_normal h, store_of_normal h]

/-- Restoring takes up copies that are alike. -/
theorem run_restore_same (slot : String) :
    Corresponds (.restore slot) ((Command.restore slot).run s) ((Command.restore slot).run s') := by
  rw [Command.run, Command.run]
  rcases option_cases_of_map_eq (slot_same h slot) with ⟨ht, ht'⟩ | ⟨t, t', ht, ht', hsame⟩
  · rw [ht, ht']
    exact corresponds_query h rfl
  · rw [ht, ht']
    exact ⟨rfl, normal_with_store h hsame⟩

/-- A store equals its copy exactly if the other one does. -/
theorem run_equals_same (slot : String) :
    Corresponds (.equals slot) ((Command.equals slot).run s) ((Command.equals slot).run s') := by
  refine corresponds_query h (beq_iff_eq.mpr ?_)
  rcases option_cases_of_map_eq (slot_same h slot) with ⟨ht, ht'⟩ | ⟨t, t', ht, ht', hsame⟩
  · rw [ht, ht']
    rfl
  · rw [ht, ht']
    refine congrArg some (Bool.eq_iff_iff.mpr ?_)
    rw [← Store.same_iff, ← Store.same_iff, hsame, store_of_normal h]

end Commands

/-! ## Scripts -/

theorem isFailure_eq_of_same {a b : Answer} (h : a.same b = true) : a.isFailure = b.isFailure := by
  cases a <;> cases b <;> first | rfl | cases h

/-- Of answers that are the same, both are failures or none is. -/
theorem isFailure_eq_of_sameAnswer {c : Command} {a b : Answer} (h : c.sameAnswer a b = true) :
    a.isFailure = b.isFailure := by
  unfold Command.sameAnswer at h
  split at h
  · rfl
  · rfl
  · exact isFailure_eq_of_same h

theorem openBlock_normal (s : State) : s.openBlock.normal = s.normal.openBlock :=
  congrArg (State.mk · _) (Table.map_openScoped s.store)

theorem closeBlock_normal (s : State) (floor : Nat) :
    (s.closeBlock floor).normal = s.normal.closeBlock floor :=
  congrArg (State.mk · _) (Table.map_closeScoped s.store floor)

mutual

/-- **A command does the same to states of one normal form.** -/
theorem Command.run_same (c : Command) {s s' : State} (h : s.normal = s'.normal) :
    Corresponds c (c.run s) (c.run s') := by
  match c with
  | .enterScope =>
    refine ⟨rfl, normal_with_store h ?_⟩
    rw [Table.map_enterScope, Table.map_enterScope, store_of_normal h]
  | .exitScope => exact run_exitScope_same h
  | .declare manner name v => exact run_declare_same h manner name v
  | .update name v => exact run_update_same h name v
  | .updateOrDeclare name v => exact run_updateOrDeclare_same h name v
  | .edit name e => exact run_edit_same h name e
  | .declareValue name d => exact run_declareValue_same h name d
  | .updateValue name d => exact run_updateValue_same h name d
  | .lookup name => exact run_lookup_same h name
  | .get name => exact corresponds_query h (Json.map_normal_eq_iff.mp (get?_same h name))
  | .lookupAs name schema => exact run_lookupAs_same h name schema
  | .contains name =>
    exact corresponds_query h (beq_iff_eq.mpr
      (found_alike h (·.contains name) fun t => Table.contains_map t name))
  | .isLocal name =>
    exact corresponds_query h (beq_iff_eq.mpr
      (found_alike h (·.isLocal name) fun t => Table.isLocal_map t name))
  | .resolveDepth name =>
    exact corresponds_query h (beq_iff_eq.mpr
      (found_alike h (·.resolveDepth? name) fun t => Table.resolveDepth?_map t name))
  | .depth =>
    exact corresponds_query h (beq_iff_eq.mpr
      (congrArg some (found_alike h Table.depth Table.depth_map)))
  | .snapshot => exact run_snapshot_same h
  | .frames name => exact run_frames_same h name
  | .frameEq a b => exact run_frameEq_same h a b
  | .innermostIsEmpty => exact run_innermostIsEmpty_same h
  | .visible => exact run_visible_same h
  | .save slot => exact run_save_same h slot
  | .restore slot => exact run_restore_same h slot
  | .equals slot => exact run_equals_same h slot
  | .reset => exact ⟨rfl, normal_with_store h rfl⟩
  | .block stops body =>
    have hopen : s.openBlock.normal = s'.openBlock.normal := by
      rw [openBlock_normal, h, openBlock_normal]
    obtain ⟨houtcomes, hlast⟩ := runAll_same stops body hopen
    rw [run_block, run_block]
    refine ⟨houtcomes, ?_⟩
    rw [closeBlock_normal, closeBlock_normal, hlast, found_alike h Table.floor Table.floor_map]
termination_by structural c

/-- **A script does the same to states of one normal form:** the outcomes are equal, and so are the
states that it leaves. -/
theorem runAll_same (stops : Bool) (script : List Command) {s s' : State}
    (h : s.normal = s'.normal) :
    sameOutcomes script (runAll stops script s).1 (runAll stops script s').1 = true ∧
      (runAll stops script s).2.normal = (runAll stops script s').2.normal := by
  match script with
  | [] => exact ⟨rfl, h⟩
  | c :: rest =>
    obtain ⟨hanswer, hstate⟩ := c.run_same h
    obtain ⟨hrest, hfinal⟩ := runAll_same stops rest hstate
    have hstore := Store.same_iff.mp (store_of_normal hstate)
    rw [runAll_cons, runAll_cons, ← isFailure_eq_of_sameAnswer hanswer]
    split
    · refine ⟨?_, hstate⟩
      rw [sameOutcomes, hanswer, hstore, sameOutcomes]
      rfl
    · refine ⟨?_, hfinal⟩
      rw [sameOutcomes, hanswer, hstore, hrest]
      rfl
termination_by structural script

end

/-! ## Equal stores -/

/-- **Stores that are equal behave alike.** Two stores of any runs are equal exactly if they have
the same floor and as many frames, and if a name has at each depth the same value in both or is
bound there in neither. If they are equal then every program has outcomes on them that are equal,
answer by answer and store by store, and it leaves equal stores. -/
theorem equal_stores_behave_alike {script script' : List Command} {past past' : List Moment}
    (h : past <+: trace script) (h' : past' <+: trace script') :
    let t := (stateAfter .initial past).store
    let u := (stateAfter .initial past').store
    (Store.same t u = true ↔ t.floor = u.floor ∧ t.depth = u.depth ∧
        ∀ i name, Json.sameOption (t.valueAt i name) (u.valueAt i name) = true) ∧
      (Store.same t u = true → ∀ stops program,
        sameOutcomes program (runAll stops program ⟨t, ∅⟩).1
            (runAll stops program ⟨u, ∅⟩).1 = true ∧
          Store.same (runAll stops program ⟨t, ∅⟩).2.store
            (runAll stops program ⟨u, ∅⟩).2.store = true) := by
  intro t u
  constructor
  · have hmap := Table.map_eq_map_iff (f := Json.normal) (ordered_stateAfter h)
      (ordered_stateAfter h')
    simp only [Json.map_normal_eq_iff] at hmap
    rw [← Store.same_iff, hmap]
  · intro hsame stops program
    have hnormal : State.normal ⟨t, ∅⟩ = State.normal ⟨u, ∅⟩ :=
      congrArg (State.mk · _) (Store.same_iff.mpr hsame)
    obtain ⟨houtcomes, hfinal⟩ := runAll_same stops program hnormal
    exact ⟨houtcomes, Store.same_iff.mp (store_of_normal hfinal)⟩

/-- Two stores with the same bindings, made in another order and overwritten, and with another zero
in one of them. Reading the zero as a truth value fails with two messages that tell the zeros apart.
-/
theorem equal_stores_behave_alike_of_zeros :
    let script : List Command :=
      [.declare {} "b" (.float (.zero false)), .declare {} "a" (.array [.float (.zero false)])]
    let script' : List Command :=
      [.declare {} "a" .null, .enterScope, .updateOrDeclare "a" (.array [.float (.zero true)]),
        .exitScope, .declare {} "b" (.float (.zero true))]
    let program : List Command :=
      [.edit "a" (.push .null), .lookupAs "b" .bool,
        .block true [.declare {} "a" .null, .lookupAs "b" .double, .exitScope, .reset], .snapshot]
    let t := (stateAfter .initial (trace script)).store
    let u := (stateAfter .initial (trace script')).store
    t.get? "b" = some (.float (.zero false)) ∧ u.get? "b" = some (.float (.zero true)) ∧
      sameOutcomes program (runAll false program ⟨t, ∅⟩).1
        (runAll false program ⟨u, ∅⟩).1 = true := by
  intro script script' program t u
  have hsame : Store.same t u = true := by decide
  exact ⟨rfl, rfl,
    ((equal_stores_behave_alike (List.prefix_refl _) (List.prefix_refl _)).2 hsame false program).1⟩

end Script

end LexicalScope
