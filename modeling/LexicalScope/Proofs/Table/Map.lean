import LexicalScope.Proofs.Script.Invariant
import LexicalScope.Proofs.Table.ValueAt

/-!
# Images of tables

A table does not look at the values that it binds. So an image of the values can be taken before an
operation or after it: each operation on the image of a table gives the image of what it gives on
the table.

* `Table.map` — the table with the image of each value
* `map_exitScope`, `map_declare`, `map_update`, `map_updateOrDeclare` — changes
* `map_rebind?` — a change in place, where the image of the new value is told by that of the old
* `get?_map`, `lookup_map`, `resolveDepth?_map`, `visible_map` — queries
* `map_eq_map_iff` — tables with equal images
-/

namespace LexicalScope

namespace Table

variable {V W : Type} {f : V → W}

/-- The table with the image of each value. -/
def map (f : V → W) (t : Table V) : Table W := ⟨t.frames.map (·.mapValues f), t.floor⟩

theorem depth_map (t : Table V) : (t.map f).depth = t.depth := List.length_map _

theorem floor_map (t : Table V) : (t.map f).floor = t.floor := rfl

/-! ## Scopes -/

theorem map_enterScope (t : Table V) : t.enterScope.map f = (t.map f).enterScope := rfl

theorem map_openScoped (t : Table V) : t.openScoped.map f = (t.map f).openScoped := by
  unfold openScoped
  rw [← map_enterScope, depth_map]
  rfl

theorem map_truncate (t : Table V) (n : Nat) :
    (t.truncate n).map (·.mapValues f) = (t.map f).truncate n := by
  rw [truncate, truncate, depth_map, List.map_drop]
  rfl

/-- The frames that a block leaves are mapped one by one. -/
theorem map_closeScoped (t : Table V) (floor : Nat) :
    (t.closeScoped floor).map f = (t.map f).closeScoped floor :=
  congrArg (Table.mk · floor) (map_truncate t (t.floor - 1))

/-- A scope is closed, or refused, whatever its values are. -/
theorem map_exitScope (t : Table V) :
    (t.exitScope).map (Prod.map (·.mapValues f) (map f)) = (t.map f).exitScope := by
  obtain ⟨frames, floor⟩ := t
  cases frames with
  | nil => rfl
  | cons frame rest =>
    unfold exitScope map
    simp only [List.map_cons, List.length_map]
    split <;> rfl

/-! ## Bindings -/

/-- A declaration is refused for its name or a missing frame, never for values. -/
theorem map_declare (t : Table V) (name : String) (v : V) :
    (t.declare name v).map (map f) = (t.map f).declare name (f v) := by
  obtain ⟨frames, floor⟩ := t
  unfold declare
  split
  · cases frames with
    | nil => rfl
    | cons frame rest =>
      show Except.ok _ = Except.ok _
      simp [map, Dict.mapValues_insert]
  · rfl

section Rebinding

variable {g : V → V} {g' : W → W} (h : ∀ v, f (g v) = g' (f v))
include h

/-- A rebinding with corresponding functions is made in the same frame. -/
theorem map_rebindIn (name : String) (frames : List (Frame V)) :
    (rebindIn name g frames).map (Prod.map f (List.map (·.mapValues f))) =
      rebindIn name g' (frames.map (·.mapValues f)) := by
  induction frames with
  | nil => rfl
  | cons frame rest ih =>
    rw [List.map_cons, rebindIn, rebindIn, Dict.get?_mapValues]
    cases frame.get? name with
    | some old => simp [Dict.mapValues_modify h]
    | none =>
      simp only [Option.map_none, ← ih, Option.map_map]
      rfl

/-- **An image is rebound** as the value is. -/
theorem map_rebind? (t : Table V) (name : String) :
    (t.rebind? name g).map (Prod.map f (map f)) = (t.map f).rebind? name g' := by
  have hframes := map_rebindIn h name t.frames
  unfold rebind?
  rw [show (t.map f).frames = t.frames.map (·.mapValues f) from rfl, ← hframes, Option.map_map,
    Option.map_map]
  rfl

end Rebinding

theorem map_rebind?_const (t : Table V) (name : String) (v : V) :
    (t.rebind? name fun _ => v).map (Prod.map f (map f)) =
      (t.map f).rebind? name fun _ => f v := by
  refine map_rebind? (fun _ => ?_) t name
  rfl

theorem map_update (t : Table V) (name : String) (v : V) :
    (t.update name v).map (Prod.map f (map f)) = (t.map f).update name (f v) := by
  have hr := map_rebind?_const (f := f) t name v
  unfold update
  rw [← hr]
  cases t.rebind? name fun _ => v <;> rfl

theorem map_updateOrDeclare (t : Table V) (name : String) (v : V) :
    (t.updateOrDeclare name v).map (Prod.map (Option.map f) (map f)) =
      (t.map f).updateOrDeclare name (f v) := by
  have hr := map_rebind?_const (f := f) t name v
  unfold updateOrDeclare
  rw [← hr, ← map_declare]
  cases t.rebind? name fun _ => v with
  | some result => rfl
  | none => cases t.declare name v <;> rfl

/-! ## Queries -/

theorem get?_map (t : Table V) (name : String) : (t.map f).get? name = (t.get? name).map f := by
  unfold get? map
  induction t.frames with
  | nil => rfl
  | cons frame rest ih =>
    rw [List.map_cons, List.findSome?_cons, List.findSome?_cons, ih, Dict.get?_mapValues]
    cases frame.get? name <;> rfl

theorem lookup_map (t : Table V) (name : String) :
    (t.map f).lookup name = (t.lookup name).map f := by
  rw [lookup, lookup, get?_map]
  cases t.get? name <;> rfl

theorem contains_map (t : Table V) (name : String) :
    (t.map f).contains name = t.contains name := by
  rw [contains, contains, get?_map, Option.isSome_map]

theorem isLocal_map (t : Table V) (name : String) : (t.map f).isLocal name = t.isLocal name := by
  obtain ⟨frames, floor⟩ := t
  cases frames with
  | nil => rfl
  | cons frame rest => exact Dict.contains_mapValues frame name

theorem resolveDepth?_map (t : Table V) (name : String) :
    (t.map f).resolveDepth? name = t.resolveDepth? name := by
  unfold resolveDepth?
  rw [depth_map]
  congr 1
  simp [map, List.findIdx?_map, Function.comp_def, Dict.contains_mapValues]

/-- Which bindings are hidden does not depend on values. -/
theorem visibleIn_map (seen : List String) (frames : List (Frame V)) :
    visibleIn seen (frames.map (·.mapValues f)) =
      (visibleIn seen frames).map fun e => (e.1, f e.2) := by
  induction frames generalizing seen with
  | nil => rfl
  | cons frame rest ih =>
    rw [List.map_cons, visibleIn, visibleIn, List.map_append, ih, Dict.keys_mapValues]
    congr 1
    rw [Dict.mapValues, List.filter_map]
    rfl

theorem visible_map (t : Table V) :
    (t.map f).visible = t.visible.map fun e => (e.1, f e.2) := visibleIn_map [] t.frames

theorem rootFirst_map (t : Table V) :
    (t.map f).rootFirst = t.rootFirst.map (·.mapValues f) := List.map_reverse.symm

theorem valueAt_map (t : Table V) (i : Nat) (name : String) :
    (t.map f).valueAt i name = (t.valueAt i name).map f := by
  show ((t.map f).rootFirst[i]?).bind _ = ((t.rootFirst[i]?).bind _).map f
  rw [rootFirst_map, List.getElem?_map]
  cases t.rootFirst[i]? with
  | none => rfl
  | some frame => exact Dict.get?_mapValues frame name

/-! ## Tables with equal images -/

/-- A change of values leaves the entries of frames in order. -/
theorem ordered_map {t : Table V} (h : t.Ordered) : (t.map f).Ordered := by
  intro frame hframe
  obtain ⟨d, hd, rfl⟩ := List.mem_map.mp hframe
  exact Dict.sorted_mapValues (h d hd)

/-- Lists of frames in order are equal if each frame binds the same names to the same values. -/
theorem eq_of_valueIn {frames frames' : List (Frame V)} (hs : ∀ frame ∈ frames, frame.Sorted)
    (hs' : ∀ frame ∈ frames', frame.Sorted) (hlength : frames.length = frames'.length)
    (h : ∀ i name, valueIn frames i name = valueIn frames' i name) : frames = frames' := by
  induction frames generalizing frames' with
  | nil => exact (List.length_eq_zero_iff.mp hlength.symm).symm
  | cons frame rest ih =>
    cases frames' with
    | nil => cases hlength
    | cons frame' rest' =>
      have hrest : rest.length = rest'.length := Nat.succ.inj hlength
      obtain ⟨hframe, hs⟩ := List.forall_mem_cons.mp hs
      obtain ⟨hframe', hs'⟩ := List.forall_mem_cons.mp hs'
      have hhead : frame = frame' := by
        refine Dict.ext_get? hframe hframe' fun name => ?_
        have hinner := h rest.length name
        rwa [valueIn_cons, valueIn_cons, if_pos rfl, if_pos hrest] at hinner
      have htail : rest = rest' := by
        refine ih hs hs' hrest fun i name => ?_
        by_cases hi : i = rest.length
        · rw [valueIn_eq_none_of_length_le (Nat.le_of_eq hi.symm),
            valueIn_eq_none_of_length_le (Nat.le_of_eq (hrest ▸ hi.symm))]
        · have hinner := h i name
          rwa [valueIn_cons, valueIn_cons, if_neg hi, if_neg (hrest ▸ hi)] at hinner
      rw [hhead, htail]

/-- **A table is its floor, its depth and what is bound at each depth.** -/
theorem ext_valueAt {t u : Table V} (ht : t.Ordered) (hu : u.Ordered) (hfloor : t.floor = u.floor)
    (hdepth : t.depth = u.depth) (h : ∀ i name, t.valueAt i name = u.valueAt i name) : t = u := by
  obtain ⟨frames, floor⟩ := t
  obtain ⟨frames', floor'⟩ := u
  obtain rfl : floor = floor' := hfloor
  exact congrArg (Table.mk · floor) (eq_of_valueIn ht hu hdepth h)

/-- **Images are equal where the images of all values are.** -/
theorem map_eq_map_iff {t u : Table V} (ht : t.Ordered) (hu : u.Ordered) :
    t.map f = u.map f ↔ t.floor = u.floor ∧ t.depth = u.depth ∧
      ∀ i name, (t.valueAt i name).map f = (u.valueAt i name).map f := by
  constructor
  · intro h
    refine ⟨?_, ?_, fun i name => ?_⟩
    · rw [← floor_map (f := f) t, h, floor_map]
    · rw [← depth_map (f := f) t, h, depth_map]
    · rw [← valueAt_map, h, valueAt_map]
  · rintro ⟨hfloor, hdepth, hvalues⟩
    refine ext_valueAt (ordered_map ht) (ordered_map hu) hfloor ?_ fun i name => ?_
    · rw [depth_map, depth_map, hdepth]
    · rw [valueAt_map, valueAt_map, hvalues]

end Table

end LexicalScope
