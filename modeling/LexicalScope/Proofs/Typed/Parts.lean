import LexicalScope.Proofs.Typed.RoundTrip
import LexicalScope.Typed.Parts

/-!
# Data values as typed data

A data value that is taken apart and put together again is the old one if that keeps the members of
its objects in order, as every value of a program does. This holds in both directions: of the data
value that the parts become, and of what is read part by part.

* `Json.ordered_array_iff`, `Json.ordered_object_iff`, `Json.ordered_ofMembers` — order, level by
  level
* `Json.toJson_typed` — a value in order is what its parts become
* `Typed.readParts_eq` — and it is what is read from it part by part
* `Datum.jsons`, `Datum.ordered_toJson` — what typed data become is in order if the data values in
  them are
-/

namespace LexicalScope

namespace Json

/-! ## Order, level by level -/

/-- A value without parts that is no object has nothing to be in order. -/
theorem ordered_of_parts {v : Json} (hparts : v.parts = [v]) (hv : ∀ members, v ≠ .object members) :
    v.Ordered := by
  intro p hp members hm
  rw [hparts, List.mem_singleton] at hp
  exact absurd (hp.symm.trans hm) (hv members)

@[simp] theorem ordered_null : Ordered .null := ordered_of_parts rfl nofun

@[simp] theorem ordered_bool (b : Bool) : (bool b).Ordered := ordered_of_parts rfl nofun

@[simp] theorem ordered_whole (n : Whole) : (whole n).Ordered := ordered_of_parts rfl nofun

@[simp] theorem ordered_float (x : Double) : (float x).Ordered := ordered_of_parts rfl nofun

@[simp] theorem ordered_string (s : String) : (string s).Ordered := ordered_of_parts rfl nofun

/-- An array is in order exactly if its items are. -/
theorem ordered_array_iff {items : List Json} :
    (array items).Ordered ↔ ∀ v ∈ items, v.Ordered := by
  unfold Ordered
  rw [parts, List.forall_mem_cons, forall_mem_partsItems]
  exact and_iff_right nofun

/-- An object is in order exactly if its members are, both their names and their values. -/
theorem ordered_object_iff {members : Dict String Json} :
    (object members).Ordered ↔ members.Sorted ∧ ∀ e ∈ members.entries, e.2.Ordered := by
  obtain ⟨entries⟩ := members
  unfold Ordered
  rw [parts, List.forall_mem_cons, forall_mem_partsMembers]
  refine and_congr_left fun _ => ⟨fun h => h _ rfl, ?_⟩
  rintro h members heq
  rwa [← object.inj heq]

/-- An object made of members is in order if the values of the members are. -/
theorem ordered_ofMembers {members : List (String × Json)} (h : ∀ e ∈ members, e.2.Ordered) :
    (ofMembers members).Ordered :=
  ordered_object_iff.mpr
    ⟨Dict.sorted_ofList members, fun e he => h e (Dict.mem_of_mem_ofList he)⟩

/-- An object is put together from its members if these are in order. -/
theorem ofMembers_of_sorted {members : List (String × Json)} (h : Dict.Sorted ⟨members⟩) :
    ofMembers members = object ⟨members⟩ :=
  congrArg object (Dict.ofList_of_perm h (List.Perm.refl _))

/-! ## Taking apart -/

mutual

/-- **A value in order is what its parts become** as typed data. -/
theorem toJson_typed {v : Json} (h : v.Ordered) : v.typed.toJson = .ok v := by
  match v with
  | .null => rfl
  | .bool b => rfl
  | .whole n => exact Typed.toJson_integer n.narrow_kind n.bounded
  | .float x => exact congrArg Except.ok (Schema.toJson_finite x)
  | .string s => rfl
  | .array items => rw [typed, Datum.toJson, toItems_typedItems (ordered_array_iff.mp h)]
  | .object ⟨members⟩ =>
    obtain ⟨hsorted, hmembers⟩ := ordered_object_iff.mp h
    rw [typed, Datum.toJson, toMembers_typedMembers hmembers]
    exact congrArg Except.ok (ofMembers_of_sorted hsorted)
termination_by structural v

/-- The items of an array are what their parts become. -/
theorem toItems_typedItems {items : List Json} (h : ∀ v ∈ items, v.Ordered) :
    Datum.toItems (typedItems items) = .ok items := by
  match items with
  | [] => rfl
  | v :: rest =>
    obtain ⟨hv, hrest⟩ := List.forall_mem_cons.mp h
    rw [typedItems, Datum.toItems, toJson_typed hv, toItems_typedItems hrest]
termination_by structural items

/-- The members of an object are what their parts become. -/
theorem toMembers_typedMembers {members : List (String × Json)} (h : ∀ e ∈ members, e.2.Ordered) :
    Datum.toMembers (typedMembers members) = .ok members := by
  match members with
  | [] => rfl
  | (name, v) :: rest =>
    obtain ⟨hv, hrest⟩ := List.forall_mem_cons.mp h
    rw [typedMembers, Datum.toMembers, Datum.toKey, toJson_typed hv, toMembers_typedMembers hrest]
termination_by structural members

end

end Json

/-! ## Reading -/

namespace Typed

mutual

/-- **A value in order is what is read from it part by part.** -/
theorem readParts_eq {v : Json} (h : v.Ordered) : readParts v = .ok v := by
  match v with
  | .null => rfl
  | .bool b => rfl
  | .whole n =>
    rw [readParts, readInteger, n.ofInt?_kind]
    rfl
  | .float x => exact congrArg Except.ok (Schema.toJson_finite x)
  | .string s => rfl
  | .array items =>
    rw [readParts_array, readList, readItems_readParts (Json.ordered_array_iff.mp h)]
    rfl
  | .object ⟨members⟩ =>
    obtain ⟨hsorted, hmembers⟩ := Json.ordered_object_iff.mp h
    rw [readParts_object, readMap, readMembers_readParts hmembers]
    exact congrArg Except.ok (Json.ofMembers_of_sorted hsorted)
termination_by structural v

/-- The items of an array are what is read from them. -/
theorem readItems_readParts {items : List Json} (h : ∀ v ∈ items, v.Ordered) :
    readItems readParts items = .ok items := by
  match items with
  | [] => rfl
  | v :: rest =>
    obtain ⟨hv, hrest⟩ := List.forall_mem_cons.mp h
    rw [readItems, readParts_eq hv, readItems_readParts hrest]
termination_by structural items

/-- The members of an object are what is read from them. -/
theorem readMembers_readParts {members : List (String × Json)} (h : ∀ e ∈ members, e.2.Ordered) :
    readMembers .ok readParts members = .ok members := by
  match members with
  | [] => rfl
  | (name, v) :: rest =>
    obtain ⟨hv, hrest⟩ := List.forall_mem_cons.mp h
    rw [readMembers, readParts_eq hv, readMembers_readParts hrest]
termination_by structural members

end

end Typed

/-! ## Typed data -/

/-- A special number has no value of its own, and any other one is a value without parts. -/
theorem Extended.ordered_toJson {f : BinaryFormat} (x : Extended f) : x.toJson.Ordered := by
  unfold toJson
  split
  · exact Json.ordered_float _
  · exact Json.ordered_null

theorem Point.ordered_toJson (p : Point) : p.toJson.Ordered :=
  Json.ordered_ofMembers (by simp)

theorem Config.ordered_toJson (c : Config) : c.toJson.Ordered := by
  refine Json.ordered_ofMembers ?_
  cases c.limit <;> simp [Json.ordered_array_iff]

theorem Shape.ordered_toJson (s : Shape) : s.toJson.Ordered := by
  cases s with
  | empty => exact Json.ordered_string _
  | circle r => exact Json.ordered_ofMembers (by simp)
  | rect w h => exact Json.ordered_ofMembers (by simp [Json.ordered_array_iff])
  | poly n =>
    have hsides : (Json.ofMembers [("sides", .whole n.toWhole)]).Ordered :=
      Json.ordered_ofMembers (by simp)
    exact Json.ordered_ofMembers (by simpa using hsides)

namespace Datum

mutual

/-- The data values that stand in the typed value. -/
def jsons : Datum → List Json
  | .present d => d.jsons
  | .sequence items => jsonsItems items
  | .map entries => jsonsEntries entries
  | .json v => [v]
  | _ => []
termination_by structural d => d

def jsonsItems : List Datum → List Json
  | [] => []
  | d :: rest => d.jsons ++ jsonsItems rest
termination_by structural items => items

/-- Those of the entries; keys become texts. -/
def jsonsEntries : List (Datum × Datum) → List Json
  | [] => []
  | (_, d) :: rest => d.jsons ++ jsonsEntries rest
termination_by structural entries => entries

end

mutual

/-- **What typed data become is in order** if the data values in them are. -/
theorem ordered_toJson {d : Datum} (h : ∀ v ∈ d.jsons, v.Ordered) {v : Json}
    (hv : d.toJson = .ok v) : v.Ordered := by
  match d with
  | .unit | .absent | .bool _ | .char _ | .string _ =>
    cases hv
    simp
  | .integer k n =>
    rw [toJson] at hv
    split at hv
    · cases hv
      exact Json.ordered_whole _
    · cases hv
  | .double x | .single x | .meters x =>
    cases hv
    exact x.ordered_toJson
  | .bytes bs =>
    cases hv
    simp [Json.ordered_array_iff, byteToJson]
  | .present d => exact ordered_toJson (d := d) h hv
  | .sequence items =>
    rw [toJson] at hv
    split at hv
    · next hitems =>
      cases hv
      exact Json.ordered_array_iff.mpr (ordered_toItems h hitems)
    · cases hv
  | .map entries =>
    rw [toJson] at hv
    split at hv
    · next hmembers =>
      cases hv
      exact Json.ordered_ofMembers (ordered_toMembers h hmembers)
    · cases hv
  | .json w =>
    cases hv
    exact h _ List.mem_cons_self
  | .point p =>
    cases hv
    exact p.ordered_toJson
  | .config c =>
    cases hv
    exact c.ordered_toJson
  | .shape s =>
    cases hv
    exact s.ordered_toJson
  | .failing _ => cases hv
termination_by structural d

theorem ordered_toItems {items : List Datum} (h : ∀ v ∈ jsonsItems items, v.Ordered)
    {vs : List Json} (hvs : toItems items = .ok vs) : ∀ v ∈ vs, v.Ordered := by
  match items with
  | [] =>
    cases hvs
    exact fun _ hv => absurd hv List.not_mem_nil
  | d :: rest =>
    obtain ⟨hd, hrest⟩ := List.forall_mem_append.mp h
    rw [toItems] at hvs
    split at hvs
    · cases hvs
    · next hjson =>
      split at hvs
      · cases hvs
      · next hitems =>
        cases hvs
        exact List.forall_mem_cons.mpr ⟨ordered_toJson hd hjson, ordered_toItems hrest hitems⟩
termination_by structural items

/-- What the entries of typed data become is in order if the data values in them are. -/
theorem ordered_toMembers {entries : List (Datum × Datum)}
    (h : ∀ v ∈ jsonsEntries entries, v.Ordered) {ms : List (String × Json)}
    (hms : toMembers entries = .ok ms) : ∀ e ∈ ms, e.2.Ordered := by
  match entries with
  | [] =>
    cases hms
    exact fun _ he => absurd he List.not_mem_nil
  | (k, d) :: rest =>
    obtain ⟨hd, hrest⟩ := List.forall_mem_append.mp h
    rw [toMembers] at hms
    split at hms
    · cases hms
    · split at hms
      · cases hms
      · next hjson =>
        split at hms
        · cases hms
        · next hmembers =>
          cases hms
          exact List.forall_mem_cons.mpr
            ⟨ordered_toJson hd hjson, ordered_toMembers hrest hmembers⟩
termination_by structural entries

end

end Datum

namespace Json

mutual

/-- Among the parts of a data value there is no data value any more. -/
theorem jsons_typed (v : Json) : v.typed.jsons = [] := by
  match v with
  | .null | .bool _ | .whole _ | .float _ | .string _ => rfl
  | .array items => rw [typed, Datum.jsons, jsonsItems_typedItems items]
  | .object ⟨members⟩ => rw [typed, Datum.jsons, jsonsEntries_typedMembers members]
termination_by structural v

/-- Nor among those of items. -/
theorem jsonsItems_typedItems (items : List Json) :
    Datum.jsonsItems (typedItems items) = [] := by
  match items with
  | [] => rfl
  | v :: rest =>
    rw [typedItems, Datum.jsonsItems, jsons_typed v, jsonsItems_typedItems rest, List.nil_append]
termination_by structural items

/-- Nor among those of members. -/
theorem jsonsEntries_typedMembers (members : List (String × Json)) :
    Datum.jsonsEntries (typedMembers members) = [] := by
  match members with
  | [] => rfl
  | (name, v) :: rest =>
    rw [typedMembers, Datum.jsonsEntries, jsons_typed v, jsonsEntries_typedMembers rest,
      List.nil_append]
termination_by structural members

end

end Json

end LexicalScope
