import LexicalScope.Dict.Lemmas
import LexicalScope.Proofs.Json.RoundTrip
import LexicalScope.Proofs.Numeric.Exact
import LexicalScope.Typed.Schema
import Mathlib.Data.List.Nodup
import Mathlib.Data.List.Perm.Basic

/-!
# Typed values as data

A typed value becomes a data value, and the data value is read as the typed value again. The two
conversions know nothing of each other: one goes by the value, the other by the type that is asked
for. Where the value has parts, this follows from its parts.

* `Inverts` — a reader gives back what a writer has written
* `inverts_list`, `readMap_ofMembers` — lists and maps; the keys of a map are put in the order of
  their texts when they are written, and back in their own when they are read
* `readIntegerKey_integerText` — integers as keys
* `inverts_point`, `inverts_config`, `inverts_shape` — records and choices
* `Schema.Proper`, `Schema.isNarrow` — values as they are stored
* `Schema.readsBack` — every such value is read back
-/

namespace LexicalScope

instance {k : IntegerKind} : Std.TransOrd (BoundedInt k) where
  eq_swap {a b} := by
    have hswap : compare a.val b.val = (compare b.val a.val).swap := Std.OrientedCmp.eq_swap
    exact hswap
  isLE_trans {a b c} hab hbc := by
    have htrans : (compare a.val b.val).isLE = true → (compare b.val c.val).isLE = true →
        (compare a.val c.val).isLE = true := Std.TransCmp.isLE_trans
    exact htrans hab hbc

instance {k : IntegerKind} : Std.LawfulEqOrd (BoundedInt k) where
  eq_of_compare {a b} h := by
    have hval : a.val = b.val := Std.LawfulEqOrd.eq_of_compare h
    cases a
    cases b
    cases hval
    rfl

namespace Typed

/-- The reader gives back every value that the writer has written. -/
def Inverts {α : Type} (read : TypedReader α) (write : α → Json) : Prop :=
  ∀ x, read (write x) = .ok x

/-! ## Integers -/

/-- The integer as a data value. -/
def writeInteger {k : IntegerKind} (h : k.IsNarrow) (n : BoundedInt k) : Json :=
  .whole (n.toWhole h)

/-- Only the kinds of 128 bits have integers that data values cannot hold. -/
theorem narrow_of_bits_le {k : IntegerKind} (hk : k.bits ≤ 64) : k.IsNarrow := by
  cases k with
  | i128 => exact absurd hk (by decide)
  | u128 => exact absurd hk (by decide)
  | _ => decide

/-- An integer of a narrow kind is read back in its kind. -/
theorem inverts_integer {k : IntegerKind} (h : k.IsNarrow) :
    Inverts (readInteger k) (writeInteger h) := by
  intro n
  have hn : BoundedInt.ofInt? k (n.toWhole h).val = some n := n.ofInt?_val
  rw [writeInteger, readInteger, hn]

/-- An integer of a narrow kind has a data value. -/
theorem toJson_integer {k : IntegerKind} (h : k.IsNarrow) (n : BoundedInt k) :
    (Datum.integer k n).toJson = .ok (writeInteger h n) := by
  have hn : Whole.ofInt? n.val = some (n.toWhole h) := (n.toWhole h).ofInt?_val
  rw [Datum.toJson, hn]
  rfl

/-! ## Lists -/

section Lists

variable {α : Type} {read : TypedReader α} {write : α → Json}

theorem readItems_map (h : Inverts read write) (xs : List α) :
    readItems read (xs.map write) = .ok xs := by
  induction xs with
  | nil => rfl
  | cons x xs ih => rw [List.map_cons, readItems, h x, ih]

/-- A list is read back if its items are. -/
theorem inverts_list (h : Inverts read write) :
    Inverts (readList read) fun xs => .array (xs.map write) :=
  readItems_map h

theorem toItems_map {datum : α → Datum} (h : ∀ x, (datum x).toJson = .ok (write x))
    (xs : List α) : Datum.toItems (xs.map datum) = .ok (xs.map write) := by
  induction xs with
  | nil => rfl
  | cons x xs ih =>
    rw [List.map_cons, Datum.toItems, h x, ih]
    rfl

/-- The data value of a sequence has those of its items. -/
theorem toJson_sequence {datum : α → Datum} (h : ∀ x, (datum x).toJson = .ok (write x))
    (xs : List α) : (Datum.sequence (xs.map datum)).toJson = .ok (.array (xs.map write)) := by
  rw [Datum.toJson, toItems_map h]

end Lists

/-! ## Maps -/

section Maps

variable {κ α : Type} {readKey : String → Except ReadError κ} {key : κ → String}
  {read : TypedReader α} {write : α → Json}

theorem readMembers_map (hkey : ∀ k, readKey (key k) = .ok k) (h : Inverts read write)
    (entries : List (κ × α)) :
    readMembers readKey read (entries.map fun e => (key e.1, write e.2)) = .ok entries := by
  induction entries with
  | nil => rfl
  | cons e entries ih => rw [List.map_cons, readMembers, hkey, h, ih]

/-- A rearrangement of images is the image of a rearrangement. -/
theorem exists_map_eq_of_perm {β γ : Type} {f : β → γ} {xs : List β} {ys : List γ}
    (h : ys.Perm (xs.map f)) : ∃ zs : List β, zs.Perm xs ∧ ys = zs.map f := by
  have hcomp := congrFun (congrFun (List.eq_map_comp_perm f) ys) xs
  obtain ⟨zs, hzs, hperm⟩ := hcomp.mpr h
  exact ⟨zs, hperm, hzs⟩

/-- **A map is read back,** although its members are in the order of the texts of its keys. -/
theorem readMap_ofMembers [Ord κ] [Std.TransOrd κ] [Std.LawfulEqOrd κ] [DecidableEq κ]
    (hkey : ∀ k, readKey (key k) = .ok k) (h : Inverts read write) {d : Dict κ α}
    (hd : d.Sorted) :
    readMap readKey read (.ofMembers (d.entries.map fun e => (key e.1, write e.2))) = .ok d := by
  have hinjective : Function.Injective key := by
    intro k k' heq
    exact Except.ok.inj ((hkey k).symm.trans ((congrArg readKey heq).trans (hkey k')))
  have hnodup : ((d.entries.map fun e => (key e.1, write e.2)).map (·.1)).Nodup := by
    have hkeys : (d.entries.map fun e => (key e.1, write e.2)).map (·.1) = d.keys.map key := by
      simp [Dict.keys]
    rw [hkeys]
    exact List.Nodup.map hinjective (Dict.nodup_keys hd)
  obtain ⟨entries, hperm, hmembers⟩ := exists_map_eq_of_perm (Dict.perm_ofList hnodup)
  rw [Json.ofMembers, readMap, hmembers, readMembers_map hkey h]
  exact congrArg Except.ok (Dict.ofList_of_perm hd hperm)

theorem toMembers_map {keyDatum : κ → Datum} {datum : α → Datum}
    (hkey : ∀ k, (keyDatum k).toKey = .ok (key k)) (h : ∀ x, (datum x).toJson = .ok (write x))
    (entries : List (κ × α)) :
    Datum.toMembers (entries.map fun e => (keyDatum e.1, datum e.2)) =
      .ok (entries.map fun e => (key e.1, write e.2)) := by
  induction entries with
  | nil => rfl
  | cons e entries ih =>
    rw [List.map_cons, Datum.toMembers, hkey, h, ih]
    rfl

/-- The data value of a map has the texts of its keys and the data values of its values. -/
theorem toJson_map {keyDatum : κ → Datum} {datum : α → Datum}
    (hkey : ∀ k, (keyDatum k).toKey = .ok (key k)) (h : ∀ x, (datum x).toJson = .ok (write x))
    (d : Dict κ α) :
    (Datum.map (d.entries.map fun e => (keyDatum e.1, datum e.2))).toJson =
      .ok (.ofMembers (d.entries.map fun e => (key e.1, write e.2))) := by
  rw [Datum.toJson, toMembers_map hkey h]

end Maps

/-- **The decimal text of an integer is read as a key.** -/
theorem readIntegerKey_integerText (n : BoundedInt .i64) :
    readIntegerKey (String.ofList (Json.integerText n.val)) = .ok n := by
  have hnumber : Json.number (Json.integerText n.val) = .ok (.whole n.toWhole, []) := by
    have happend := Json.number_integerText_append n.toWhole Json.endsNumber_nil
    rwa [List.append_nil] at happend
  have hread : readInteger .i64 (.whole n.toWhole) = .ok n := inverts_integer (by decide) n
  obtain ⟨c, cs, htext, hc⟩ := Json.integerText_eq_cons n.val
  have hfirst : (Json.integerText n.val).head?.any (fun c => c = '-' || c.isDigit) = true := by
    rw [htext]
    simpa using hc
  rw [readIntegerKey, String.toList_ofList, if_pos hfirst, hnumber]
  simp only [hread, List.isEmpty_nil, if_true]

/-! ## Records and choices -/

/-- Members in any order are those in the order of their names. -/
theorem ofMembers_of_perm {entries members : List (String × Json)} {names : List String}
    (hp : entries.Perm members) (hn : members.map (·.1) = names)
    (hs : names.Pairwise fun a b => compare a b = .lt) :
    Json.ofMembers entries = .object ⟨members⟩ := by
  subst hn
  exact congrArg Json.object (Dict.ofList_of_perm (List.pairwise_map.mp hs) hp)

theorem toJson_i64 (n : BoundedInt .i64) :
    (Datum.integer .i64 n).toJson = .ok (.whole n.toWhole) :=
  toJson_integer (by decide) n

/-- A signed integer of 64 bits is read back; the parts of most other types are such. -/
theorem inverts_i64 (n : BoundedInt .i64) : readInteger .i64 (.whole n.toWhole) = .ok n :=
  inverts_integer (by decide) n

/-- A byte is read back; limits and numbers of sides are such. -/
theorem inverts_u8 (n : BoundedInt .u8) : readInteger .u8 (.whole n.toWhole) = .ok n :=
  inverts_integer (by decide) n

/-- A record is read back from the object that it is written as. -/
theorem inverts_point : Inverts readPoint Point.toJson := by
  intro p
  have hmembers : p.toJson = .object ⟨[("x", .whole p.x.toWhole), ("y", .whole p.y.toWhole)]⟩ :=
    ofMembers_of_perm (List.Perm.refl _) (rfl : _ = ["x", "y"]) (by decide)
  rw [hmembers]
  simp [readPoint, readField?, Dict.get?, Dict.lookup, inverts_i64, bind, Except.bind]

/-- A record with a field that may be missing is read back, whether the field is there or not. -/
theorem inverts_config : Inverts readConfig Config.toJson := by
  intro c
  obtain ⟨name, limit, tags⟩ := c
  have hstring : Inverts readString .string := fun _ => rfl
  have htags : readList readString (.array (tags.map .string)) = .ok tags :=
    inverts_list hstring tags
  cases limit with
  | none =>
    have hmembers : Config.toJson ⟨name, none, tags⟩ =
        .object ⟨[("name", .string name), ("tags", .array (tags.map .string))]⟩ :=
      ofMembers_of_perm (List.Perm.refl _) (rfl : _ = ["name", "tags"]) (by decide)
    rw [hmembers]
    simp [readConfig, ConfigFields.read, ConfigFields.toConfig, readString, htags, bind,
      Except.bind, pure, Except.pure]
  | some n =>
    have hmembers : Config.toJson ⟨name, some n, tags⟩ =
        .object ⟨[("limit", .whole n.toWhole), ("name", .string name),
          ("tags", .array (tags.map .string))]⟩ :=
      ofMembers_of_perm (List.Perm.swap _ _ _) (rfl : _ = ["limit", "name", "tags"]) (by decide)
    rw [hmembers]
    simp [readConfig, ConfigFields.read, ConfigFields.toConfig, readString, readOption, inverts_u8,
      htags, bind, Except.bind, pure, Except.pure]

/-- Each variant of a choice is read back. -/
theorem inverts_shape : Inverts readShape Shape.toJson := by
  intro s
  cases s with
  | empty => rfl
  | circle r =>
    have hmembers : Shape.toJson (.circle r) = .object ⟨[("Circle", .whole r.toWhole)]⟩ := rfl
    rw [hmembers]
    simp [readShape, readVariant, inverts_i64, bind, Except.bind, pure, Except.pure]
  | rect w h =>
    have hmembers : Shape.toJson (.rect w h) =
        .object ⟨[("Rect", .array [.whole w.toWhole, .whole h.toWhole])]⟩ := rfl
    rw [hmembers]
    simp [readShape, readVariant, readTwo, inverts_i64, bind, Except.bind, pure, Except.pure]
  | poly n =>
    have hmembers : Shape.toJson (.poly n) =
        .object ⟨[("Poly", .object ⟨[("sides", .whole n.toWhole)]⟩)]⟩ := rfl
    rw [hmembers]
    simp [readShape, readVariant, readField?, Dict.get?, Dict.lookup, inverts_u8, bind,
      Except.bind, pure, Except.pure]

end Typed

/-! ## All types -/

namespace Schema

open Typed

/-- The type has no integers that data values cannot hold. -/
def isNarrow : Schema → Bool
  | integer k => decide (k.bits ≤ 64)
  | _ => true

/-- The value is as the program holds it: the entries of a map are in the order of their keys. -/
def Proper : (s : Schema) → s.Carrier → Prop
  | integerMap, d => d.Sorted
  | integerKeys, d => d.Sorted
  | _, _ => True

/-- A finite number is written as itself. -/
theorem toJson_finite (x : Double) : (Extended.finite x).toJson = .float x := by
  rw [Extended.toJson, Extended.convert_finite (by decide)]
  rfl

/-- **Every value is read back from its data value.** -/
theorem readsBack {s : Schema} (hs : s.isNarrow = true) {x : s.Carrier} (hx : s.Proper x) :
    ∃ v, (s.datum x).toJson = .ok v ∧ s.read v = .ok x := by
  cases s with
  | unit => exact ⟨.null, rfl, rfl⟩
  | bool => exact ⟨.bool x, rfl, rfl⟩
  | integer k =>
    have h := narrow_of_bits_le (of_decide_eq_true hs)
    exact ⟨_, toJson_integer h x, inverts_integer h x⟩
  | double => exact ⟨.float x, congrArg Except.ok (toJson_finite x), rfl⟩
  | char =>
    refine ⟨.string (String.singleton x), rfl, ?_⟩
    simp [read, readChar]
  | string => exact ⟨.string x, rfl, rfl⟩
  | optionInteger =>
    cases x with
    | none => exact ⟨.null, rfl, rfl⟩
    | some n =>
      refine ⟨.whole n.toWhole, toJson_integer (by decide) n, ?_⟩
      simp [read, readOption, inverts_i64]
  | integers => exact ⟨_, toJson_sequence toJson_i64 x, inverts_list inverts_i64 x⟩
  | pair =>
    obtain ⟨n, text⟩ := x
    have hitems : Datum.toItems [.integer .i64 n, .string text] =
        .ok [.whole n.toWhole, .string text] := by
      rw [Datum.toItems, toJson_i64]
      rfl
    refine ⟨.array [.whole n.toWhole, .string text], ?_, ?_⟩
    · rw [datum, Datum.toJson, hitems]
    · simp [read, readPair, readTwo, readString, inverts_i64]
  | integerMap =>
    have hkey : ∀ name, (Datum.string name).toKey = .ok name := fun _ => rfl
    exact ⟨_, toJson_map hkey toJson_i64 x, readMap_ofMembers (fun _ => rfl) inverts_i64 hx⟩
  | integerKeys =>
    have hkey : ∀ n : BoundedInt .i64, (Datum.integer .i64 n).toKey =
        .ok (String.ofList (Json.integerText n.val)) := fun _ => rfl
    have hjson : ∀ b, (Datum.bool b).toJson = .ok (.bool b) := fun _ => rfl
    have hread : Inverts readBool .bool := fun _ => rfl
    exact ⟨_, toJson_map hkey hjson x, readMap_ofMembers readIntegerKey_integerText hread hx⟩
  | point => exact ⟨_, rfl, inverts_point x⟩
  | config => exact ⟨_, rfl, inverts_config x⟩
  | shape => exact ⟨_, rfl, inverts_shape x⟩
  | meters => exact ⟨.float x, congrArg Except.ok (toJson_finite x), rfl⟩
  | value => exact ⟨x, rfl, rfl⟩

end Schema

end LexicalScope
