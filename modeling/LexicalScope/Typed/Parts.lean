import LexicalScope.Typed.Reading

/-!
# Data values part by part

A data value can stand where typed data is asked for. It is then handed over in parts: numbers as
integers of 64 bits, with a sign only if they have one, or as doubles, arrays item by item and
objects member by member. Reading a data value as a data value goes the same way back.

* `Whole.kind`, `Whole.bounded` — the kind under which a number is handed over, and the number in it
* `Json.typed` — the parts of a data value as typed data
* `Typed.readParts` — reads a data value by the readers for its parts
* `Typed.readParts_array`, `Typed.readParts_object` — it reads an array as a list and an object as a
  map
-/

namespace LexicalScope

namespace Whole

/-- The kind under which a number is handed over: signed only if the number is negative. -/
def kind (n : Whole) : IntegerKind := if 0 ≤ n.val then .u64 else .i64

/-- A number is in the range of the kind under which it is handed over. -/
theorem mem_kind (n : Whole) : n.kind.Mem n.val := by
  have hlower := n.lower
  have hupper := n.upper
  unfold kind
  split
  · next hn => exact ⟨hn, Int.le_sub_one_of_lt hupper⟩
  · next hn => exact ⟨hlower, by show n.val ≤ 0x7FFF_FFFF_FFFF_FFFF; omega⟩

/-- All numbers of that kind have a place in a data value. -/
theorem narrow_kind (n : Whole) : n.kind.IsNarrow := by
  unfold kind
  split <;> decide

/-- The number as it is handed over. -/
def bounded (n : Whole) : BoundedInt n.kind := ⟨n.val, n.mem_kind⟩

/-- The number is taken over as it is handed over. -/
theorem ofInt?_kind (n : Whole) : BoundedInt.ofInt? n.kind n.val = some n.bounded :=
  BoundedInt.ofInt?_val n.bounded

end Whole

/-! ## Taking apart -/

namespace Json

mutual

/-- The parts of the value, as they are handed over. -/
def typed : Json → Datum
  | .null => .unit
  | .bool b => .bool b
  | .whole n => .integer n.kind n.bounded
  | .float x => .double (.finite x)
  | .string s => .string s
  | .array items => .sequence (typedItems items)
  | .object ⟨members⟩ => .map (typedMembers members)
termination_by structural v => v

/-- The items of an array, as they are handed over. -/
def typedItems : List Json → List Datum
  | [] => []
  | v :: rest => v.typed :: typedItems rest
termination_by structural items => items

/-- The members of an object, as they are handed over; a name is a string like any other. -/
def typedMembers : List (String × Json) → List (Datum × Datum)
  | [] => []
  | (name, v) :: rest => (.string name, v.typed) :: typedMembers rest
termination_by structural members => members

end

end Json

/-! ## Reading -/

namespace Typed

mutual

/-- Reads a data value part by part, each part by the reader for what it is: a number by the one for
integers of its sign or the one for doubles. -/
def readParts : Json → Except ReadError Json
  | .null => do
    readUnit .null
    pure .null
  | .bool b => do
    let b ← readBool (.bool b)
    pure (.bool b)
  | .whole n => do
    let m ← readInteger n.kind (.whole n)
    pure (.whole (m.toWhole n.narrow_kind))
  | .float x => do
    let y ← readDouble (.float x)
    pure (Extended.finite y).toJson
  | .string s => do
    let s ← readString (.string s)
    pure (.string s)
  | .array items => do
    let items ← readPartsItems items
    pure (.array items)
  | .object ⟨members⟩ => do
    let members ← readPartsMembers members
    pure (.ofMembers members)
termination_by structural v => v

/-- Reads items part by part, up to the first error. -/
def readPartsItems : List Json → Except ReadError (List Json)
  | [] => .ok []
  | v :: rest => do
    let x ← readParts v
    let xs ← readPartsItems rest
    pure (x :: xs)
termination_by structural items => items

/-- Reads members part by part, up to the first error; a name is taken as it is. -/
def readPartsMembers : List (String × Json) → Except ReadError (List (String × Json))
  | [] => .ok []
  | (name, v) :: rest => do
    let x ← readParts v
    let entries ← readPartsMembers rest
    pure ((name, x) :: entries)
termination_by structural members => members

end

/-- Items are read as those of any list. -/
theorem readPartsItems_eq (items : List Json) :
    readPartsItems items = readItems readParts items := by
  induction items with
  | nil => rfl
  | cons v rest ih =>
    rw [readPartsItems, readItems, ih]
    cases readParts v with
    | error e => rfl
    | ok x => cases readItems readParts rest <;> rfl

/-- Members are read as those of any map whose keys are strings. -/
theorem readPartsMembers_eq (members : List (String × Json)) :
    readPartsMembers members = readMembers .ok readParts members := by
  induction members with
  | nil => rfl
  | cons member rest ih =>
    rw [readPartsMembers, readMembers, ih]
    cases readParts member.2 with
    | error e => rfl
    | ok x => cases readMembers .ok readParts rest <;> rfl

/-- **An array is read as a list of data values.** -/
theorem readParts_array (items : List Json) :
    readParts (.array items) = (readList readParts (.array items)).map .array := by
  rw [readParts, readPartsItems_eq, readList]
  rfl

/-- **An object is read as a map from strings to data values.** -/
theorem readParts_object (members : Dict String Json) :
    readParts (.object members) = (readMap .ok readParts (.object members)).map .object := by
  obtain ⟨entries⟩ := members
  rw [readParts, readPartsMembers_eq, readMap]
  cases readMembers .ok readParts entries <;> rfl

end Typed

end LexicalScope
