import LexicalScope.Json.Text
import LexicalScope.Numeric.Integer
import LexicalScope.Text.Located

/-!
# Typed data

The typed values that can be stored, and the data values that they become.

* `Datum` — a value together with the type that it is stored under
* `Datum.toJson` — its data value. Integers past 64 bits have none, nor has a value that fails by
  itself
* `Datum.toKey` — the text under which it stands as a key of a map. Integers of any size have one;
  special floating point numbers do not
* `WriteError` — why there is none
-/

namespace LexicalScope

/-- An integer of a kind of at most 64 bits as a data value holds it. -/
def BoundedInt.toWhole {k : IntegerKind} (n : BoundedInt k) (h : k.IsNarrow := by decide) : Whole :=
  ⟨n.val, Int.le_trans h.1 n.mem.1, Int.lt_of_le_of_lt n.mem.2 h.2⟩

instance {k : IntegerKind} : Ord (BoundedInt k) := ⟨fun a b => compare a.val b.val⟩

/-- A record of two fields, all required. -/
structure Point where
  x : BoundedInt .i64
  y : BoundedInt .i64
  deriving DecidableEq

/-- A record with a field that may be missing and one that is empty when missing. -/
structure Config where
  name : String
  limit : Option (BoundedInt .u8)
  tags : List String
  deriving DecidableEq

/-- A choice between variants: one alone, one with a value, one with a tuple, one with a record. -/
inductive Shape where
  | empty
  | circle (radius : BoundedInt .i64)
  | rect (width height : BoundedInt .i64)
  | poly (sides : BoundedInt .u8)
  deriving DecidableEq

/-- A typed value. -/
inductive Datum where
  | unit
  | absent
  | bool (b : Bool)
  | integer (k : IntegerKind) (n : BoundedInt k)
  | double (x : Extended .double)
  | single (x : Extended .single)
  | char (c : Char)
  | string (s : String)
  | bytes (bs : List UInt8)
  | present (d : Datum)
  | sequence (items : List Datum)
  | map (entries : List (Datum × Datum))
  | json (v : Json)
  | point (p : Point)
  | config (c : Config)
  | shape (s : Shape)
  /-- a length: a number with a type of its own -/
  | meters (x : Extended .double)
  /-- a value whose conversion fails with the given message -/
  | failing (message : String)

/-- Why a typed value has no data value. -/
inductive WriteError where
  | numberOutOfRange
  | keyNotFinite
  | keyNotString
  | custom (message : String)
  deriving Repr, DecidableEq

/-- The wording. A message of a value's own that ends with a position tells it in the usual
words. -/
def WriteError.message : WriteError → String
  | numberOutOfRange => "number out of range"
  | keyNotFinite => "float key must be finite (got NaN or +/-inf)"
  | keyNotString => "key must be a string"
  | custom message => String.ofList (Text.Located.ofText message.toList).text

/-! ## Data values of the parts -/

/-- A floating point number; the special ones have no data value of their own. -/
def Extended.toJson {f : BinaryFormat} (x : Extended f) : Json :=
  match (x.convert .double).toBinary? with
  | some y => .float y
  | none => .null

/-- The text of a floating point number as a key. -/
def Extended.toKey {f : BinaryFormat} (x : Extended f) : Except WriteError String :=
  match x.toBinary? with
  | some y => .ok (String.ofList y.text)
  | none => .error .keyNotFinite

/-- A record becomes an object with a member for each field. -/
def Point.toJson (p : Point) : Json :=
  .ofMembers [("x", .whole p.x.toWhole), ("y", .whole p.y.toWhole)]

/-- A missing limit is left out. -/
def Config.toJson (c : Config) : Json :=
  let limit := match c.limit with
    | some n => [("limit", Json.whole n.toWhole)]
    | none => []
  .ofMembers ([("name", .string c.name)] ++ limit ++ [("tags", .array (c.tags.map .string))])

/-- A variant alone is its name, any other an object with its name as the only key. -/
def Shape.toJson : Shape → Json
  | .empty => .string "Empty"
  | .circle r => .ofMembers [("Circle", .whole r.toWhole)]
  | .rect w h => .ofMembers [("Rect", .array [.whole w.toWhole, .whole h.toWhole])]
  | .poly n => .ofMembers [("Poly", .ofMembers [("sides", .whole n.toWhole)])]

/-- A byte as a data value. -/
def byteToJson (b : UInt8) : Json :=
  have h := b.toNat_lt
  .whole ⟨b.toNat, by omega, by omega⟩

/-- The text under which a data value stands as a key: that of a string is the string, that of a
number or truth value its own text. -/
def Json.toKey : Json → Except WriteError String
  | .bool b => .ok (if b then "true" else "false")
  | .whole n => .ok (String.ofList (Json.integerText n.val))
  | .float x => .ok (String.ofList x.text)
  | .string s => .ok s
  | .null => .error .keyNotString
  | .array _ => .error .keyNotString
  | .object _ => .error .keyNotString

namespace Datum

/-! ## Conversion -/

/-- The text under which the value stands as a key. -/
def toKey : Datum → Except WriteError String
  | .string s => .ok s
  | .char c => .ok (String.singleton c)
  | .integer _ n => .ok (String.ofList (Json.integerText n.val))
  | .bool b => .ok (if b then "true" else "false")
  | .double x => x.toKey
  | .single x => x.toKey
  | .meters x => x.toKey
  | .json v => v.toKey
  | .shape .empty => .ok "Empty"
  | .failing message => .error (.custom message)
  | _ => .error .keyNotString

mutual

/-- The data value. -/
def toJson : Datum → Except WriteError Json
  | .unit => .ok .null
  | .absent => .ok .null
  | .bool b => .ok (.bool b)
  | .integer _ n =>
    match Whole.ofInt? n.val with
    | some w => .ok (.whole w)
    | none => .error .numberOutOfRange
  | .double x => .ok x.toJson
  | .single x => .ok x.toJson
  | .char c => .ok (.string (String.singleton c))
  | .string s => .ok (.string s)
  | .bytes bs => .ok (.array (bs.map byteToJson))
  | .present d => d.toJson
  | .sequence items =>
    match toItems items with
    | .ok items => .ok (.array items)
    | .error e => .error e
  | .map entries =>
    match toMembers entries with
    | .ok members => .ok (.ofMembers members)
    | .error e => .error e
  | .json v => .ok v
  | .point p => .ok p.toJson
  | .config c => .ok c.toJson
  | .shape s => .ok s.toJson
  | .meters x => .ok x.toJson
  | .failing message => .error (.custom message)
termination_by structural d => d

/-- The data values of items, up to the first error. -/
def toItems : List Datum → Except WriteError (List Json)
  | [] => .ok []
  | d :: rest =>
    match d.toJson with
    | .error e => .error e
    | .ok v =>
      match toItems rest with
      | .error e => .error e
      | .ok vs => .ok (v :: vs)
termination_by structural items => items

/-- The members that entries become, up to the first error; a key is converted before its value. -/
def toMembers : List (Datum × Datum) → Except WriteError (List (String × Json))
  | [] => .ok []
  | (k, d) :: rest =>
    match k.toKey with
    | .error e => .error e
    | .ok name =>
      match d.toJson with
      | .error e => .error e
      | .ok v =>
        match toMembers rest with
        | .error e => .error e
        | .ok ms => .ok ((name, v) :: ms)
termination_by structural entries => entries

end

end Datum

end LexicalScope
