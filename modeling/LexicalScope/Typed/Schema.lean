import LexicalScope.Typed.Reading

/-!
# Schemas

The types that a binding can be read as.

* `Schema` — the types; `Schema.Carrier` — their values
* `Schema.read` — a data value as a value of the type
* `Schema.datum` — a value of the type as typed data, whose data value is read back as that value
-/

namespace LexicalScope

open Typed

/-- The types that can be asked for. -/
inductive Schema where
  | unit
  | bool
  | integer (k : IntegerKind)
  | double
  | char
  | string
  | optionInteger
  | integers
  | pair
  | integerMap
  | integerKeys
  | point
  | config
  | shape
  | meters
  | value
  deriving Repr, DecidableEq

namespace Schema

/-- The values of a type. -/
abbrev Carrier : Schema → Type
  | unit => Unit
  | bool => Bool
  | integer k => BoundedInt k
  | double => Double
  | char => Char
  | string => String
  | optionInteger => Option (BoundedInt .i64)
  | integers => List (BoundedInt .i64)
  | pair => BoundedInt .i64 × String
  | integerMap => Dict String (BoundedInt .i64)
  | integerKeys => Dict (BoundedInt .i64) Bool
  | point => Point
  | config => Config
  | shape => Shape
  | meters => Double
  | value => Json

/-- Reads a data value as a value of the type. -/
def read : (s : Schema) → Json → Except ReadError s.Carrier
  | unit => readUnit
  | bool => readBool
  | integer k => readInteger k
  | double => readDouble
  | char => readChar
  | string => readString
  | optionInteger => readOption (readInteger .i64)
  | integers => readList (readInteger .i64)
  | pair => readPair
  | integerMap => readMap .ok (readInteger .i64)
  | integerKeys => readMap readIntegerKey readBool
  | point => readPoint
  | config => readConfig
  | shape => readShape
  | meters => readDouble
  | value => .ok

/-- The value as typed data. -/
def datum : (s : Schema) → s.Carrier → Datum
  | unit, _ => .unit
  | bool, b => .bool b
  | integer k, n => .integer k n
  | double, x => .double (.finite x)
  | char, c => .char c
  | string, s => .string s
  | optionInteger, some n => .present (.integer .i64 n)
  | optionInteger, none => .absent
  | integers, ns => .sequence (ns.map (.integer .i64))
  | pair, (n, s) => .sequence [.integer .i64 n, .string s]
  | integerMap, d => .map (d.entries.map fun e => (.string e.1, .integer .i64 e.2))
  | integerKeys, d => .map (d.entries.map fun e => (.integer .i64 e.1, .bool e.2))
  | point, p => .point p
  | config, c => .config c
  | shape, s => .shape s
  | meters, x => .meters (.finite x)
  | value, v => .json v

end Schema

end LexicalScope
