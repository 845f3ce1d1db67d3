import LexicalScope.Json.Reading.Number
import LexicalScope.Typed.Datum
import LexicalScope.Typed.ReadError

/-!
# Typed reading

Reading data values as values of a type. Integers are never rounded or cut, a floating point
number is never read as an integer, and unknown parts are refused where a type says so.

* `readInteger`, `readDouble`, `readChar`, … — values without parts
* `readList`, `readPair`, `readMap`, `readIntegerKeys` — values with parts; parts are read in
  order, those of an object in the order of its names, and the first error wins
* `readPoint`, `readConfig`, `readShape` — records and choices. A record can be given as an object
  or as an array of its fields
-/

namespace LexicalScope.Typed

/-- Reads a data value as a value of type `α`. -/
abbrev TypedReader (α : Type) := Json → Except ReadError α

/-! ## Values without parts -/

/-- Reads the value without content, which is null. -/
def readUnit : TypedReader Unit
  | .null => .ok ()
  | v => .error (.invalidType v.found "unit")

def readBool : TypedReader Bool
  | .bool b => .ok b
  | v => .error (.invalidType v.found "a boolean")

/-- Reads an integer in the range of the kind `k`. -/
def readInteger (k : IntegerKind) : TypedReader (BoundedInt k)
  | .whole n =>
    match BoundedInt.ofInt? k n.val with
    | some m => .ok m
    | none => .error (.invalidValue (.integer n.val) k.name)
  | v => .error (.invalidType v.found k.name)

/-- Reads a number; an integer is rounded to the nearest double. -/
def readDouble : TypedReader Double
  | .float x => .ok x
  | .whole n => .ok n.toDouble
  | v => .error (.invalidType v.found "f64")

/-- Reads a string of one character. -/
def readChar : TypedReader Char
  | .string s =>
    match s.toList with
    | [c] => .ok c
    | _ => .error (.invalidValue (.string s) "a character")
  | v => .error (.invalidType v.found "a character")

def readString : TypedReader String
  | .string s => .ok s
  | v => .error (.invalidType v.found "a string")

/-- Reads a value that may be missing. -/
def readOption {α : Type} (read : TypedReader α) : TypedReader (Option α)
  | .null => .ok none
  | v =>
    match read v with
    | .ok x => .ok (some x)
    | .error e => .error e

/-! ## Values with parts -/

/-- Reads items up to the first error. -/
def readItems {α : Type} (read : TypedReader α) : List Json → Except ReadError (List α)
  | [] => .ok []
  | v :: rest =>
    match read v with
    | .error e => .error e
    | .ok x =>
      match readItems read rest with
      | .error e => .error e
      | .ok xs => .ok (x :: xs)

/-- Reads an array of any length, all of whose items have the same type. -/
def readList {α : Type} (read : TypedReader α) : TypedReader (List α)
  | .array items => readItems read items
  | v => .error (.invalidType v.found "a sequence")

/-- Reads exactly two items. -/
def readTwo {α β : Type} (first : TypedReader α) (second : TypedReader β) (expected : String)
    (items : List Json) : Except ReadError (α × β) :=
  match items with
  | [] => .error (.invalidLength 0 expected)
  | v :: rest =>
    match first v with
    | .error e => .error e
    | .ok x =>
      match rest with
      | [] => .error (.invalidLength 1 expected)
      | w :: rest =>
        match second w with
        | .error e => .error e
        | .ok y => if rest.isEmpty then .ok (x, y) else .error (.tooLong items.length)

/-- Reads an integer and a string beside it. -/
def readPair : TypedReader (BoundedInt .i64 × String)
  | .array items => readTwo (readInteger .i64) readString "a tuple of size 2" items
  | v => .error (.invalidType v.found "a tuple of size 2")

/-- Reads members with a reader for the names and one for the values, up to the first error. -/
def readMembers {κ α : Type} (readKey : String → Except ReadError κ) (read : TypedReader α) :
    List (String × Json) → Except ReadError (List (κ × α))
  | [] => .ok []
  | (name, v) :: rest =>
    match readKey name with
    | .error e => .error e
    | .ok k =>
      match read v with
      | .error e => .error e
      | .ok x =>
        match readMembers readKey read rest with
        | .error e => .error e
        | .ok entries => .ok ((k, x) :: entries)

/-- Reads an object as a map. -/
def readMap {κ α : Type} [Ord κ] (readKey : String → Except ReadError κ) (read : TypedReader α) :
    TypedReader (Dict κ α)
  | .object members =>
    match readMembers readKey read members.entries with
    | .ok entries => .ok (.ofList entries)
    | .error e => .error e
  | v => .error (.invalidType v.found "a map")

/-- Reads an integer from the text of a key. -/
def readIntegerKey (name : String) : Except ReadError (BoundedInt .i64) :=
  let cs := name.toList
  if cs.head?.any fun c => c = '-' || c.isDigit then
    match Json.number cs with
    | .error e => .error (.keyMalformed (e.locate cs))
    | .ok (v, rest) =>
      match readInteger .i64 v with
      | .error e =>
        .error (.keyMismatch e (.ofOffset cs (Text.byteLength cs - Text.byteLength rest)))
      | .ok n => if rest.isEmpty then .ok n else .error .keyNotNumber
  else .error .keyNotNumber

/-! ## Records and choices -/

/-- Reads the field of the given name; a missing field gives `none`. -/
def readField? {α : Type} (read : TypedReader α) (members : Dict String Json) (name : String) :
    Except ReadError (Option α) :=
  match members.get? name with
  | none => .ok none
  | some v =>
    match read v with
    | .ok x => .ok (some x)
    | .error e => .error e

/-- Fields of other names are passed over. -/
def readPoint : TypedReader Point
  | .array items =>
    match readTwo (readInteger .i64) (readInteger .i64) "struct Point with 2 elements" items with
    | .ok (x, y) => .ok ⟨x, y⟩
    | .error e => .error e
  | .object members => do
    let x ← readField? (readInteger .i64) members "x"
    let y ← readField? (readInteger .i64) members "y"
    match x, y with
    | none, _ => .error (.missingField "x")
    | _, none => .error (.missingField "y")
    | some x, some y => .ok ⟨x, y⟩
  | v => .error (.invalidType v.found "struct Point")

/-- The fields of a `Config` that have been read. -/
structure ConfigFields where
  name : Option String := none
  limit : Option (BoundedInt .u8) := none
  tags : List String := []

namespace ConfigFields

def names : List String := ["name", "limit", "tags"]

/-- Reads one more field. -/
def read (fields : ConfigFields) (member : String × Json) : Except ReadError ConfigFields :=
  match member.1 with
  | "name" => do
    let name ← readString member.2
    pure { fields with name := some name }
  | "limit" => do
    let limit ← readOption (readInteger .u8) member.2
    pure { fields with limit }
  | "tags" => do
    let tags ← readList readString member.2
    pure { fields with tags }
  | other => .error (.unknownField other names)

/-- The record, if the one required field has been read. -/
def toConfig (fields : ConfigFields) : Except ReadError Config :=
  match fields.name with
  | some name => .ok ⟨name, fields.limit, fields.tags⟩
  | none => .error (.missingField "name")

end ConfigFields

/-- Reads the fields of a `Config` from an array, which may end before the tags. -/
def readConfigItems (items : List Json) : Except ReadError Config :=
  let expected := "struct Config with 3 elements"
  match items with
  | [] => .error (.invalidLength 0 expected)
  | v :: rest => do
    let name ← readString v
    match rest with
    | [] => .error (.invalidLength 1 expected)
    | v :: rest =>
      let limit ← readOption (readInteger .u8) v
      match rest with
      | [] => .ok ⟨name, limit, []⟩
      | v :: rest =>
        let tags ← readList readString v
        if rest.isEmpty then .ok ⟨name, limit, tags⟩ else .error (.tooLong items.length)

/-- Fields of other names are refused. -/
def readConfig : TypedReader Config
  | .array items => readConfigItems items
  | .object members => do
    let fields ← members.entries.foldlM ConfigFields.read {}
    fields.toConfig
  | v => .error (.invalidType v.found "struct Config")

def shapeNames : List String := ["Empty", "Circle", "Rect", "Poly"]

/-- Reads a variant that is given by its name alone. -/
def readShapeName : String → Except ReadError Shape
  | "Empty" => .ok .empty
  | "Circle" => .error (.invalidType .unitVariant "newtype variant")
  | "Rect" => .error (.invalidType .unitVariant "tuple variant")
  | "Poly" => .error (.invalidType .unitVariant "struct variant")
  | other => .error (.unknownVariant other shapeNames)

/-- Reads the content of the variant of the given name. -/
def readVariant (name : String) (content : Json) : Except ReadError Shape :=
  match name with
  | "Empty" => do
    readUnit content
    pure .empty
  | "Circle" => do
    let r ← readInteger .i64 content
    pure (.circle r)
  | "Rect" =>
    match content with
    | .array [] => .error (.invalidType .null "tuple variant Shape::Rect")
    | .array items => do
      let (w, h) ← readTwo (readInteger .i64) (readInteger .i64)
        "tuple variant Shape::Rect with 2 elements" items
      pure (.rect w h)
    | v => .error (.invalidType v.found "tuple variant")
  | "Poly" =>
    match content with
    | .object members => do
      match ← readField? (readInteger .u8) members "sides" with
      | some n => pure (.poly n)
      | none => .error (.missingField "sides")
    | v => .error (.invalidType v.found "struct variant")
  | other => .error (.unknownVariant other shapeNames)

/-- Reads a variant given by its name, or as the only member of an object. -/
def readShape : TypedReader Shape
  | .string name => readShapeName name
  | .object ⟨[(name, content)]⟩ => readVariant name content
  | .object _ => .error (.invalidValue .map "map with a single key")
  | v => .error (.invalidType v.found "string or map")

end LexicalScope.Typed
