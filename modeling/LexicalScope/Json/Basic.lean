import LexicalScope.Dict.Basic
import LexicalScope.Numeric.Binary

/-!
# Data values

The values that a store binds: the values of the JSON data format. A number is an integer of at
most 64 bits or a finite double, and the two are never equal.

* `Whole` — integers from -2^63 to 2^64 - 1
* `Json` — the values; the members of an object are a dictionary, ordered by name
* `Json.sameValue` — equality of values, under which the two zeros of the doubles are equal;
  `Json.sameValue_refl`
-/

namespace LexicalScope

/-- An integer that a data value holds exactly. -/
structure Whole where
  val : Int
  lower : -0x8000_0000_0000_0000 ≤ val
  upper : val < 0x1_0000_0000_0000_0000
  deriving DecidableEq

namespace Whole

/-- The integer as a data value holds it, if it is in range. -/
def ofInt? (n : Int) : Option Whole :=
  if h : -0x8000_0000_0000_0000 ≤ n ∧ n < 0x1_0000_0000_0000_0000 then some ⟨n, h.1, h.2⟩
  else none

/-- What a data value holds is in range. -/
theorem ofInt?_val (w : Whole) : ofInt? w.val = some w := dif_pos ⟨w.lower, w.upper⟩

/-- Without its sign, what a data value holds is still a number of 64 bits, or one more. -/
theorem natAbs_le (w : Whole) : w.val.natAbs ≤ 0x1_0000_0000_0000_0000 := by
  have := w.lower
  have := w.upper
  omega

/-- The nearest double. -/
def toDouble (w : Whole) : Double := Binary.ofInt w.val w.natAbs_le

end Whole

/-- A data value. -/
inductive Json where
  | null
  | bool (b : Bool)
  | whole (n : Whole)
  | float (x : Double)
  | string (s : String)
  | array (items : List Json)
  | object (members : Dict String Json)

namespace Json

instance : Inhabited Json := ⟨null⟩

mutual

/-- Equality of values. -/
def sameValue : Json → Json → Bool
  | .null, .null => true
  | .bool a, .bool b => a == b
  | .whole a, .whole b => a = b
  | .float a, .float b => a.sameValue b
  | .string a, .string b => a == b
  | .array a, .array b => sameItems a b
  | .object ⟨a⟩, .object ⟨b⟩ => sameMembers a b
  | _, _ => false

def sameItems : List Json → List Json → Bool
  | [], [] => true
  | a :: as, b :: bs => a.sameValue b && sameItems as bs
  | _, _ => false

/-- Equality of members, one by one and with their names. -/
def sameMembers : List (String × Json) → List (String × Json) → Bool
  | [], [] => true
  | (j, a) :: as, (k, b) :: bs => j == k && a.sameValue b && sameMembers as bs
  | _, _ => false

end

mutual

/-- **Every value is the same as itself.** -/
theorem sameValue_refl (v : Json) : v.sameValue v = true := by
  match v with
  | .null => rfl
  | .bool b => simp [sameValue]
  | .whole n => simp [sameValue]
  | .float x => exact x.sameValue_refl
  | .string s => simp [sameValue]
  | .array items => exact sameItems_refl items
  | .object ⟨members⟩ => exact sameMembers_refl members
termination_by structural v

theorem sameItems_refl (items : List Json) : sameItems items items = true := by
  match items with
  | [] => rfl
  | v :: rest => simp [sameItems, sameValue_refl v, sameItems_refl rest]
termination_by structural items

theorem sameMembers_refl (members : List (String × Json)) :
    sameMembers members members = true := by
  match members with
  | [] => rfl
  | (name, v) :: rest => simp [sameMembers, sameValue_refl v, sameMembers_refl rest]
termination_by structural members

end

/-- The object with the given members; of equal names the last wins. -/
def ofMembers (members : List (String × Json)) : Json := object (Dict.ofList members)

end Json

end LexicalScope
