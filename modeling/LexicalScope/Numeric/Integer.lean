/-!
# Integers of fixed ranges

The kinds of machine integers that a typed value may have.

* `IntegerKind` — the kinds; `IntegerKind.lower`, `IntegerKind.upper` — their least and greatest
  values
* `IntegerKind.Mem` — an integer lies in the range of a kind
* `IntegerKind.IsNarrow` — all integers of a kind have a place in 64 bits
* `BoundedInt` — an integer together with the proof that it lies in the range
-/

namespace LexicalScope

/-- A sign rule and a number of bits. -/
inductive IntegerKind where
  | i8 | i16 | i32 | i64 | i128
  | u8 | u16 | u32 | u64 | u128
  deriving Repr, DecidableEq

namespace IntegerKind

/-- How many bits an integer of the kind has. -/
def bits : IntegerKind → Nat
  | i8 | u8 => 8
  | i16 | u16 => 16
  | i32 | u32 => 32
  | i64 | u64 => 64
  | i128 | u128 => 128

/-- Whether one of the bits is a sign. -/
def isSigned : IntegerKind → Bool
  | i8 | i16 | i32 | i64 | i128 => true
  | u8 | u16 | u32 | u64 | u128 => false

/-- The least value. -/
def lower (k : IntegerKind) : Int := if k.isSigned then -(1 <<< (k.bits - 1) : Nat) else 0

/-- The greatest value. -/
def upper (k : IntegerKind) : Int :=
  (1 <<< (if k.isSigned then k.bits - 1 else k.bits) : Nat) - 1

/-- The name of the kind, as messages tell it. -/
def name : IntegerKind → String
  | i8 => "i8"
  | i16 => "i16"
  | i32 => "i32"
  | i64 => "i64"
  | i128 => "i128"
  | u8 => "u8"
  | u16 => "u16"
  | u32 => "u32"
  | u64 => "u64"
  | u128 => "u128"

/-- All kinds. -/
def all : List IntegerKind := [i8, i16, i32, i64, i128, u8, u16, u32, u64, u128]

/-- The kind of the given name. -/
def ofName? (name : String) : Option IntegerKind := all.find? fun k => k.name == name

/-- The integer lies in the range of the kind. -/
def Mem (k : IntegerKind) (n : Int) : Prop := k.lower ≤ n ∧ n ≤ k.upper

instance (k : IntegerKind) (n : Int) : Decidable (k.Mem n) := inferInstanceAs (Decidable (_ ∧ _))

/-- Every integer of the kind is one of 64 bits, with a sign or without. -/
def IsNarrow (k : IntegerKind) : Prop :=
  -0x8000_0000_0000_0000 ≤ k.lower ∧ k.upper < 0x1_0000_0000_0000_0000

instance (k : IntegerKind) : Decidable k.IsNarrow := inferInstanceAs (Decidable (_ ∧ _))

end IntegerKind

/-- An integer in the range of the kind `k`. -/
structure BoundedInt (k : IntegerKind) where
  val : Int
  mem : k.Mem val
  deriving DecidableEq

/-- The integer as a value of the kind, if it is in range. -/
def BoundedInt.ofInt? (k : IntegerKind) (n : Int) : Option (BoundedInt k) :=
  if h : k.Mem n then some ⟨n, h⟩ else none

/-- An integer of the kind is in range. -/
theorem BoundedInt.ofInt?_val {k : IntegerKind} (x : BoundedInt k) : ofInt? k x.val = some x :=
  dif_pos x.mem

/-- An integer out of range is none of the kind. -/
theorem BoundedInt.ofInt?_eq_none {k : IntegerKind} {n : Int} (h : ¬ k.Mem n) : ofInt? k n = none :=
  dif_neg h

end LexicalScope
