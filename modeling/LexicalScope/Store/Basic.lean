import LexicalScope.Table.Basic
import LexicalScope.Typed.Schema

/-!
# Stores

A store is a scope table that binds data values. Typed values go in and come out through their
data values.

* `declareValue`, `updateValue` — convert and bind; a value that has no data value is refused
  before the name is looked at
* `lookupAs` — look up and read as a value of a type
* `snapshot` — all frames as data, the root first
* `sameFrame`, `same` — equality of bindings under the equality of data values
-/

namespace LexicalScope

/-- A scope table of data values. -/
abbrev Store := Table Json

namespace Store

/-- The data value of a typed value, or the refusal. -/
def convert (d : Datum) : Except Refusal Json :=
  match d.toJson with
  | .ok v => .ok v
  | .error e => .error (.unconvertible e.message)

/-- Declares a name with the data value of a typed value. -/
def declareValue (t : Store) (name : String) (d : Datum) : Except Failure Store :=
  match convert d with
  | .ok v => t.declare name v
  | .error r => .error (.refused r)

/-- Rebinds a name to the data value of a typed value; gives the old data value. -/
def updateValue (t : Store) (name : String) (d : Datum) : Except Refusal (Json × Store) :=
  match convert d with
  | .ok v => t.update name v
  | .error r => .error r

/-- The nearest binding of `name` as a value of a type. -/
def lookupAs (t : Store) (name : String) (s : Schema) : Except Refusal s.Carrier :=
  match t.lookup name with
  | .error r => .error r
  | .ok v =>
    match s.read v with
    | .ok x => .ok x
    | .error e => .error (.unconvertible e.message)

/-- All frames, the root first, each an object of its bindings. -/
def snapshot (t : Store) : Json := .array (t.rootFirst.map .object)

/-- Whether two frames bind the same names to the same values. -/
def sameFrame (a b : Frame Json) : Bool := Json.sameMembers a.entries b.entries

/-- Whether two lists of frames agree frame by frame. -/
def sameFrames : List (Frame Json) → List (Frame Json) → Bool
  | [], [] => true
  | a :: as, b :: bs => sameFrame a b && sameFrames as bs
  | _, _ => false

/-- Whether two stores have the same floor and the same bindings in each frame. -/
def same (a b : Store) : Bool := sameFrames a.frames b.frames && a.floor = b.floor

theorem sameFrames_refl (frames : List (Frame Json)) : sameFrames frames frames = true := by
  induction frames with
  | nil => rfl
  | cons frame rest ih => simp [sameFrames, sameFrame, Json.sameMembers_refl, ih]

theorem same_refl (t : Store) : same t t = true := by simp [same, sameFrames_refl]

end Store

end LexicalScope
