import LexicalScope.Diagnostic.Refusal
import LexicalScope.Dict.Basic
import LexicalScope.Table.Name

/-!
# Scope tables

A scope table is a stack of frames, each binding names to values. A name means what the innermost
frame that binds it says, so an inner binding shadows an outer one as long as its frame is there.

* `enterScope`, `exitScope`, `runScoped` — open and close frames. The floor is the least number of
  frames that `exitScope` leaves: one at first, and within a scoped block the number of frames
  right after the block opened its own
* `declare` — binds a name in the innermost frame
* `rebind?` — changes the value of the nearest binding where it is; `update` and `updateOrDeclare`
  are built from it
* `get?`, `contains`, `isLocal`, `resolveDepth?`, `visible` — what names mean

The list of frames begins with the innermost. Depths are counted from the outermost, the root,
which has depth 0.
-/

namespace LexicalScope

/-- One level of bindings. -/
abbrev Frame (V : Type) := Dict String V

/-- A stack of frames, the innermost first, and the least number of frames that `exitScope` leaves.
-/
structure Table (V : Type) where
  frames : List (Frame V)
  floor : Nat
  deriving DecidableEq

namespace Table

variable {V : Type}

/-- The table with nothing but an empty root frame. -/
def new : Table V := ⟨[∅], 1⟩

instance : Inhabited (Table V) := ⟨new⟩

/-- The number of frames. -/
def depth (t : Table V) : Nat := t.frames.length

/-! ## Opening and closing scopes -/

/-- Opens an empty frame. -/
def enterScope (t : Table V) : Table V := { t with frames := ∅ :: t.frames }

/-- Closes the innermost frame and hands it back, if no less frames are left than the floor says. -/
def exitScope (t : Table V) : Except Refusal (Frame V × Table V) :=
  match t.frames with
  | frame :: rest =>
    if t.floor < rest.length + 1 then .ok (frame, { t with frames := rest })
    else .error (if t.floor = 1 then .rootScope else .scopeFloor)
  | [] => .error (if t.floor = 1 then .rootScope else .scopeFloor)

/-- Keeps the `n` outermost frames. -/
def truncate (t : Table V) (n : Nat) : List (Frame V) := t.frames.drop (t.depth - n)

/-- Runs `body` in a scope of its own, and closes that scope and all that `body` left open. The
frames to close are told by the floor that `body` leaves. -/
def runScoped {α : Type} (t : Table V) (body : Table V → α × Table V) : α × Table V :=
  let inner := t.enterScope
  let (answer, after) := body { inner with floor := inner.depth }
  (answer, ⟨after.truncate (after.floor - 1), t.floor⟩)

/-! ## Binding -/

/-- Binds `name` in the innermost frame, in place of a binding that this frame may have. -/
def declare (t : Table V) (name : String) (value : V) : Except Failure (Table V) :=
  if ValidName name then
    match t.frames with
    | frame :: rest => .ok { t with frames := frame.insert name value :: rest }
    | [] => .error (.aborted .noFrame)
  else .error (.refused (.invalidName name))

/-- Changes the value of `name` in the first frame that binds it. Returns the old value too. -/
def rebindIn (name : String) (f : V → V) : List (Frame V) → Option (V × List (Frame V))
  | [] => none
  | frame :: rest =>
    match frame.get? name with
    | some old => some (old, frame.modify name f :: rest)
    | none => (rebindIn name f rest).map fun (old, rest) => (old, frame :: rest)

/-- Changes the value of the nearest binding of `name`, if there is one. Returns the old value too.
-/
def rebind? (t : Table V) (name : String) (f : V → V) : Option (V × Table V) :=
  (rebindIn name f t.frames).map fun (old, frames) => (old, { t with frames })

/-- Gives the nearest binding of `name` a new value. Returns the old one too. -/
def update (t : Table V) (name : String) (value : V) : Except Refusal (V × Table V) :=
  match t.rebind? name fun _ => value with
  | some result => .ok result
  | none => .error (.undefined name)

/-- Gives the nearest binding of `name` a new value, or declares the name if no frame binds it.
Returns the old value, if there was one. -/
def updateOrDeclare (t : Table V) (name : String) (value : V) :
    Except Failure (Option V × Table V) :=
  match t.rebind? name fun _ => value with
  | some (old, t') => .ok (some old, t')
  | none =>
    match t.declare name value with
    | .ok t' => .ok (none, t')
    | .error e => .error e

/-! ## Looking up -/

/-- The value of the nearest binding. -/
def get? (t : Table V) (name : String) : Option V := t.frames.findSome? fun frame => frame.get? name

/-- The value of the nearest binding, which has to be there. -/
def lookup (t : Table V) (name : String) : Except Refusal V :=
  match t.get? name with
  | some value => .ok value
  | none => .error (.undefined name)

/-- Whether a frame binds the name. -/
def contains (t : Table V) (name : String) : Bool := (t.get? name).isSome

/-- Whether the innermost frame binds the name. -/
def isLocal (t : Table V) (name : String) : Bool :=
  t.frames.head?.any fun frame => frame.contains name

/-- The depth of the frame that holds the nearest binding. -/
def resolveDepth? (t : Table V) (name : String) : Option Nat :=
  (t.frames.findIdx? fun frame => frame.contains name).map fun i => t.depth - 1 - i

/-- The bindings of the frames whose names have not been seen. -/
def visibleIn (seen : List String) : List (Frame V) → List (String × V)
  | [] => []
  | frame :: rest =>
    (frame.entries.filter fun e => !seen.contains e.1) ++ visibleIn (frame.keys ++ seen) rest

/-- Every name that is bound, once, with the value of its nearest binding. -/
def visible (t : Table V) : List (String × V) := visibleIn [] t.frames

/-- The frames, the root first. -/
def rootFirst (t : Table V) : List (Frame V) := t.frames.reverse

end Table

end LexicalScope
