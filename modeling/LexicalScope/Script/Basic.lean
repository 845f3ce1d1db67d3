import LexicalScope.Store.Basic

/-!
# Scripts

A script is a list of commands on a store. Running it gives the answer of each command and the
store after it.

* `Command` — the commands; a scoped block has a script of its own as its body
* `Answer` — the answers
* `Command.run`, `runAll` — the interpreter, by recursion on the script
* `State` — the store and the copies of it that have been saved
-/

namespace LexicalScope.Script

/-- A change of a bound value in place. -/
inductive Edit where
  /-- appends to an array -/
  | push (v : Json)
  /-- binds a name in an object -/
  | insert (name : String) (v : Json)
  /-- leaves null behind -/
  | take
  | set (v : Json)

/-- The value after the edit; a value that is not of the right kind stays as it is. -/
def Edit.apply : Edit → Json → Json
  | push v, .array items => .array (items ++ [v])
  | push _, old => old
  | insert name v, .object members => .object (members.insert name v)
  | insert _ _, old => old
  | take, _ => .null
  | set v, _ => v

/-- How a declaration is made. -/
structure Manner where
  /-- a refusal is a fault -/
  insists : Bool := false
  /-- the store is given away with the call; if the call fails, a new one takes its place -/
  handsOver : Bool := false

/-- What a script can ask of a store. -/
inductive Command where
  | enterScope
  | exitScope
  | declare (manner : Manner) (name : String) (v : Json)
  | update (name : String) (v : Json)
  | updateOrDeclare (name : String) (v : Json)
  | edit (name : String) (e : Edit)
  | declareValue (name : String) (d : Datum)
  | updateValue (name : String) (d : Datum)
  | lookup (name : String)
  | get (name : String)
  | lookupAs (name : String) (s : Schema)
  | contains (name : String)
  | isLocal (name : String)
  | resolveDepth (name : String)
  | depth
  | snapshot
  /-- all frames, with what each says of the name -/
  | frames (name : String)
  /-- equality of the frames at two depths -/
  | frameEq (a b : Nat)
  | innermostIsEmpty
  | visible
  /-- a scoped block; if `stops`, a failed command ends it -/
  | block (stops : Bool) (body : List Command)
  | save (slot : String)
  | restore (slot : String)
  | equals (slot : String)
  | reset

/-- What a frame says of itself and of a name. -/
structure FrameView where
  frame : Frame Json
  value : Option Json

/-- What a command answers. -/
inductive Answer where
  /-- done, there is nothing to say -/
  | done
  /-- the request was granted -/
  | granted
  | refused (r : Refusal)
  | aborted (f : Fault)
  | closed (frame : Frame Json)
  /-- the value that was asked for or replaced -/
  | value (v : Json)
  /-- the value that was replaced, if there was one -/
  | replaced (v : Option Json)
  /-- the value that was found, if there was one -/
  | found (v : Option Json)
  | flag (b : Bool)
  | optionalFlag (b : Option Bool)
  | number (n : Option Nat)
  | data (v : Json)
  | frames (views : List FrameView)
  | visible (bindings : Dict String Json)
  | block (outcomes : List (Answer × Store))

namespace Answer

/-- Whether the command failed. -/
def isFailure : Answer → Bool
  | refused _ => true
  | aborted _ => true
  | _ => false

/-- The answer of a failed call. -/
def ofFailure : Failure → Answer
  | .refused r => refused r
  | .aborted f => aborted f

end Answer

/-- A store and the copies that have been saved. -/
structure State where
  store : Store
  slots : Dict String Store

namespace State

/-- A new store, and nothing saved. -/
def initial : State := ⟨Table.new, ∅⟩

end State

/-- The answer of a query, which leaves the state as it is. -/
def query (s : State) (a : Answer) : Answer × State := (a, s)

/-- Declares a name in the given manner. -/
def declare (m : Manner) (name : String) (v : Json) (s : State) : Answer × State :=
  match s.store.declare name v with
  | .ok t => (if m.insists then .done else .granted, { s with store := t })
  | .error e =>
    (if m.insists then .aborted e.fault else .ofFailure e,
      if m.handsOver then { s with store := Table.new } else s)

/-- Reads the nearest binding as a value of a type and gives the data value of what was read. -/
def lookupAs (name : String) (schema : Schema) (t : Store) : Answer :=
  match Store.lookupAs t name schema with
  | .error r => .refused r
  | .ok x =>
    match Store.convert (schema.datum x) with
    | .ok v => .value v
    | .error r => .refused r

/-- Equality of the frames at two depths, if there are such frames. -/
def frameEq (t : Store) (a b : Nat) : Option Bool :=
  match t.rootFirst[a]?, t.rootFirst[b]? with
  | some x, some y => some (Store.sameFrame x y)
  | _, _ => none

mutual

/-- Runs a command. -/
def Command.run : Command → State → Answer × State
  | .enterScope, s => (.done, { s with store := s.store.enterScope })
  | .exitScope, s =>
    match s.store.exitScope with
    | .ok (frame, t) => (.closed frame, { s with store := t })
    | .error r => query s (.refused r)
  | .declare manner name v, s => declare manner name v s
  | .update name v, s =>
    match s.store.update name v with
    | .ok (old, t) => (.value old, { s with store := t })
    | .error r => query s (.refused r)
  | .updateOrDeclare name v, s =>
    match s.store.updateOrDeclare name v with
    | .ok (old, t) => (.replaced old, { s with store := t })
    | .error e => query s (.ofFailure e)
  | .edit name e, s =>
    match s.store.rebind? name e.apply with
    | some (old, t) => (.found (some (e.apply old)), { s with store := t })
    | none => query s (.found none)
  | .declareValue name d, s =>
    match Store.declareValue s.store name d with
    | .ok t => (.granted, { s with store := t })
    | .error e => query s (.ofFailure e)
  | .updateValue name d, s =>
    match Store.updateValue s.store name d with
    | .ok (old, t) => (.value old, { s with store := t })
    | .error r => query s (.refused r)
  | .lookup name, s =>
    match s.store.lookup name with
    | .ok v => query s (.value v)
    | .error r => query s (.refused r)
  | .get name, s => query s (.found (s.store.get? name))
  | .lookupAs name schema, s => query s (lookupAs name schema s.store)
  | .contains name, s => query s (.flag (s.store.contains name))
  | .isLocal name, s => query s (.flag (s.store.isLocal name))
  | .resolveDepth name, s => query s (.number (s.store.resolveDepth? name))
  | .depth, s => query s (.number (some s.store.depth))
  | .snapshot, s => query s (.data (Store.snapshot s.store))
  | .frames name, s =>
    query s (.frames (s.store.rootFirst.map fun frame => ⟨frame, frame.get? name⟩))
  | .frameEq a b, s => query s (.optionalFlag (frameEq s.store a b))
  | .innermostIsEmpty, s => query s (.optionalFlag (s.store.frames.head?.map Dict.isEmpty))
  | .visible, s => query s (.visible (.ofList s.store.visible))
  | .block stops body, s =>
    let (result, t) := s.store.runScoped fun t =>
      let (outcomes, after) := runAll stops body { s with store := t }
      ((outcomes, after.slots), after.store)
    (.block result.1, ⟨t, result.2⟩)
  | .save slot, s => (.done, { s with slots := s.slots.insert slot s.store })
  | .restore slot, s =>
    match s.slots.get? slot with
    | some t => (.flag true, { s with store := t })
    | none => query s (.flag false)
  | .equals slot, s =>
    query s (.optionalFlag ((s.slots.get? slot).map fun t => Store.same t s.store))
  | .reset, s => (.done, { s with store := Table.new })
termination_by structural c => c

/-- Runs commands one after the other; if `stops`, up to the first failure. Each answer comes with
the store after it. -/
def runAll (stops : Bool) : List Command → State → List (Answer × Store) × State
  | [], s => ([], s)
  | c :: rest, s =>
    let (answer, s') := c.run s
    if stops && answer.isFailure then ([(answer, s'.store)], s')
    else
      let (outcomes, final) := runAll stops rest s'
      ((answer, s'.store) :: outcomes, final)
termination_by structural script => script

end

/-- Runs a script on a new store. -/
def run (script : List Command) : List (Answer × Store) × State := runAll false script .initial

end LexicalScope.Script
