/-!
# Dictionaries

A finite map kept as a list of entries in strictly increasing order of keys. Frames of a scope
table, objects of a data value and maps with integer keys are all dictionaries.

* `Dict.insert`, `Dict.erase`, `Dict.modify` — keep the order; a key has at most one entry
* `Dict.get?` — the view that the laws of `Dict.Lemmas` are stated on
* `Dict.Sorted` — the order itself. It is a predicate and not a field, because data values contain
  dictionaries of data values, and a field could not speak of the type that is being defined.

Two dictionaries with the same bindings are the same list: equality of bindings is equality.
-/

namespace LexicalScope

/-- A finite map from `κ` to `α`; see `Dict.Sorted` for the order of the entries. -/
structure Dict (κ α : Type) where
  entries : List (κ × α)
  deriving Repr, DecidableEq

namespace Dict

variable {κ α β : Type}

/-- The dictionary without entries. -/
def empty : Dict κ α := ⟨[]⟩

instance : EmptyCollection (Dict κ α) := ⟨empty⟩

instance : Inhabited (Dict κ α) := ⟨empty⟩

def isEmpty (d : Dict κ α) : Bool := d.entries.isEmpty

/-- The number of keys. -/
def size (d : Dict κ α) : Nat := d.entries.length

/-- The keys, in increasing order. -/
def keys (d : Dict κ α) : List κ := d.entries.map (·.1)

/-- The values, in the order of their keys. -/
def values (d : Dict κ α) : List α := d.entries.map (·.2)

/-- Applies `f` to every value. -/
def mapValues (f : α → β) (d : Dict κ α) : Dict κ β := ⟨d.entries.map fun e => (e.1, f e.2)⟩

/-! ## Looking up -/

section Ordered

variable [Ord κ]

/-- The value of the first entry whose key compares equal to `k`. -/
def lookup (k : κ) : List (κ × α) → Option α
  | [] => none
  | (k', v) :: rest => if compare k k' = .eq then some v else lookup k rest

/-- The value bound to `k`. -/
def get? (d : Dict κ α) (k : κ) : Option α := lookup k d.entries

/-- Whether there is an entry for the key. -/
def contains (d : Dict κ α) (k : κ) : Bool := (d.get? k).isSome

/-! ## Changing -/

/-- Puts an entry where its key belongs, in place of an entry with an equal key. -/
def place (k : κ) (v : α) : List (κ × α) → List (κ × α)
  | [] => [(k, v)]
  | (k', v') :: rest =>
    match compare k k' with
    | .lt => (k, v) :: (k', v') :: rest
    | .eq => (k, v) :: rest
    | .gt => (k', v') :: place k v rest

/-- Binds `k` to `v`. -/
def insert (d : Dict κ α) (k : κ) (v : α) : Dict κ α := ⟨place k v d.entries⟩

/-- Removes the entry of `k`, if there is one. -/
def erase (d : Dict κ α) (k : κ) : Dict κ α := ⟨d.entries.filter fun e => compare k e.1 != .eq⟩

/-- Replaces the value of `k` by its image under `f`. No key comes or goes. -/
def modify (d : Dict κ α) (k : κ) (f : α → α) : Dict κ α :=
  ⟨d.entries.map fun e => if compare k e.1 = .eq then (e.1, f e.2) else e⟩

/-- The dictionary of a list of entries; of equal keys the last wins. -/
def ofList (entries : List (κ × α)) : Dict κ α :=
  entries.foldl (fun d e => d.insert e.1 e.2) empty

/-! ## Order -/

/-- Each key comes before every later one. -/
def Sorted (d : Dict κ α) : Prop := d.entries.Pairwise fun a b => compare a.1 b.1 = .lt

end Ordered

end Dict

end LexicalScope
