import LexicalScope.Json.Basic
import Mathlib.Data.List.Forall2

/-!
# Normal forms of values

Two values are the same exactly if they have the same normal form: the doubles have two zeros that
are the same, and in a normal form each of them is the positive one. So equality of values is
equality of what a function makes of them, and what commutes with this function respects equality of
values.

* `option_cases_of_map_eq`, `except_cases_of_map_eq`, `forall₂_of_map_eq` — results with equal
  images
* `Binary.normal`, `Json.normal` — the normal form
* `normal_eq_iff` — values with the same normal form
* `sameOption`, `normalMembers_eq_iff` — the same for values that may be missing and for members
* `Alike`, `alike_of_normal_eq` — what two values are that have the same normal form
-/

namespace LexicalScope

/-! ## Equal images -/

section Images

variable {ε α β : Type} {f : α → β}

theorem option_cases_of_map_eq {x y : Option α} (h : x.map f = y.map f) :
    (x = none ∧ y = none) ∨ ∃ a b, x = some a ∧ y = some b ∧ f a = f b := by
  cases x with
  | none =>
    cases y with
    | none => exact Or.inl ⟨rfl, rfl⟩
    | some b => cases h
  | some a =>
    cases y with
    | none => cases h
    | some b => exact Or.inr ⟨a, b, rfl, rfl, Option.some.inj h⟩

/-- Results that are the same after a function are two errors or two values. -/
theorem except_cases_of_map_eq {x y : Except ε α} (h : x.map f = y.map f) :
    (∃ e, x = .error e ∧ y = .error e) ∨ ∃ a b, x = .ok a ∧ y = .ok b ∧ f a = f b := by
  cases x with
  | error e =>
    cases y with
    | error e' =>
      cases h
      exact Or.inl ⟨e, rfl, rfl⟩
    | ok b => cases h
  | ok a =>
    cases y with
    | error e' => cases h
    | ok b => exact Or.inr ⟨a, b, rfl, rfl, Except.ok.inj h⟩

theorem forall₂_of_map_eq {l l' : List α} (h : l.map f = l'.map f) :
    List.Forall₂ (fun a b => f a = f b) l l' := by
  have heq : List.Forall₂ (· = ·) (l.map f) (l'.map f) := by
    rw [List.forall₂_eq_eq_eq]
    exact h
  exact List.forall₂_map_right_iff.mp (List.forall₂_map_left_iff.mp heq)

end Images

/-! ## Normal forms -/

/-- Of the two zeros the positive one, and any other number itself. -/
def Binary.normal {f : BinaryFormat} (x : Binary f) : Binary f :=
  if x.rank = 0 then .zero false else x

/-- Numbers are the same exactly if their normal forms are. -/
theorem Binary.normal_eq_iff {f : BinaryFormat} {x y : Binary f} :
    x.normal = y.normal ↔ x.sameValue y = true := by
  rw [sameValue_iff]
  unfold normal
  by_cases hx : x.rank = 0
  · by_cases hy : y.rank = 0
    · simp [hx, hy]
    · have hne : zero false ≠ y := by
        rintro rfl
        exact hy rfl
      have hxy : x ≠ y := by
        rintro rfl
        exact hy hx
      simp [hx, hy, hne, hxy]
  · by_cases hy : y.rank = 0
    · have hne : x ≠ zero false := by
        rintro rfl
        exact hx rfl
      have hxy : x ≠ y := by
        rintro rfl
        exact hx hy
      simp [hx, hy, hne, hxy]
    · simp [hx, hy]

namespace Json

mutual

/-- The value with every zero that is a double positive. -/
def normal : Json → Json
  | .float x => .float x.normal
  | .array items => .array (normalItems items)
  | .object ⟨members⟩ => .object ⟨normalMembers members⟩
  | v => v
termination_by structural v => v

def normalItems : List Json → List Json
  | [] => []
  | v :: rest => v.normal :: normalItems rest
termination_by structural items => items

/-- Normal forms of members, under the same names. -/
def normalMembers : List (String × Json) → List (String × Json)
  | [] => []
  | (name, v) :: rest => (name, v.normal) :: normalMembers rest
termination_by structural members => members

end

theorem normalItems_eq_map (items : List Json) : normalItems items = items.map normal := by
  induction items with
  | nil => rfl
  | cons v rest ih => rw [normalItems, ih, List.map_cons]

theorem normalMembers_eq_map (members : List (String × Json)) :
    normalMembers members = members.map fun e => (e.1, e.2.normal) := by
  induction members with
  | nil => rfl
  | cons e rest ih => rw [normalMembers, ih, List.map_cons]

theorem normal_array (items : List Json) : (array items).normal = .array (items.map normal) := by
  rw [normal, normalItems_eq_map]

theorem normal_object (members : Dict String Json) :
    (object members).normal = .object (members.mapValues normal) := by
  obtain ⟨entries⟩ := members
  rw [normal, normalMembers_eq_map]
  rfl

mutual

/-- **Values are the same exactly if they have the same normal form.** -/
theorem normal_eq_iff (v w : Json) : v.normal = w.normal ↔ v.sameValue w = true := by
  match v with
  | .null => cases w <;> simp [normal, sameValue]
  | .bool b => cases w <;> simp [normal, sameValue]
  | .whole n => cases w <;> simp [normal, sameValue]
  | .float x => cases w <;> simp [normal, sameValue, Binary.normal_eq_iff]
  | .string s => cases w <;> simp [normal, sameValue]
  | .array items =>
    cases w with
    | array items' => simp [normal, sameValue, normalItems_eq_iff items items']
    | _ => simp [normal, sameValue]
  | .object ⟨members⟩ =>
    cases w with
    | object members' => simp [normal, sameValue, normalMembers_eq_iff members members'.entries]
    | _ => simp [normal, sameValue]
termination_by structural v

theorem normalItems_eq_iff (items items' : List Json) :
    normalItems items = normalItems items' ↔ sameItems items items' = true := by
  match items, items' with
  | [], [] => simp [normalItems, sameItems]
  | [], _ :: _ => simp [normalItems, sameItems]
  | _ :: _, [] => simp [normalItems, sameItems]
  | v :: rest, w :: rest' =>
    simp [normalItems, sameItems, normal_eq_iff v w, normalItems_eq_iff rest rest']
termination_by structural items

/-- Members are the same one by one exactly if their normal forms are. -/
theorem normalMembers_eq_iff (members members' : List (String × Json)) :
    normalMembers members = normalMembers members' ↔ sameMembers members members' = true := by
  match members, members' with
  | [], [] => simp [normalMembers, sameMembers]
  | [], _ :: _ => simp [normalMembers, sameMembers]
  | _ :: _, [] => simp [normalMembers, sameMembers]
  | (name, v) :: rest, (name', w) :: rest' =>
    simp [normalMembers, sameMembers, normal_eq_iff v w, normalMembers_eq_iff rest rest']
termination_by structural members

end

/-- Equality of values that may be missing. -/
def sameOption : Option Json → Option Json → Bool
  | none, none => true
  | some v, some w => v.sameValue w
  | _, _ => false

theorem map_normal_eq_iff {v w : Option Json} :
    v.map normal = w.map normal ↔ sameOption v w = true := by
  cases v <;> cases w <;> simp [sameOption, normal_eq_iff]

/-! ## Values that are the same, kind by kind -/

/-- Members of the same names, with values of the same normal forms. -/
def AlikeMembers : List (String × Json) → List (String × Json) → Prop :=
  List.Forall₂ fun e e' => e.1 = e'.1 ∧ e.2.normal = e'.2.normal

/-- Values of the same kind and with the same normal form. -/
inductive Alike : Json → Json → Prop where
  | null : Alike .null .null
  | bool (b : Bool) : Alike (.bool b) (.bool b)
  | whole (n : Whole) : Alike (.whole n) (.whole n)
  | float {x y : Double} (h : x.normal = y.normal) : Alike (.float x) (.float y)
  | string (s : String) : Alike (.string s) (.string s)
  | array {items items' : List Json}
    (h : List.Forall₂ (fun v w => v.normal = w.normal) items items') :
    Alike (.array items) (.array items')
  | object {members members' : Dict String Json}
    (h : AlikeMembers members.entries members'.entries) : Alike (.object members) (.object members')

theorem alikeMembers_of_mapValues_eq {members members' : Dict String Json}
    (h : members.mapValues normal = members'.mapValues normal) :
    AlikeMembers members.entries members'.entries :=
  (forall₂_of_map_eq (congrArg Dict.entries h)).imp fun _ _ he => Prod.mk.inj he

/-- Values of one normal form are of one kind and differ at most in the signs of zeros. -/
theorem alike_of_normal_eq {v w : Json} (h : v.normal = w.normal) : Alike v w := by
  cases v <;> cases w <;> simp only [normal, reduceCtorEq] at h
  case null.null => exact .null
  case bool.bool b b' =>
    cases h
    exact .bool b
  case whole.whole n n' =>
    cases h
    exact .whole n
  case float.float x y => exact .float (Json.float.inj h)
  case string.string s s' =>
    cases h
    exact .string s
  case array.array items items' =>
    rw [normalItems_eq_map, normalItems_eq_map] at h
    exact .array (forall₂_of_map_eq (Json.array.inj h))
  case object.object members members' =>
    rw [normalMembers_eq_map, normalMembers_eq_map] at h
    exact .object (alikeMembers_of_mapValues_eq (Json.object.inj h))

end Json

end LexicalScope
