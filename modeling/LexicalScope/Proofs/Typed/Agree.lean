import LexicalScope.Proofs.Json.Normal
import LexicalScope.Proofs.Typed.RoundTrip

/-!
# Reading values that are the same

Two values with the same normal form are read as the same value of a type, or neither of them is a
value of the type. Only the messages can differ, which tell what was found. The types of numbers and
of data values themselves are apart, for what is read there is the same in turn and need not be
equal.

* `Agree` — both readings give the same value, or both fail
* `Respects` — a reader that agrees on values that are the same
* `respects_list`, `respects_map`, … — readers of values with parts
* `Schema.ReadsAlike`, `Schema.readsAlike` — all types
-/

namespace LexicalScope

namespace Typed

/-- Both readings give the same value, or both fail. -/
def Agree {α : Type} (a b : Except ReadError α) : Prop :=
  (∃ x, a = .ok x ∧ b = .ok x) ∨ ∃ e e', a = .error e ∧ b = .error e'

/-- The reader agrees on values that are the same. -/
def Respects {α : Type} (read : TypedReader α) : Prop :=
  ∀ v w, v.normal = w.normal → Agree (read v) (read w)

section Agree

variable {α β : Type}

theorem Agree.ok (x : α) : Agree (.ok x) (.ok x) := Or.inl ⟨x, rfl, rfl⟩

theorem Agree.error (e e' : ReadError) : Agree (.error e : Except ReadError α) (.error e') :=
  Or.inr ⟨e, e', rfl, rfl⟩

theorem Agree.refl (a : Except ReadError α) : Agree a a := by
  cases a with
  | ok x => exact .ok x
  | error e => exact .error e e

/-- What goes on from a value that both have read. -/
theorem Agree.bind {a b : Except ReadError α} (h : Agree a b) {f g : α → Except ReadError β}
    (hfg : ∀ x, Agree (f x) (g x)) : Agree (a >>= f) (b >>= g) := by
  rcases h with ⟨x, rfl, rfl⟩ | ⟨e, e', rfl, rfl⟩
  · exact hfg x
  · exact .error e e'

end Agree

/-! ## Values without parts -/

theorem respects_unit : Respects readUnit := by
  intro v w h
  cases Json.alike_of_normal_eq h <;> first | exact .ok _ | exact .error _ _

theorem respects_bool : Respects readBool := by
  intro v w h
  cases Json.alike_of_normal_eq h <;> first | exact .ok _ | exact .error _ _

/-- Integers are the same in alike values, and so is what is read from them. -/
theorem respects_integer (k : IntegerKind) : Respects (readInteger k) := by
  intro v w h
  cases Json.alike_of_normal_eq h <;> first | exact .refl _ | exact .error _ _

theorem respects_char : Respects readChar := by
  intro v w h
  cases Json.alike_of_normal_eq h <;> first | exact .refl _ | exact .error _ _

theorem respects_string : Respects readString := by
  intro v w h
  cases Json.alike_of_normal_eq h <;> first | exact .ok _ | exact .error _ _

/-! ## Values with parts -/

section Parts

variable {α β κ : Type} {read : TypedReader α} {first : TypedReader α} {second : TypedReader β}

theorem respects_option (hr : Respects read) : Respects (readOption read) := by
  intro v w h
  have hvalue := hr v w h
  cases Json.alike_of_normal_eq h with
  | null => exact .ok none
  | _ =>
    rcases hvalue with ⟨x, hv, hw⟩ | ⟨e, e', hv, hw⟩
    · exact Or.inl ⟨some x, by simp [readOption, hv], by simp [readOption, hw]⟩
    · exact Or.inr ⟨e, e', by simp [readOption, hv], by simp [readOption, hw]⟩

/-- The items that follow are read after the first. -/
theorem readItems_cons (v : Json) (rest : List Json) :
    readItems read (v :: rest) = do
      let x ← read v
      let xs ← readItems read rest
      return x :: xs := by
  rw [readItems]
  cases read v with
  | error e => rfl
  | ok x => cases readItems read rest <;> rfl

/-- Items that are alike one by one are read alike. -/
theorem readItems_agree (hr : Respects read) {items items' : List Json}
    (h : List.Forall₂ (fun v w => v.normal = w.normal) items items') :
    Agree (readItems read items) (readItems read items') := by
  induction h with
  | nil => exact .ok []
  | cons hv _ ih =>
    rw [readItems_cons, readItems_cons]
    exact (hr _ _ hv).bind fun x => ih.bind fun xs => .ok (x :: xs)

/-- A list is read alike if its items are. -/
theorem respects_list (hr : Respects read) : Respects (readList read) := by
  intro v w h
  cases Json.alike_of_normal_eq h with
  | array hitems => exact readItems_agree hr hitems
  | _ => exact .error _ _

/-- Two items are read alike if each of them is. -/
theorem readTwo_agree (hfirst : Respects first) (hsecond : Respects second) (expected : String)
    {items items' : List Json} (h : List.Forall₂ (fun v w => v.normal = w.normal) items items') :
    Agree (readTwo first second expected items) (readTwo first second expected items') := by
  cases h with
  | nil => exact .error _ _
  | cons hv hrest =>
    rcases hfirst _ _ hv with ⟨x, ha, hb⟩ | ⟨e, e', ha, hb⟩
    · cases hrest with
      | nil =>
        simp only [readTwo, ha, hb]
        exact .error _ _
      | cons hw hrest =>
        rcases hsecond _ _ hw with ⟨y, hc, hd⟩ | ⟨e, e', hc, hd⟩
        · simp only [readTwo, ha, hb, hc, hd]
          cases hrest with
          | nil => exact .ok _
          | cons _ _ => exact .error _ _
        · simp only [readTwo, ha, hb, hc, hd]
          exact .error _ _
    · simp only [readTwo, ha, hb]
      exact .error _ _

theorem respects_pair : Respects readPair := by
  intro v w h
  cases Json.alike_of_normal_eq h with
  | array hitems => exact readTwo_agree (respects_integer .i64) respects_string _ hitems
  | _ => exact .error _ _

theorem readMembers_cons {readKey : String → Except ReadError κ} (name : String) (v : Json)
    (rest : List (String × Json)) :
    readMembers readKey read ((name, v) :: rest) = do
      let k ← readKey name
      let x ← read v
      let entries ← readMembers readKey read rest
      return (k, x) :: entries := by
  rw [readMembers]
  cases readKey name with
  | error e => rfl
  | ok k =>
    cases read v with
    | error e => rfl
    | ok x => cases readMembers readKey read rest <;> rfl

/-- Members that are alike have the same names, and are read alike if the values are. -/
theorem readMembers_agree (readKey : String → Except ReadError κ) (hr : Respects read)
    {members members' : List (String × Json)} (h : Json.AlikeMembers members members') :
    Agree (readMembers readKey read members) (readMembers readKey read members') := by
  induction h with
  | nil => exact .ok []
  | @cons e e' rest rest' he _ ih =>
    obtain ⟨name, v⟩ := e
    obtain ⟨name', w⟩ := e'
    obtain ⟨rfl, hv⟩ := he
    rw [readMembers_cons, readMembers_cons]
    refine (Agree.refl (readKey name)).bind fun k => (hr v w hv).bind fun x => ?_
    exact ih.bind fun entries => .ok ((k, x) :: entries)

/-- A map is read alike if its values are. -/
theorem respects_map [Ord κ] (readKey : String → Except ReadError κ) (hr : Respects read) :
    Respects (readMap readKey read) := by
  intro v w h
  cases Json.alike_of_normal_eq h with
  | @object members members' hmembers =>
    rcases readMembers_agree readKey hr hmembers with ⟨entries, ha, hb⟩ | ⟨e, e', ha, hb⟩
    · simp only [readMap, ha, hb]
      exact .ok _
    · simp only [readMap, ha, hb]
      exact .error _ _
  | _ => exact .error _ _

/-! ## Records and choices -/

/-- A member of a name is the same in objects that are. -/
theorem lookup_alike {l l' : List (String × Json)} (h : Json.AlikeMembers l l') (name : String) :
    (Dict.lookup name l).map Json.normal = (Dict.lookup name l').map Json.normal := by
  induction h with
  | nil => rfl
  | @cons e e' rest rest' he _ ih =>
    obtain ⟨n, v⟩ := e
    obtain ⟨n', w⟩ := e'
    obtain ⟨rfl, hv⟩ := he
    rw [Dict.lookup, Dict.lookup]
    split
    · exact congrArg some hv
    · exact ih

/-- A field is there in both objects or in none, and is read alike. -/
theorem readField?_agree (hr : Respects read) {members members' : Dict String Json}
    (h : Json.AlikeMembers members.entries members'.entries) (name : String) :
    Agree (readField? read members name) (readField? read members' name) := by
  have hget : (members.get? name).map Json.normal = (members'.get? name).map Json.normal :=
    lookup_alike h name
  unfold readField?
  rcases option_cases_of_map_eq hget with ⟨hv, hw⟩ | ⟨v, w, hv, hw, hvw⟩
  · rw [hv, hw]
    exact .ok none
  · rcases hr v w hvw with ⟨x, ha, hb⟩ | ⟨e, e', ha, hb⟩
    · simp only [hv, hw, ha, hb]
      exact .ok _
    · simp only [hv, hw, ha, hb]
      exact .error _ _

theorem respects_point : Respects readPoint := by
  intro v w h
  have hi := respects_integer .i64
  cases Json.alike_of_normal_eq h with
  | @array items items' hitems =>
    rcases readTwo_agree hi hi "struct Point with 2 elements" hitems with
      ⟨⟨x, y⟩, ha, hb⟩ | ⟨e, e', ha, hb⟩
    · simp only [readPoint, ha, hb]
      exact .ok _
    · simp only [readPoint, ha, hb]
      exact .error _ _
  | @object members members' hmembers =>
    refine (readField?_agree hi hmembers "x").bind fun x => ?_
    exact (readField?_agree hi hmembers "y").bind fun y => .refl _
  | _ => exact .error _ _

/-- One more field is read alike, after the same fields. -/
theorem read_configField_agree (fields : ConfigFields) {name : String} {v w : Json}
    (h : v.normal = w.normal) : Agree (fields.read (name, v)) (fields.read (name, w)) := by
  by_cases hname : name = "name"
  · subst hname
    exact (respects_string v w h).bind fun _ => .refl _
  by_cases hlimit : name = "limit"
  · subst hlimit
    exact (respects_option (respects_integer .u8) v w h).bind fun _ => .refl _
  by_cases htags : name = "tags"
  · subst htags
    exact (respects_list respects_string v w h).bind fun _ => .refl _
  simp only [ConfigFields.read]
  exact .error _ _

/-- All fields are read alike, one after the other. -/
theorem foldlM_configField_agree {members members' : List (String × Json)}
    (h : Json.AlikeMembers members members') (fields : ConfigFields) :
    Agree (members.foldlM ConfigFields.read fields) (members'.foldlM ConfigFields.read fields) := by
  induction h generalizing fields with
  | nil => exact .ok fields
  | @cons e e' rest rest' he _ ih =>
    obtain ⟨name, v⟩ := e
    obtain ⟨name', w⟩ := e'
    obtain ⟨rfl, hv⟩ := he
    rw [List.foldlM_cons, List.foldlM_cons]
    exact (read_configField_agree fields hv).bind ih

theorem readConfigItems_agree {items items' : List Json}
    (h : List.Forall₂ (fun v w => v.normal = w.normal) items items') :
    Agree (readConfigItems items) (readConfigItems items') := by
  cases h with
  | nil => exact .error _ _
  | cons hv hrest =>
    refine (respects_string _ _ hv).bind fun name => ?_
    cases hrest with
    | nil => exact .error _ _
    | cons hw hrest =>
      refine (respects_option (respects_integer .u8) _ _ hw).bind fun limit => ?_
      cases hrest with
      | nil => exact .ok _
      | cons hu hrest =>
        refine (respects_list respects_string _ _ hu).bind fun tags => ?_
        cases hrest with
        | nil => exact .ok _
        | cons _ _ => exact .error _ _

theorem respects_config : Respects readConfig := by
  intro v w h
  cases Json.alike_of_normal_eq h with
  | array hitems => exact readConfigItems_agree hitems
  | object hmembers => exact (foldlM_configField_agree hmembers {}).bind fun _ => .refl _
  | _ => exact .error _ _

/-- The content of a variant is read alike. -/
theorem respects_variant (name : String) : Respects (readVariant name) := by
  intro v w h
  by_cases hempty : name = "Empty"
  · subst hempty
    exact (respects_unit v w h).bind fun _ => .refl _
  by_cases hcircle : name = "Circle"
  · subst hcircle
    exact (respects_integer .i64 v w h).bind fun _ => .refl _
  by_cases hrect : name = "Rect"
  · subst hrect
    have hi := respects_integer .i64
    cases Json.alike_of_normal_eq h with
    | array hitems =>
      cases hitems with
      | nil => exact .error _ _
      | cons hv hrest => exact (readTwo_agree hi hi _ (.cons hv hrest)).bind fun _ => .refl _
    | _ => exact .error _ _
  by_cases hpoly : name = "Poly"
  · subst hpoly
    cases Json.alike_of_normal_eq h with
    | object hmembers =>
      exact (readField?_agree (respects_integer .u8) hmembers "sides").bind fun _ => .refl _
    | _ => exact .error _ _
  simp only [readVariant]
  exact .error _ _

theorem respects_shape : Respects readShape := by
  intro v w h
  cases Json.alike_of_normal_eq h with
  | string s => exact .refl _
  | @object members members' hmembers =>
    obtain ⟨entries⟩ := members
    obtain ⟨entries'⟩ := members'
    cases hmembers with
    | nil => exact .error _ _
    | @cons e e' rest rest' he hrest =>
      obtain ⟨name, v⟩ := e
      obtain ⟨name', w⟩ := e'
      obtain ⟨rfl, hv⟩ := he
      cases hrest with
      | nil => exact respects_variant name v w hv
      | cons _ _ => exact .error _ _
  | _ => exact .error _ _

end Parts

end Typed

/-! ## All types -/

namespace Schema

open Typed

/-- Both readings fail, or both give a value, and the values have the same data. -/
def ReadsAlike (s : Schema) (v w : Json) : Prop :=
  (∃ e e', s.read v = .error e ∧ s.read w = .error e') ∨
    ∃ x y, s.read v = .ok x ∧ s.read w = .ok y ∧
      (s.datum x).toJson.map Json.normal = (s.datum y).toJson.map Json.normal

/-- What agrees is the same value, or a failure on both sides. -/
theorem readsAlike_of_agree {s : Schema} {v w : Json} (h : Agree (s.read v) (s.read w)) :
    s.ReadsAlike v w := by
  rcases h with ⟨x, hv, hw⟩ | herrors
  · exact Or.inr ⟨x, x, hv, hw, rfl⟩
  · exact Or.inl herrors

theorem toJson_finite_alike {x y : Double} (h : x.normal = y.normal) :
    (Extended.finite x).toJson.normal = (Extended.finite y).toJson.normal := by
  rw [toJson_finite, toJson_finite, Json.normal, Json.normal, h]

/-- **Values that are the same are read alike.** -/
theorem readsAlike (s : Schema) {v w : Json} (h : v.normal = w.normal) : s.ReadsAlike v w := by
  cases s with
  | unit => exact readsAlike_of_agree (respects_unit v w h)
  | bool => exact readsAlike_of_agree (respects_bool v w h)
  | integer k => exact readsAlike_of_agree (respects_integer k v w h)
  | char => exact readsAlike_of_agree (respects_char v w h)
  | string => exact readsAlike_of_agree (respects_string v w h)
  | optionInteger => exact readsAlike_of_agree (respects_option (respects_integer .i64) v w h)
  | integers => exact readsAlike_of_agree (respects_list (respects_integer .i64) v w h)
  | pair => exact readsAlike_of_agree (respects_pair v w h)
  | integerMap => exact readsAlike_of_agree (respects_map .ok (respects_integer .i64) v w h)
  | integerKeys => exact readsAlike_of_agree (respects_map readIntegerKey respects_bool v w h)
  | point => exact readsAlike_of_agree (respects_point v w h)
  | config => exact readsAlike_of_agree (respects_config v w h)
  | shape => exact readsAlike_of_agree (respects_shape v w h)
  | value => exact Or.inr ⟨v, w, rfl, rfl, congrArg Except.ok h⟩
  | double | meters =>
    cases Json.alike_of_normal_eq h with
    | whole n => exact readsAlike_of_agree (.ok _)
    | float hxy => exact Or.inr ⟨_, _, rfl, rfl, congrArg Except.ok (toJson_finite_alike hxy)⟩
    | _ => exact Or.inl ⟨_, _, rfl, rfl⟩

end Schema

end LexicalScope
