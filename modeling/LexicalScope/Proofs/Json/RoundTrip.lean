import LexicalScope.Dict.Lemmas
import LexicalScope.Json.Reading.Value
import LexicalScope.Proofs.Json.Collected
import LexicalScope.Proofs.Json.Number

/-!
# Reading back a text

The text of a value whose numbers are integers reads back as the value, if no more brackets are open
at a time than may be. Of a value that nests deeper nothing is read: the bracket that is one too
many is refused.

* `parts` — a value and all values within it; `Integral` and `Ordered` say of each of them what kind
  of number it is and how its members are ordered
* `nesting` — how many brackets are open at a time
* `Readable`, `readable` — every such value is read off the beginning of any text
* `ofText_toText_of_nesting_le`, `ofText_toText_of_lt_nesting` — a text that is nothing else
-/

namespace LexicalScope.Json

/-! ## Values within values -/

mutual

/-- The value, and all values within it. -/
def parts : Json → List Json
  | .array items => .array items :: partsItems items
  | .object ⟨members⟩ => .object ⟨members⟩ :: partsMembers members
  | v => [v]
termination_by structural v => v

def partsItems : List Json → List Json
  | [] => []
  | v :: rest => v.parts ++ partsItems rest
termination_by structural items => items

/-- The parts of the values of all members. -/
def partsMembers : List (String × Json) → List Json
  | [] => []
  | (_, v) :: rest => v.parts ++ partsMembers rest
termination_by structural members => members

end

mutual

/-- How many arrays and objects the value opens within each other. -/
def nesting : Json → Nat
  | .array items => nestingItems items + 1
  | .object ⟨members⟩ => nestingMembers members + 1
  | _ => 0
termination_by structural v => v

def nestingItems : List Json → Nat
  | [] => 0
  | v :: rest => max v.nesting (nestingItems rest)
termination_by structural items => items

/-- The greatest depth among the values of members. -/
def nestingMembers : List (String × Json) → Nat
  | [] => 0
  | (_, v) :: rest => max v.nesting (nestingMembers rest)
termination_by structural members => members

end

/-- All numbers of the value are integers. -/
def Integral (v : Json) : Prop := ∀ p ∈ v.parts, ∀ x, p ≠ .float x

/-- Each object of the value has its members in the order of their names, each name once. -/
def Ordered (v : Json) : Prop := ∀ p ∈ v.parts, ∀ members, p = .object members → members.Sorted

theorem mem_parts_self (v : Json) : v ∈ v.parts := by
  cases v with
  | array items => exact List.mem_cons_self
  | object members => exact List.mem_cons_self
  | _ => exact List.mem_singleton_self _

theorem forall_mem_partsItems {P : Json → Prop} {items : List Json} :
    (∀ p ∈ partsItems items, P p) ↔ ∀ v ∈ items, ∀ p ∈ v.parts, P p := by
  induction items with
  | nil => simp [partsItems]
  | cons v rest ih => rw [partsItems, List.forall_mem_append, ih, List.forall_mem_cons]

theorem forall_mem_partsMembers {P : Json → Prop} {members : List (String × Json)} :
    (∀ p ∈ partsMembers members, P p) ↔ ∀ e ∈ members, ∀ p ∈ e.2.parts, P p := by
  induction members with
  | nil => simp [partsMembers]
  | cons e rest ih => rw [partsMembers, List.forall_mem_append, ih, List.forall_mem_cons]

/-- Items are nested no deeper than `n` exactly if none of them is. -/
theorem nestingItems_le_iff {items : List Json} {n : Nat} :
    nestingItems items ≤ n ↔ ∀ v ∈ items, v.nesting ≤ n := by
  induction items with
  | nil => simp [nestingItems]
  | cons v rest ih => rw [nestingItems, Nat.max_le, ih, List.forall_mem_cons]

theorem nestingMembers_le_iff {members : List (String × Json)} {n : Nat} :
    nestingMembers members ≤ n ↔ ∀ e ∈ members, e.2.nesting ≤ n := by
  induction members with
  | nil => simp [nestingMembers]
  | cons e rest ih => rw [nestingMembers, Nat.max_le, ih, List.forall_mem_cons]

/-! ## What the text of a value looks like -/

theorem itemsText_eq_separated (items : List Json) : itemsText items = separated text items := by
  induction items with
  | nil => rfl
  | cons v rest ih =>
    cases rest with
    | nil => simp [itemsText, separated]
    | cons w rest =>
      rw [itemsText, ih]
      · simp [separated]
      · exact List.cons_ne_nil _ _

/-- The name of a member, a colon and its value. -/
def memberText (e : String × Json) : List Char := stringText e.1 ++ ':' :: e.2.text

theorem membersText_eq_separated (members : List (String × Json)) :
    membersText members = separated memberText members := by
  induction members with
  | nil => rfl
  | cons e rest ih =>
    cases rest with
    | nil => simp [membersText, separated, memberText]
    | cons e' rest =>
      rw [membersText, ih]
      · simp [separated, memberText]
      · exact List.cons_ne_nil _ _

/-- The text of an integer begins with its sign or with a digit. -/
theorem integerText_eq_cons (n : Int) :
    ∃ c cs, integerText n = c :: cs ∧ (c = '-' ∨ c.isDigit = true) := by
  unfold integerText
  split
  · exact ⟨_, _, rfl, Or.inl rfl⟩
  · cases hdigits : Nat.toDigits 10 n.natAbs with
    | nil => exact absurd hdigits Nat.toDigits_ne_nil
    | cons c cs =>
      exact ⟨c, cs, rfl, Or.inr (isDigit_of_mem_toDigits c (hdigits ▸ List.mem_cons_self))⟩

theorem isBlank_eq_false_of_isDigit {c : Char} (h : c.isDigit = true) : isBlank c = false := by
  have hne : ∀ blank : Char, blank.isDigit = false → c ≠ blank := by
    rintro blank hblank rfl
    rw [hblank] at h
    cases h
  simp [isBlank, hne ' ' rfl, hne '\t' rfl, hne '\n' rfl, hne '\r' rfl]

/-- A value begins with a character that is no blank and closes no list. -/
theorem text_eq_cons {v : Json} (h : v.Integral) :
    ∃ c cs, v.text = c :: cs ∧ isBlank c = false ∧ c ≠ ']' := by
  cases v with
  | null => exact ⟨_, _, rfl, by decide, by decide⟩
  | bool b => cases b <;> exact ⟨_, _, rfl, by decide, by decide⟩
  | whole n =>
    obtain ⟨c, cs, hn, hc⟩ := integerText_eq_cons n.val
    refine ⟨c, cs, hn, ?_⟩
    obtain rfl | hdigit := hc
    · exact ⟨by decide, by decide⟩
    · refine ⟨isBlank_eq_false_of_isDigit hdigit, ?_⟩
      rintro rfl
      exact absurd hdigit (by decide)
  | float x => exact absurd rfl (h _ (mem_parts_self _) x)
  | string s => exact ⟨_, _, rfl, by decide, by decide⟩
  | array items => exact ⟨_, _, rfl, by decide, by decide⟩
  | object members => exact ⟨_, _, rfl, by decide, by decide⟩

/-! ## Reading what has been written -/

/-- From the beginning of any text the value is read back if its brackets may be open at a time,
and else a bracket is refused. -/
def Readable (v : Json) : Prop :=
  ∀ depth rest, EndsNumber rest →
    ReadsIf (v.nesting ≤ depth) v rest (value depth (v.text ++ rest))

/-- What comes behind a value in an array or object does not go on with a number. -/
theorem Continues.endsNumber {closing : Char} {rest : List Char} (h : Continues closing rest)
    (hclosing : closing.isDigit = false ∧ closing ≠ '.' ∧ closing ≠ 'e' ∧ closing ≠ 'E') :
    EndsNumber rest := by
  intro c hc
  obtain hcomma | hclose := h
  · obtain rfl : ',' = c := Option.some.inj (hcomma.symm.trans hc)
    decide
  · obtain rfl : closing = c := Option.some.inj (hclose.symm.trans hc)
    exact hclosing

theorem skipBlanks_cons {c : Char} (h : isBlank c = false) (cs : List Char) :
    skipBlanks (c :: cs) = c :: cs :=
  List.dropWhile_cons_of_neg (by rw [h]; decide)

/-- What begins like a number is read as a number. -/
theorem value_eq_number {c : Char} (h : c = '-' ∨ c.isDigit = true) (depth : Nat)
    (cs : List Char) : value depth (c :: cs) = number (c :: cs) := by
  have hblank : isBlank c = false := by
    obtain rfl | hdigit := h
    · decide
    · exact isBlank_eq_false_of_isDigit hdigit
  rw [value, skipBlanks_cons hblank]
  split
  case h_1 heq => exact absurd heq (List.cons_ne_nil _ _)
  case h_8 heq =>
    obtain ⟨rfl, rfl⟩ := List.cons.inj heq
    exact if_pos h
  -- no other value begins with a sign or with a digit
  all_goals
    next heq =>
      obtain ⟨rfl, -⟩ := List.cons.inj heq
      exact absurd h (by decide)

/-- A value without brackets need only be read back. -/
theorem readable_of_flat {v : Json} (hflat : v.nesting = 0)
    (h : ∀ depth rest, EndsNumber rest → value depth (v.text ++ rest) = .ok (v, rest)) :
    Readable v := by
  intro depth rest hrest
  refine ⟨fun _ => h depth rest hrest, fun hn => absurd ?_ hn⟩
  rw [hflat]
  exact Nat.zero_le depth

theorem readable_null : Readable .null := by
  refine readable_of_flat rfl fun depth rest _ => ?_
  simp [text, value, skipBlanks, isBlank, word]

theorem readable_bool (b : Bool) : Readable (.bool b) := by
  refine readable_of_flat rfl fun depth rest _ => ?_
  cases b <;> simp [text, value, skipBlanks, isBlank, word]

theorem readable_whole (n : Whole) : Readable (.whole n) := by
  refine readable_of_flat rfl fun depth rest hrest => ?_
  obtain ⟨c, cs, hn, hc⟩ := integerText_eq_cons n.val
  have hread := number_integerText_append n hrest
  rw [text]
  rw [hn, List.cons_append] at hread ⊢
  rw [value_eq_number hc, hread]

theorem readable_string (s : String) : Readable (.string s) := by
  refine readable_of_flat rfl fun depth rest _ => ?_
  rw [text, stringText, List.cons_append, List.append_assoc, List.singleton_append, value,
    skipBlanks_cons (by decide)]
  simp only [quoted_append]

theorem ReadsIf.of_result {α β : Type} {condition : Prop} {x : α} {y : β} {rest rest' : List Char}
    {result : Except ReadFailure (α × List Char)} {result' : Except ReadFailure (β × List Char)}
    (h : ReadsIf condition x rest result)
    (hok : result = .ok (x, rest) → result' = .ok (y, rest'))
    (herror : ∀ e, result = .error e → result' = .error e) :
    ReadsIf condition y rest' result' := by
  obtain ⟨hreads, hrefuses⟩ := h
  refine ⟨fun hc => hok (hreads hc), fun hc => ?_⟩
  obtain ⟨n, hn⟩ := hrefuses hc
  exact ⟨n, herror _ hn⟩

section Parts

variable {reader : Reader Json} {condition : Prop} {left : List Char}

/-- An item is read where its value is, whether or not a comma is due. -/
theorem readsIf_nextItem {v : Json} (hv : v.Integral)
    (h : ReadsIf condition v left (reader (v.text ++ left))) :
    ReadsIf condition (some v) left (nextItem reader true (v.text ++ left)) ∧
      ReadsIf condition (some v) left (nextItem reader false (',' :: v.text ++ left)) := by
  obtain ⟨c, cs, hc, hblank, hne⟩ := text_eq_cons hv
  have hcomma : isBlank ',' = false := rfl
  rw [List.cons_append]
  rw [hc, List.cons_append] at h ⊢
  refine ⟨h.of_result (fun hok => ?_) (fun e herror => ?_),
    h.of_result (fun hok => ?_) (fun e herror => ?_)⟩
  · simp [nextItem, skipBlanks_cons hblank, hok]
  · simp [nextItem, skipBlanks_cons hblank, herror]
  · simp [nextItem, skipBlanks_cons hcomma, skipBlanks_cons hblank, hne, hok]
  · simp [nextItem, skipBlanks_cons hcomma, skipBlanks_cons hblank, hne, herror]

/-- A member is read where its value is, whether or not a comma is due. -/
theorem readsIf_nextMember {e : String × Json}
    (h : ReadsIf condition e.2 left (reader (e.2.text ++ left))) :
    ReadsIf condition (some e) left (nextMember reader true (memberText e ++ left)) ∧
      ReadsIf condition (some e) left (nextMember reader false (',' :: memberText e ++ left)) := by
  obtain ⟨name, v⟩ := e
  have hcomma : isBlank ',' = false := rfl
  have hquote : isBlank '"' = false := rfl
  have hcolon : isBlank ':' = false := rfl
  have hmember : ReadsIf condition (name, v) left
      (member reader (name.toList.flatMap escapeChar ++ '"' :: ':' :: (v.text ++ left))) := by
    refine h.of_result (fun hok => ?_) (fun e herror => ?_)
    · simp [member, quoted_append, skipBlanks_cons hcolon, hok]
    · simp [member, quoted_append, skipBlanks_cons hcolon, herror]
  have htext : memberText (name, v) ++ left =
      '"' :: (name.toList.flatMap escapeChar ++ '"' :: ':' :: (v.text ++ left)) := by
    simp [memberText, stringText]
  rw [List.cons_append, htext]
  refine ⟨hmember.of_result (fun hok => ?_) (fun e herror => ?_),
    hmember.of_result (fun hok => ?_) (fun e herror => ?_)⟩
  · simp [nextMember, skipBlanks_cons hquote, hok]
  · simp [nextMember, skipBlanks_cons hquote, herror]
  · simp [nextMember, skipBlanks_cons hcomma, skipBlanks_cons hquote, hok]
  · simp [nextMember, skipBlanks_cons hcomma, skipBlanks_cons hquote, herror]

end Parts

/-- **A list is read if its items are.** -/
theorem readable_array {items : List Json} (hi : ∀ v ∈ items, v.Integral)
    (h : ∀ v ∈ items, v.Readable) : Readable (.array items) := by
  intro depth rest _
  rw [text, List.cons_append, List.append_assoc, List.singleton_append, nesting, value,
    skipBlanks_cons (by decide), itemsText_eq_separated]
  cases depth with
  | zero => exact ⟨fun h => absurd h (Nat.not_succ_le_zero _), fun _ => ⟨_, rfl⟩⟩
  | succ d =>
    have hvalue : ∀ v ∈ items, ∀ left, Continues ']' left →
        ReadsIf (v.nesting ≤ d) v left (value d (v.text ++ left)) := by
      intro v hv left hleft
      exact h v hv d left (hleft.endsNumber (by decide))
    have hitems : ReadsIf (∀ v ∈ items, v.nesting ≤ d) items rest
        (collectAll (nextItem (value d)) (separated text items ++ ']' :: rest)) := by
      refine collectAll_separated rest (fun isFirst => ?_)
        (fun v hv left hleft => (readsIf_nextItem (hi v hv) (hvalue v hv left hleft)).1)
        (fun v hv left hleft => (readsIf_nextItem (hi v hv) (hvalue v hv left hleft)).2)
      simp [nextItem, skipBlanks, isBlank]
    rw [Nat.succ_le_succ_iff, nestingItems_le_iff]
    refine hitems.of_result (fun hok => ?_) (fun e herror => ?_)
    · simp only [hok]
    · simp only [herror]

/-- **An object is read if its members are.** -/
theorem readable_object {members : Dict String Json} (hs : members.Sorted)
    (h : ∀ e ∈ members.entries, e.2.Readable) : Readable (.object members) := by
  intro depth rest _
  obtain ⟨entries⟩ := members
  rw [text, List.cons_append, List.append_assoc, List.singleton_append, nesting, value,
    skipBlanks_cons (by decide), membersText_eq_separated]
  cases depth with
  | zero => exact ⟨fun h => absurd h (Nat.not_succ_le_zero _), fun _ => ⟨_, rfl⟩⟩
  | succ d =>
    have hvalue : ∀ e ∈ entries, ∀ left, Continues '\x7d' left →
        ReadsIf (e.2.nesting ≤ d) e.2 left (value d (e.2.text ++ left)) := by
      intro e he left hleft
      exact h e he d left (hleft.endsNumber (by decide))
    have hmembers : ReadsIf (∀ e ∈ entries, e.2.nesting ≤ d) entries rest
        (collectAll (nextMember (value d)) (separated memberText entries ++ '\x7d' :: rest)) := by
      refine collectAll_separated rest (fun isFirst => ?_)
        (fun e he left hleft => (readsIf_nextMember (hvalue e he left hleft)).1)
        (fun e he left hleft => (readsIf_nextMember (hvalue e he left hleft)).2)
      simp [nextMember, skipBlanks, isBlank]
    -- the members that have been read are put in order, and they are
    have hordered : ofMembers entries = .object ⟨entries⟩ :=
      congrArg Json.object (Dict.ofList_of_perm hs (List.Perm.refl _))
    rw [Nat.succ_le_succ_iff, nestingMembers_le_iff]
    refine hmembers.of_result (fun hok => ?_) (fun e herror => ?_)
    · simp only [hok, hordered]
    · simp only [herror]

mutual

/-- **A value whose numbers are integers is read back.** The induction is on the value. -/
theorem readable {v : Json} (hi : v.Integral) (ho : v.Ordered) : v.Readable := by
  match v with
  | .null => exact readable_null
  | .bool b => exact readable_bool b
  | .whole n => exact readable_whole n
  | .float x => exact absurd rfl (hi _ (mem_parts_self _) x)
  | .string s => exact readable_string s
  | .array items =>
    have hi := forall_mem_partsItems.mp (List.forall_mem_cons.mp hi).2
    have ho := forall_mem_partsItems.mp (List.forall_mem_cons.mp ho).2
    exact readable_array hi (readable_items items hi ho)
  | .object ⟨members⟩ =>
    have hs := ho _ (mem_parts_self _) _ rfl
    have hi := forall_mem_partsMembers.mp (List.forall_mem_cons.mp hi).2
    have ho := forall_mem_partsMembers.mp (List.forall_mem_cons.mp ho).2
    exact readable_object hs (readable_members members hi ho)
termination_by structural v

theorem readable_items (items : List Json) (hi : ∀ v ∈ items, v.Integral)
    (ho : ∀ v ∈ items, v.Ordered) : ∀ v ∈ items, v.Readable := by
  match items with
  | [] => exact fun _ h => absurd h List.not_mem_nil
  | v :: rest =>
    obtain ⟨hi, hi'⟩ := List.forall_mem_cons.mp hi
    obtain ⟨ho, ho'⟩ := List.forall_mem_cons.mp ho
    exact List.forall_mem_cons.mpr ⟨readable hi ho, readable_items rest hi' ho'⟩
termination_by structural items

/-- Each member reads back before a comma or a bracket. -/
theorem readable_members (members : List (String × Json)) (hi : ∀ e ∈ members, e.2.Integral)
    (ho : ∀ e ∈ members, e.2.Ordered) : ∀ e ∈ members, e.2.Readable := by
  match members with
  | [] => exact fun _ h => absurd h List.not_mem_nil
  | (name, v) :: rest =>
    obtain ⟨hi, hi'⟩ := List.forall_mem_cons.mp hi
    obtain ⟨ho, ho'⟩ := List.forall_mem_cons.mp ho
    exact List.forall_mem_cons.mpr ⟨readable hi ho, readable_members rest hi' ho'⟩
termination_by structural members

end

/-! ## Whole texts -/

theorem ofText_toText_of_nesting_le {v : Json} (hi : v.Integral) (ho : v.Ordered)
    (hn : v.nesting ≤ depthLimit) : ofText v.toText = .ok v := by
  have hread := (readable hi ho depthLimit [] endsNumber_nil).1 hn
  rw [List.append_nil] at hread
  have hblank : skipBlanks [] = [] := rfl
  rw [ofText, toText, String.toList_ofList, wholeText]
  simp only [hread, hblank]

/-- A text that opens too many brackets within each other is refused for that. -/
theorem ofText_toText_of_lt_nesting {v : Json} (hi : v.Integral) (ho : v.Ordered)
    (hn : depthLimit < v.nesting) :
    ∃ position, ofText v.toText = .error ⟨.nestedTooDeep, position⟩ := by
  obtain ⟨n, hread⟩ :=
    (readable hi ho depthLimit [] endsNumber_nil).2 (Nat.not_le_of_lt hn)
  rw [List.append_nil] at hread
  refine ⟨.ofOffset v.text (Text.byteLength v.text - n), ?_⟩
  rw [ofText, toText, String.toList_ofList, wholeText]
  simp only [hread, ReadFailure.locate]

end LexicalScope.Json
