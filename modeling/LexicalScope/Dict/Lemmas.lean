import LexicalScope.Dict.Basic

/-!
# Laws of dictionaries

Each operation through the view `Dict.get?`, and the order that every operation keeps.

* `get?_insert`, `get?_modify`, `get?_erase` — what a look-up finds after a change
* `mapValues_insert`, `mapValues_modify`, `mapValues_ofList` — an image of the values is changed as
  the values are
* `insert_insert`, `modify_insert_of_get?_eq_none` — two changes at one key
* `sorted_insert`, `sorted_modify`, `sorted_erase`, `sorted_ofList` — the order is kept
* `ext_get?` — a sorted dictionary is determined by its look-ups
* `insert_erase_of_get?_eq_some` — an entry that is taken out can be put back
* `perm_ofList`, `ofList_of_perm` — entries are collected without a loss where no key is there
  twice, and those of a dictionary, in any order, are the dictionary
* `lookup_eq_some_iff_mem`, `nodup_keys`, `mem_keys_iff` — where keys do not repeat, a look-up finds
  the entry that is there
-/

namespace LexicalScope.Dict

variable {κ α : Type} [Ord κ]

/-! ## Laws for any comparison -/

theorem get?_empty (k : κ) : (empty : Dict κ α).get? k = none := rfl

theorem sorted_empty : (empty : Dict κ α).Sorted := List.Pairwise.nil

theorem sorted_erase {d : Dict κ α} (h : d.Sorted) (k : κ) : (d.erase k).Sorted :=
  List.Pairwise.filter _ h

theorem sorted_modify {d : Dict κ α} (h : d.Sorted) (k : κ) (f : α → α) :
    (d.modify k f).Sorted := by
  refine List.pairwise_map.mpr (h.imp ?_)
  intro a b hab
  split <;> split <;> exact hab

theorem mem_place {k : κ} {v : α} {e : κ × α} {l : List (κ × α)} (h : e ∈ place k v l) :
    e = (k, v) ∨ e ∈ l := by
  induction l with
  | nil => simpa [place] using h
  | cons e' rest ih =>
    obtain ⟨k', v'⟩ := e'
    unfold place at h
    split at h
    · simpa using h
    · rcases List.mem_cons.mp h with h | h
      · exact Or.inl h
      · exact Or.inr (List.mem_cons_of_mem _ h)
    · rcases List.mem_cons.mp h with h | h
      · exact Or.inr (h ▸ List.mem_cons_self)
      · rcases ih h with h | h
        · exact Or.inl h
        · exact Or.inr (List.mem_cons_of_mem _ h)

/-- A dictionary has no entries but those it is made of. -/
theorem mem_of_mem_ofList {l : List (κ × α)} {e : κ × α} (h : e ∈ (ofList l).entries) : e ∈ l := by
  suffices ∀ d : Dict κ α, e ∈ (l.foldl (fun d e => d.insert e.1 e.2) d).entries →
      e ∈ d.entries ∨ e ∈ l from (this empty h).resolve_left List.not_mem_nil
  clear h
  induction l with
  | nil => exact fun _ h => Or.inl h
  | cons first rest ih =>
    intro d h
    rcases ih _ h with h | h
    · rcases mem_place h with rfl | h
      · exact Or.inr List.mem_cons_self
      · exact Or.inl h
    · exact Or.inr (List.mem_cons_of_mem _ h)

theorem keys_modify (d : Dict κ α) (k : κ) (f : α → α) : (d.modify k f).keys = d.keys := by
  unfold keys modify
  rw [List.map_map]
  refine List.map_congr_left fun e _ => ?_
  simp only [Function.comp_apply]
  split <;> rfl

theorem lookup_eq_none_of_lt {k : κ} {l : List (κ × α)} (h : ∀ e ∈ l, compare k e.1 = .lt) :
    lookup k l = none := by
  induction l with
  | nil => rfl
  | cons e rest ih =>
    obtain ⟨k', v'⟩ := e
    have hk := h (k', v') List.mem_cons_self
    rw [lookup, if_neg (by rw [hk]; decide)]
    exact ih fun e he => h e (List.mem_cons_of_mem _ he)

theorem lookup_append (k : κ) (l₁ l₂ : List (κ × α)) :
    lookup k (l₁ ++ l₂) = (lookup k l₁).or (lookup k l₂) := by
  induction l₁ with
  | nil => rfl
  | cons e rest ih =>
    obtain ⟨k', v'⟩ := e
    rw [List.cons_append, lookup, lookup]
    split
    · rfl
    · exact ih

/-! ## Images of the values -/

section Images

variable {β : Type} {f : α → β}

omit [Ord κ] in
theorem keys_mapValues (d : Dict κ α) : (d.mapValues f).keys = d.keys := by
  unfold keys mapValues
  rw [List.map_map]
  rfl

theorem get?_mapValues (d : Dict κ α) (k : κ) : (d.mapValues f).get? k = (d.get? k).map f := by
  unfold get? mapValues
  induction d.entries with
  | nil => rfl
  | cons e rest ih =>
    obtain ⟨k', v⟩ := e
    rw [List.map_cons, lookup, lookup]
    split
    · rfl
    · exact ih

theorem contains_mapValues (d : Dict κ α) (k : κ) :
    (d.mapValues f).contains k = d.contains k := by
  rw [contains, contains, get?_mapValues, Option.isSome_map]

theorem sorted_mapValues {d : Dict κ α} (h : d.Sorted) : (d.mapValues f).Sorted :=
  List.pairwise_map.mpr h

theorem place_map (k : κ) (v : α) (l : List (κ × α)) :
    place k (f v) (l.map fun e => (e.1, f e.2)) = (place k v l).map fun e => (e.1, f e.2) := by
  induction l with
  | nil => rfl
  | cons e rest ih =>
    obtain ⟨k', v'⟩ := e
    cases hc : compare k k' with
    | lt => simp [place, hc]
    | eq => simp [place, hc]
    | gt => simp [place, hc, ih]

/-- An insertion commutes with a change of all values. -/
theorem mapValues_insert (d : Dict κ α) (k : κ) (v : α) :
    (d.insert k v).mapValues f = (d.mapValues f).insert k (f v) :=
  congrArg mk (place_map k v d.entries).symm

/-- A change of one value commutes with a change of all, if the changes correspond. -/
theorem mapValues_modify {g : α → α} {g' : β → β} (h : ∀ v, f (g v) = g' (f v)) (d : Dict κ α)
    (k : κ) : (d.modify k g).mapValues f = (d.mapValues f).modify k g' := by
  unfold modify mapValues
  rw [List.map_map, List.map_map]
  refine congrArg mk (List.map_congr_left fun e _ => ?_)
  simp only [Function.comp_apply]
  split
  · rw [h]
  · rfl

/-- A dictionary can be made before or after a change of all values. -/
theorem mapValues_ofList (l : List (κ × α)) :
    (ofList l).mapValues f = ofList (l.map fun e => (e.1, f e.2)) := by
  suffices ∀ d : Dict κ α, (l.foldl (fun d e => d.insert e.1 e.2) d).mapValues f =
      (l.map fun e => (e.1, f e.2)).foldl (fun d e => d.insert e.1 e.2) (d.mapValues f) from
    this empty
  induction l with
  | nil => exact fun d => rfl
  | cons e rest ih =>
    intro d
    rw [List.foldl_cons, ih, mapValues_insert]
    rfl

end Images

/-! ## Look-ups after a change -/

section Lawful

variable [Std.LawfulEqOrd κ]

theorem lookup_cons_self (k : κ) (v : α) (rest : List (κ × α)) :
    lookup k ((k, v) :: rest) = some v := by
  simp [lookup]

theorem lookup_place_self (k : κ) (v : α) (l : List (κ × α)) : lookup k (place k v l) = some v := by
  induction l with
  | nil => simp [place, lookup]
  | cons e rest ih =>
    obtain ⟨k', v'⟩ := e
    unfold place
    split
    · simp [lookup]
    · simp [lookup]
    · next h => simp [lookup, h, ih]

theorem lookup_place_of_ne {k k' : κ} (hne : k' ≠ k) (v : α) (l : List (κ × α)) :
    lookup k' (place k v l) = lookup k' l := by
  induction l with
  | nil => simp [place, lookup, hne]
  | cons e rest ih =>
    obtain ⟨k₂, v₂⟩ := e
    unfold place
    split
    · simp [lookup, hne]
    · next h =>
      have : k = k₂ := Std.LawfulEqOrd.compare_eq_iff_eq.mp h
      subst this
      simp [lookup, hne]
    · simp [lookup, ih]

theorem get?_insert_self (d : Dict κ α) (k : κ) (v : α) : (d.insert k v).get? k = some v :=
  lookup_place_self k v d.entries

theorem get?_insert_of_ne (d : Dict κ α) {k k' : κ} (h : k' ≠ k) (v : α) :
    (d.insert k v).get? k' = d.get? k' :=
  lookup_place_of_ne h v d.entries

/-- **A look-up after an insertion finds the new value at its key and the old ones elsewhere.** -/
theorem get?_insert [DecidableEq κ] (d : Dict κ α) (k k' : κ) (v : α) :
    (d.insert k v).get? k' = if k' = k then some v else d.get? k' := by
  split
  · next h => rw [h, get?_insert_self]
  · next h => rw [get?_insert_of_ne d h]

/-- A modification concerns one key, and only if that is there. -/
theorem get?_modify [DecidableEq κ] (d : Dict κ α) (k k' : κ) (f : α → α) :
    (d.modify k f).get? k' = if k' = k then (d.get? k').map f else d.get? k' := by
  unfold get? modify
  induction d.entries with
  | nil => simp [lookup]
  | cons e rest ih =>
    obtain ⟨k₂, v₂⟩ := e
    simp only [List.map_cons]
    by_cases h₂ : k = k₂
    · subst h₂
      by_cases h : k' = k
      · simp [lookup, h]
      · simpa [lookup, h] using ih
    · by_cases h : k' = k₂
      · subst h
        simp [lookup, h₂, Ne.symm h₂]
      · simpa [lookup, h, h₂] using ih

theorem get?_erase [DecidableEq κ] (d : Dict κ α) (k k' : κ) :
    (d.erase k).get? k' = if k' = k then none else d.get? k' := by
  unfold get? erase
  induction d.entries with
  | nil => simp [lookup]
  | cons e rest ih =>
    obtain ⟨k₂, v₂⟩ := e
    by_cases h₂ : k = k₂
    · subst h₂
      by_cases h : k' = k
      · simpa [List.filter_cons, lookup, h] using ih
      · simpa [List.filter_cons, lookup, h] using ih
    · by_cases h : k' = k₂
      · subst h
        simp [lookup, h₂, Ne.symm h₂]
      · simpa [List.filter_cons, lookup, h, h₂] using ih

theorem mem_keys_iff {l : List (κ × α)} {k : κ} :
    k ∈ l.map (·.1) ↔ (lookup k l).isSome = true := by
  induction l with
  | nil => simp [lookup]
  | cons e rest ih =>
    obtain ⟨k', v'⟩ := e
    rw [List.map_cons, List.mem_cons, ih, lookup]
    by_cases h : compare k k' = .eq
    · rw [if_pos h]
      exact iff_of_true (Or.inl (Std.LawfulEqOrd.compare_eq_iff_eq.mp h)) rfl
    · rw [if_neg h]
      exact or_iff_right fun hc => h (Std.LawfulEqOrd.compare_eq_iff_eq.mpr hc)

/-- An insertion binds its key and leaves the others bound. -/
theorem mem_keys_insert [DecidableEq κ] {d : Dict κ α} {k k' : κ} {v : α} :
    k' ∈ (d.insert k v).keys ↔ k' = k ∨ k' ∈ d.keys := by
  unfold keys
  rw [mem_keys_iff, mem_keys_iff]
  show ((d.insert k v).get? k').isSome = true ↔ k' = k ∨ (d.get? k').isSome = true
  rw [get?_insert]
  by_cases h : k' = k <;> simp [h]

theorem get?_eq_none_iff {d : Dict κ α} {k : κ} :
    d.get? k = none ↔ ∀ e ∈ d.entries, compare k e.1 ≠ .eq := by
  rw [get?, ← Option.not_isSome_iff_eq_none, ← mem_keys_iff, List.mem_map]
  constructor
  · intro h e he heq
    exact h ⟨e, he, (Std.LawfulEqOrd.compare_eq_iff_eq.mp heq).symm⟩
  · rintro h ⟨e, he, rfl⟩
    exact h e he (Std.LawfulEqOrd.compare_eq_iff_eq.mpr rfl)

/-- There is nothing to remove where the key is not bound. -/
theorem erase_of_get?_eq_none {d : Dict κ α} {k : κ} (h : d.get? k = none) : d.erase k = d := by
  refine congrArg mk (List.filter_eq_self.mpr fun e he => ?_)
  simpa using get?_eq_none_iff.mp h e he

/-- There is nothing to modify where the key is not bound. -/
theorem modify_of_get?_eq_none {d : Dict κ α} {k : κ} (h : d.get? k = none) (f : α → α) :
    d.modify k f = d := by
  have hmap : (d.modify k f).entries = d.entries.map id :=
    List.map_congr_left fun e he => if_neg (get?_eq_none_iff.mp h e he)
  rw [List.map_id] at hmap
  exact congrArg mk hmap

/-- The last of two insertions at a key counts. -/
theorem place_place (k : κ) (v w : α) (l : List (κ × α)) :
    place k w (place k v l) = place k w l := by
  induction l with
  | nil => simp [place]
  | cons e rest ih =>
    obtain ⟨k', v'⟩ := e
    cases hc : compare k k' with
    | lt => simp [place, hc]
    | eq => simp [place, hc]
    | gt => simp [place, hc, ih]

/-- Of two insertions of one key the last counts. -/
theorem insert_insert (d : Dict κ α) (k : κ) (v w : α) :
    (d.insert k v).insert k w = d.insert k w :=
  congrArg mk (place_place k v w d.entries)

/-- **A new entry is modified by inserting the image of its value.** -/
theorem modify_insert_of_get?_eq_none {d : Dict κ α} {k : κ} (h : d.get? k = none) (v : α)
    (f : α → α) : (d.insert k v).modify k f = d.insert k (f v) := by
  obtain ⟨l⟩ := d
  refine congrArg mk ?_
  induction l with
  | nil => simp [place, insert]
  | cons e rest ih =>
    obtain ⟨k', v'⟩ := e
    have hne : compare k k' ≠ .eq := get?_eq_none_iff.mp h (k', v') List.mem_cons_self
    have hrest : (mk rest).get? k = none :=
      get?_eq_none_iff.mpr fun e he => get?_eq_none_iff.mp h e (List.mem_cons_of_mem _ he)
    cases hc : compare k k' with
    | eq => exact absurd hc hne
    | lt =>
      have hkeep := congrArg entries (modify_of_get?_eq_none hrest f)
      simpa [insert, place, modify, hc] using hkeep
    | gt => simpa [insert, place, hc] using ih hrest

/-- **Where keys do not repeat, a look-up finds the entry that is there.** -/
theorem lookup_eq_some_iff_mem {l : List (κ × α)} (h : (l.map (·.1)).Nodup) {k : κ} {v : α} :
    lookup k l = some v ↔ (k, v) ∈ l := by
  induction l with
  | nil => simp [lookup]
  | cons e rest ih =>
    obtain ⟨k', v'⟩ := e
    rw [List.map_cons, List.nodup_cons] at h
    rw [lookup, List.mem_cons, Prod.mk.injEq]
    by_cases hk : compare k k' = .eq
    · obtain rfl : k = k' := Std.LawfulEqOrd.compare_eq_iff_eq.mp hk
      rw [if_pos hk, Option.some.injEq]
      constructor
      · rintro rfl
        exact Or.inl ⟨rfl, rfl⟩
      · rintro (⟨_, rfl⟩ | hmem)
        · rfl
        · exact absurd (List.mem_map_of_mem hmem) h.1
    · rw [if_neg hk, ih h.2]
      exact (or_iff_right fun hc => hk (Std.LawfulEqOrd.compare_eq_iff_eq.mpr hc.1)).symm

/-- **A sorted dictionary has each key once.** -/
theorem nodup_keys {d : Dict κ α} (h : d.Sorted) : d.keys.Nodup := by
  refine List.pairwise_map.mpr (h.imp ?_)
  intro a b hab heq
  rw [Std.LawfulEqOrd.compare_eq_iff_eq.mpr heq] at hab
  cases hab

/-- The entries of a sorted dictionary bind in any order what the dictionary binds. -/
theorem lookup_of_perm {d : Dict κ α} (h : d.Sorted) {entries : List (κ × α)}
    (hp : entries.Perm d.entries) (k : κ) : lookup k entries = d.get? k := by
  have hkeys : (d.entries.map (·.1)).Nodup := nodup_keys h
  have hnodup : (entries.map (·.1)).Nodup := (hp.map (·.1)).nodup_iff.mpr hkeys
  ext v
  rw [lookup_eq_some_iff_mem hnodup, hp.mem_iff, ← lookup_eq_some_iff_mem hkeys]
  rfl

/-- A key that was not there is one entry more. -/
theorem perm_place {k : κ} {v : α} {l : List (κ × α)} (h : k ∉ l.map (·.1)) :
    (place k v l).Perm ((k, v) :: l) := by
  induction l with
  | nil => exact List.Perm.refl _
  | cons e rest ih =>
    obtain ⟨k', v'⟩ := e
    rw [List.map_cons, List.mem_cons, not_or] at h
    unfold place
    split
    · exact List.Perm.refl _
    · next heq => exact absurd (Std.LawfulEqOrd.compare_eq_iff_eq.mp heq) h.1
    · exact ((ih h.2).cons _).trans (List.Perm.swap _ _ _)

/-- **Where keys do not repeat, all entries are collected.** -/
theorem perm_ofList {entries : List (κ × α)} (h : (entries.map (·.1)).Nodup) :
    (ofList entries).entries.Perm entries := by
  suffices ∀ d : Dict κ α, ((entries ++ d.entries).map (·.1)).Nodup →
      (entries.foldl (fun d e => d.insert e.1 e.2) d).entries.Perm (entries ++ d.entries) by
    have hall := this empty (by rwa [empty, List.append_nil])
    rwa [empty, List.append_nil] at hall
  clear h
  induction entries with
  | nil => exact fun d _ => List.Perm.refl _
  | cons e rest ih =>
    intro d h
    rw [List.cons_append, List.map_cons, List.nodup_cons, List.map_append, List.mem_append,
      not_or] at h
    have hplace : (d.insert e.1 e.2).entries.Perm (e :: d.entries) := perm_place h.1.2
    have hmiddle : (rest ++ (d.insert e.1 e.2).entries).Perm (e :: (rest ++ d.entries)) :=
      (hplace.append_left rest).trans List.perm_middle
    refine (ih _ ?_).trans hmiddle
    rw [(hmiddle.map (·.1)).nodup_iff, List.map_cons, List.nodup_cons, List.map_append,
      List.mem_append, not_or]
    exact h

/-- Of the entries that are inserted, the last of a key counts, and all before what was there. -/
theorem get?_foldl_insert [DecidableEq κ] (entries : List (κ × α)) (d : Dict κ α) (k : κ) :
    (entries.foldl (fun d e => d.insert e.1 e.2) d).get? k =
      (lookup k entries.reverse).or (d.get? k) := by
  induction entries generalizing d with
  | nil => rfl
  | cons e rest ih =>
    rw [List.foldl_cons, ih, List.reverse_cons, lookup_append, Option.or_assoc, get?_insert]
    by_cases h : k = e.1 <;> simp [lookup, h]

end Lawful

/-! ## Order -/

section Transitive

variable [Std.TransOrd κ]

theorem compare_lt_of_gt {a b : κ} (h : compare a b = .gt) : compare b a = .lt :=
  Std.OrientedCmp.lt_of_gt h

/-- A key that is found is not below the first one. -/
theorem compare_ne_lt_of_lookup_eq_some {k : κ} {v : α} {first : κ × α} {rest : List (κ × α)}
    (hs : (first :: rest).Pairwise fun a b => compare a.1 b.1 = .lt)
    (h : lookup k (first :: rest) = some v) : compare k first.1 ≠ .lt := by
  intro hlt
  rw [lookup_eq_none_of_lt] at h
  · cases h
  · intro e he
    rcases List.mem_cons.mp he with rfl | he
    · exact hlt
    · exact Std.TransCmp.lt_trans hlt ((List.pairwise_cons.mp hs).1 e he)

end Transitive

variable [Std.TransOrd κ] [Std.LawfulEqOrd κ]

/-- Placing an entry keeps the order. -/
theorem pairwise_place (k : κ) (v : α) {l : List (κ × α)}
    (h : l.Pairwise fun a b => compare a.1 b.1 = .lt) :
    (place k v l).Pairwise fun a b => compare a.1 b.1 = .lt := by
  induction l with
  | nil => simp [place]
  | cons e rest ih =>
    obtain ⟨k', v'⟩ := e
    obtain ⟨hhead, htail⟩ := List.pairwise_cons.mp h
    unfold place
    split
    · next hlt =>
      refine List.pairwise_cons.mpr ⟨?_, h⟩
      intro e he
      rcases List.mem_cons.mp he with rfl | he
      · exact hlt
      · exact Std.TransCmp.lt_trans hlt (hhead e he)
    · next heq =>
      have : k = k' := Std.LawfulEqOrd.compare_eq_iff_eq.mp heq
      subst this
      exact List.pairwise_cons.mpr ⟨hhead, htail⟩
    · next hgt =>
      refine List.pairwise_cons.mpr ⟨?_, ih htail⟩
      intro e he
      rcases mem_place he with rfl | he
      · exact compare_lt_of_gt hgt
      · exact hhead e he

theorem sorted_insert {d : Dict κ α} (h : d.Sorted) (k : κ) (v : α) : (d.insert k v).Sorted :=
  pairwise_place k v h

/-- A dictionary made of a list is in order. -/
theorem sorted_ofList (l : List (κ × α)) : (ofList l).Sorted := by
  suffices ∀ d : Dict κ α, d.Sorted → (l.foldl (fun d e => d.insert e.1 e.2) d).Sorted from
    this empty sorted_empty
  induction l with
  | nil => exact fun _ h => h
  | cons e rest ih => exact fun d h => ih _ (sorted_insert h e.1 e.2)

/-! ## A sorted dictionary is its look-ups -/

/-- Sorted lists are equal if every key is found with the same value. -/
theorem eq_of_lookup_eq {l₁ l₂ : List (κ × α)}
    (h₁ : l₁.Pairwise fun a b => compare a.1 b.1 = .lt)
    (h₂ : l₂.Pairwise fun a b => compare a.1 b.1 = .lt)
    (h : ∀ k, lookup k l₁ = lookup k l₂) : l₁ = l₂ := by
  induction l₁ generalizing l₂ with
  | nil =>
    cases l₂ with
    | nil => rfl
    | cons e rest => have := h e.1; simp [lookup] at this
  | cons e₁ r₁ ih =>
    obtain ⟨k₁, v₁⟩ := e₁
    obtain ⟨hh₁, ht₁⟩ := List.pairwise_cons.mp h₁
    cases l₂ with
    | nil => have := h k₁; simp [lookup] at this
    | cons e₂ r₂ =>
      obtain ⟨k₂, v₂⟩ := e₂
      obtain ⟨hh₂, ht₂⟩ := List.pairwise_cons.mp h₂
      -- each of the first keys is found in the other list, so neither is below the other
      have hlt := compare_ne_lt_of_lookup_eq_some h₂ ((h k₁).symm.trans (lookup_cons_self k₁ v₁ r₁))
      have hgt := compare_ne_lt_of_lookup_eq_some h₁ ((h k₂).trans (lookup_cons_self k₂ v₂ r₂))
      have hcmp : compare k₁ k₂ = .eq := by
        cases hc : compare k₁ k₂ with
        | eq => rfl
        | lt => exact absurd hc hlt
        | gt => exact absurd (compare_lt_of_gt hc) hgt
      obtain rfl : k₁ = k₂ := Std.LawfulEqOrd.compare_eq_iff_eq.mp hcmp
      have hv := h k₁
      rw [lookup_cons_self, lookup_cons_self, Option.some.injEq] at hv
      subst hv
      congr 1
      refine ih ht₁ ht₂ fun k => ?_
      by_cases hk : k = k₁
      · subst hk
        rw [lookup_eq_none_of_lt fun e he => hh₁ e he, lookup_eq_none_of_lt fun e he => hh₂ e he]
      · simpa [lookup, hk] using h k

/-- **Sorted dictionaries with the same look-ups are equal.** -/
theorem ext_get? {d₁ d₂ : Dict κ α} (h₁ : d₁.Sorted) (h₂ : d₂.Sorted)
    (h : ∀ k, d₁.get? k = d₂.get? k) : d₁ = d₂ := by
  cases d₁
  cases d₂
  exact congrArg Dict.mk (eq_of_lookup_eq h₁ h₂ h)

/-- **An entry that is taken out and put back leaves the dictionary as it was.** -/
theorem insert_erase_of_get?_eq_some [DecidableEq κ] {d : Dict κ α} (h : d.Sorted) {k : κ} {v : α}
    (hget : d.get? k = some v) : (d.erase k).insert k v = d := by
  refine ext_get? (sorted_insert (sorted_erase h k) k v) h fun k' => ?_
  rw [get?_insert, get?_erase]
  by_cases hk : k' = k
  · simp [hk, hget]
  · simp [hk]

/-- **The entries of a dictionary, collected in any order, are the dictionary,** for no key is
there twice. -/
theorem ofList_of_perm [DecidableEq κ] {d : Dict κ α} (h : d.Sorted) {entries : List (κ × α)}
    (hp : entries.Perm d.entries) : ofList entries = d := by
  refine ext_get? (sorted_ofList entries) h fun k => ?_
  rw [ofList, get?_foldl_insert, get?_empty, Option.or_none]
  exact lookup_of_perm h ((List.reverse_perm entries).trans hp) k

end LexicalScope.Dict
