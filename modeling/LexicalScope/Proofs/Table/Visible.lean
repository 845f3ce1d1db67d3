import LexicalScope.Dict.Lemmas
import LexicalScope.Table.Basic
import Mathlib.Data.List.Forall2
import Mathlib.Data.List.Nodup

/-!
# Visible bindings

A frame has no order of its own: whoever lists its bindings may begin anywhere. The bindings that
can be seen are found by going through some listing of all frames, from the innermost outwards, with
a record of the names that have been met. Which listing it is makes no difference to what is found.

* `unseen` — what is left of a listing when every name counts only where it is met first
* `mem_unseen_iff`, `nodup_names_unseen` — that is one entry for each name
* `Table.Listing` — the bindings of all frames, frame by frame, each frame in any order
* `lookup_listing` — in a listing a name is met first at its nearest binding
* `visible_eq_unseen` — `visible` goes through the listing in which each frame is in order
-/

namespace LexicalScope

variable {V : Type}

/-! ## Meeting each name once -/

/-- The entries whose names have not been seen. A name that is met has been seen from then on. -/
def unseen (seen : List String) : List (String × V) → List (String × V)
  | [] => []
  | e :: rest => if e.1 ∈ seen then unseen seen rest else e :: unseen (e.1 :: seen) rest

/-- What is yet unseen does not depend on the order in which names were seen. -/
theorem unseen_congr {seen seen' : List String} (h : ∀ name, name ∈ seen ↔ name ∈ seen')
    (l : List (String × V)) : unseen seen l = unseen seen' l := by
  induction l generalizing seen seen' with
  | nil => rfl
  | cons e rest ih =>
    have hcons : ∀ name, name ∈ e.1 :: seen ↔ name ∈ e.1 :: seen' := by
      intro name
      rw [List.mem_cons, List.mem_cons, h]
    rw [unseen, unseen, ih h, ih hcons]
    by_cases hs : e.1 ∈ seen
    · rw [if_pos hs, if_pos ((h _).mp hs)]
    · rw [if_neg hs, if_neg fun hc => hs ((h _).mpr hc)]

/-- **A name that has not been seen is found with the value that it is met with first.** -/
theorem mem_unseen_iff {seen : List String} {l : List (String × V)} {name : String} {v : V} :
    (name, v) ∈ unseen seen l ↔ name ∉ seen ∧ Dict.lookup name l = some v := by
  induction l generalizing seen with
  | nil => simp [unseen, Dict.lookup]
  | cons e rest ih =>
    obtain ⟨other, w⟩ := e
    rw [unseen, Dict.lookup]
    by_cases hn : name = other
    · subst hn
      rw [if_pos (Std.LawfulEqOrd.compare_eq_iff_eq.mpr rfl), Option.some.injEq]
      by_cases hs : name ∈ seen
      · rw [if_pos hs, ih]
        exact ⟨fun h => absurd hs h.1, fun h => absurd hs h.1⟩
      · rw [if_neg hs, List.mem_cons, ih, Prod.mk.injEq]
        constructor
        · rintro (⟨_, rfl⟩ | ⟨hnot, _⟩)
          · exact ⟨hs, rfl⟩
          · exact absurd List.mem_cons_self hnot
        · rintro ⟨_, rfl⟩
          exact Or.inl ⟨rfl, rfl⟩
    · rw [if_neg fun hc => hn (Std.LawfulEqOrd.compare_eq_iff_eq.mp hc)]
      by_cases hs : other ∈ seen
      · rw [if_pos hs, ih]
      · rw [if_neg hs, List.mem_cons, ih]
        simp [hn]

/-- No name stands twice among the bindings that are yet unseen. -/
theorem nodup_names_unseen (seen : List String) (l : List (String × V)) :
    ((unseen seen l).map (·.1)).Nodup := by
  induction l generalizing seen with
  | nil => exact List.nodup_nil
  | cons e rest ih =>
    rw [unseen]
    by_cases hs : e.1 ∈ seen
    · rw [if_pos hs]
      exact ih seen
    · rw [if_neg hs, List.map_cons, List.nodup_cons]
      refine ⟨fun hmem => ?_, ih _⟩
      -- a name that is met again has been seen
      obtain ⟨⟨name, v⟩, hv, heq⟩ := List.mem_map.mp hmem
      have hnot := (mem_unseen_iff.mp hv).1
      exact hnot (heq ▸ List.mem_cons_self)

/-- A part without repetitions is found but for what had been seen before it. -/
theorem unseen_append {seen : List String} {l : List (String × V)} (h : (l.map (·.1)).Nodup)
    (rest : List (String × V)) :
    unseen seen (l ++ rest) =
      (l.filter fun e => !seen.contains e.1) ++ unseen (l.map (·.1) ++ seen) rest := by
  induction l generalizing seen with
  | nil => rfl
  | cons e l ih =>
    rw [List.map_cons, List.nodup_cons] at h
    rw [List.cons_append, unseen, List.map_cons, List.cons_append]
    by_cases hs : e.1 ∈ seen
    · have hseen : ∀ name, name ∈ l.map (·.1) ++ seen ↔ name ∈ e.1 :: (l.map (·.1) ++ seen) := by
        intro name
        rw [List.mem_cons, or_iff_right_of_imp]
        rintro rfl
        exact List.mem_append_right _ hs
      rw [if_pos hs, ih h.2, unseen_congr hseen, List.filter_cons_of_neg (by simpa using hs)]
    · have hfilter : (l.filter fun e' => !(e.1 :: seen).contains e'.1) =
          l.filter fun e' => !seen.contains e'.1 := by
        refine List.filter_congr fun e' he' => ?_
        have hne : e'.1 ≠ e.1 := fun hc => h.1 (hc ▸ List.mem_map_of_mem he')
        simp [hne]
      have hseen : ∀ name,
          name ∈ l.map (·.1) ++ e.1 :: seen ↔ name ∈ e.1 :: (l.map (·.1) ++ seen) := by
        intro name
        rw [List.mem_append, List.mem_cons, List.mem_cons, List.mem_append, or_left_comm]
      rw [if_neg hs, ih h.2, hfilter, unseen_congr hseen,
        List.filter_cons_of_pos (by simpa using hs), List.cons_append]

namespace Table

/-! ## Listings -/

/-- The bindings of each frame in some order, the innermost frame first. -/
def Listing (t : Table V) (orders : List (List (String × V))) : Prop :=
  List.Forall₂ (fun order frame => order.Perm frame.entries) orders t.frames

theorem listing_entries (t : Table V) : t.Listing (t.frames.map (·.entries)) := by
  unfold Listing
  induction t.frames with
  | nil => exact .nil
  | cons frame rest ih => exact .cons (List.Perm.refl _) ih

/-- **In a listing a name is met first at its nearest binding.** -/
theorem lookup_listing {t : Table V} (ht : ∀ frame ∈ t.frames, frame.Sorted)
    {orders : List (List (String × V))} (h : t.Listing orders) (name : String) :
    Dict.lookup name orders.flatten = t.get? name := by
  unfold Listing at h
  unfold get?
  -- from here on nothing but the list of frames counts
  generalize t.frames = frames at h ht
  induction h with
  | nil => rfl
  | cons hp _ ih =>
    obtain ⟨hhead, hrest⟩ := List.forall_mem_cons.mp ht
    rw [List.flatten_cons, Dict.lookup_append, Dict.lookup_of_perm hhead hp, ih hrest,
      List.findSome?_cons]
    cases Dict.get? _ name <;> rfl

/-- The visible bindings are those not seen further inside, whatever the order in a frame. -/
theorem visibleIn_eq_unseen {frames : List (Frame V)} (h : ∀ frame ∈ frames, frame.Sorted)
    (seen : List String) :
    visibleIn seen frames = unseen seen (frames.map (·.entries)).flatten := by
  induction frames generalizing seen with
  | nil => rfl
  | cons frame rest ih =>
    obtain ⟨hhead, hrest⟩ := List.forall_mem_cons.mp h
    rw [visibleIn, List.map_cons, List.flatten_cons, unseen_append (Dict.nodup_keys hhead),
      ih hrest]
    rfl

/-- **`visible` goes through the listing that has each frame in order.** -/
theorem visible_eq_unseen {t : Table V} (ht : ∀ frame ∈ t.frames, frame.Sorted) :
    t.visible = unseen [] (t.frames.map (·.entries)).flatten :=
  visibleIn_eq_unseen ht []

/-- **What can be seen is what a look-up finds,** whatever listing it is told from. -/
theorem mem_unseen_listing_iff {t : Table V} (ht : ∀ frame ∈ t.frames, frame.Sorted)
    {orders : List (List (String × V))} (h : t.Listing orders) {name : String} {v : V} :
    (name, v) ∈ unseen [] orders.flatten ↔ t.get? name = some v := by
  rw [mem_unseen_iff, lookup_listing ht h]
  exact and_iff_right List.not_mem_nil

/-- Any two listings show the same bindings. -/
theorem perm_unseen_listing {t : Table V} (ht : ∀ frame ∈ t.frames, frame.Sorted)
    {orders : List (List (String × V))} (h : t.Listing orders) :
    (unseen [] orders.flatten).Perm t.visible := by
  rw [visible_eq_unseen ht]
  have hnodup : ∀ l : List (String × V), (unseen [] l).Nodup := fun l =>
    List.Nodup.of_map _ (nodup_names_unseen [] l)
  refine (List.perm_ext_iff_of_nodup (hnodup _) (hnodup _)).mpr fun e => ?_
  obtain ⟨name, v⟩ := e
  rw [mem_unseen_listing_iff ht h, mem_unseen_listing_iff ht (listing_entries t)]

end Table

end LexicalScope
