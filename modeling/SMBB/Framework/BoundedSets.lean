import Mathlib.Tactic.Lemma
import Mathlib.Tactic.TypeStar
import Mathlib.Data.Nat.Notation
import Mathlib.Data.List.Nodup

/-!
# Sets of bounded size

A `BoundedSet` is a list without repetitions of at most `N` elements.  An element that is not in
it is appended if there is room.

`insertEach` inserts an element into those sets of a family that are selected, one after the other,
up to the first selected one that is full.  It stops there without taking back what it did, so
that a family of which a set is full may be left half done: `insertEach_allOrNothing_iff` says
when it is not.
-/

/-- A list without repetitions of at most `N` elements. -/
@[ext]
structure BoundedSet (α : Type*) (N : ℕ) where
  elems : List α
  nodup : elems.Nodup
  length_le : elems.length ≤ N

namespace BoundedSet

variable {α : Type*} {N : ℕ}

instance : Membership α (BoundedSet α N) := ⟨fun s a => a ∈ s.elems⟩

/-- The set without elements. -/
def empty : BoundedSet α N := ⟨[], List.nodup_nil, Nat.zero_le N⟩

/-- There is no room. -/
def full (s : BoundedSet α N) : Bool := s.elems.length ≥ N

lemma nodup_append_of_not_mem {l : List α} {a : α} (hl : l.Nodup) (ha : a ∉ l) :
    (l ++ [a]).Nodup :=
  hl.append (List.nodup_singleton a) (List.disjoint_singleton.mpr ha)

lemma length_append_le {l : List α} {a : α} (hl : l.length < N) : (l ++ [a]).length ≤ N := by
  rw [List.length_append, List.length_singleton]
  exact hl

variable [DecidableEq α]

instance (a : α) (s : BoundedSet α N) : Decidable (a ∈ s) :=
  inferInstanceAs (Decidable (a ∈ s.elems))

/-- The element is appended if it is not there and there is room. -/
def insert (s : BoundedSet α N) (a : α) : BoundedSet α N :=
  if h : a ∉ s.elems ∧ s.elems.length < N then
    ⟨s.elems ++ [a], nodup_append_of_not_mem s.nodup h.1, length_append_le h.2⟩
  else s

/-- The element is taken out. -/
def erase (s : BoundedSet α N) (a : α) : BoundedSet α N :=
  ⟨s.elems.erase a, s.nodup.erase a, Nat.le_trans List.length_erase_le s.length_le⟩

/-- The elements that do not meet the condition are taken out. -/
def filter (s : BoundedSet α N) (p : α → Bool) : BoundedSet α N :=
  ⟨s.elems.filter p, s.nodup.filter p, Nat.le_trans (List.length_filter_le p _) s.length_le⟩

lemma insert_eq_self_iff {s : BoundedSet α N} {a : α} (hroom : s.full = false) :
    s.insert a = s ↔ a ∈ s := by
  have hlt : s.elems.length < N := Nat.lt_of_not_le (of_decide_eq_false hroom)
  by_cases ha : a ∈ s.elems
  · rw [insert, dif_neg fun h => h.1 ha]
    exact iff_of_true rfl ha
  · rw [insert, dif_pos ⟨ha, hlt⟩]
    refine iff_of_false (fun h => ?_) ha
    have hlength := congrArg (fun t => t.elems.length) h
    simp at hlength

/-! ## Families of sets -/

/-- The set with the element, if it is selected.  There is none if the set is full. -/
def insertIf (b : Bool) (a : α) (s : BoundedSet α N) : Option (BoundedSet α N) :=
  if b then if s.full then none else some (s.insert a) else some s

/-- Inserts the element into the selected sets in order, up to one that is full, and says whether
it came to the end. -/
def insertEach (a : α) : List (Bool × BoundedSet α N) → List (Bool × BoundedSet α N) × Bool
  | [] => ([], true)
  | (b, s) :: rest =>
    match insertIf b a s with
    | none => ((b, s) :: rest, false)
    | some s' => ((b, s') :: (insertEach a rest).1, (insertEach a rest).2)

lemma insertEach_cons_none {a : α} {b : Bool} {s : BoundedSet α N}
    {rest : List (Bool × BoundedSet α N)} (h : insertIf b a s = none) :
    insertEach a ((b, s) :: rest) = ((b, s) :: rest, false) := by
  rw [insertEach, h]

lemma insertEach_cons_some {a : α} {b : Bool} {s s' : BoundedSet α N}
    {rest : List (Bool × BoundedSet α N)} (h : insertIf b a s = some s') :
    insertEach a ((b, s) :: rest)
      = ((b, s') :: (insertEach a rest).1, (insertEach a rest).2) := by
  rw [insertEach, h]

lemma insertIf_false (a : α) (s : BoundedSet α N) : insertIf false a s = some s := rfl

lemma insertIf_full {a : α} {s : BoundedSet α N} (hfull : s.full = true) :
    insertIf true a s = none := by
  rw [insertIf, if_pos rfl, if_pos hfull]

lemma insertIf_room {a : α} {s : BoundedSet α N} (hroom : s.full = false) :
    insertIf true a s = some (s.insert a) := by
  rw [insertIf, if_pos rfl, if_neg (Bool.not_eq_true _ ▸ hroom)]

/-- The selected sets of a family. -/
def selected (family : List (Bool × BoundedSet α N)) : List (BoundedSet α N) :=
  (family.filter Prod.fst).map Prod.snd

omit [DecidableEq α] in
lemma selected_cons_false (s : BoundedSet α N) (rest : List (Bool × BoundedSet α N)) :
    selected ((false, s) :: rest) = selected rest :=
  rfl

omit [DecidableEq α] in
lemma selected_cons_true (s : BoundedSet α N) (rest : List (Bool × BoundedSet α N)) :
    selected ((true, s) :: rest) = s :: selected rest :=
  rfl

/-- The selected sets before the first full one. -/
def reached (family : List (Bool × BoundedSet α N)) : List (BoundedSet α N) :=
  (selected family).takeWhile fun s => !s.full

/-- The insertions come to the end exactly when no selected set is full. -/
lemma insertEach_snd_iff {a : α} {family : List (Bool × BoundedSet α N)} :
    (insertEach a family).2 = true ↔ ∀ s ∈ selected family, s.full = false := by
  induction family with
  | nil => simp [insertEach, selected]
  | cons p rest ih =>
    obtain ⟨_ | _, s⟩ := p
    · rw [insertEach_cons_some (insertIf_false a s), selected_cons_false]
      exact ih
    · rw [selected_cons_true, List.forall_mem_cons]
      cases hfull : s.full with
      | false =>
        rw [insertEach_cons_some (insertIf_room hfull), ih]
        exact (and_iff_right rfl).symm
      | true =>
        rw [insertEach_cons_none (insertIf_full hfull)]
        exact iff_of_false Bool.false_ne_true fun h => Bool.noConfusion h.1

/-- The insertions change nothing exactly when the sets that they reach have the element. -/
lemma insertEach_fst_iff {a : α} {family : List (Bool × BoundedSet α N)} :
    (insertEach a family).1 = family ↔ ∀ s ∈ reached family, a ∈ s := by
  induction family with
  | nil => simp [insertEach, reached, selected]
  | cons p rest ih =>
    obtain ⟨_ | _, s⟩ := p
    · rw [insertEach_cons_some (insertIf_false a s), reached, selected_cons_false,
        List.cons_inj_right, ih, reached]
    · rw [reached, selected_cons_true, List.takeWhile_cons]
      cases hfull : s.full with
      | false =>
        rw [insertEach_cons_some (insertIf_room hfull), Bool.not_false, if_pos rfl,
          List.forall_mem_cons, List.cons.injEq, Prod.mk.injEq, insert_eq_self_iff hfull, ih,
          reached, and_iff_right rfl]
      | true =>
        rw [insertEach_cons_none (insertIf_full hfull), Bool.not_true,
          if_neg Bool.false_ne_true]
        exact iff_of_true rfl fun t ht => absurd ht List.not_mem_nil

/-- **A family is left as it was whenever the insertions fail, and they do not fail for an element
that all selected sets have**, exactly when no selected set is full, or the sets before the full
one have the element and another selected one has not. -/
theorem insertEach_allOrNothing_iff {a : α} {family : List (Bool × BoundedSet α N)} :
    (((insertEach a family).2 = false → (insertEach a family).1 = family)
        ∧ ((∀ s ∈ selected family, a ∈ s) → (insertEach a family).2 = true))
      ↔ (∀ s ∈ selected family, s.full = false)
        ∨ ((∀ s ∈ reached family, a ∈ s) ∧ ∃ s ∈ selected family, a ∉ s) := by
  rw [← insertEach_snd_iff (a := a), ← insertEach_fst_iff]
  cases hend : (insertEach a family).2
  · simp
  · simp

end BoundedSet
