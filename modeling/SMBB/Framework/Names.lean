import SMBB.Framework.PartialMaps
import Mathlib.Tactic.Lemma
import Mathlib.Data.Nat.Notation
import Mathlib.Logic.Function.Basic

/-!
# Names that are created and removed

A `Names` says which names exist and which entity each of them refers to.  Entities are numbered
in the order of their creation, so "it existed already" and "it was created since" are
comparisons with the next number, and an entity created under the name of a removed one is a
different entity.
-/

/-- The existing names over keys `κ`, and the number of the next entity. -/
structure Names (κ : Type*) where
  entity : κ → Option ℕ
  next : ℕ
  entity_lt : ∀ {k id}, entity k = some id → id < next

namespace Names

variable {κ : Type*} [DecidableEq κ]

/-- Nothing exists. -/
def empty : Names κ := ⟨fun _ => none, 0, fun h => nomatch h⟩

/-- A new entity under the name `k`. -/
def create (n : Names κ) (k : κ) : Names κ where
  entity := Function.update n.entity k (some n.next)
  next := n.next + 1
  entity_lt {k' id} h := by
    rw [Function.update_apply] at h
    split at h
    · obtain rfl := Option.some.inj h
      exact Nat.lt_succ_self _
    · exact Nat.lt_succ_of_lt (n.entity_lt h)

/-- The name `k` is taken away. -/
def remove (n : Names κ) (k : κ) : Names κ where
  entity := Function.update n.entity k none
  next := n.next
  entity_lt {k' id} h := by
    rw [Function.update_apply] at h
    split at h
    · exact Option.absurd_none h
    · exact n.entity_lt h

variable {n : Names κ} {k k' : κ} {b id : ℕ}

@[simp] lemma create_next : (n.create k).next = n.next + 1 := rfl
@[simp] lemma remove_next : (n.remove k).next = n.next := rfl

@[simp] lemma create_entity_self : (n.create k).entity k = some n.next :=
  Function.update_self k _ n.entity

@[simp] lemma remove_entity_self : (n.remove k).entity k = none :=
  Function.update_self k _ n.entity

lemma create_entity_of_ne (h : k' ≠ k) : (n.create k).entity k' = n.entity k' :=
  Function.update_of_ne h _ n.entity

lemma remove_entity_of_ne (h : k' ≠ k) : (n.remove k).entity k' = n.entity k' :=
  Function.update_of_ne h _ n.entity

/-- Whatever `k` refers to was created after `b` entities had been. -/
def NewSince (n : Names κ) (b : ℕ) (k : κ) : Prop := ∀ id, n.entity k = some id → b ≤ id

/-- `k` did not exist in `n`, and in `n'` it is an entity that was created since. -/
def CreatedNew (n n' : Names κ) (k : κ) : Prop :=
  n.entity k = none ∧ ∃ id, n'.entity k = some id ∧ n.next ≤ id

omit [DecidableEq κ] in
/-- What is as it was has not been created. -/
lemma not_createdNew_of_kept {n' : Names κ} (h : n'.entity k = n.entity k) :
    ¬n.CreatedNew n' k := by
  rintro ⟨habsent, id, hid, -⟩
  rw [h, habsent] at hid
  exact Option.absurd_none hid

/-- `n'` can come out of `n` by creating and removing: no number is given twice, so what was new
stays new. -/
structure Evolves (n n' : Names κ) : Prop where
  next_le : n.next ≤ n'.next
  newSince : ∀ {b k}, b ≤ n.next → n.NewSince b k → n'.NewSince b k

omit [DecidableEq κ] in
lemma Evolves.refl (n : Names κ) : n.Evolves n := ⟨Nat.le_refl _, fun _ h => h⟩

omit [DecidableEq κ] in
lemma Evolves.trans {n n' n'' : Names κ} (h : n.Evolves n') (h' : n'.Evolves n'') :
    n.Evolves n'' where
  next_le := Nat.le_trans h.next_le h'.next_le
  newSince hb hk := h'.newSince (Nat.le_trans hb h.next_le) (h.newSince hb hk)

lemma evolves_create (n : Names κ) (k : κ) : n.Evolves (n.create k) where
  next_le := Nat.le_succ _
  newSince {b k'} hb h id hid := by
    by_cases hk : k' = k
    · rw [hk, create_entity_self] at hid
      exact Option.some.inj hid ▸ hb
    · exact h id ((create_entity_of_ne hk).symm.trans hid)

lemma evolves_remove (n : Names κ) (k : κ) : n.Evolves (n.remove k) where
  next_le := Nat.le_refl _
  newSince {b k'} hb h id hid := by
    by_cases hk : k' = k
    · rw [hk, remove_entity_self] at hid
      exact Option.absurd_none hid
    · exact h id ((remove_entity_of_ne hk).symm.trans hid)

end Names
