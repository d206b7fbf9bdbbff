import Mathlib.Tactic.Lemma
import Mathlib.Logic.Function.Basic
import Mathlib.Data.Nat.Notation

/-!
# Writes into a memory

A memory gives every address a value.  What a piece of code writes is a list of addresses with
values, in order, so that a write behind the end of a buffer is a write like any other.

`consecutive start xs` are the writes of a copy, and those of a pointer that is only ever written
through and advanced (`Pointer.Wrote`).  `cells` is a part of a memory as a vector, and
`cells_apply` says what writes that stay within it do there.
-/

namespace Writes

variable {α : Type*} {memory : ℕ → α} {start base size : ℕ}

/-- The writes of `xs` to the addresses from `start` on. -/
def consecutive (start : ℕ) : List α → List (ℕ × α)
  | [] => []
  | x :: xs => (start, x) :: consecutive (start + 1) xs

/-- The memory after the writes. -/
def apply (memory : ℕ → α) (writes : List (ℕ × α)) : ℕ → α :=
  writes.foldl (fun memory w => Function.update memory w.1 w.2) memory

/-- All addresses are among the `size` ones from `base` on. -/
def Within (base size : ℕ) (writes : List (ℕ × α)) : Prop :=
  ∀ w ∈ writes, base ≤ w.1 ∧ w.1 < base + size

lemma consecutive_append (start : ℕ) (xs ys : List α) :
    consecutive start (xs ++ ys)
      = consecutive start xs ++ consecutive (start + xs.length) ys := by
  induction xs generalizing start with
  | nil => rfl
  | cons x xs ih =>
    rw [List.cons_append, consecutive, ih, List.length_cons, Nat.add_right_comm, Nat.add_assoc]
    rfl

lemma apply_append (writes writes' : List (ℕ × α)) :
    apply memory (writes ++ writes') = apply (apply memory writes) writes' :=
  List.foldl_append

/-- Writes leave everything outside of their range alone. -/
lemma apply_outside {writes : List (ℕ × α)} (h : Within base size writes) {a : ℕ}
    (ha : a < base ∨ base + size ≤ a) : apply memory writes a = memory a := by
  induction writes generalizing memory with
  | nil => rfl
  | cons w writes ih =>
    obtain ⟨hw, hwrites⟩ := List.forall_mem_cons.mp h
    have hne : a ≠ w.1 := by omega
    calc apply memory (w :: writes) a = Function.update memory w.1 w.2 a := ih hwrites
      _ = memory a := Function.update_of_ne hne _ _

/-! ## Copies -/

lemma within_consecutive {xs : List α} (h : xs.length ≤ size) :
    Within base size (consecutive base xs) := by
  suffices hshift : ∀ k, k + xs.length ≤ size → Within base size (consecutive (base + k) xs) from
    hshift 0 (by omega)
  clear h
  induction xs with
  | nil => exact fun _ _ => List.forall_mem_nil _
  | cons x xs ih =>
    intro k hk
    rw [List.length_cons] at hk
    refine List.forall_mem_cons.mpr ⟨⟨?_, ?_⟩, ?_⟩
    · exact Nat.le_add_right base k
    · show base + k < base + size
      omega
    · rw [Nat.add_assoc]
      exact ih (k + 1) (by omega)

/-- A cell after a copy. -/
lemma apply_consecutive (memory : ℕ → α) (start : ℕ) (xs : List α) (a : ℕ) :
    apply memory (consecutive start xs) a
      = if start ≤ a then (xs[a - start]?).getD (memory a) else memory a := by
  induction xs generalizing memory start with
  | nil => simp [consecutive, apply]
  | cons x xs ih =>
    have hstep : apply memory (consecutive start (x :: xs)) a
        = apply (Function.update memory start x) (consecutive (start + 1) xs) a := rfl
    rw [hstep, ih]
    rcases Nat.lt_trichotomy a start with hlt | rfl | hlt
    · rw [if_neg (by omega), if_neg (by omega), Function.update_of_ne (Nat.ne_of_lt hlt)]
    · rw [if_neg (by omega), if_pos (Nat.le_refl a), Function.update_self, Nat.sub_self]
      rfl
    · obtain ⟨k, rfl⟩ : ∃ k, a = start + 1 + k := ⟨a - (start + 1), by omega⟩
      have hsub : start + 1 + k - start = k + 1 := by omega
      rw [if_pos (by omega), if_pos (by omega), Function.update_of_ne (Nat.ne_of_gt hlt), hsub,
        Nat.add_sub_cancel_left, List.getElem?_cons_succ]

/-- The `size` cells from `base` on. -/
def cells (memory : ℕ → α) (base size : ℕ) : Vector α size :=
  Vector.ofFn fun i => memory (base + i)

lemma get_cells (memory : ℕ → α) (base : ℕ) (i : Fin size) :
    (cells memory base size).get i = memory (base + i) :=
  Vector.getElem_ofFn i.isLt

/-- The cells after a copy to their start. -/
lemma cells_apply_consecutive (memory : ℕ → α) (base size : ℕ) (xs : List α) :
    cells (apply memory (consecutive base xs)) base size
      = Vector.ofFn fun i : Fin size => (xs[i.val]?).getD ((cells memory base size).get i) := by
  apply Vector.ext
  intro i hi
  rw [Vector.getElem_ofFn, get_cells, cells, Vector.getElem_ofFn, apply_consecutive,
    if_pos (Nat.le_add_right base i), Nat.add_sub_cancel_left]

/-! ## Pointers -/

/-- A pointer, with the writes that were made through it. -/
structure Pointer (α : Type*) where
  address : ℕ
  writes : List (ℕ × α)

namespace Pointer

/-- A pointer to `start`, not used yet. -/
def fresh (start : ℕ) : Pointer α := ⟨start, []⟩

/-- `*p = x`. -/
def store (p : Pointer α) (x : α) : Pointer α := { p with writes := p.writes ++ [(p.address, x)] }

/-- `*p++ = x`. -/
def put (p : Pointer α) (x : α) : Pointer α := { p.store x with address := p.address + 1 }

/-- Everything that was written is `xs`, from `start` up to the pointer. -/
structure Wrote (start : ℕ) (xs : List α) (p : Pointer α) : Prop where
  address : p.address = start + xs.length
  writes : p.writes = consecutive start xs

variable {p : Pointer α} {xs : List α}

lemma wrote_fresh (start : ℕ) : (fresh start : Pointer α).Wrote start [] := ⟨rfl, rfl⟩

lemma Wrote.writes_store (h : p.Wrote start xs) (x : α) :
    (p.store x).writes = consecutive start (xs ++ [x]) := by
  rw [consecutive_append, store, h.writes, h.address]
  rfl

lemma Wrote.put (h : p.Wrote start xs) (x : α) : (p.put x).Wrote start (xs ++ [x]) where
  address := by
    rw [Pointer.put, List.length_append, List.length_singleton, h.address, Nat.add_assoc]
  writes := h.writes_store x

/-- A conditional write. -/
lemma Wrote.putIf (h : p.Wrote start xs) (c : Prop) [Decidable c] (x : α) :
    (if c then p.put x else p).Wrote start (xs ++ if c then [x] else []) := by
  split
  · exact h.put x
  · rwa [List.append_nil]

end Pointer

end Writes
