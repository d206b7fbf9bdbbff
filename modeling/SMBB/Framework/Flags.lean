import Mathlib.Tactic.Lemma
import Mathlib.Data.Nat.Notation

/-!
# Flags in a machine word

A flag is a bit of a word, written as the word that has only this bit.  A test of a flag is a
test of the bit, and clearing one leaves the other bits alone.
-/

namespace Flags

variable {w i j : ℕ} {v f : BitVec w}

/-- The flag if the condition holds, and no flag otherwise. -/
def flagIf (w : ℕ) (b : Bool) (i : ℕ) : BitVec w := if b then BitVec.twoPow w i else 0

lemma flagIf_and (b : Bool) (i : ℕ) (v : BitVec w) :
    flagIf w b i &&& v = flagIf w (b && v.getLsbD i) i := by
  cases b
  · simp [flagIf]
  · rw [flagIf, if_pos rfl, Bool.true_and, BitVec.twoPow_and]
    rfl

lemma twoPow_ne_zero (hi : i < w) : BitVec.twoPow w i ≠ 0 := by
  intro hzero
  have hbit := congrArg (fun v => v.getLsbD i) hzero
  simp [hi] at hbit

lemma and_twoPow_ne_zero_iff (hi : i < w) :
    v &&& BitVec.twoPow w i ≠ 0 ↔ v.getLsbD i = true := by
  rw [BitVec.and_twoPow]
  split
  · rename_i hbit
    exact iff_of_true (twoPow_ne_zero hi) hbit
  · rename_i hbit
    exact iff_of_false (fun h => h rfl) hbit

lemma getLsbD_clear (v : BitVec w) (i j : ℕ) :
    (v &&& ~~~BitVec.twoPow w i).getLsbD j = (v.getLsbD j && !decide (i = j)) := by
  by_cases hj : j < w
  · by_cases hij : i = j
    · simp [hij, hj]
    · simp [hij, hj, Ne.symm hij]
  · simp [BitVec.getLsbD_of_ge _ _ (Nat.le_of_not_lt hj)]

/-- Clearing a flag that is not set changes nothing. -/
lemma clear_eq_self (h : v &&& f = 0) : v &&& ~~~f = v := by
  calc v &&& ~~~f = (v &&& f) ||| (v &&& ~~~f) := by rw [h]; simp
    _ = v := by rw [← BitVec.and_or_distrib_left]; simp

/-- Setting a flag does not depend on whether it was set. -/
lemma clear_or (v f : BitVec w) : (v &&& ~~~f) ||| f = v ||| f := by
  refine BitVec.eq_of_getLsbD_eq fun i hi => ?_
  rw [BitVec.getLsbD_or, BitVec.getLsbD_and, BitVec.getLsbD_not, BitVec.getLsbD_or,
    decide_eq_true hi, Bool.true_and]
  cases v.getLsbD i <;> cases f.getLsbD i <;> rfl

/-! ## Masks

Some of the flags, and a shorter word that has room for them. -/

lemma setWidth_and_and {k : ℕ} (v mask : BitVec w) :
    ((v &&& mask) &&& mask).setWidth k = (v &&& mask).setWidth k := by
  rw [BitVec.and_assoc, BitVec.and_self]

/-- What a mask leaves of a word has no bit that the mask has not. -/
lemma getLsbD_and_of_mask {mask : BitVec w} (hmask : mask.getLsbD i = false) (v : BitVec w) :
    (v &&& mask).getLsbD i = false := by
  rw [BitVec.getLsbD_and, hmask, Bool.and_false]

/-- A shorter word that leaves its sign free has room for all flags, and widening gives them
back. -/
lemma signExtend_setWidth_and {k : ℕ} {mask : BitVec w}
    (hmask : ∀ i < w, k ≤ i + 1 → mask.getLsbD i = false) (v : BitVec w) :
    ((v &&& mask).setWidth k).signExtend w = v &&& mask := by
  have hbit : ∀ i, k ≤ i + 1 → (v &&& mask).getLsbD i = false := by
    intro i hi
    by_cases hiw : i < w
    · exact getLsbD_and_of_mask (hmask i hiw hi) v
    · exact BitVec.getLsbD_of_ge _ _ (Nat.le_of_not_lt hiw)
  have hmsb : ((v &&& mask).setWidth k).msb = false := by
    rw [BitVec.msb_eq_getLsbD_last, BitVec.getLsbD_setWidth, hbit (k - 1) (by omega),
      Bool.and_false]
  rw [BitVec.signExtend_eq_setWidth_of_msb_false hmsb]
  refine BitVec.eq_of_getLsbD_eq fun i hi => ?_
  rw [BitVec.getLsbD_setWidth, BitVec.getLsbD_setWidth, decide_eq_true hi, Bool.true_and]
  by_cases hik : i < k
  · rw [decide_eq_true hik, Bool.true_and]
  · rw [hbit i (by omega), Bool.and_false]

/-! ## A spare bit

A value that does not use a bit leaves it to a flag: `v ||| flagIf w b i` has both. -/

section Spare

variable (hv : v.getLsbD i = false) (b : Bool)

lemma spare_set (v : BitVec w) (b : Bool) (i : ℕ) :
    (v ||| flagIf w b i) ||| BitVec.twoPow w i = v ||| flagIf w true i := by
  cases b <;> simp [flagIf, BitVec.or_assoc]

include hv

lemma spare_value : (v ||| flagIf w b i) &&& ~~~BitVec.twoPow w i = v := by
  refine BitVec.eq_of_getLsbD_eq fun j hj => ?_
  rw [getLsbD_clear, BitVec.getLsbD_or]
  by_cases hij : i = j
  · subst hij
    rw [hv, decide_eq_true rfl, Bool.not_true, Bool.and_false]
  · rw [decide_eq_false hij, Bool.not_false, Bool.and_true]
    cases b <;> simp [flagIf, hij]

lemma spare_flag (hi : i < w) : (v ||| flagIf w b i).getLsbD i = b := by
  rw [BitVec.getLsbD_or, hv]
  cases b <;> simp [flagIf, hi]

end Spare

end Flags
