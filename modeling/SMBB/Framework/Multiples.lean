import Mathlib.Order.Bounds.Basic
import Mathlib.Tactic.Lemma
import Mathlib.Algebra.Order.Ring.Int

/-!
# Multiples of a number

The least multiple that is not below a number, through the quotient and the remainder that
integer division gives, and the greatest one that is not above.

For a power of two the latter is what a mask computes: `toInt_and_not_mask` says that clearing the
low bits of a word rounds its signed value down, for negative values too.
-/

namespace Multiples

variable {d n : ℕ}

/-- The quotient, rounded up. -/
def roundUp (d n : ℕ) : ℕ := n / d + if n % d ≠ 0 then 1 else 0

/-- **The quotient that is rounded up counts the least multiple that is not below.** -/
theorem isLeast_mul_roundUp (hd : 0 < d) (n : ℕ) :
    IsLeast {k | d ∣ k ∧ n ≤ k} (d * roundUp d n) := by
  have hdiv := Nat.div_add_mod n d
  have hmod := Nat.mod_lt n hd
  constructor
  · refine ⟨Nat.dvd_mul_right d _, ?_⟩
    rw [roundUp, Nat.mul_add]
    split <;> omega
  · rintro k ⟨⟨c, rfl⟩, hle⟩
    refine Nat.mul_le_mul_left d ?_
    rw [roundUp]
    split
    · -- `c` is not the quotient, as there is a remainder
      refine Nat.lt_of_not_le fun hc => ?_
      have hmul := Nat.mul_le_mul_left d hc
      omega
    · refine Nat.le_of_mul_le_mul_left ?_ hd
      rw [Nat.add_zero]
      omega

lemma roundUp_mul (hd : 0 < d) (c : ℕ) : roundUp d (d * c) = c := by
  rw [roundUp, Nat.mul_div_cancel_left c hd, Nat.mul_mod_right]
  rfl

lemma roundUp_mono (hd : 0 < d) {n n' : ℕ} (h : n ≤ n') : roundUp d n ≤ roundUp d n' := by
  refine Nat.le_of_mul_le_mul_left ?_ hd
  have hleast := isLeast_mul_roundUp hd n
  have hleast' := isLeast_mul_roundUp hd n'
  exact hleast.2 ⟨hleast'.1.1, h.trans hleast'.1.2⟩

/-- **The quotient that is rounded down counts the greatest multiple that is not above.** -/
theorem isGreatest_mul_div {d : ℤ} (hd : 0 < d) (n : ℤ) :
    IsGreatest {k | d ∣ k ∧ k ≤ n} (d * (n / d)) := by
  constructor
  · exact ⟨Int.dvd_mul_right d _, Int.mul_ediv_self_le hd.ne'⟩
  · rintro k ⟨⟨c, rfl⟩, hle⟩
    have hc : c ≤ n / d := by
      rw [Int.le_ediv_iff_mul_le hd, Int.mul_comm]
      exact hle
    exact Int.mul_le_mul_of_nonneg_left hc hd.le

/-! ## Masks -/

variable {w k : ℕ} {x m : BitVec w}

/-- The word is the sum of its low bits and of the others. -/
lemma toNat_and_not_mask (hm : m.toNat = 2 ^ k - 1) :
    (x &&& ~~~m).toNat = 2 ^ k * (x.toNat / 2 ^ k) := by
  have hdisjoint : (x &&& m) &&& (x &&& ~~~m) = 0 := by
    ext i hi
    simp [Bool.and_left_comm]
  have hjoin : (x &&& m) ||| (x &&& ~~~m) = x := by
    rw [← BitVec.and_or_distrib_left]
    simp
  have hsum : x.toNat = (x &&& m).toNat + (x &&& ~~~m).toNat := by
    rw [← BitVec.toNat_add_of_and_eq_zero hdisjoint, BitVec.add_eq_or_of_and_eq_zero _ _ hdisjoint,
      hjoin]
  have hlow : (x &&& m).toNat = x.toNat % 2 ^ k := by
    rw [BitVec.toNat_and, hm, Nat.and_two_pow_sub_one_eq_mod]
  have hdiv := Nat.div_add_mod x.toNat (2 ^ k)
  omega

/-- **Clearing the low bits of a word rounds its signed value down.** -/
theorem toInt_and_not_mask (hk : k < w) (hm : m.toNat = 2 ^ k - 1) :
    (x &&& ~~~m).toInt = 2 ^ k * (x.toInt / 2 ^ k) := by
  obtain ⟨c, hc⟩ : ∃ c, 2 ^ w = 2 ^ k * (2 * c) := by
    refine ⟨2 ^ (w - 1 - k), ?_⟩
    rw [← Nat.pow_succ', ← Nat.pow_add]
    congr 1
    omega
  have hpos : 0 < 2 ^ k := Nat.two_pow_pos k
  -- the sign is that of the bits that stay
  have hsign : 2 * (2 ^ k * (x.toNat / 2 ^ k)) < 2 ^ w ↔ 2 * x.toNat < 2 ^ w := by
    have hlt : x.toNat / 2 ^ k < c ↔ x.toNat < c * 2 ^ k := Nat.div_lt_iff_lt_mul hpos
    have hstays : 2 ^ k * (x.toNat / 2 ^ k) < 2 ^ k * c ↔ x.toNat / 2 ^ k < c :=
      Nat.mul_lt_mul_left hpos
    have hcomm := Nat.mul_comm c (2 ^ k)
    have hdouble := Nat.mul_left_comm (2 ^ k) 2 c
    omega
  rw [BitVec.toInt_eq_toNat_cond, BitVec.toInt_eq_toNat_cond, toNat_and_not_mask hm]
  simp only [hsign]
  split
  · push_cast
    rfl
  · have hquot : ((x.toNat : ℤ) - ((2 ^ w : ℕ) : ℤ)) / 2 ^ k = (x.toNat : ℤ) / 2 ^ k - 2 * c := by
      rw [hc]
      push_cast
      exact Int.sub_mul_ediv_left _ _ (Int.pow_pos (by decide)).ne'
    rw [hquot, Int.mul_sub, hc]
    push_cast
    rfl

end Multiples
