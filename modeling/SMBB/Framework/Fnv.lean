import Mathlib.Data.BitVec
import Mathlib.Data.Nat.ModEq
import Mathlib.Data.Nat.Prime.Basic
import Mathlib.Tactic.ByContra
import Mathlib.Tactic.Lemma
import Mathlib.Tactic.Ring

/-!
# Folds of exclusive or and multiplication

A hash of the FNV-1a kind starts from an offset and takes in one byte after the other: exclusive
or with the byte, then multiplication by an odd number, modulo a power of two.  `fold` is that
computation on numbers.

On machine words the byte has to be widened first, and it can be widened with its sign or without.
Without, the words compute `fold` (`toNat_foldl_absorbUnsigned`).  With it, a byte of 128 or more
also flips everything above the low byte.  The two ways share their low byte at all times and part
in the bit above it at each such byte, so an odd number of them always shows
(`foldl_absorbSigned_ne`).

Multiplication by an odd number loses nothing, so words that differ stay different while the same
bytes are taken in (`foldl_absorb_inj`).  Two bytes that are taken in last can be told from any
other two if the product of a byte fits into the word (`absorbUnsigned_absorbUnsigned_inj`).
-/

namespace Fnv

/-- The fold over bytes that are numbers, modulo `2 ^ w`. -/
def fold (w m offset : ℕ) (bytes : List ℕ) : ℕ :=
  bytes.foldl (fun h b => (h ^^^ b) * m % 2 ^ w) (offset % 2 ^ w)

variable {n m : ℕ}

/-! ## Words as what is above the low byte, and the low byte -/

lemma toNat_append_byte (hi : BitVec n) (lo : BitVec 8) :
    (hi ++ lo).toNat = 256 * hi.toNat + lo.toNat := by
  rw [BitVec.toNat_append, ← Nat.shiftLeft_add_eq_or_of_lt lo.isLt, Nat.shiftLeft_eq, Nat.mul_comm]

lemma append_byte_inj {hi hi' : BitVec n} {lo lo' : BitVec 8} :
    hi ++ lo = hi' ++ lo' ↔ hi = hi' ∧ lo = lo' := by
  rw [← BitVec.toNat_inj, toNat_append_byte, toNat_append_byte, ← BitVec.toNat_inj,
    ← BitVec.toNat_inj]
  have hlo := lo.isLt
  have hlo' := lo'.isLt
  omega

lemma exists_append_byte (x : BitVec (n + 8)) :
    ∃ (hi : BitVec n) (lo : BitVec 8), x = hi ++ lo :=
  ⟨x.extractLsb' 8 n, x.extractLsb' 0 8, BitVec.extractLsb'_append_extractLsb'.symm⟩

lemma ofNat_append_byte (c : ℕ) :
    BitVec.ofNat (n + 8) c = BitVec.ofNat n (c / 256) ++ BitVec.ofNat 8 c := by
  apply BitVec.eq_of_toNat_eq
  rw [toNat_append_byte, BitVec.toNat_ofNat, BitVec.toNat_ofNat, BitVec.toNat_ofNat, Nat.pow_add,
    Nat.mul_comm, Nat.mod_mul, Nat.add_comm]

lemma setWidth_byte (b : BitVec 8) : b.setWidth (n + 8) = 0#n ++ b := by
  apply BitVec.eq_of_toNat_eq
  rw [toNat_append_byte, BitVec.toNat_setWidth_of_le (Nat.le_add_left 8 n), BitVec.toNat_zero,
    Nat.mul_zero, Nat.zero_add]

lemma signExtend_byte (b : BitVec 8) :
    b.signExtend (n + 8) = (if b.msb then BitVec.allOnes n else 0#n) ++ b := by
  rw [BitVec.signExtend_eq_append_of_le (Nat.le_add_left 8 n)]
  ext i hi
  simp only [BitVec.getElem_cast, BitVec.getElem_append]
  by_cases h : i < 8
  · simp [h]
  · cases b.msb <;> simp [h]

/-- What the low byte carries over into the others. -/
def carry (m : ℕ) (lo : BitVec 8) : ℕ := lo.toNat * m / 256

lemma append_mul (hi : BitVec n) (lo : BitVec 8) (m : ℕ) :
    (hi ++ lo) * BitVec.ofNat (n + 8) m
      = (hi * BitVec.ofNat n m + BitVec.ofNat n (carry m lo)) ++ (lo * BitVec.ofNat 8 m) := by
  apply BitVec.eq_of_toNat_eq
  rw [toNat_append_byte, BitVec.toNat_mul, toNat_append_byte, BitVec.toNat_add, BitVec.toNat_mul,
    BitVec.toNat_mul]
  simp only [BitVec.toNat_ofNat, carry]
  have hlow : lo.toNat * (m % 2 ^ 8) % 2 ^ 8 = lo.toNat * m % 256 := by simp [Nat.mul_mod]
  have hhigh : (hi.toNat * (m % 2 ^ n) % 2 ^ n + lo.toNat * m / 256 % 2 ^ n) % 2 ^ n
      = (hi.toNat * m + lo.toNat * m / 256) % 2 ^ n := by
    simp [Nat.add_mod, Nat.mul_mod]
  have hsplit : (256 * hi.toNat + lo.toNat) * m
      = 256 * (hi.toNat * m + lo.toNat * m / 256) + lo.toNat * m % 256 := by
    have hdiv := Nat.div_add_mod (lo.toNat * m) 256
    rw [Nat.add_mul, Nat.mul_add, Nat.mul_assoc, Nat.add_assoc, hdiv]
  have hpow : 2 ^ (n + 8) = 256 * 2 ^ n := by rw [Nat.pow_add, Nat.mul_comm]
  have hlt : lo.toNat * m % 256 < 256 := Nat.mod_lt _ (by decide)
  rw [hlow, hhigh, Nat.mul_mod_mod, hpow, hsplit, Nat.mod_mul, Nat.mul_add_mod,
    Nat.mod_eq_of_lt hlt, Nat.mul_add_div (by decide), Nat.div_eq_of_lt hlt, Nat.add_zero,
    Nat.add_comm]

/-! ## One step -/

section Absorb

variable {w : ℕ}

/-- Exclusive or with a word, then multiplication. -/
def absorb (m : ℕ) (h x : BitVec w) : BitVec w := (h ^^^ x) * BitVec.ofNat w m

/-- Takes in a byte that is widened without a sign. -/
def absorbUnsigned (m : ℕ) (h : BitVec w) (b : BitVec 8) : BitVec w := absorb m h (b.setWidth w)

/-- Takes in a byte that is widened with its sign. -/
def absorbSigned (m : ℕ) (h : BitVec w) (b : BitVec 8) : BitVec w := absorb m h (b.signExtend w)

lemma mul_ofNat_injective (hm : Odd m) :
    Function.Injective fun h : BitVec w => h * BitVec.ofNat w m := by
  intro h h' heq
  have hcoprime : Nat.gcd (2 ^ w) m = 1 :=
    Nat.Coprime.pow_left w (Nat.coprime_two_left.mpr hm)
  have hmod : h.toNat * m ≡ h'.toNat * m [MOD 2 ^ w] := by
    have hnat := congrArg BitVec.toNat heq
    simpa [Nat.ModEq] using hnat
  have hcancel := Nat.ModEq.cancel_right_of_coprime hcoprime hmod
  rw [Nat.ModEq, Nat.mod_eq_of_lt h.isLt, Nat.mod_eq_of_lt h'.isLt] at hcancel
  exact BitVec.eq_of_toNat_eq hcancel

lemma absorb_left_inj (hm : Odd m) {h h' x : BitVec w} :
    absorb m h x = absorb m h' x ↔ h = h' :=
  (mul_ofNat_injective hm).eq_iff.trans (BitVec.xor_left_inj x)

lemma absorb_right_inj (hm : Odd m) {h x x' : BitVec w} :
    absorb m h x = absorb m h x' ↔ x = x' :=
  (mul_ofNat_injective hm).eq_iff.trans (BitVec.xor_right_inj h)

/-- Words that differ stay different while the same is taken in. -/
lemma foldl_absorb_inj {β : Type*} (hm : Odd m) (word : β → BitVec w) (bytes : List β)
    {h h' : BitVec w} :
    bytes.foldl (fun h b => absorb m h (word b)) h
        = bytes.foldl (fun h b => absorb m h (word b)) h'
      ↔ h = h' := by
  induction bytes generalizing h h' with
  | nil => exact Iff.rfl
  | cons b bytes ih => exact ih.trans (absorb_left_inj hm)

/-- Bytes that are widened without a sign are taken in as numbers. -/
lemma toNat_foldl_absorbUnsigned (hw : 8 ≤ w) (offset : ℕ) (bytes : List (BitVec 8)) :
    (bytes.foldl (absorbUnsigned m) (BitVec.ofNat w offset)).toNat
      = fold w m offset (bytes.map BitVec.toNat) := by
  have hstep (bytes : List (BitVec 8)) (h : BitVec w) :
      (bytes.foldl (absorbUnsigned m) h).toNat
        = (bytes.map BitVec.toNat).foldl (fun h b => (h ^^^ b) * m % 2 ^ w) h.toNat := by
    induction bytes generalizing h with
    | nil => rfl
    | cons b bytes ih =>
      rw [List.foldl_cons, ih, List.map_cons, List.foldl_cons, absorbUnsigned, absorb,
        BitVec.toNat_mul, BitVec.toNat_xor, BitVec.toNat_setWidth_of_le hw, BitVec.toNat_ofNat,
        Nat.mul_mod_mod]
  rw [hstep, BitVec.toNat_ofNat]
  rfl

end Absorb

lemma absorbUnsigned_append (hi : BitVec n) (lo b : BitVec 8) :
    absorbUnsigned m (hi ++ lo) b
      = (hi * BitVec.ofNat n m + BitVec.ofNat n (carry m (lo ^^^ b))) ++ absorb m lo b := by
  rw [absorbUnsigned, absorb, setWidth_byte, BitVec.xor_append, append_mul, BitVec.xor_zero]
  rfl

lemma absorbSigned_append (hi : BitVec n) (lo b : BitVec 8) :
    absorbSigned m (hi ++ lo) b
      = ((if b.msb then ~~~hi else hi) * BitVec.ofNat n m + BitVec.ofNat n (carry m (lo ^^^ b)))
          ++ absorb m lo b := by
  rw [absorbSigned, absorb, signExtend_byte, BitVec.xor_append, append_mul]
  cases b.msb
  · simp [absorb]
  · simp [absorb]

/-! ## Two bytes at the end -/

lemma carry_injective (hm : 256 ≤ m) : Function.Injective (carry m) := by
  have hstep (lo lo' : BitVec 8) (hlt : lo.toNat < lo'.toNat) : carry m lo < carry m lo' := by
    have hmul := Nat.mul_le_mul_right m (Nat.succ_le_of_lt hlt)
    rw [Nat.succ_mul] at hmul
    simp only [carry]
    omega
  intro lo lo' h
  apply BitVec.eq_of_toNat_eq
  by_contra hne
  rcases Nat.lt_or_gt_of_ne hne with hlt | hlt
  · exact absurd h (hstep lo lo' hlt).ne
  · exact absurd h (hstep lo' lo hlt).ne'

lemma carry_lt (hroom : 255 * m < 2 ^ (n + 8)) (lo : BitVec 8) : carry m lo < 2 ^ n := by
  have hlo := lo.isLt
  have hle : lo.toNat * m ≤ 255 * m := Nat.mul_le_mul_right m (by omega)
  rw [Nat.pow_add] at hroom
  rw [carry, Nat.div_lt_iff_lt_mul (by decide)]
  omega

/-- Two bytes that are taken in last can be told from any other two. -/
lemma absorbUnsigned_absorbUnsigned_inj (hodd : Odd m) (hm : 256 ≤ m)
    (hroom : 255 * m < 2 ^ (n + 8)) {h : BitVec (n + 8)} {p₀ p₁ q₀ q₁ : BitVec 8} :
    absorbUnsigned m (absorbUnsigned m h p₀) p₁ = absorbUnsigned m (absorbUnsigned m h q₀) q₁
      ↔ p₀ = q₀ ∧ p₁ = q₁ := by
  constructor
  · intro heq
    obtain ⟨hi, lo, rfl⟩ := exists_append_byte h
    -- above the low byte, the second byte leaves the words as the first one made them
    have hxor := mul_ofNat_injective hodd heq
    rw [absorbUnsigned_append, absorbUnsigned_append, setWidth_byte, setWidth_byte,
      BitVec.xor_append, BitVec.xor_append, append_byte_inj, BitVec.xor_zero, BitVec.xor_zero,
      BitVec.add_right_inj, ← BitVec.toNat_inj, BitVec.toNat_ofNat, BitVec.toNat_ofNat,
      Nat.mod_eq_of_lt (carry_lt hroom _), Nat.mod_eq_of_lt (carry_lt hroom _)] at hxor
    obtain rfl : p₀ = q₀ := (BitVec.xor_right_inj lo).mp (carry_injective hm hxor.1)
    exact ⟨rfl, (BitVec.xor_right_inj _).mp hxor.2⟩
  · rintro ⟨rfl, rfl⟩
    rfl

/-! ## Bytes with and without their signs -/

/-- A byte without a sign is widened in one way. -/
lemma foldl_absorbSigned_of_forall {w : ℕ} {bytes : List (BitVec 8)}
    (h : ∀ b ∈ bytes, b.msb = false) (word : BitVec w) :
    bytes.foldl (absorbSigned m) word = bytes.foldl (absorbUnsigned m) word := by
  induction bytes generalizing word with
  | nil => rfl
  | cons b bytes ih =>
    rw [List.forall_mem_cons] at h
    have hstep : absorbSigned m word b = absorbUnsigned m word b := by
      rw [absorbSigned, absorbUnsigned, BitVec.signExtend_eq_setWidth_of_msb_false h.1]
    rw [List.foldl_cons, List.foldl_cons, hstep, ih h.2]

/-- The words share their low byte, and the lowest bits above it differ as `k` is odd. -/
def Apart (k : ℕ) (x y : BitVec (n + 8)) : Prop :=
  ∃ (hi hi' : BitVec n) (lo : BitVec 8), x = hi ++ lo ∧ y = hi' ++ lo
    ∧ hi'.toNat % 2 = (hi.toNat + k) % 2

/-- Multiplication by an odd number keeps the lowest bit. -/
lemma toNat_mul_add_mod_two (hn : 0 < n) (hm : Odd m) (hi : BitVec n) (c : ℕ) :
    (hi * BitVec.ofNat n m + BitVec.ofNat n c).toNat % 2 = (hi.toNat + c) % 2 := by
  have htwo : 2 ∣ 2 ^ n := dvd_pow_self 2 hn.ne'
  have hodd : hi.toNat * m % 2 = hi.toNat % 2 := by
    rw [Nat.mul_mod, Nat.odd_iff.mp hm, Nat.mul_one, Nat.mod_mod]
  rw [BitVec.toNat_add, BitVec.toNat_mul, BitVec.toNat_ofNat, BitVec.toNat_ofNat,
    Nat.mod_mod_of_dvd _ htwo, Nat.mul_mod_mod, Nat.add_mod, Nat.mod_mod_of_dvd _ htwo,
    Nat.mod_mod_of_dvd _ htwo, hodd, ← Nat.add_mod]

lemma toNat_not_mod_two (hn : 0 < n) (hi : BitVec n) :
    (~~~hi).toNat % 2 = (hi.toNat + 1) % 2 := by
  obtain ⟨q, hq⟩ : 2 ∣ 2 ^ n := dvd_pow_self 2 hn.ne'
  have hlt := hi.isLt
  rw [BitVec.toNat_not]
  omega

/-- A byte with a sign flips the bit of the one word and not of the other. -/
lemma Apart.absorb (hn : 0 < n) (hm : Odd m) {k : ℕ} {x y : BitVec (n + 8)} (h : Apart k x y)
    (b : BitVec 8) :
    Apart (k + if b.msb then 1 else 0) (absorbUnsigned m x b) (absorbSigned m y b) := by
  obtain ⟨hi, hi', lo, rfl, rfl, hbit⟩ := h
  refine ⟨_, _, _, absorbUnsigned_append hi lo b, absorbSigned_append hi' lo b, ?_⟩
  rw [toNat_mul_add_mod_two hn hm, Nat.add_mod, Nat.add_mod _ (k + _),
    toNat_mul_add_mod_two hn hm]
  cases b.msb with
  | false =>
    rw [if_neg Bool.false_ne_true, if_neg Bool.false_ne_true]
    omega
  | true =>
    rw [if_pos rfl, if_pos rfl, toNat_not_mod_two hn]
    omega

lemma Apart.foldl (hn : 0 < n) (hm : Odd m) (bytes : List (BitVec 8)) {k : ℕ}
    {x y : BitVec (n + 8)} (h : Apart k x y) :
    Apart (k + bytes.countP BitVec.msb) (bytes.foldl (absorbUnsigned m) x)
      (bytes.foldl (absorbSigned m) y) := by
  induction bytes generalizing k x y with
  | nil => exact h
  | cons b bytes ih =>
    rw [List.countP_cons, Nat.add_comm (bytes.countP BitVec.msb), ← Nat.add_assoc]
    exact ih (h.absorb hn hm b)

/-- **An odd number of signs always shows** in the lowest bit above the low byte. -/
theorem foldl_absorbSigned_ne (hn : 0 < n) (hm : Odd m) {bytes : List (BitVec 8)}
    (hodd : Odd (bytes.countP BitVec.msb)) (word : BitVec (n + 8)) :
    bytes.foldl (absorbSigned m) word ≠ bytes.foldl (absorbUnsigned m) word := by
  intro heq
  obtain ⟨hi, lo, rfl⟩ := exists_append_byte word
  obtain ⟨hi₁, hi₂, lo₁, hx, hy, hbit⟩ :=
    Apart.foldl hn hm bytes (⟨hi, hi, lo, rfl, rfl, rfl⟩ : Apart 0 (hi ++ lo) (hi ++ lo))
  rw [heq, hx, append_byte_inj] at hy
  rw [hy.1, Nat.zero_add] at hbit
  have hcount := Nat.odd_iff.mp hodd
  omega

end Fnv
