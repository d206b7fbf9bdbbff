import SMBB.Framework.Multiples
import SMBB.Construction.Linger
import Mathlib.Data.Nat.Prime.Basic
import Mathlib.Data.Int.ModEq
import Mathlib.Tactic.Ring

/-!
# The linger time that is read back

A linger time is kept in whole seconds, rounded up.  What is read back is the least number of
whole seconds that is not shorter, as long as their count is a value of `l_linger`; the cast
into `l_linger` is not checked, so a longer time comes back as another one.
-/

namespace SMBB

open Multiples Requests

namespace LingerTypes

/-- The number of bits of `l_linger` that are not its sign. -/
def valueBits (types : LingerTypes) : ℕ :=
  if types.lLingerSigned then types.lLinger - 1 else types.lLinger

end LingerTypes

namespace LingerOption

variable {types : LingerTypes}

/-- The time that is read after a call of `SetLingerTime`. -/
def getAfterSet (kernel : LingerKernel types) (option : LingerOption types)
    (milliseconds : BitVec types.unsignedLong) : BitVec types.unsignedLong :=
  getLingerTime (some ((setLingerTime kernel option milliseconds).2.contents ()))

/-- What an accepted call is good for: the time in whole seconds, never shorter than asked for, in
the order of the times that were asked for, and stable when it is set again. -/
structure KeepsTime (kernel : LingerKernel types) (option : LingerOption types)
    (milliseconds : BitVec types.unsignedLong) : Prop where
  isLeast : IsLeast {k | 1000 ∣ k ∧ milliseconds.toNat ≤ k}
    (getAfterSet kernel option milliseconds).toNat
  notShorter : milliseconds ≤ getAfterSet kernel option milliseconds
  monotone : ∀ milliseconds' ≤ milliseconds,
    getAfterSet kernel option milliseconds' ≤ getAfterSet kernel option milliseconds
  again : (setLingerTime kernel (setLingerTime kernel option milliseconds).2
      (getAfterSet kernel option milliseconds)).2.contents ()
    = (setLingerTime kernel option milliseconds).2.contents ()

/-! ## Seconds -/

section Seconds

variable {milliseconds : BitVec types.unsignedLong}

/-- `1000` and `1` are values of `unsigned long`. -/
lemma lt_two_pow_unsignedLong {n : ℕ} (h : n < 2 ^ 32) : n < 2 ^ types.unsignedLong :=
  lt_of_lt_of_le h (Nat.pow_le_pow_right (by decide) types.ge_unsignedLong)

lemma toNat_toSeconds (hfits : 1000 * roundUp 1000 milliseconds.toNat < 2 ^ types.unsignedLong) :
    (toSeconds milliseconds).toNat = roundUp 1000 milliseconds.toNat := by
  have h1000 : (BitVec.ofNat types.unsignedLong 1000).toNat = 1000 := by
    rw [BitVec.toNat_ofNat, Nat.mod_eq_of_lt (lt_two_pow_unsignedLong (by decide))]
  have h1 : (BitVec.ofNat types.unsignedLong 1).toNat = 1 := by
    rw [BitVec.toNat_ofNat, Nat.mod_eq_of_lt (lt_two_pow_unsignedLong (by decide))]
  have hrest : milliseconds % BitVec.ofNat types.unsignedLong 1000 ≠ 0
      ↔ milliseconds.toNat % 1000 ≠ 0 := by
    rw [ne_eq, ← BitVec.toNat_inj, BitVec.toNat_umod, h1000]
    rfl
  have hround : (if milliseconds % BitVec.ofNat types.unsignedLong 1000 ≠ 0
        then BitVec.ofNat types.unsignedLong 1 else 0).toNat
      = if milliseconds.toNat % 1000 ≠ 0 then 1 else 0 := by
    rw [apply_ite BitVec.toNat, h1]
    exact if_congr hrest rfl rfl
  unfold toSeconds
  dsimp only
  rw [BitVec.toNat_add, BitVec.toNat_udiv, h1000, hround]
  refine Nat.mod_eq_of_lt (lt_of_le_of_lt ?_ hfits)
  exact Nat.le_mul_of_pos_left _ (by decide)

/-- The value that `l_linger` has for a number of seconds. -/
def lLingerValue (types : LingerTypes) (seconds : ℕ) : ℤ :=
  if types.lLingerSigned then Int.bmod seconds (2 ^ types.lLinger)
  else (seconds % 2 ^ types.lLinger : ℕ)

lemma two_pow_lLinger (types : LingerTypes) :
    2 ^ types.lLinger = 2 * 2 ^ (types.lLinger - 1) := by
  rw [← pow_succ', Nat.sub_add_cancel types.lLinger_pos]

/-- The cast keeps the numbers that are values of `l_linger`, and no other. -/
lemma lLingerValue_eq_iff (types : LingerTypes) (seconds : ℕ) :
    lLingerValue types seconds = seconds ↔ seconds < 2 ^ types.valueBits := by
  rw [lLingerValue, LingerTypes.valueBits]
  split
  · rw [two_pow_lLinger]
    have hpos := Nat.two_pow_pos (types.lLinger - 1)
    generalize 2 ^ (types.lLinger - 1) = half at hpos ⊢
    have hmod := Nat.mod_lt seconds (Nat.mul_pos Nat.two_pos hpos)
    have hlt : seconds < 2 * half → seconds % (2 * half) = seconds := Nat.mod_eq_of_lt
    rw [Int.bmod_def, ← Int.natCast_emod]
    omega
  · rw [Int.natCast_inj]
    exact Nat.mod_eq_iff_lt (Nat.two_pow_pos _).ne'

/-- Whatever the cast makes of a number, it is not larger, nor below its negation. -/
lemma lLingerValue_bounds (types : LingerTypes) (seconds : ℕ) :
    -(seconds : ℤ) ≤ lLingerValue types seconds ∧ lLingerValue types seconds ≤ seconds := by
  have hmod := Nat.mod_le seconds (2 ^ types.lLinger)
  rw [lLingerValue]
  split
  · rw [Int.bmod_def]
    omega
  · omega

end Seconds

/-! ## Reading back -/

section ReadBack

variable {kernel : LingerKernel types} {option : LingerOption types}
  {milliseconds : BitVec types.unsignedLong}

/-- The conversion to `unsigned long` keeps the value, modulo its range. -/
lemma toUnsignedLong_modEq (seconds : BitVec types.unsignedLong) :
    ((toUnsignedLong (seconds.setWidth types.lLinger)).toNat : ℤ)
      ≡ lLingerValue types seconds.toNat [ZMOD (2 ^ types.unsignedLong : ℕ)] := by
  rw [toUnsignedLong, lLingerValue]
  split
  · have hsigned := BitVec.toInt_signExtend_of_le (x := seconds.setWidth types.lLinger)
      types.lLinger_le
    rw [BitVec.toInt_setWidth, BitVec.toInt_eq_toNat_bmod] at hsigned
    rw [← hsigned, Int.ModEq, Int.bmod_emod]
  · rw [BitVec.toNat_setWidth_of_le types.lLinger_le, BitVec.toNat_setWidth]

lemma contents_setLingerTime (haccepts : ∀ asked request, kernel asked request = true) :
    (setLingerTime kernel option milliseconds).2.contents () = makeLinger milliseconds :=
  ask_granted (haccepts option.asked ⟨(), makeLinger milliseconds⟩)

/-- What is read is the value in `l_linger`, in milliseconds, modulo the range of
`unsigned long`. -/
lemma getAfterSet_modEq (option : LingerOption types)
    (haccepts : ∀ asked request, kernel asked request = true)
    (hfits : 1000 * roundUp 1000 milliseconds.toNat < 2 ^ types.unsignedLong) :
    ((getAfterSet kernel option milliseconds).toNat : ℤ)
      ≡ 1000 * lLingerValue types (roundUp 1000 milliseconds.toNat)
        [ZMOD (2 ^ types.unsignedLong : ℕ)] := by
  have hvalue := toUnsignedLong_modEq (toSeconds milliseconds)
  rw [toNat_toSeconds hfits] at hvalue
  have hread : getAfterSet kernel option milliseconds
      = toUnsignedLong (makeLinger milliseconds).lLinger
        * BitVec.ofNat types.unsignedLong 1000 := by
    rw [getAfterSet, contents_setLingerTime haccepts]
    rfl
  rw [hread, BitVec.toNat_mul, BitVec.toNat_ofNat,
    Nat.mod_eq_of_lt (lt_two_pow_unsignedLong (n := 1000) (by decide)), Int.natCast_emod,
    Nat.cast_mul, mul_comm]
  exact (Int.mod_modEq _ _).trans (hvalue.mul_left 1000)

lemma not_thousand_dvd_two_pow (n : ℕ) : ¬1000 ∣ 2 ^ n := by
  intro h
  have hfive : 5 ∣ 2 ^ n := Nat.dvd_trans (by decide) h
  exact absurd (Nat.prime_five.dvd_of_dvd_pow hfive) (by decide)

/-- What is read is the time in whole seconds exactly when the cast kept their number.  Another
number would be one range of `unsigned long` off, and that is no multiple of `1000`. -/
lemma toNat_getAfterSet_eq_iff (option : LingerOption types)
    (haccepts : ∀ asked request, kernel asked request = true)
    (hfits : 1000 * roundUp 1000 milliseconds.toNat < 2 ^ types.unsignedLong) :
    (getAfterSet kernel option milliseconds).toNat = 1000 * roundUp 1000 milliseconds.toNat
      ↔ roundUp 1000 milliseconds.toNat < 2 ^ types.valueBits := by
  have hread := getAfterSet_modEq option haccepts hfits
  rw [← lLingerValue_eq_iff]
  obtain ⟨hlower, hupper⟩ := lLingerValue_bounds types (roundUp 1000 milliseconds.toNat)
  have hrange : (getAfterSet kernel option milliseconds).toNat < 2 ^ types.unsignedLong :=
    (getAfterSet kernel option milliseconds).isLt
  have hnodvd := not_thousand_dvd_two_pow types.unsignedLong
  generalize lLingerValue types (roundUp 1000 milliseconds.toNat) = value at *
  generalize roundUp 1000 milliseconds.toNat = seconds at *
  generalize 2 ^ types.unsignedLong = range at *
  constructor
  · intro heq
    rw [heq] at hread
    obtain ⟨turns, hturns⟩ := hread.symm.dvd
    rw [Nat.cast_mul, Nat.cast_ofNat, ← mul_sub] at hturns
    have hpos : (0 : ℤ) < range := by omega
    have hnonneg : 0 ≤ turns := by
      refine Int.le_of_mul_le_mul_left ?_ hpos
      rw [mul_zero, ← hturns]
      omega
    have hlt : turns < 2 := by
      refine Int.lt_of_mul_lt_mul_left ?_ hpos.le
      rw [← hturns]
      omega
    obtain rfl | rfl : turns = 0 ∨ turns = 1 := by omega
    · omega
    · refine absurd ?_ hnodvd
      omega
  · intro hvalue
    rw [hvalue] at hread
    have hmod := hread.eq
    rw [Int.emod_eq_of_lt (by omega) (by omega), Int.emod_eq_of_lt (by omega) (by omega)] at hmod
    omega

/-- A time that comes back as it was set, in whole seconds, is not overtaken by a shorter one. -/
lemma getAfterSet_le (option : LingerOption types)
    (haccepts : ∀ asked request, kernel asked request = true)
    (hfits : 1000 * roundUp 1000 milliseconds.toNat < 2 ^ types.unsignedLong)
    (hseconds : roundUp 1000 milliseconds.toNat < 2 ^ types.valueBits)
    {milliseconds' : BitVec types.unsignedLong} (hle : milliseconds' ≤ milliseconds) :
    getAfterSet kernel option milliseconds' ≤ getAfterSet kernel option milliseconds := by
  have hmono : roundUp 1000 milliseconds'.toNat ≤ roundUp 1000 milliseconds.toNat :=
    roundUp_mono (by decide) hle
  have hfits' : 1000 * roundUp 1000 milliseconds'.toNat < 2 ^ types.unsignedLong := by omega
  have hread := (toNat_getAfterSet_eq_iff option haccepts hfits).mpr hseconds
  have hread' := (toNat_getAfterSet_eq_iff option haccepts hfits').mpr (hmono.trans_lt hseconds)
  rw [BitVec.le_def, hread, hread']
  exact Nat.mul_le_mul_left 1000 hmono

/-- Whole seconds that come back are handed over as before. -/
lemma makeLinger_getAfterSet (option : LingerOption types)
    (haccepts : ∀ asked request, kernel asked request = true)
    (hfits : 1000 * roundUp 1000 milliseconds.toNat < 2 ^ types.unsignedLong)
    (hseconds : roundUp 1000 milliseconds.toNat < 2 ^ types.valueBits) :
    makeLinger (getAfterSet kernel option milliseconds) = makeLinger milliseconds := by
  have hread := (toNat_getAfterSet_eq_iff option haccepts hfits).mpr hseconds
  have hround : roundUp 1000 (getAfterSet kernel option milliseconds).toNat
      = roundUp 1000 milliseconds.toNat := by
    rw [hread, roundUp_mul (by decide)]
  have hagain : toSeconds (getAfterSet kernel option milliseconds) = toSeconds milliseconds := by
    apply BitVec.eq_of_toNat_eq
    rw [toNat_toSeconds (hround ▸ hfits), toNat_toSeconds hfits, hround]
  rw [makeLinger, hagain]
  rfl

lemma keepsTime_of_lt (option : LingerOption types)
    (haccepts : ∀ asked request, kernel asked request = true)
    (hfits : 1000 * roundUp 1000 milliseconds.toNat < 2 ^ types.unsignedLong)
    (hseconds : roundUp 1000 milliseconds.toNat < 2 ^ types.valueBits) :
    KeepsTime kernel option milliseconds := by
  have hleast := isLeast_mul_roundUp (d := 1000) (by decide) milliseconds.toNat
  have hread := (toNat_getAfterSet_eq_iff option haccepts hfits).mpr hseconds
  refine
    { isLeast := hread ▸ hleast
      notShorter := ?_
      monotone := fun _ hle => getAfterSet_le option haccepts hfits hseconds hle
      again := ?_ }
  · rw [BitVec.le_def, hread]
    exact hleast.1.2
  · rw [contents_setLingerTime haccepts, contents_setLingerTime haccepts]
    exact makeLinger_getAfterSet option haccepts hfits hseconds

end ReadBack

/-- Where `long` is no wider than the `int` that counts the seconds, every time comes back. -/
theorem keepsTime_posix32 (kernel : LingerKernel .posix32) (option : LingerOption .posix32)
    (milliseconds : BitVec 32) (haccepts : ∀ asked request, kernel asked request = true)
    (hfits : 1000 * roundUp 1000 milliseconds.toNat < 2 ^ 32) :
    KeepsTime kernel option milliseconds := by
  have hseconds : roundUp 1000 milliseconds.toNat < 2 ^ 31 := by omega
  exact keepsTime_of_lt option haccepts hfits hseconds

/-- **A linger time that is read back is the one that was set, in whole seconds,** exactly when
the number of these seconds is a value of `l_linger`. -/
theorem keepsTime_iff (kernel : LingerKernel types) (option : LingerOption types)
    (milliseconds : BitVec types.unsignedLong)
    (haccepts : ∀ asked request, kernel asked request = true)
    (hfits : 1000 * roundUp 1000 milliseconds.toNat < 2 ^ types.unsignedLong) :
    KeepsTime kernel option milliseconds
      ↔ roundUp 1000 milliseconds.toNat < 2 ^ types.valueBits := by
  constructor
  · intro h
    have hleast := isLeast_mul_roundUp (d := 1000) (by decide) milliseconds.toNat
    rw [← toNat_getAfterSet_eq_iff option haccepts hfits]
    exact h.isLeast.unique hleast
  · exact keepsTime_of_lt option haccepts hfits

/-- The option of a socket that has not been asked for it. -/
def freshOption (types : LingerTypes) : LingerOption types := ⟨fun _ => ⟨0, 0⟩, []⟩

/-- Half a second more than a minute, on Windows, comes back as 61 seconds. -/
theorem keepsTime_minute : KeepsTime (fun _ _ => true) (freshOption .windows) 60500 := by
  have hseconds : roundUp 1000 (60500 : BitVec 32).toNat < 2 ^ 16 := by decide
  exact (keepsTime_iff _ (freshOption .windows) 60500 (fun _ _ => rfl) (by decide)).mpr hseconds

/-- `2 ^ 16` seconds, on Windows, come back as none at all, and `2 ^ 31` seconds, on POSIX, as the
negative of them. -/
theorem not_keepsTime_wrapped :
    (1000 * roundUp 1000 (65536000 : BitVec 32).toNat < 2 ^ 32
        ∧ getAfterSet (fun _ _ => true) (freshOption .windows) 65536000 = 0
        ∧ ¬KeepsTime (fun _ _ => true) (freshOption .windows) 65536000)
      ∧ 1000 * roundUp 1000 (2147483648000 : BitVec 64).toNat < 2 ^ 64
      ∧ getAfterSet (fun _ _ => true) (freshOption .posix) 2147483648000 = -2147483648000
      ∧ ¬KeepsTime (fun _ _ => true) (freshOption .posix) 2147483648000 := by
  have hwindows : getAfterSet (fun _ _ => true) (freshOption .windows) 65536000 = 0 := by decide
  have hposix : getAfterSet (fun _ _ => true) (freshOption .posix) 2147483648000
      = -2147483648000 := by decide
  refine ⟨⟨by decide, hwindows, fun h => ?_⟩, by decide, hposix, fun h => ?_⟩
  · have hshorter := h.notShorter
    rw [hwindows] at hshorter
    exact absurd hshorter (by decide)
  · have hdvd := h.isLeast.1.1
    rw [hposix] at hdvd
    exact absurd hdvd (by decide)

end LingerOption

end SMBB
