import SMBB.Construction.SharedMemorySection
import SMBB.Framework.Multiples

/-!
# `GetMapOffset` rounds down

The granularity is a power of two, `2 ^ k`.  The invariant of the static variables is `Cached`:
each is zero or holds its final value.  For the granularity 1 the mask is zero also when it has
been computed, and every call computes it again, to the same value.

With the mask at hand the result is `Multiples.toInt_and_not_mask`.  The width `w` of
`unsigned long` drops out of it: the mask is less than `2 ^ 31`, so its conversion to the signed
`Size` does not change it.
-/

namespace SMBB
namespace OffsetStatics

variable {w k : ℕ} {granularity : BitVec w} {s : OffsetStatics w}

/-- Each variable is still zero or holds what it is for. -/
structure Cached (k : ℕ) (s : OffsetStatics w) : Prop where
  offsetSize : s.offsetSize = 0 ∨ s.offsetSize.toNat = 2 ^ k
  mask : s.mask = 0 ∨ s.mask.toNat = 2 ^ k - 1

lemma cached_initial : Cached k (initial w) := ⟨.inl rfl, .inl rfl⟩

lemma Cached.getOffsetSize (h : Cached k s) (hg : granularity.toNat = 2 ^ k) :
    (s.getOffsetSize granularity).1.toNat = 2 ^ k
      ∧ Cached k (s.getOffsetSize granularity).2 := by
  unfold OffsetStatics.getOffsetSize
  split
  · exact ⟨hg, .inr hg, h.mask⟩
  · have hsize := h.offsetSize.resolve_left ‹_›
    exact ⟨hsize, .inr hsize, h.mask⟩

/-- The mask of an `unsigned long` value up to `2 ^ 31`, converted to `Size`. -/
lemma toNat_mask {size : BitVec w} (hsize : size.toNat = 2 ^ k) (hk : k ≤ 31) :
    ((size - 1).setWidth 64 : Size).toNat = 2 ^ k - 1 := by
  have hpos : 0 < 2 ^ k := Nat.two_pow_pos k
  have hle : 2 ^ k ≤ 2 ^ 31 := Nat.pow_le_pow_right (by decide) hk
  have hlt : 2 ^ k < 2 ^ w := hsize ▸ size.isLt
  have hone : (1 : BitVec w).toNat = 1 := Nat.mod_eq_of_lt (Nat.lt_of_le_of_lt hpos hlt)
  have hsub : (size - 1).toNat = 2 ^ k - 1 := by
    rw [BitVec.toNat_sub_of_le (by rw [BitVec.le_def]; omega), hsize, hone]
  rw [BitVec.toNat_setWidth, hsub]
  exact Nat.mod_eq_of_lt (by omega)

/-- One call: the mask is there afterwards, and the result is made with it. -/
lemma Cached.getMapOffset (h : Cached k s) (hg : granularity.toNat = 2 ^ k) (hk : k ≤ 31)
    (offset : Size) :
    (s.getMapOffset granularity offset).2.mask.toNat = 2 ^ k - 1
      ∧ (s.getMapOffset granularity offset).1
        = offset &&& ~~~(s.getMapOffset granularity offset).2.mask
      ∧ Cached k (s.getMapOffset granularity offset).2 := by
  unfold OffsetStatics.getMapOffset
  split
  · obtain ⟨hsize, hcached⟩ := h.getOffsetSize hg
    have hmask := toNat_mask hsize hk
    exact ⟨hmask, rfl, hcached.offsetSize, .inr hmask⟩
  · have hmask := h.mask.resolve_left ‹_›
    exact ⟨hmask, rfl, h⟩

lemma Cached.afterCall (h : Cached k s) (hg : granularity.toNat = 2 ^ k) (hk : k ≤ 31)
    (call : OffsetCall) : Cached k (s.afterCall granularity call) := by
  cases call with
  | getOffsetSize => exact (h.getOffsetSize hg).2
  | getMapOffset offset => exact (h.getMapOffset hg hk offset).2.2

lemma cached_afterCalls (hg : granularity.toNat = 2 ^ k) (hk : k ≤ 31) (calls : List OffsetCall) :
    Cached k (afterCalls granularity calls) :=
  List.foldlRecOn calls (OffsetStatics.afterCall granularity) cached_initial
    fun _ h call _ => h.afterCall hg hk call

/-- The signed value of what `GetMapOffset` returns. -/
lemma toInt_mapOffset (hg : granularity.toNat = 2 ^ k) (hk : k ≤ 31) (calls : List OffsetCall)
    (offset : Size) :
    (mapOffset granularity calls offset).toInt = 2 ^ k * (offset.toInt / 2 ^ k) := by
  obtain ⟨hmask, hresult, -⟩ := (cached_afterCalls hg hk calls).getMapOffset hg hk offset
  rw [mapOffset, hresult]
  exact Multiples.toInt_and_not_mask (by omega) hmask

/-- **`GetMapOffset` returns the greatest multiple of the granularity that is not above the
offset**, whatever was called before.  It is idempotent and monotone, and the mask it uses is
exactly one less than the granularity. -/
theorem mapOffset_roundsDown (hg : granularity.toNat = 2 ^ k) (hk : k ≤ 31)
    (calls : List OffsetCall) (offset : Size) :
    IsGreatest {n : ℤ | 2 ^ k ∣ n ∧ n ≤ offset.toInt} (mapOffset granularity calls offset).toInt
      ∧ 0 ≤ offset.toInt - (mapOffset granularity calls offset).toInt
      ∧ offset.toInt - (mapOffset granularity calls offset).toInt < 2 ^ k
      ∧ (∀ calls', mapOffset granularity calls' (mapOffset granularity calls offset)
        = mapOffset granularity calls offset)
      ∧ (∀ calls' offset', offset.toInt ≤ offset'.toInt →
        (mapOffset granularity calls offset).toInt
          ≤ (mapOffset granularity calls' offset').toInt)
      ∧ ((afterCalls granularity calls).getOffsetSize granularity).1 = granularity
      ∧ ((afterCalls granularity calls).getMapOffset granularity offset).2.mask.toInt
        = 2 ^ k - 1 := by
  have hpos : (0 : ℤ) < 2 ^ k := Int.pow_pos (by decide)
  have hcached := cached_afterCalls hg hk calls
  have hdiv := Int.mul_ediv_add_emod offset.toInt (2 ^ k)
  have hmod := Int.emod_nonneg offset.toInt hpos.ne'
  have hlt := Int.emod_lt_of_pos offset.toInt hpos
  refine ⟨?_, ?_, ?_, fun calls' => ?_, fun calls' offset' hle => ?_, ?_, ?_⟩
  · rw [toInt_mapOffset hg hk]
    exact Multiples.isGreatest_mul_div hpos offset.toInt
  · rw [toInt_mapOffset hg hk]
    omega
  · rw [toInt_mapOffset hg hk]
    omega
  · apply BitVec.eq_of_toInt_eq
    rw [toInt_mapOffset hg hk, toInt_mapOffset hg hk, Int.mul_ediv_cancel_left _ hpos.ne']
  · rw [toInt_mapOffset hg hk, toInt_mapOffset hg hk]
    exact Int.mul_le_mul_of_nonneg_left (Int.ediv_le_ediv hpos hle) hpos.le
  · exact BitVec.eq_of_toNat_eq ((hcached.getOffsetSize hg).1.trans hg.symm)
  · have hmask := (hcached.getMapOffset hg hk offset).1
    have hle : 2 ^ k ≤ 2 ^ 31 := Nat.pow_le_pow_right (by decide) hk
    rw [BitVec.toInt_eq_toNat_of_lt (by omega), hmask, Int.ofNat_sub (Nat.two_pow_pos k)]
    push_cast
    rfl

/-- The offset `-1` in a Windows build: a granularity of 64 KiB in an `unsigned long` of 32
bits. -/
theorem mapOffset_roundsDown_windows :
    IsGreatest {n : ℤ | 2 ^ 16 ∣ n ∧ n ≤ (-1 : Size).toInt}
        (mapOffset (BitVec.ofNat 32 65536) [.getMapOffset 5] (-1)).toInt
      ∧ (mapOffset (BitVec.ofNat 32 65536) [.getMapOffset 5] (-1)).toInt = -65536 :=
  ⟨(mapOffset_roundsDown (by decide) (by decide) [.getMapOffset 5] (-1)).1, by decide⟩

end OffsetStatics
end SMBB
