import SMBB.Properties.SelectTesting
import SMBB.Framework.PartialMaps
import Mathlib.Tactic.ByContra

/-!
# Handles that do not fit into an `fd_set`

`AddSocket` and `RemoveSocket` of the POSIX build look at the upper end of an `fd_set` only, and
`TestSocket` at neither end, although an `IPSocket` that failed to open has the handle -1.  The
theorem says for each of the three with which handles and masks it stays inside of the sets.
-/

namespace SMBB

section FdSet

variable {N : ℕ} {fd : ℤ}

lemma fdIndex_eq_none_iff : fdIndex N fd = none ↔ fd < 0 ∨ N ≤ fd := by
  rw [fdIndex, dite_eq_right_iff]
  constructor
  · intro h
    by_contra hin
    obtain ⟨hnonneg, hlt⟩ := not_or.mp hin
    exact Option.absurd_none (h ⟨by omega, by omega⟩).symm
  · rintro h ⟨hnonneg, hlt⟩
    omega

/-- Every operation on a bit fails where there is none. -/
lemma map_fdIndex_eq_none {α : Type} (h : fdIndex N fd = none) (f : Fin N → α) :
    (fdIndex N fd).map f = none := by
  rw [h, Option.map_none]

/-- A handle in range is a socket. -/
lemma exists_socket (hnonneg : 0 ≤ fd) (hlt : fd < N) : ∃ socket : Fin N, fd = (socket : ℕ) :=
  ⟨⟨fd.toNat, by omega⟩, (Int.toNat_of_nonneg hnonneg).symm⟩

end FdSet

/-! ## Masks that select nothing -/

lemma and_selectCheckAll_eq_zero_iff {mask : ℕ} :
    mask &&& selectCheckAll = 0
      ↔ mask &&& selectCanRead = 0 ∧ mask &&& (selectCanWrite ||| selectConnectFailed) = 0 := by
  rw [selectCheckAll, Nat.or_assoc, Nat.and_or_distrib_left, Nat.or_eq_zero_iff]

lemma SelectValue.and_checkAll_eq_zero_iff {v : SelectValue} :
    v &&& checkAll = 0 ↔ v &&& canRead = 0 ∧ v &&& canWrite = 0 ∧ v &&& connectFailed = 0 := by
  have hall : checkAll = canRead ||| canWrite ||| connectFailed := rfl
  rw [hall, BitVec.and_or_distrib_left, BitVec.and_or_distrib_left]
  exact BitVec.or_eq_zero_iff.trans ((and_congr_left' BitVec.or_eq_zero_iff).trans and_assoc)

namespace SelectSets

variable {N : ℕ} {handle : ℤ}

lemma applyIf_eq_ite {p : Prop} [Decidable p] {op : Finset (Fin N) → Option (Finset (Fin N))}
    {set : Finset (Fin N)} (hop : op set = none) :
    applyIf p op set = if p then none else some set := by
  rw [applyIf, hop]

/-- Two updates of which one cannot be made. -/
lemma bind_applyIf_eq_none {α : Type} {p q : Prop} [Decidable p] [Decidable q]
    {op : Finset (Fin N) → Option (Finset (Fin N))} (hop : ∀ set, op set = none)
    (readSet writeSet : Finset (Fin N)) (k : Finset (Fin N) → Finset (Fin N) → Option α)
    (hpq : p ∨ q) :
    ((applyIf p op readSet).bind fun r => (applyIf q op writeSet).bind fun w => k r w) = none := by
  rw [applyIf_eq_ite (hop readSet), applyIf_eq_ite (hop writeSet)]
  by_cases hp : p
  · rw [if_pos hp, Option.bind_none]
  · rw [if_neg hp, if_pos (hpq.resolve_left hp), Option.bind_some, Option.bind_none]

/-! ## The three calls -/

/-- `AddSocket` keeps to the bits of the sets, and refuses a socket that has none. -/
def AddsInRange (sets : SelectSets N) (handle : ℤ) (toMonitor : ℕ) : Prop :=
  sets.addSocket handle toMonitor ≠ none
    ∧ (fdIndex N handle = none → sets.addSocket handle toMonitor = some (sets, false))

/-- `RemoveSocket` keeps to the bits of the sets. -/
def RemovesInRange (sets : SelectSets N) (handle : ℤ) (toMonitor : ℕ) : Prop :=
  sets.removeSocket handle toMonitor ≠ none

/-- `TestSocket` keeps to the bits of the sets. -/
def TestsInRange (sets : SelectSets N) (handle : ℤ) (checkResult : SelectValue)
    (soError : Option ℤ) : Prop :=
  sets.testSocket handle checkResult soError ≠ none

/-- A mask selects one of the two sets. -/
lemma selects_of_and_checkAll_ne_zero {mask : ℕ} (h : mask &&& selectCheckAll ≠ 0) :
    mask &&& selectCanRead ≠ 0 ∨ mask &&& (selectCanWrite ||| selectConnectFailed) ≠ 0 :=
  not_and_or.mp (mt and_selectCheckAll_eq_zero_iff.mpr h)

lemma addsInRange_iff (sets : SelectSets N) (handle : ℤ) (toMonitor : ℕ) :
    sets.AddsInRange handle toMonitor ↔ 0 ≤ handle ∨ toMonitor &&& selectCheckAll = 0 := by
  constructor
  · rintro ⟨hdefined, -⟩
    by_contra hout
    obtain ⟨hneg, hmask⟩ := not_or.mp hout
    have hindex : fdIndex N handle = none := fdIndex_eq_none_iff.mpr (Or.inl (by omega))
    refine hdefined ?_
    rw [addSocket, if_neg (not_or.mpr ⟨hmask, by omega⟩)]
    exact bind_applyIf_eq_none (fun _ => map_fdIndex_eq_none hindex _) _ _ _
      (selects_of_and_checkAll_ne_zero hmask)
  · intro h
    by_cases hrefused : toMonitor &&& selectCheckAll = 0 ∨ handle ≥ N
    · have hadd : sets.addSocket handle toMonitor = some (sets, false) := by
        rw [addSocket, if_pos hrefused]
      exact ⟨hadd ▸ Option.some_ne_none _, fun _ => hadd⟩
    · obtain ⟨hmask, hlt⟩ := not_or.mp hrefused
      obtain ⟨socket, rfl⟩ := exists_socket (h.resolve_right hmask) (not_le.mp hlt)
      rw [AddsInRange, addSocket_val, if_neg hmask, fdIndex_val]
      exact ⟨Option.some_ne_none _, fun h => Option.absurd_none h.symm⟩

lemma removesInRange_iff (sets : SelectSets N) (handle : ℤ) (toMonitor : ℕ) :
    sets.RemovesInRange handle toMonitor ↔ 0 ≤ handle ∨ toMonitor &&& selectCheckAll = 0 := by
  constructor
  · intro hdefined
    by_contra hout
    obtain ⟨hneg, hmask⟩ := not_or.mp hout
    have hindex : fdIndex N handle = none := fdIndex_eq_none_iff.mpr (Or.inl (by omega))
    refine hdefined ?_
    rw [removeSocket, if_neg (by omega)]
    exact bind_applyIf_eq_none (fun _ => map_fdIndex_eq_none hindex _) _ _ _
      (selects_of_and_checkAll_ne_zero hmask)
  · intro h
    rw [RemovesInRange]
    by_cases hlarge : handle ≥ N
    · rw [removeSocket, if_pos hlarge]
      exact Option.some_ne_none _
    · by_cases hmask : toMonitor &&& selectCheckAll = 0
      · obtain ⟨hread, hwrite⟩ := and_selectCheckAll_eq_zero_iff.mp hmask
        rw [removeSocket, if_neg hlarge, applyIf, if_neg (not_not.mpr hread), applyIf,
          if_neg (not_not.mpr hwrite)]
        exact Option.some_ne_none _
      · obtain ⟨socket, rfl⟩ := exists_socket (h.resolve_right hmask) (not_le.mp hlarge)
        rw [removeSocket_eq]
        exact Option.some_ne_none _

lemma clearUnlessSet_eq_none {set : Finset (Fin N)} {flag v : SelectValue}
    (hindex : fdIndex N handle = none) (hflag : v &&& flag ≠ 0) :
    clearUnlessSet handle set flag v = none := by
  rw [clearUnlessSet, if_pos hflag, fdIsSet, map_fdIndex_eq_none hindex]
  rfl

lemma clearUnlessSet_of_and_eq_zero {set : Finset (Fin N)} {flag v : SelectValue}
    (hflag : v &&& flag = 0) : clearUnlessSet handle set flag v = some v := by
  rw [clearUnlessSet, if_neg (not_not.mpr hflag)]

/-- `TestSocket` on a handle that has no bit: it looks at a set if the mask asks for anything. -/
lemma testSocket_eq_none_iff (sets : SelectSets N) {checkResult : SelectValue}
    {soError : Option ℤ} (hindex : fdIndex N handle = none) :
    sets.testSocket handle checkResult soError = none ↔ checkResult &&& .checkAll ≠ 0 := by
  rw [ne_eq, SelectValue.and_checkAll_eq_zero_iff, testSocket]
  by_cases hfailed : checkResult &&& .connectFailed = 0
  · rw [if_neg (not_not.mpr hfailed)]
    by_cases hwrite : checkResult &&& .canWrite = 0
    · rw [clearUnlessSet_of_and_eq_zero hwrite]
      simp only [Option.bind_eq_bind, Option.bind_some, Option.pure_def]
      by_cases hread : checkResult &&& .canRead = 0
      · rw [clearUnlessSet_of_and_eq_zero hread, Option.bind_some]
        exact iff_of_false (Option.some_ne_none _) (not_not.mpr ⟨hread, hwrite, hfailed⟩)
      · rw [clearUnlessSet_eq_none hindex hread]
        exact iff_of_true rfl fun h => hread h.1
    · rw [clearUnlessSet_eq_none hindex hwrite]
      exact iff_of_true rfl fun h => hwrite h.2.1
  · rw [if_pos hfailed, fdIsSet, map_fdIndex_eq_none hindex]
    exact iff_of_true rfl fun h => hfailed h.2.2

lemma testsInRange_iff (sets : SelectSets N) (handle : ℤ) (checkResult : SelectValue)
    (soError : Option ℤ) :
    sets.TestsInRange handle checkResult soError
      ↔ (0 ≤ handle ∧ handle < N) ∨ checkResult &&& .checkAll = 0 := by
  rw [TestsInRange]
  by_cases hin : 0 ≤ handle ∧ handle < N
  · obtain ⟨socket, rfl⟩ := exists_socket hin.1 hin.2
    rw [testSocket_val]
    exact iff_of_true (Option.some_ne_none _) (Or.inl hin)
  · have hindex : fdIndex N handle = none := fdIndex_eq_none_iff.mpr (by omega)
    rw [ne_eq, testSocket_eq_none_iff sets hindex, not_not, or_iff_right hin]

/-- The three calls keep to the bits of the sets, and a socket that has none is not added. -/
def StaysInRange (sets : SelectSets N) (handle : ℤ) (added removed : ℕ) (tested : SelectValue)
    (soError : Option ℤ) : Prop :=
  sets.AddsInRange handle added ∧ sets.RemovesInRange handle removed
    ∧ sets.TestsInRange handle tested soError

/-- **The calls on a socket stay inside of the sets** exactly when its handle is not negative, or
the masks select nothing; for `TestSocket` the handle also has to be below `FD_SETSIZE`. -/
theorem staysInRange_iff (sets : SelectSets N) (handle : ℤ) (added removed : ℕ)
    (tested : SelectValue) (soError : Option ℤ) :
    sets.StaysInRange handle added removed tested soError
      ↔ (0 ≤ handle ∨ added &&& selectCheckAll = 0)
        ∧ (0 ≤ handle ∨ removed &&& selectCheckAll = 0)
        ∧ ((0 ≤ handle ∧ handle < N) ∨ tested &&& .checkAll = 0) := by
  rw [StaysInRange, addsInRange_iff, removesInRange_iff, testsInRange_iff]

/-- A socket that failed to open is added to the read set, and a socket that `AddSocket` refuses is
tested. -/
theorem not_staysInRange_invalid :
    ¬(construct 8).StaysInRange (-1) selectCanRead selectCanRead .canRead none
      ∧ ¬(construct 8).StaysInRange 8 selectCanRead selectCanRead .canRead none := by
  constructor
  · rintro ⟨⟨hadd, -⟩, -⟩
    exact hadd rfl
  · rintro ⟨-, -, htest⟩
    exact htest rfl

end SelectSets

end SMBB
