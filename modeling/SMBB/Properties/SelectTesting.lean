import SMBB.Construction.SelectSets
import SMBB.Framework.Flags

/-!
# What `TestSocket` reports

`TestSocket` of the POSIX build has one branch for masks with `SELECT_CONNECT_FAILED`, which has to
tell a failed connection from one that is established, as the two share `_writeSet`.  Its test of
the set is joined to the mask by `&` where the other tests use `&&`, so that it looks at bit 0 of
the mask, `SELECT_CAN_READ`; and the value it goes on with has lost the mask.

`testSocket_val` says what comes out of it for every mask: the branch overwrites the mask exactly
when `Overwrites` holds, and all three laws that a test should obey fail only there.  The result
names only what was asked for (`subset_iff`), it does not report a connection that is still pending
(`pending_iff`), and it is the same when the test is repeated (`repeat_iff`).
-/

namespace SMBB

open Flags

namespace SelectValue

/-- The value with the given flags. -/
def ofBits (read write failed : Bool) : SelectValue :=
  flagIf 32 read 0 ||| flagIf 32 write 1 ||| flagIf 32 failed 3

lemma canRead_eq : canRead = BitVec.twoPow 32 0 := rfl

lemma canWrite_eq : canWrite = BitVec.twoPow 32 1 := rfl

lemma connectFailed_eq : connectFailed = BitVec.twoPow 32 3 := rfl

lemma and_canRead_iff {v : SelectValue} : v &&& canRead ≠ 0 ↔ v.getLsbD 0 = true :=
  and_twoPow_ne_zero_iff (w := 32) (i := 0) (by decide)

lemma and_canWrite_iff {v : SelectValue} : v &&& canWrite ≠ 0 ↔ v.getLsbD 1 = true :=
  and_twoPow_ne_zero_iff (w := 32) (i := 1) (by decide)

lemma and_connectFailed_iff {v : SelectValue} :
    v &&& connectFailed ≠ 0 ↔ v.getLsbD 3 = true :=
  and_twoPow_ne_zero_iff (w := 32) (i := 3) (by decide)

lemma ofBits_and (read write failed : Bool) (v : SelectValue) :
    ofBits read write failed &&& v
      = ofBits (read && v.getLsbD 0) (write && v.getLsbD 1) (failed && v.getLsbD 3) := by
  rw [ofBits, BitVec.and_or_distrib_right, BitVec.and_or_distrib_right, flagIf_and, flagIf_and,
    flagIf_and, ofBits]

/-- The flags of a value, once the other bits are gone. -/
lemma and_checkAll (v : SelectValue) :
    v &&& checkAll = ofBits (v.getLsbD 0) (v.getLsbD 1) (v.getLsbD 3) := by
  have hall : checkAll = ofBits true true true := rfl
  rw [BitVec.and_comm, hall, ofBits_and, Bool.true_and, Bool.true_and, Bool.true_and]

lemma ofBits_inj : ∀ {read write failed read' write' failed' : Bool},
    ofBits read write failed = ofBits read' write' failed'
      ↔ read = read' ∧ write = write' ∧ failed = failed' := by
  decide

end SelectValue

namespace SelectSets

variable {N : ℕ}

open SelectValue

/-- The branch for `SELECT_CONNECT_FAILED` overwrites the mask: the socket is ready, or the mask
does not have the bit that the test of the set is joined to. -/
def Overwrites (sets : SelectSets N) (socket : Fin N) (checkResult : SelectValue) : Prop :=
  checkResult &&& .connectFailed ≠ 0
    ∧ (socket ∈ sets.writeSet ∨ checkResult &&& .canRead = 0)

instance (sets : SelectSets N) (socket : Fin N) (checkResult : SelectValue) :
    Decidable (sets.Overwrites socket checkResult) :=
  inferInstanceAs (Decidable (_ ∧ _))

lemma clearUnlessSet_val (socket : Fin N) (set : Finset (Fin N)) (flag v : SelectValue) :
    clearUnlessSet (socket : ℕ) set flag v
      = some (if socket ∈ set then v else v &&& ~~~flag) := by
  rw [clearUnlessSet]
  by_cases hflag : v &&& flag = 0
  · rw [if_neg (not_not.mpr hflag), clear_eq_self hflag, ite_self]
  · rw [if_pos hflag, fdIsSet_val]
    simp only [Option.bind_eq_bind, Option.bind_some, Option.pure_def, decide_eq_true_eq]

/-- The end of `TestSocket`: the test of `_readSet`, and the other bits go. -/
lemma bind_readSet (sets : SelectSets N) (socket : Fin N) (v : SelectValue) (soError : Option ℤ) :
    ((clearUnlessSet (socket : ℕ) sets.readSet .canRead v).bind fun checkResult =>
        some (checkResult &&& .checkAll, soError))
      = some (ofBits (v.getLsbD 0 && decide (socket ∈ sets.readSet)) (v.getLsbD 1)
          (v.getLsbD 3), soError) := by
  rw [clearUnlessSet_val, Option.bind_some, and_checkAll]
  by_cases hread : socket ∈ sets.readSet
  · simp [hread]
  · rw [if_neg hread, canRead_eq, getLsbD_clear, getLsbD_clear, getLsbD_clear]
    simp [hread]

/-- The bitwise conjunction is a test of `SELECT_CAN_READ`, if the socket is not in the set. -/
lemma and_notSet_ne_zero_iff (v : SelectValue) (isSet : Bool) :
    v &&& (if isSet then 0 else 1) ≠ 0 ↔ ¬(isSet = true ∨ v &&& .canRead = 0) := by
  cases isSet
  · rw [if_neg Bool.false_ne_true, or_iff_right Bool.false_ne_true]
    exact Iff.rfl
  · simp

/-- What `TestSocket` returns, and what it leaves of the error. -/
lemma testSocket_val (sets : SelectSets N) (socket : Fin N) (v : SelectValue)
    (soError : Option ℤ) :
    sets.testSocket (socket : ℕ) v soError
      = some (if sets.Overwrites socket v then
          (ofBits (decide (socket ∈ sets.readSet)) (decide (soError.getD 0 = 0))
            (!decide (soError.getD 0 = 0)), soError.map fun _ => 0)
        else
          (ofBits (v.getLsbD 0 && decide (socket ∈ sets.readSet))
            (v.getLsbD 1 && decide (socket ∈ sets.writeSet)) false, soError)) := by
  rw [testSocket]
  by_cases hfailed : v &&& .connectFailed = 0
  · -- the mask asks for no failed connection
    have hbit : v.getLsbD 3 = false := by
      rw [← Bool.not_eq_true, ← and_connectFailed_iff]
      exact not_not.mpr hfailed
    rw [if_neg (not_not.mpr hfailed), if_neg fun h => h.1 hfailed, clearUnlessSet_val]
    simp only [Option.bind_eq_bind, Option.bind_some, Option.pure_def]
    rw [bind_readSet]
    by_cases hwrite : socket ∈ sets.writeSet
    · rw [if_pos hwrite, hbit]
      simp [hwrite]
    · rw [if_neg hwrite, canWrite_eq, getLsbD_clear, getLsbD_clear, getLsbD_clear, hbit]
      simp [hwrite]
  · rw [if_pos hfailed, fdIsSet_val]
    simp only [Option.bind_eq_bind, Option.bind_some, Option.pure_def]
    by_cases hoverwrites : sets.Overwrites socket v
    · -- the mask is lost, and both answers of `GetError` have `SELECT_CAN_READ`
      have hset := mt (and_notSet_ne_zero_iff v (decide (socket ∈ sets.writeSet))).mp
        (not_not.mpr (by simpa using hoverwrites.2))
      rw [if_neg hset, if_pos hoverwrites]
      by_cases herror : soError.getD 0 = 0
      · simp only [getError, herror, if_true]
        rw [bind_readSet]
        simp [connectFailed_eq]
      · simp only [getError, herror, if_false]
        rw [bind_readSet]
        simp [canWrite_eq]
    · have hset := (and_notSet_ne_zero_iff v (decide (socket ∈ sets.writeSet))).mpr
        (by simpa using not_and.mp hoverwrites hfailed)
      have hwrite : socket ∉ sets.writeSet := fun h => hoverwrites ⟨hfailed, Or.inl h⟩
      rw [if_pos hset, if_neg hoverwrites]
      rw [bind_readSet, BitVec.not_or, ← BitVec.and_assoc, canWrite_eq, connectFailed_eq]
      simp only [getLsbD_clear]
      simp [hwrite]

lemma exists_eq_some_iff {α β : Type} {x : Option (α × β)} {a : α} {b : β}
    {P : α → β → Prop} (hx : x = some (a, b)) :
    (∃ a' b', x = some (a', b') ∧ P a' b') ↔ P a b := by
  constructor
  · rintro ⟨a', b', h, hP⟩
    obtain ⟨rfl, rfl⟩ := Prod.mk.inj (Option.some.inj (hx.symm.trans h))
    exact hP
  · exact fun hP => ⟨a, b, hx, hP⟩

/-- What a test shows is what `testSocket_val` says. -/
lemma exists_tested_iff {sets : SelectSets N} {socket : Fin N} {v : SelectValue}
    {soError : Option ℤ} {P : SelectValue → Option ℤ → Prop} :
    (∃ tested left, sets.testSocket (socket : ℕ) v soError = some (tested, left)
        ∧ P tested left)
      ↔ (sets.Overwrites socket v →
          P (ofBits (decide (socket ∈ sets.readSet)) (decide (soError.getD 0 = 0))
            (!decide (soError.getD 0 = 0))) (soError.map fun _ => 0))
        ∧ (¬sets.Overwrites socket v →
          P (ofBits (v.getLsbD 0 && decide (socket ∈ sets.readSet))
            (v.getLsbD 1 && decide (socket ∈ sets.writeSet)) false) soError) := by
  have htest := sets.testSocket_val socket v soError
  by_cases hoverwrites : sets.Overwrites socket v
  · rw [if_pos hoverwrites] at htest
    rw [exists_eq_some_iff htest, and_iff_left fun h => absurd hoverwrites h,
      forall_prop_of_true hoverwrites]
  · rw [if_neg hoverwrites] at htest
    rw [exists_eq_some_iff htest, and_iff_right fun h => absurd h hoverwrites,
      forall_prop_of_true hoverwrites]

/-! ## Connections that are pending -/

/-- `TestSocket` reports a socket that is not in `_writeSet` neither as connected nor as failed. -/
def LeavesPending (sets : SelectSets N) (socket : Fin N) (checkResult : SelectValue)
    (soError : Option ℤ) : Prop :=
  ∃ tested left, sets.testSocket (socket : ℕ) checkResult soError = some (tested, left)
    ∧ (socket ∉ sets.writeSet → tested &&& (.canWrite ||| .connectFailed) = 0)

lemma ofBits_and_write_eq_zero_iff : ∀ read write failed : Bool,
    ofBits read write failed &&& (.canWrite ||| .connectFailed) = 0
      ↔ write = false ∧ failed = false := by
  decide

/-- **A pending connection is reported neither as connected nor as failed** exactly when the test
does not ask for failed connections without asking for `SELECT_CAN_READ`. -/
theorem leavesPending_iff (sets : SelectSets N) (socket : Fin N) (checkResult : SelectValue)
    (soError : Option ℤ) :
    sets.LeavesPending socket checkResult soError
      ↔ socket ∈ sets.writeSet ∨ checkResult &&& .connectFailed = 0
        ∨ checkResult &&& .canRead ≠ 0 := by
  rw [LeavesPending, exists_tested_iff]
  by_cases hwrite : socket ∈ sets.writeSet
  · simp [hwrite]
  · -- one of the two is reported whenever the mask is overwritten
    have hreported : ∀ b : Bool, ¬(b = false ∧ (!b) = false) := by decide
    simp only [ofBits_and_write_eq_zero_iff, hwrite, not_false_eq_true, forall_const, false_or,
      decide_false, Bool.and_false, Overwrites, and_self, implies_true, and_true, hreported,
      imp_false, not_and_or, not_not]

/-- A socket that was never ready is reported as connected. -/
theorem not_leavesPending_connecting :
    (construct 8).testSocket 3 (.canWrite ||| .connectFailed) (some 0) = some (.canWrite, some 0)
      ∧ ¬(construct 8).LeavesPending 3 (.canWrite ||| .connectFailed) (some 0) := by
  have htest : (construct 8).testSocket ((3 : Fin 8) : ℕ) (.canWrite ||| .connectFailed) (some 0)
      = some (.canWrite, some 0) := by decide
  refine ⟨htest, fun h => ?_⟩
  rw [LeavesPending, exists_eq_some_iff htest] at h
  exact absurd (h (Finset.notMem_empty _)) (by decide)

/-! ## Flags that were asked for -/

/-- `TestSocket` returns flags of the mask only. -/
def AnswersMask (sets : SelectSets N) (socket : Fin N) (checkResult : SelectValue)
    (soError : Option ℤ) : Prop :=
  ∃ tested left, sets.testSocket (socket : ℕ) checkResult soError = some (tested, left)
    ∧ tested &&& checkResult = tested

lemma ofBits_and_eq_self_iff {read write failed : Bool} {v : SelectValue} :
    ofBits read write failed &&& v = ofBits read write failed
      ↔ (read = true → v &&& .canRead ≠ 0) ∧ (write = true → v &&& .canWrite ≠ 0)
        ∧ (failed = true → v &&& .connectFailed ≠ 0) := by
  rw [and_canRead_iff, and_canWrite_iff, and_connectFailed_iff,
    ofBits_and, ofBits_inj, Bool.and_eq_left_iff_imp, Bool.and_eq_left_iff_imp,
    Bool.and_eq_left_iff_imp]

/-- **Only flags that were asked for are returned** exactly when the mask is not overwritten, or it
has `SELECT_CAN_READ` if the socket can be read and `SELECT_CAN_WRITE` if it has no error. -/
theorem answersMask_iff (sets : SelectSets N) (socket : Fin N) (checkResult : SelectValue)
    (soError : Option ℤ) :
    sets.AnswersMask socket checkResult soError
      ↔ (sets.Overwrites socket checkResult →
          (socket ∈ sets.readSet → checkResult &&& .canRead ≠ 0)
            ∧ (soError.getD 0 = 0 → checkResult &&& .canWrite ≠ 0)) := by
  rw [AnswersMask, exists_tested_iff, ofBits_and_eq_self_iff, ofBits_and_eq_self_iff]
  have hkept : (checkResult.getLsbD 0 && decide (socket ∈ sets.readSet)) = true →
      checkResult &&& .canRead ≠ 0 :=
    fun h => and_canRead_iff.mpr (Bool.and_eq_true_iff.mp h).1
  have hkept' : (checkResult.getLsbD 1 && decide (socket ∈ sets.writeSet)) = true →
      checkResult &&& .canWrite ≠ 0 :=
    fun h => and_canWrite_iff.mpr (Bool.and_eq_true_iff.mp h).1
  rw [and_iff_left fun _ => ⟨hkept, hkept', fun h => absurd h Bool.false_ne_true⟩]
  refine forall_congr' fun hoverwrites => ?_
  rw [decide_eq_true_iff, decide_eq_true_iff, and_iff_left fun _ => hoverwrites.1]

/-- The socket is asked for a failed connection only, and reported as connected. -/
theorem not_answersMask_connected :
    (⟨∅, {3}, 3, selectConnectFailed⟩ : SelectSets 8).testSocket 3 .connectFailed (some 0)
        = some (.canWrite, some 0)
      ∧ ¬(⟨∅, {3}, 3, selectConnectFailed⟩ : SelectSets 8).AnswersMask 3 .connectFailed
          (some 0) := by
  have htest : (⟨∅, {3}, 3, selectConnectFailed⟩ : SelectSets 8).testSocket ((3 : Fin 8) : ℕ)
      .connectFailed (some 0) = some (.canWrite, some 0) := by decide
  refine ⟨htest, fun h => ?_⟩
  rw [AnswersMask, exists_eq_some_iff htest] at h
  exact absurd h (by decide)

/-! ## Tests that are repeated -/

/-- Two tests in a row, with nothing between them but what the first one leaves of the error,
return the same. -/
def Repeats (sets : SelectSets N) (socket : Fin N) (checkResult : SelectValue)
    (soError : Option ℤ) : Prop :=
  ∃ tested left, sets.testSocket (socket : ℕ) checkResult soError = some (tested, left)
    ∧ ∃ again left', sets.testSocket (socket : ℕ) checkResult left = some (again, left')
      ∧ again = tested

lemma getD_map_zero (soError : Option ℤ) : (soError.map fun _ => (0 : ℤ)).getD 0 = 0 := by
  cases soError <;> rfl

/-- **A test that is repeated returns the same** exactly when it does not consume an error. -/
theorem repeats_iff (sets : SelectSets N) (socket : Fin N) (checkResult : SelectValue)
    (soError : Option ℤ) :
    sets.Repeats socket checkResult soError
      ↔ (sets.Overwrites socket checkResult → soError.getD 0 = 0) := by
  rw [Repeats, exists_tested_iff, exists_tested_iff, exists_tested_iff]
  by_cases hoverwrites : sets.Overwrites socket checkResult
  · by_cases herror : soError.getD 0 = 0
    · simp [hoverwrites, herror, getD_map_zero]
    · simp [hoverwrites, herror, getD_map_zero, ofBits_inj]
  · simp [hoverwrites]

/-- A connection that was refused is reported as failed, and then as connected. -/
theorem not_repeats_refused :
    (⟨∅, {3}, 3, selectCheckAll⟩ : SelectSets 8).testSocket 3 .checkAll (some 111)
        = some (.connectFailed, some 0)
      ∧ (⟨∅, {3}, 3, selectCheckAll⟩ : SelectSets 8).testSocket 3 .checkAll (some 0)
        = some (.canWrite, some 0)
      ∧ ¬(⟨∅, {3}, 3, selectCheckAll⟩ : SelectSets 8).Repeats 3 .checkAll (some 111) := by
  have htest : (⟨∅, {3}, 3, selectCheckAll⟩ : SelectSets 8).testSocket ((3 : Fin 8) : ℕ)
      .checkAll (some 111) = some (.connectFailed, some 0) := by decide
  have hagain : (⟨∅, {3}, 3, selectCheckAll⟩ : SelectSets 8).testSocket ((3 : Fin 8) : ℕ)
      .checkAll (some 0) = some (.canWrite, some 0) := by decide
  refine ⟨htest, hagain, fun h => ?_⟩
  rw [Repeats, exists_eq_some_iff htest, exists_eq_some_iff hagain] at h
  exact absurd h (by decide)

end SelectSets

end SMBB
