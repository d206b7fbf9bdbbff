import Mathlib.Tactic.Lemma
import Mathlib.Data.Finset.Insert
import Mathlib.Data.Finset.Erase
import Mathlib.Data.Int.Notation

/-!
# `SelectSets`, POSIX build

An `fd_set` is a set of indices below `FD_SETSIZE`, here `N`.  `FD_SET`, `FD_CLR` and `FD_ISSET`
index an array of bits without looking at the bound, so outside of it they have no meaning; they
and the operations that use them return `none` there.

The build keeps two sets for three conditions: a socket is in `_writeSet` for `SELECT_CAN_WRITE`
and for `SELECT_CONNECT_FAILED`.
-/

namespace SMBB

/-! ## `SelectValue` -/

/-- `SELECT_CAN_READ`. -/
def selectCanRead : ℕ := 0x1

/-- `SELECT_CAN_WRITE`. -/
def selectCanWrite : ℕ := 0x2

/-- `SELECT_CONNECT_FAILED`. -/
def selectConnectFailed : ℕ := 0x8

/-- `SELECT_CHECK_ALL`. -/
def selectCheckAll : ℕ := selectCanRead ||| selectCanWrite ||| selectConnectFailed

/-- The argument and the result of `TestSocket`: it complements flags, so that the bits outside of
`SELECT_CHECK_ALL` take part. -/
abbrev SelectValue := BitVec 32

namespace SelectValue

def canRead : SelectValue := BitVec.ofNat 32 selectCanRead
def canWrite : SelectValue := BitVec.ofNat 32 selectCanWrite
def connectFailed : SelectValue := BitVec.ofNat 32 selectConnectFailed
def checkAll : SelectValue := BitVec.ofNat 32 selectCheckAll

end SelectValue

/-! ## `fd_set` -/

section FdSet

variable {N : ℕ}

/-- The index of a descriptor in an `fd_set`. -/
def fdIndex (N : ℕ) (fd : ℤ) : Option (Fin N) :=
  if h : 0 ≤ fd ∧ fd.toNat < N then some ⟨fd.toNat, h.2⟩ else none

/-- `FD_SET(fd, set)`. -/
def fdSet (fd : ℤ) (set : Finset (Fin N)) : Option (Finset (Fin N)) :=
  (fdIndex N fd).map fun i => insert i set

/-- `FD_CLR(fd, set)`. -/
def fdClr (fd : ℤ) (set : Finset (Fin N)) : Option (Finset (Fin N)) :=
  (fdIndex N fd).map fun i => set.erase i

/-- `FD_ISSET(fd, set) != 0`. -/
def fdIsSet (fd : ℤ) (set : Finset (Fin N)) : Option Bool :=
  (fdIndex N fd).map fun i => decide (i ∈ set)

lemma fdIndex_val (i : Fin N) : fdIndex N (i : ℕ) = some i := by
  have h : (0 : ℤ) ≤ (i : ℕ) ∧ ((i : ℕ) : ℤ).toNat < N :=
    ⟨Int.natCast_nonneg _, by rw [Int.toNat_natCast]; exact i.isLt⟩
  rw [fdIndex, dif_pos h]
  exact congrArg some (Fin.ext (Int.toNat_natCast _))

lemma fdSet_val (i : Fin N) (set : Finset (Fin N)) :
    fdSet (i : ℕ) set = some (insert i set) := by
  rw [fdSet, fdIndex_val, Option.map_some]

lemma fdClr_val (i : Fin N) (set : Finset (Fin N)) :
    fdClr (i : ℕ) set = some (set.erase i) := by
  rw [fdClr, fdIndex_val, Option.map_some]

lemma fdIsSet_val (i : Fin N) (set : Finset (Fin N)) :
    fdIsSet (i : ℕ) set = some (decide (i ∈ set)) := by
  rw [fdIsSet, fdIndex_val, Option.map_some]

end FdSet

/-! ## The sets -/

/-- `SelectSets`. -/
structure SelectSets (N : ℕ) where
  readSet : Finset (Fin N)
  writeSet : Finset (Fin N)
  max : ℤ
  checks : ℕ

/-- `GetError()`: `SO_ERROR`, or 0 if `getsockopt` fails, and what is left of it once it is read. -/
def getError (soError : Option ℤ) : ℤ × Option ℤ := (soError.getD 0, soError.map fun _ => 0)

/-- `timeval`. -/
structure Timeval where
  tvSec : ℕ
  tvUsec : ℕ

/-- The arguments of `select`. -/
structure SelectCall (N : ℕ) where
  nfds : ℤ
  readfds : Option (Finset (Fin N))
  writefds : Option (Finset (Fin N))
  exceptfds : Option (Finset (Fin N))
  timeout : Timeval

/-- What `select` returns, and what it leaves in the sets it was passed. -/
structure SelectAnswer (N : ℕ) where
  result : ℤ
  readfds : Finset (Fin N)
  writefds : Finset (Fin N)

namespace SelectSets

variable {N : ℕ}

/-- `SelectSets()`. -/
def construct (N : ℕ) : SelectSets N := ⟨∅, ∅, 0, 0⟩

/-- `op` on a set, if the condition holds. -/
def applyIf (p : Prop) [Decidable p] (op : Finset (Fin N) → Option (Finset (Fin N)))
    (set : Finset (Fin N)) : Option (Finset (Fin N)) :=
  if p then op set else some set

/-- `AddSocket(socket, toMonitor)`. -/
def addSocket (sets : SelectSets N) (handle : ℤ) (toMonitor : ℕ) :
    Option (SelectSets N × Bool) :=
  if toMonitor &&& selectCheckAll = 0 ∨ handle ≥ N then some (sets, false)
  else do
    let max := if handle > sets.max then handle else sets.max
    let readSet ← applyIf (toMonitor &&& selectCanRead ≠ 0) (fdSet handle) sets.readSet
    let writeSet ← applyIf (toMonitor &&& (selectCanWrite ||| selectConnectFailed) ≠ 0)
      (fdSet handle) sets.writeSet
    return (⟨readSet, writeSet, max, sets.checks ||| (toMonitor &&& selectCheckAll)⟩, true)

/-- `RemoveSocket(socket, toMonitor)`. -/
def removeSocket (sets : SelectSets N) (handle : ℤ) (toMonitor : ℕ) : Option (SelectSets N) :=
  if handle ≥ N then some sets
  else do
    let readSet ← applyIf (toMonitor &&& selectCanRead ≠ 0) (fdClr handle) sets.readSet
    let writeSet ← applyIf (toMonitor &&& (selectCanWrite ||| selectConnectFailed) ≠ 0)
      (fdClr handle) sets.writeSet
    return { sets with readSet, writeSet }

/-- The call of `select` that `Wait(timeoutUs)` makes.  `none` is a null pointer. -/
def selectCall (sets : SelectSets N) (timeoutUs : ℕ) : SelectCall N where
  nfds := sets.max + 1
  readfds := if sets.checks &&& selectCanRead ≠ 0 then some sets.readSet else none
  writefds := if sets.checks &&& (selectCanWrite ||| selectConnectFailed) ≠ 0 then
    some sets.writeSet else none
  exceptfds := none
  timeout := ⟨timeoutUs / 1000000, timeoutUs % 1000000⟩

/-- `Wait(timeoutUs)`, where `select` answers so: it writes to the sets it is passed, and the
others stay as they are. -/
def wait (sets : SelectSets N) (timeoutUs : ℕ) (select : SelectCall N → SelectAnswer N) :
    SelectSets N × ℤ :=
  let call := sets.selectCall timeoutUs
  let answer := select call
  ({ sets with
      readSet := if call.readfds.isSome then answer.readfds else sets.readSet
      writeSet := if call.writefds.isSome then answer.writefds else sets.writeSet },
    answer.result)

/-- Clears the flag of `checkResult` if it is requested and the socket is not in the set. -/
def clearUnlessSet (handle : ℤ) (set : Finset (Fin N)) (flag checkResult : SelectValue) :
    Option SelectValue :=
  if checkResult &&& flag ≠ 0 then do
    let isSet ← fdIsSet handle set
    return if isSet then checkResult else checkResult &&& ~~~flag
  else some checkResult

/-- `TestSocket(socket, checkResult)`, on a socket whose `SO_ERROR` is `soError`: the result, and
what is left of the error. -/
def testSocket (sets : SelectSets N) (handle : ℤ) (checkResult : SelectValue)
    (soError : Option ℤ) : Option (SelectValue × Option ℤ) := do
  let (checkResult, soError) ←
    if checkResult &&& .connectFailed ≠ 0 then do
      let isSet ← fdIsSet handle sets.writeSet
      -- the conjunction is bitwise: what is tested is bit 0 of the mask
      if checkResult &&& (if isSet then 0 else 1) ≠ 0 then
        pure (checkResult &&& ~~~(SelectValue.connectFailed ||| .canWrite), soError)
      else
        let (error, soError) := getError soError
        pure (if error = 0 then ~~~SelectValue.connectFailed else ~~~SelectValue.canWrite, soError)
    else do
      let checkResult ← clearUnlessSet handle sets.writeSet .canWrite checkResult
      pure (checkResult, soError)
  let checkResult ← clearUnlessSet handle sets.readSet .canRead checkResult
  return (checkResult &&& .checkAll, soError)

lemma applyIf_fdSet (p : Prop) [Decidable p] (socket : Fin N) (set : Finset (Fin N)) :
    applyIf p (fdSet (socket : ℕ)) set = some (if p then insert socket set else set) := by
  by_cases hp : p
  · rw [applyIf, if_pos hp, if_pos hp, fdSet_val]
  · rw [applyIf, if_neg hp, if_neg hp]

lemma applyIf_fdClr (p : Prop) [Decidable p] (socket : Fin N) (set : Finset (Fin N)) :
    applyIf p (fdClr (socket : ℕ)) set = some (if p then set.erase socket else set) := by
  by_cases hp : p
  · rw [applyIf, if_pos hp, if_pos hp, fdClr_val]
  · rw [applyIf, if_neg hp, if_neg hp]

lemma mem_update {s : Fin N} (p : Prop) [Decidable p] (socket : Fin N) (set : Finset (Fin N)) :
    (s ∈ if p then insert socket set else set) ↔ s ∈ set ∨ s = socket ∧ p := by
  by_cases hp : p
  · simp [hp, or_comm]
  · simp [hp]

lemma mem_update_erase {s : Fin N} (p : Prop) [Decidable p] (socket : Fin N)
    (set : Finset (Fin N)) :
    (s ∈ if p then set.erase socket else set) ↔ s ∈ set ∧ ¬(s = socket ∧ p) := by
  by_cases hp : p
  · simp [hp, and_comm]
  · simp [hp]

/-- `AddSocket` of a socket that fits into an `fd_set`. -/
lemma addSocket_val (sets : SelectSets N) (socket : Fin N) (toMonitor : ℕ) :
    sets.addSocket (socket : ℕ) toMonitor
      = if toMonitor &&& selectCheckAll = 0 then some (sets, false)
        else some (⟨if toMonitor &&& selectCanRead ≠ 0 then insert socket sets.readSet
              else sets.readSet,
            if toMonitor &&& (selectCanWrite ||| selectConnectFailed) ≠ 0 then
              insert socket sets.writeSet else sets.writeSet,
            if ((socket : ℕ) : ℤ) > sets.max then ((socket : ℕ) : ℤ) else sets.max,
            sets.checks ||| (toMonitor &&& selectCheckAll)⟩, true) := by
  have hrange : ¬((socket : ℕ) : ℤ) ≥ N := not_le.mpr (Int.ofNat_lt.mpr socket.isLt)
  by_cases hmask : toMonitor &&& selectCheckAll = 0
  · rw [addSocket, if_pos (Or.inl hmask), if_pos hmask]
  · rw [addSocket, if_neg (not_or.mpr ⟨hmask, hrange⟩), if_neg hmask]
    simp only [applyIf_fdSet, Option.bind_eq_bind, Option.bind_some, Option.pure_def]

/-- `RemoveSocket` of a socket that fits into an `fd_set`. -/
lemma removeSocket_eq (sets : SelectSets N) (socket : Fin N) (toMonitor : ℕ) :
    sets.removeSocket (socket : ℕ) toMonitor
      = some { sets with
          readSet := if toMonitor &&& selectCanRead ≠ 0 then sets.readSet.erase socket
            else sets.readSet
          writeSet := if toMonitor &&& (selectCanWrite ||| selectConnectFailed) ≠ 0 then
            sets.writeSet.erase socket else sets.writeSet } := by
  have hrange : ¬((socket : ℕ) : ℤ) ≥ N := not_le.mpr (Int.ofNat_lt.mpr socket.isLt)
  rw [removeSocket, if_neg hrange]
  simp only [applyIf_fdClr, Option.bind_eq_bind, Option.bind_some, Option.pure_def]

end SelectSets

end SMBB
