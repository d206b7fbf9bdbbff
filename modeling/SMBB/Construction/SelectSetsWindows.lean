import SMBB.Construction.SelectSets
import SMBB.Framework.BoundedSets

/-!
# `SelectSets`, Windows build

Here an `fd_set` is an array of at most `FD_SETSIZE` sockets, whatever their handles are, and each
of the three conditions has its own set.
-/

namespace SMBB
namespace Windows

/-- `SELECT_CONNECT_FAILED`. -/
def selectConnectFailed : ℕ := 0x4

/-- `SELECT_CHECK_ALL`. -/
def selectCheckAll : ℕ := selectCanRead ||| selectCanWrite ||| selectConnectFailed

/-- `fd_set`: the first `fd_count` elements of `fd_array`. -/
abbrev FdSet (δ : Type) (N : ℕ) := BoundedSet δ N

/-- `SelectSets`. -/
structure SelectSets (δ : Type) (N : ℕ) where
  readSet : FdSet δ N
  writeSet : FdSet δ N
  exceptSet : FdSet δ N

namespace SelectSets

variable {δ : Type} {N : ℕ} [DecidableEq δ]

/-- `SelectSets()`. -/
def construct (δ : Type) (N : ℕ) : SelectSets δ N := ⟨.empty, .empty, .empty⟩

/-- `FD_SET(socket, &set)`, which appends a socket that the set does not have, if the mask has the
flag.  There is no result if `set.fd_count >= FD_SETSIZE`. -/
def addTo (set : FdSet δ N) (socket : δ) (toMonitor flag : ℕ) : Option (FdSet δ N) :=
  BoundedSet.insertIf (toMonitor &&& flag ≠ 0) socket set

/-- `AddSocket(socket, toMonitor)`. -/
def addSocket (sets : SelectSets δ N) (socket : δ) (toMonitor : ℕ) : SelectSets δ N × Bool :=
  if toMonitor &&& selectCheckAll = 0 then (sets, false)
  else
    match addTo sets.readSet socket toMonitor selectCanRead with
    | none => (sets, false)
    | some readSet =>
      let sets := { sets with readSet }
      match addTo sets.writeSet socket toMonitor selectCanWrite with
      | none => (sets, false)
      | some writeSet =>
        let sets := { sets with writeSet }
        match addTo sets.exceptSet socket toMonitor selectConnectFailed with
        | none => (sets, false)
        | some exceptSet => ({ sets with exceptSet }, true)

/-- `RemoveSocket(socket, toMonitor)`. -/
def removeSocket (sets : SelectSets δ N) (socket : δ) (toMonitor : ℕ) : SelectSets δ N :=
  let sets := if toMonitor &&& selectCanRead ≠ 0 then
    { sets with readSet := sets.readSet.erase socket } else sets
  let sets := if toMonitor &&& selectCanWrite ≠ 0 then
    { sets with writeSet := sets.writeSet.erase socket } else sets
  if toMonitor &&& selectConnectFailed ≠ 0 then
    { sets with exceptSet := sets.exceptSet.erase socket } else sets

end SelectSets

/-! ## Waiting and testing -/

namespace SelectValue

/-- `SELECT_CONNECT_FAILED`, as a word. -/
def connectFailed : SMBB.SelectValue := BitVec.ofNat 32 selectConnectFailed

/-- `SELECT_CHECK_ALL`, as a word. -/
def checkAll : SMBB.SelectValue := BitVec.ofNat 32 selectCheckAll

end SelectValue

/-- The arguments of `select`, where the first one means nothing. -/
structure SelectCall (δ : Type) (N : ℕ) where
  readfds : Option (FdSet δ N)
  writefds : Option (FdSet δ N)
  exceptfds : Option (FdSet δ N)
  timeout : Timeval

/-- What `select` returns, and what it leaves in the sets it was passed. -/
structure SelectAnswer (δ : Type) (N : ℕ) where
  result : ℤ
  readfds : FdSet δ N
  writefds : FdSet δ N
  exceptfds : FdSet δ N

/-- What `Wait` asks of the system. -/
inductive WaitCall (δ : Type) (N : ℕ)
  | sleep (milliseconds : ℕ)
  | select (call : SelectCall δ N)

namespace SelectSets

variable {δ : Type} {N : ℕ}

/-- The set as an argument of `select`, where a set without sockets is a null pointer. -/
def passed (set : FdSet δ N) : Option (FdSet δ N) :=
  if set.elems.length ≠ 0 then some set else none

/-- The call that `Wait(timeoutUs)` makes; `select` refuses to wait for nothing. -/
def waitCall (sets : SelectSets δ N) (timeoutUs : ℕ) : WaitCall δ N :=
  if sets.readSet.elems.length = 0 ∧ sets.writeSet.elems.length = 0
      ∧ sets.exceptSet.elems.length = 0 then
    .sleep (timeoutUs / 1000)
  else
    .select ⟨passed sets.readSet, passed sets.writeSet, passed sets.exceptSet,
      ⟨timeoutUs / 1000000, timeoutUs % 1000000⟩⟩

/-- `Wait(timeoutUs)`, where `select` answers so if it is called. -/
def wait (sets : SelectSets δ N) (timeoutUs : ℕ) (select : SelectCall δ N → SelectAnswer δ N) :
    SelectSets δ N × ℤ :=
  match sets.waitCall timeoutUs with
  | .sleep _ => (sets, 0)
  | .select call =>
    let answer := select call
    (⟨if call.readfds.isSome then answer.readfds else sets.readSet,
      if call.writefds.isSome then answer.writefds else sets.writeSet,
      if call.exceptfds.isSome then answer.exceptfds else sets.exceptSet⟩, answer.result)

variable [DecidableEq δ]

/-- Clears the flag of `checkResult` if it is requested and the socket is not in the set. -/
def clearUnlessSet (socket : δ) (set : FdSet δ N) (flag checkResult : SMBB.SelectValue) :
    SMBB.SelectValue :=
  if checkResult &&& flag ≠ 0 ∧ socket ∉ set then checkResult &&& ~~~flag else checkResult

/-- `TestSocket(socket, checkResult)`. -/
def testSocket (sets : SelectSets δ N) (socket : δ) (checkResult : SMBB.SelectValue) :
    SMBB.SelectValue :=
  let checkResult := clearUnlessSet socket sets.exceptSet SelectValue.connectFailed checkResult
  let checkResult := clearUnlessSet socket sets.writeSet .canWrite checkResult
  let checkResult := clearUnlessSet socket sets.readSet .canRead checkResult
  checkResult &&& SelectValue.checkAll

end SelectSets

end Windows
end SMBB
