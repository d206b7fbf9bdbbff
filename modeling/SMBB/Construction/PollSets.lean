import SMBB.Construction.PollItem
import Mathlib.Data.Nat.Notation

/-!
# `Poll`, POSIX build

The whole of a `PollItem` is a `pollfd`: to the fields of `SMBB/Construction/PollItem.lean` comes
the one that `poll` answers in.  `Poll` hands the first `numItems` items to the system; what the
system makes of them comes from outside.
-/

namespace SMBB

/-- `POLL_ERROR`, which is `POLLERR`. -/
def PollValue.error : PollValue := 0x8

/-- A `PollItem` with all fields of its `pollfd`. -/
structure Pollfd extends PollItem where
  revents : BitVec 16

namespace Pollfd

/-- `PollItem::Make(socket, monitor)`, from `PollItem()`. -/
def make (socket : IPSocket (BitVec 32)) (monitor : PollValue) : Pollfd where
  toPollItem := PollItem.make socket monitor
  revents := 0

/-- `Enable()`. -/
def enable (item : Pollfd) : Pollfd := { item with toPollItem := item.toPollItem.enable }

/-- `Disable()`. -/
def disable (item : Pollfd) : Pollfd := { item with toPollItem := item.toPollItem.disable }

/-- `SetMonitor(value)`. -/
def setMonitor (item : Pollfd) (value : PollValue) : Pollfd :=
  { item with toPollItem := item.toPollItem.setMonitor value }

/-- `HasFailedConnectionResult()`. -/
def hasFailedConnectionResult (item : Pollfd) : Bool :=
  item.revents.signExtend 32 &&& PollValue.error ≠ 0

/-- `HasResult(value)`. -/
def hasResult (item : Pollfd) (value : PollValue) : Bool :=
  item.revents.signExtend 32 &&& value ≠ 0

/-- `GetResult()`. -/
def getResult (item : Pollfd) : PollValue := item.revents.signExtend 32

end Pollfd

/-- What a call that waits for the items of an array does: its result, and the items after it. -/
abbrev PollCall (item : Type) := List item → ℤ → ℤ × List item

/-- The first `numItems` items are handed to the system, which there must be. -/
def pollFirst {item : Type} (call : PollCall item) (set : List item) (numItems : ℕ)
    (timeoutMs : ℤ) : Option (ℤ × List item) :=
  if set.length < numItems then none
  else
    let polled := call (set.take numItems) timeoutMs
    some (polled.1, polled.2 ++ set.drop numItems)

/-- `Poll(set, numItems, timeoutMs)`. -/
def poll (call : PollCall Pollfd) (set : List Pollfd) (numItems : ℕ) (timeoutMs : ℤ) :
    Option (ℤ × List Pollfd) :=
  pollFirst call set numItems timeoutMs

end SMBB
