import SMBB.Construction.PollSets

/-!
# `PollItem` and `Poll`, Windows build

A handle has 64 bits and no sign, and `Disable` sets the upper one all the same.  `WSAPoll` fails
where every item is disabled, so `Poll` looks for an enabled one first and sleeps if there is none.
It does not report failed connections either: `HasFailedConnectionResult` asks `select`.
-/

namespace SMBB
namespace Windows

namespace PollValue

/-- `POLL_CAN_READ`, which is `POLLIN`: `POLLRDNORM` and `POLLRDBAND`. -/
def canRead : PollValue := 0x300

/-- `POLL_CAN_WRITE`, which is `POLLOUT`. -/
def canWrite : PollValue := 0x10

/-- `POLL_DISCONNECTING`, which is `POLLHUP`. -/
def disconnecting : PollValue := 0x2

/-- `POLL_CHECK_ALL`. -/
def checkAll : PollValue := canRead ||| canWrite ||| disconnecting

end PollValue

/-- `PollItem`, which is a `WSAPOLLFD`. -/
structure PollItem where
  fd : BitVec 64
  events : BitVec 16
  revents : BitVec 16

namespace PollItem

/-- `Handle(1) << (sizeof(Handle) * 8 - 1)`. -/
def signBit : BitVec 64 := BitVec.twoPow 64 63

/-- `GetDisabledHandle()`. -/
def getDisabledHandle (item : PollItem) : BitVec 64 := item.fd ||| signBit

/-- `GetEnabledHandle()`. -/
def getEnabledHandle (item : PollItem) : BitVec 64 := item.fd &&& ~~~signBit

/-- `static_cast<short>(value & POLL_CHECK_ALL)`. -/
def toEvents (value : PollValue) : BitVec 16 := (value &&& PollValue.checkAll).setWidth 16

/-- `PollItem::Make(socket, monitor)`. -/
def make (socket : IPSocket (BitVec 64)) (monitor : PollValue) : PollItem where
  fd := socket.handle
  events := toEvents monitor
  revents := 0

/-- `IsEnabled()`. -/
def isEnabled (item : PollItem) : Bool := item.fd &&& signBit = 0

/-- `Disable()`. -/
def disable (item : PollItem) : PollItem := { item with fd := item.getDisabledHandle }

/-- `Enable()`. -/
def enable (item : PollItem) : PollItem := { item with fd := item.getEnabledHandle }

/-- `GetMonitor()`. -/
def getMonitor (item : PollItem) : PollValue := item.events.signExtend 32

/-- `SetMonitor(value)`. -/
def setMonitor (item : PollItem) (value : PollValue) : PollItem :=
  { item with events := toEvents value }

/-- `HasFailedConnectionResult()`.  `exceptSelect` is what `select` returns for a set of exceptions
that has one socket. -/
def hasFailedConnectionResult (item : PollItem) (exceptSelect : BitVec 64 → ℤ) : Bool :=
  if !item.isEnabled || item.revents.signExtend 32 ≠ 0#32 then false
  else exceptSelect item.fd = 1

/-- `HasResult(value)`. -/
def hasResult (item : PollItem) (value : PollValue) : Bool :=
  item.revents.signExtend 32 &&& value ≠ 0

/-- `GetResult()`. -/
def getResult (item : PollItem) : PollValue := item.revents.signExtend 32

/-- `GetSocket()`. -/
def getSocket (item : PollItem) : IPSocket (BitVec 64) := ⟨item.getEnabledHandle⟩

end PollItem

/-- The loop that finds the first enabled item, from `set[i]` on. -/
def findEnabled : List PollItem → ℕ → ℕ
  | [], i => i
  | item :: rest, i => if item.isEnabled then i else findEnabled rest (i + 1)

/-- `Poll(set, numItems, timeoutMs)`.  Where no item is enabled it sleeps, and calls nothing. -/
def poll (call : PollCall PollItem) (set : List PollItem) (numItems : ℕ) (timeoutMs : ℤ) :
    Option (ℤ × List PollItem) :=
  if set.length < numItems then none
  else if numItems ≤ findEnabled (set.take numItems) 0 then some (0, set)
  else pollFirst call set numItems timeoutMs

end Windows
end SMBB
