import SMBB.Construction.IPSocket

/-!
# `PollItem`, POSIX build

A `PollItem` is a `pollfd`.  An item is disabled by setting the sign bit of its descriptor, as
`poll` passes over negative descriptors, and enabled by clearing it; there is no other place where
the socket is kept.  Handles are machine words here, as the operations are about their bits.
-/

namespace SMBB

/-- `Handle(-1)`. -/
def invalidHandle : BitVec 32 := BitVec.allOnes 32

/-- `PollValue`, with the bits that are no value. -/
abbrev PollValue := BitVec 32

namespace PollValue

/-- `POLL_CAN_READ`, which is `POLLIN`. -/
def canRead : PollValue := 0x1

/-- `POLL_CAN_WRITE`, which is `POLLOUT`. -/
def canWrite : PollValue := 0x4

/-- `POLL_DISCONNECTING`, which is `POLLHUP`. -/
def disconnecting : PollValue := 0x10

/-- `POLL_CHECK_ALL`. -/
def checkAll : PollValue := canRead ||| canWrite ||| disconnecting

end PollValue

/-- `PollItem`: the fields of its `pollfd` that are asked for. -/
structure PollItem where
  fd : BitVec 32
  events : BitVec 16

namespace PollItem

/-- `Handle(1) << (sizeof(Handle) * 8 - 1)`. -/
def signBit : BitVec 32 := BitVec.twoPow 32 31

/-- `GetDisabledHandle()`. -/
def getDisabledHandle (item : PollItem) : BitVec 32 := item.fd ||| signBit

/-- `GetEnabledHandle()`. -/
def getEnabledHandle (item : PollItem) : BitVec 32 := item.fd &&& ~~~signBit

/-- `static_cast<short>(value & POLL_CHECK_ALL)`. -/
def toEvents (value : PollValue) : BitVec 16 := (value &&& .checkAll).setWidth 16

/-- `PollItem::Make(socket, monitor)`. -/
def make (socket : IPSocket (BitVec 32)) (monitor : PollValue) : PollItem where
  fd := socket.handle
  events := toEvents monitor

/-- `IsEnabled()`. -/
def isEnabled (item : PollItem) : Bool := item.fd &&& signBit = 0

/-- `Disable()`. -/
def disable (item : PollItem) : PollItem := { item with fd := item.getDisabledHandle }

/-- `Enable()`. -/
def enable (item : PollItem) : PollItem := { item with fd := item.getEnabledHandle }

/-- `GetMonitor()`. -/
def getMonitor (item : PollItem) : PollValue := item.events.signExtend 32

/-- `SetMonitor(value)`. -/
def setMonitor (item : PollItem) (value : PollValue) : PollItem :=
  { item with events := toEvents value }

/-- `GetSocket()`. -/
def getSocket (item : PollItem) : IPSocket (BitVec 32) := ⟨item.getEnabledHandle⟩

end PollItem

end SMBB
