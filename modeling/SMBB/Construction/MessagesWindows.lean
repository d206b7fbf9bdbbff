import SMBB.Construction.Messages

/-!
# Messages and their arrays, Windows build

The functions that `SendMultiple` and `ReceiveMultiple` look for are not there on Windows, so the
arrays are always looped over.  A message is handed over as its buffers, its name and the length
of the name: a `msghdr` without `msg_flags`, whose field of `Message` stays as it was constructed.
A `ResultLength` is an `int`, and the calls count bytes in a `DWORD`.

The kernel side of a socket is a parameter here too, with whatever it answers.
-/

namespace SMBB.Windows

/-- `WSAEMSGSIZE`. -/
def wsaMsgSize : ℤ := 10040

/-- How a call returns: whether with `SOCKET_ERROR`, what `WSAGetLastError()` says then, and the
number of bytes that is stored. -/
structure WSAResult where
  failed : Bool
  lastError : ℤ
  bytes : BitVec 32

/-- The kernel side of one socket.  `recvFrom` is given the flags of the call and the space in its
buffers, and tells what it stores. -/
structure Kernel (σ : Type*) where
  sendTo : σ → Outgoing → σ × WSAResult
  recvFrom : σ → ℕ → ℕ → σ × WSAResult × Option Incoming

variable {σ : Type*}

/-- `Send(const Message &)`. -/
def send (kernel : Kernel σ) (host : Host σ) (message : Message) :
    Host σ × Message × MessageResult :=
  let namelen := (message.msgName.map fun p => (host.memory.addresses p).getLength).getD 0
  let header := { message with msgNamelen := namelen }
  let outgoing : Outgoing :=
    ⟨destination host.memory header, Memory.gather host.memory.bytes header.msgIov⟩
  let (socket, result) := kernel.sendTo host.socket outgoing
  let sent := if result.failed then host.sent else host.sent ++ [outgoing]
  let length := if result.failed then -1 else result.bytes.toInt
  ({ host with socket, sent }, header, ⟨length, if length < 0 then result.lastError else 0⟩)

/-- What `WSARecvFrom` stores of a message that has arrived; `WSARecv` if there is no name. -/
def storeIncoming (message : Message) (incoming : Incoming) (memory : Memory) : Memory where
  bytes := Memory.scatter message.msgIov incoming.payload memory.bytes
  addresses := storeSender message incoming.sender memory.addresses

/-- `Receive(const Message &, ReceiveFlags)`. -/
def receive (kernel : Kernel σ) (flags : ℕ) (host : Host σ) (message : Message) :
    Host σ × Message × MessageResult :=
  let header :=
    if message.msgName.isSome then { message with msgNamelen := IPAddress.sizeofSockaddrIn6 }
    else message
  let (socket, result, stored) := kernel.recvFrom host.socket flags (capacity header.msgIov)
  let memory := (stored.map fun incoming => storeIncoming header incoming host.memory).getD
    host.memory
  let namelen := (stored.bind fun incoming =>
    if header.msgName.isSome then some incoming.sender.length else none).getD header.msgNamelen
  ({ host with socket, memory }, { header with msgNamelen := namelen },
    if result.failed then
      ⟨if result.lastError = wsaMsgSize then result.bytes.toInt else -1, result.lastError⟩
    else ⟨result.bytes.toInt, 0⟩)

/-- `SendMultiple`. -/
def sendMultiple (kernel : Kernel σ) (host : Host σ) (parts : List MultiMessagePart) :
    Host σ × List MultiMessagePart × MessageResult :=
  multipleLoop (send kernel) 0 host parts

/-- `ReceiveMultiple`. -/
def receiveMultiple (kernel : Kernel σ) (flags : ℕ) (host : Host σ)
    (parts : List MultiMessagePart) : Host σ × List MultiMessagePart × MessageResult :=
  multipleLoop (receive kernel flags) 0 host parts

end SMBB.Windows
