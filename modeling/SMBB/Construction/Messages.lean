import Mathlib.Algebra.GroupWithZero.Nat
import SMBB.Construction.Address
import SMBB.Framework.Batch

/-!
# Messages and their arrays

`SendMultiple` and `ReceiveMultiple` hand an array of messages to `sendmmsg` or `recvmmsg` when
the loader found the function, and loop over `Send` or `Receive` when it did not.

The kernel side of a socket is a parameter: `Kernel.transmit` is what becomes of one outgoing
message and `Kernel.deliver` is the next incoming one, either of which may fail with an error
number.  `sendmsg` and `recvmsg` are the documented calls over it.  They read the header they
are given as it is stored, `msg_namelen` included: a header with `msg_namelen = 0` names no
destination, and at most `msg_namelen` bytes of a sender are stored.  `sendmmsg` and `recvmmsg`
are batches of these calls.

Memory holds bytes, which buffers point into, and `IPAddress` objects, which `msg_name` points
to; objects of the two types do not overlap.  An array of parts is the list of its `length`
elements.
-/

namespace SMBB

/-! ## Memory, buffers and headers -/

/-- The objects a message points to. -/
structure Memory where
  bytes : ℕ → UInt8
  addresses : ℕ → IPAddress

/-- `Buffer`, an `iovec`. -/
structure Buffer where
  data : ℕ
  length : ℕ

namespace Memory

/-- Stores consecutive bytes. -/
def write (base : ℕ) (data : List UInt8) (bytes : ℕ → UInt8) : ℕ → UInt8 := fun q =>
  if base ≤ q then (data[q - base]?).getD (bytes q) else bytes q

/-- The bytes of the buffers, one behind the other. -/
def gather (bytes : ℕ → UInt8) (buffers : List Buffer) : List UInt8 :=
  buffers.flatMap fun b => (List.range b.length).map fun i => bytes (b.data + i)

/-- Fills the buffers in order with the bytes of `payload`. -/
def scatter : List Buffer → List UInt8 → (ℕ → UInt8) → ℕ → UInt8
  | [], _, bytes => bytes
  | b :: bs, payload, bytes =>
    scatter bs (payload.drop b.length) (write b.data (payload.take b.length) bytes)

end Memory

/-- The space in the buffers. -/
def capacity (buffers : List Buffer) : ℕ := (buffers.map Buffer.length).sum

/-- `MSG_TRUNC`. -/
def msgTrunc : ℕ := 0x20

/-- `EMSGSIZE`. -/
def msgSize : ℤ := 90

/-- `Message`, a `msghdr`. -/
structure Message where
  msgName : Option ℕ
  msgNamelen : ℕ
  msgIov : List Buffer
  msgFlags : ℕ

/-- `Message(buffers, bufferCount, address)`. -/
def Message.construct (buffers : List Buffer) (address : Option ℕ) : Message where
  msgName := address
  msgNamelen := 0
  msgIov := buffers
  msgFlags := 0

/-- `MultiMessagePart`, a `mmsghdr`. -/
structure MultiMessagePart where
  message : Message
  result : ℤ

/-- `MultiMessagePart(buffers, bufferCount, address)`. -/
def MultiMessagePart.construct (buffers : List Buffer) (address : Option ℕ) :
    MultiMessagePart where
  message := Message.construct buffers address
  result := 0

/-- `MessageResult`. -/
structure MessageResult where
  result : ℤ
  error : ℤ
deriving DecidableEq

namespace MessageResult

/-- `MessageResult(ResultLength result)`, with the `errno` of a failed call. -/
def ofCall : Except ℤ ℕ → MessageResult
  | .ok n => ⟨n, 0⟩
  | .error e => ⟨-1, e⟩

/-- `Failed()`. -/
def failed (r : MessageResult) : Bool := r.result < 0

/-- `HasSizeError()`. -/
def hasSizeError (r : MessageResult) : Bool := r.error = msgSize

end MessageResult

/-! ## The operating system's calls -/

/-- A message that leaves the process. -/
structure Outgoing where
  destination : Option (List UInt8)
  payload : List UInt8
deriving DecidableEq

/-- A message that arrives, with the socket address of its sender. -/
structure Incoming where
  sender : List UInt8
  payload : List UInt8
deriving DecidableEq

/-- The kernel side of one socket.  `deliver` is given the flags of the call and the space in its
buffers. -/
structure Kernel (σ : Type*) where
  transmit : σ → Outgoing → σ × Except ℤ ℕ
  deliver : σ → ℕ → ℕ → σ × Except ℤ Incoming

/-- The state a call runs on: the socket, the memory of the process, and the messages sent so
far. -/
structure Host (σ : Type*) where
  socket : σ
  memory : Memory
  sent : List Outgoing

variable {σ : Type*}

/-- The destination a header names. -/
def destination (memory : Memory) (header : Message) : Option (List UInt8) :=
  if header.msgNamelen = 0 then none
  else header.msgName.map fun p => (memory.addresses p).bytes.toList.take header.msgNamelen

/-- `sendmsg`. -/
def sendmsg (kernel : Kernel σ) (host : Host σ) (header : Message) :
    Host σ × Message × Except ℤ ℕ :=
  let message : Outgoing :=
    ⟨destination host.memory header, Memory.gather host.memory.bytes header.msgIov⟩
  match kernel.transmit host.socket message with
  | (socket, .ok n) => ({ host with socket, sent := host.sent ++ [message] }, header, .ok n)
  | (socket, .error e) => ({ host with socket }, header, .error e)

/-- Stores the first `namelen` bytes of a sender over an address. -/
def storeName (namelen : ℕ) (sender : List UInt8) (a : IPAddress) : IPAddress :=
  ⟨Vector.ofFn fun i => ((sender.take namelen)[i.val]?).getD (a.bytes.get i)⟩

/-- The addresses after a sender has been stored through `msg_name`. -/
def storeSender (header : Message) (sender : List UInt8) (addresses : ℕ → IPAddress) :
    ℕ → IPAddress :=
  match header.msgName with
  | some p => Function.update addresses p (storeName header.msgNamelen sender (addresses p))
  | none => addresses

/-- The header as `recvmsg` leaves it. -/
def receivedHeader (header : Message) (incoming : Incoming) : Message :=
  { header with
    msgNamelen := if header.msgName.isSome then incoming.sender.length else header.msgNamelen
    msgFlags := if capacity header.msgIov < incoming.payload.length then msgTrunc else 0 }

/-- `recvmsg`. -/
def recvmsg (kernel : Kernel σ) (flags : ℕ) (host : Host σ) (header : Message) :
    Host σ × Message × Except ℤ ℕ :=
  match kernel.deliver host.socket flags (capacity header.msgIov) with
  | (socket, .ok incoming) =>
    let stored := incoming.payload.take (capacity header.msgIov)
    let memory : Memory :=
      { bytes := Memory.scatter header.msgIov stored host.memory.bytes
        addresses := storeSender header incoming.sender host.memory.addresses }
    ({ host with socket, memory }, receivedHeader header incoming, .ok stored.length)
  | (socket, .error e) => ({ host with socket }, header, .error e)

/-- `recv`. -/
def recv (kernel : Kernel σ) (flags : ℕ) (host : Host σ) (data length : ℕ) :
    Host σ × Except ℤ ℕ :=
  match kernel.deliver host.socket flags length with
  | (socket, .ok incoming) =>
    let stored := incoming.payload.take length
    let memory := { host.memory with bytes := Memory.write data stored host.memory.bytes }
    ({ host with socket, memory }, .ok stored.length)
  | (socket, .error e) => ({ host with socket }, .error e)

/-- `recvfrom`, for an address at `from'` with room for `namelen` bytes. -/
def recvfrom (kernel : Kernel σ) (flags : ℕ) (host : Host σ) (data length from' namelen : ℕ) :
    Host σ × Except ℤ ℕ :=
  match kernel.deliver host.socket flags length with
  | (socket, .ok incoming) =>
    let stored := incoming.payload.take length
    let memory : Memory :=
      { bytes := Memory.write data stored host.memory.bytes
        addresses := Function.update host.memory.addresses from'
          (storeName namelen incoming.sender (host.memory.addresses from')) }
    ({ host with socket, memory }, .ok stored.length)
  | (socket, .error e) => ({ host with socket }, .error e)

/-- A call on a header as a call on the array element that holds it. -/
def partCall (call : Host σ → Message → Host σ × Message × Except ℤ ℕ) (host : Host σ)
    (part : MultiMessagePart) : Host σ × MultiMessagePart × Option ℤ :=
  match call host part.message with
  | (host, message, .ok n) => (host, ⟨message, n⟩, none)
  | (host, message, .error e) => (host, { part with message }, some e)

/-- `sendmmsg` and `recvmmsg`: the calls in order, up to the first failure. -/
def mmsg (call : Host σ → Message → Host σ × Message × Except ℤ ℕ) (host : Host σ)
    (parts : List MultiMessagePart) : Host σ × List MultiMessagePart × MessageResult :=
  let o := Batch.run (partCall call) host parts
  (o.state, o.items, ⟨o.count, if o.count < 0 then o.failure.getD 0 else 0⟩)

/-! ## Send and Receive -/

/-- `Send(const Message &)`. -/
def send (kernel : Kernel σ) (host : Host σ) (message : Message) :
    Host σ × Message × MessageResult :=
  let namelen := (message.msgName.map fun p => (host.memory.addresses p).getLength).getD 0
  match sendmsg kernel host { message with msgNamelen := namelen } with
  | (host, message, result) => (host, message, MessageResult.ofCall result)

/-- `Receive(data, length, ReceiveFlags)`. -/
def receiveData (kernel : Kernel σ) (flags : ℕ) (host : Host σ) (data length : ℕ) :
    Host σ × MessageResult :=
  let (host, result) := recv kernel flags host data length
  (host, MessageResult.ofCall result)

/-- `Receive(data, length, from, ReceiveFlags)`. -/
def receiveFrom (kernel : Kernel σ) (flags : ℕ) (host : Host σ) (data length from' : ℕ) :
    Host σ × MessageResult :=
  let (host, result) :=
    recvfrom kernel flags host data length from' IPAddress.sizeofSockaddrIn6
  (host, MessageResult.ofCall result)

/-- `Receive(const Message &, ReceiveFlags)`. -/
def receive (kernel : Kernel σ) (flags : ℕ) (host : Host σ) (message : Message) :
    Host σ × Message × MessageResult :=
  let namelen := if message.msgName.isSome then IPAddress.sizeofSockaddrIn6 else 0
  match recvmsg kernel flags host { message with msgNamelen := namelen } with
  | (host, message, .ok n) =>
    (host, message, ⟨n, if message.msgFlags &&& msgTrunc ≠ 0 then msgSize else 0⟩)
  | (host, message, .error e) => (host, message, ⟨-1, e⟩)

/-- The emulating loop of `SendMultiple` and `ReceiveMultiple` from index `i` on, over the
single-message operation `op`. -/
def multipleLoop (op : Host σ → Message → Host σ × Message × MessageResult) (i : ℕ)
    (host : Host σ) : List MultiMessagePart → Host σ × List MultiMessagePart × MessageResult
  | [] => (host, [], ⟨i, 0⟩)
  | part :: parts =>
    match op host part.message with
    | (host, message, result) =>
      if result.failed then
        (host, { part with message } :: parts, ⟨if i = 0 then -1 else i, result.error⟩)
      else
        match multipleLoop op (i + 1) host parts with
        | (host, parts, total) => (host, ⟨message, result.result⟩ :: parts, total)

/-- `SendMultiple`; `native` says whether `GetSendMMsg()` is loaded. -/
def sendMultiple (native : Bool) (kernel : Kernel σ) (host : Host σ)
    (parts : List MultiMessagePart) : Host σ × List MultiMessagePart × MessageResult :=
  if native then mmsg (sendmsg kernel) host parts
  else multipleLoop (send kernel) 0 host parts

/-- `ReceiveMultiple`; `native` says whether `GetRecvMMsg()` is loaded. -/
def receiveMultiple (native : Bool) (kernel : Kernel σ) (flags : ℕ) (host : Host σ)
    (parts : List MultiMessagePart) : Host σ × List MultiMessagePart × MessageResult :=
  if native then mmsg (recvmsg kernel flags) host parts
  else multipleLoop (receive kernel flags) 0 host parts

end SMBB
