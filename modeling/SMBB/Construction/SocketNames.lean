import SMBB.Construction.AddressConstructors
import SMBB.Construction.IPSocket
import SMBB.Construction.Messages

/-!
# The addresses that sockets have

The functions of `IPSocket` that pass an address to the system, or fill one that the system
stores: all of them hand over `GetPointer()`, and with it `GetLength()` when the system is to
read and `sizeof(IPAddress)` when it is to write.

The system reads a `sockaddr_in` or a `sockaddr_in6` there, as the family says, if the length is
that of the structure at least; what it reads is a `SocketName`.  It stores a structure of the
family, cut off at the length, with anything in `sin_zero`.  What it does with the names, and all
it answers, is a parameter.
-/

namespace SMBB

open IPAddress (sizeofSockaddrIn sizeofSockaddrIn6 ofSockaddrIn ofSockaddrIn6)

/-- What the system reads in a socket address. -/
inductive SocketName
  | inet (addr : Vector UInt8 4) (port : Vector UInt8 2)
  | inet6 (addr : Vector UInt8 16) (port : Vector UInt8 2) (flowinfo scopeId : Vector UInt8 4)
deriving DecidableEq

namespace SocketName

/-- What the system reads in some bytes. -/
def read (bytes : List UInt8) : Option SocketName :=
  let a := storeName sizeofSockaddrIn6 bytes (IPAddress.ofFamily familyUnspecified)
  if a.getFamily = ipv4 then
    if sizeofSockaddrIn ≤ bytes.length then some (.inet a.sinAddr a.sinPort) else none
  else if a.getFamily = ipv6 then
    if sizeofSockaddrIn6 ≤ bytes.length then
      some (.inet6 a.sin6Addr a.sinPort a.sin6Flowinfo a.sin6ScopeId)
    else none
  else none

/-- What the system stores, with `zero` in `sin_zero`. -/
def bytes (zero : Vector UInt8 8) : SocketName → List UInt8
  | .inet addr port =>
    (ofSockaddrIn ⟨port, addr, zero⟩ (Vector.replicate 12 0)).bytes.toList.take sizeofSockaddrIn
  | .inet6 addr port flowinfo scopeId =>
    (ofSockaddrIn6 ⟨port, flowinfo, addr, scopeId⟩).bytes.toList

end SocketName

/-- What the system is given with `GetPointer()` and `GetLength()`. -/
def IPAddress.passed (a : IPAddress) : List UInt8 := a.bytes.toList.take a.getLength

/-- The system: what its calls on a handle answer, and the state they leave.  The destination of a
message may be missing, and may be one in which there is no name. -/
structure SocketSystem (κ : Type) where
  socket : κ → ℕ → ℕ → κ × ℤ
  bind : κ → ℤ → Option SocketName → κ × Bool
  listen : κ → ℤ → ℤ → κ × Bool
  connect : κ → ℤ → Option SocketName → κ × Option ℤ
  accept : κ → ℤ → κ × ℤ × Option SocketName
  getsockname : κ → ℤ → Option SocketName
  getpeername : κ → ℤ → Option SocketName
  transmit : κ → ℤ → Option (Option SocketName) → List UInt8 → κ × Except ℤ ℕ
  deliver : κ → ℤ → ℕ → ℕ → κ × Except ℤ (Option SocketName × List UInt8)
  close : κ → ℤ → κ

variable {κ σ : Type}

namespace SocketSystem

variable (system : SocketSystem κ)

/-- An address after the system has stored a name, if it had one, through a pointer to it. -/
def store (zero : Vector UInt8 8) (name : Option SocketName) (a : IPAddress) : IPAddress :=
  storeName sizeofSockaddrIn6 ((name.map (SocketName.bytes zero)).getD []) a

/-- A message that arrives, with the bytes of its sender. -/
def arrived (zero : Vector UInt8 8) (message : Option SocketName × List UInt8) : Incoming where
  sender := (message.1.map (SocketName.bytes zero)).getD []
  payload := message.2

/-- The kernel side of one socket. -/
def kernel (handle : ℤ) (zero : Vector UInt8 8) : Kernel κ where
  transmit k message :=
    system.transmit k handle (message.destination.map SocketName.read) message.payload
  deliver k flags space :=
    let answer := system.deliver k handle flags space
    (answer.1, answer.2.map (arrived zero))

/-- The state after a call. -/
def afterCall (k : κ) : SocketCall ℤ → κ
  | .socket family protocol _ => (system.socket k family protocol).1
  | .accept handle _ => (system.accept k handle).1
  | .bind handle address _ => (system.bind k handle (SocketName.read address.passed)).1
  | .listen handle maxPendingConnections _ => (system.listen k handle maxPendingConnections).1
  | .connect handle address _ => (system.connect k handle (SocketName.read address.passed)).1
  | .close handle => system.close k handle

end SocketSystem

/-! ## Sending without a `Message` -/

/-- `send`, and `sendto` with a destination. -/
def sendto (kernel : Kernel σ) (host : Host σ) (data length : ℕ)
    (destination : Option (List UInt8)) : Host σ × Except ℤ ℕ :=
  let message : Outgoing := ⟨destination, Memory.gather host.memory.bytes [⟨data, length⟩]⟩
  match kernel.transmit host.socket message with
  | (socket, .ok n) => ({ host with socket, sent := host.sent ++ [message] }, .ok n)
  | (socket, .error e) => ({ host with socket }, .error e)

/-- `Send(data, length)`. -/
def sendData (kernel : Kernel σ) (host : Host σ) (data length : ℕ) : Host σ × MessageResult :=
  let (host, result) := sendto kernel host data length none
  (host, MessageResult.ofCall result)

/-- `Send(data, length, address)`. -/
def sendTo (kernel : Kernel σ) (host : Host σ) (data length address : ℕ) :
    Host σ × MessageResult :=
  let (host, result) :=
    sendto kernel host data length (some (host.memory.addresses address).passed)
  (host, MessageResult.ofCall result)

/-! ## Sockets

The operations of `SMBB/Construction/IPSocket.lean` take the answers of the system as arguments and
return the calls they make; here the system gives the answers. -/

namespace IPSocket

variable (system : SocketSystem κ)

/-- `Open(family, protocol)`. -/
def openFamilyOn (k : κ) (s : IPSocket ℤ) (family protocol : ℕ) : κ × IPSocket ℤ × Bool :=
  let opened := s.openFamily posixSockets family protocol (system.socket k family protocol).2
  (opened.calls.foldl system.afterCall k, opened.object, opened.result)

/-- `Bind(address)`. -/
def bindOn (k : κ) (s : IPSocket ℤ) (address : IPAddress) : κ × Bool :=
  let bound := s.bind address (system.bind k s.handle (SocketName.read address.passed)).2
  (bound.2.foldl system.afterCall k, bound.1)

/-- `Listen(maxPendingConnections)`. -/
def listenOn (k : κ) (s : IPSocket ℤ) (maxPendingConnections : ℤ) : κ × Bool :=
  let listening :=
    s.listen maxPendingConnections (system.listen k s.handle maxPendingConnections).2
  (listening.2.foldl system.afterCall k, listening.1)

/-- `Connect(address)`. -/
def connectOn (k : κ) (s : IPSocket ℤ) (address : IPAddress) : κ × ConnectResult :=
  let connected := s.connect posixSockets address
    (system.connect k s.handle (SocketName.read address.passed)).2
  (connected.2.foldl system.afterCall k, connected.1)

/-- `Close()`. -/
def closeOn (k : κ) (s : IPSocket ℤ) : κ × IPSocket ℤ :=
  let closed := s.close posixSockets
  (closed.2.foldl system.afterCall k, closed.1)

/-- `Open(address, protocol, openAttempt)`. -/
def openOn (k : κ) (s : IPSocket ℤ) (address : IPAddress) (protocol : ℕ)
    (openAttempt : OpenAttempt) : κ × IPSocket ℤ × Bool :=
  let name := SocketName.read address.passed
  let created := system.socket k address.getFamily protocol
  let bound := system.bind created.1 created.2 name
  let opened := s.openAddress posixSockets address protocol openAttempt
    { socket := created.2
      bind := bound.2
      listen := (system.listen bound.1 created.2 posixSockets.somaxconn).2
      connect := (system.connect created.1 created.2 name).2 }
  (opened.calls.foldl system.afterCall k, opened.object, opened.result)

/-- `GetAddress()`. -/
def getAddress (k : κ) (s : IPSocket ℤ) (zero : Vector UInt8 8) : IPAddress :=
  SocketSystem.store zero (system.getsockname k s.handle) (.ofFamily familyUnspecified)

/-- `GetPeerAddress()`. -/
def getPeerAddress (k : κ) (s : IPSocket ℤ) (zero : Vector UInt8 8) : IPAddress :=
  SocketSystem.store zero (system.getpeername k s.handle) (.ofFamily familyUnspecified)

/-- `Accept(newAddress)`: the new socket, and the addresses of the caller. -/
def acceptFrom (k : κ) (s : IPSocket ℤ) (newAddress : Option ℕ) (zero : Vector UInt8 8)
    (addresses : ℕ → IPAddress) : κ × IPSocket ℤ × (ℕ → IPAddress) :=
  let answer := system.accept k s.handle
  let address := SocketSystem.store zero answer.2.2 (.ofFamily familyUnspecified)
  let socket := (s.accept answer.2.1).1
  (answer.1, socket,
    if socket.isValid posixSockets then
      (newAddress.map fun x => Function.update addresses x address).getD addresses
    else addresses)

end IPSocket

end SMBB
