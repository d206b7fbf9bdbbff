import SMBB.Construction.Address
import SMBB.Framework.Ownership

/-!
# `IPSocket`: opening and closing

An `IPSocket` is its handle; a copy of the object is a copy of the handle.  `Open` stores the
handle before it goes on to `bind`, `listen` or `connect`.  What the system answers is a parameter,
and every operation returns the calls it made with their answers, in order; the socket options
that `Open` sets are left out, as it does not look whether they were set.  What a call means for
the handles is `SocketCall.event`.

The handles and the errors of `connect` differ between the builds; `SocketPlatform` is what the
operations need to know of them.
-/

namespace SMBB

/-- What differs between the builds. -/
structure SocketPlatform (δ : Type) where
  /-- `INVALID_HANDLE`. -/
  invalidHandle : δ
  somaxconn : ℤ
  /-- `IP_SOCKET_ERROR(ISCONN)`. -/
  isConn : ℤ
  /-- The errors for which `Connect` returns `CONNECT_PENDING`. -/
  pending : List ℤ

/-- The POSIX build: `EALREADY` and `EINPROGRESS` stand for a pending connection. -/
def posixSockets : SocketPlatform ℤ := ⟨-1, 4096, 106, [114, 115]⟩

/-- The Windows build: `WSAEALREADY`, `WSAEWOULDBLOCK` and `WSAEINPROGRESS`. -/
def windowsSockets : SocketPlatform ℕ :=
  ⟨0xffffffffffffffff, 0x7fffffff, 10056, [10037, 10035, 10036]⟩

/-- `OpenAttempt`. -/
inductive OpenAttempt
  | openOnly
  | openAndBind
  | openBindAndListen
  | openAndConnect
deriving DecidableEq

/-- `ConnectResult`. -/
inductive ConnectResult
  | failed
  | success
  | pending
deriving DecidableEq

/-! ## Calls -/

/-- A call of the system with its answer; the one of `connect` is its error, if it has one. -/
inductive SocketCall (δ : Type)
  | socket (family protocol : ℕ) (answer : δ)
  | accept (handle answer : δ)
  | bind (handle : δ) (address : IPAddress) (ok : Bool)
  | listen (handle : δ) (maxPendingConnections : ℤ) (ok : Bool)
  | connect (handle : δ) (address : IPAddress) (answer : Option ℤ)
  | close (handle : δ)
deriving DecidableEq

/-- What the system answers to the calls of one `Open`. -/
structure OpenAnswers (δ : Type) where
  socket : δ
  bind : Bool
  listen : Bool
  connect : Option ℤ

variable {δ : Type}

/-! ## The object -/

/-- `IPSocket`. -/
structure IPSocket (δ : Type) where
  handle : δ
deriving DecidableEq

/-- What `Open` leaves behind. -/
structure Opened (δ : Type) where
  object : IPSocket δ
  result : Bool
  calls : List (SocketCall δ)

namespace IPSocket

variable (p : SocketPlatform δ)

/-- `IPSocket()`. -/
def construct : IPSocket δ := ⟨p.invalidHandle⟩

/-- `Bind(address)`. -/
def bind (s : IPSocket δ) (address : IPAddress) (ok : Bool) : Bool × List (SocketCall δ) :=
  (ok, [.bind s.handle address ok])

/-- `Listen(maxPendingConnections)`. -/
def listen (s : IPSocket δ) (maxPendingConnections : ℤ) (ok : Bool) :
    Bool × List (SocketCall δ) :=
  (ok, [.listen s.handle maxPendingConnections ok])

/-- What `Connect` makes of the answer of `connect`. -/
def connectResult : Option ℤ → ConnectResult
  | none => .success
  | some error =>
    if error = p.isConn then .success
    else if error ∈ p.pending then .pending
    else .failed

/-- `Connect(address)`. -/
def connect (s : IPSocket δ) (address : IPAddress) (answer : Option ℤ) :
    ConnectResult × List (SocketCall δ) :=
  (connectResult p answer, [.connect s.handle address answer])

/-- `Close()`. -/
def close (s : IPSocket δ) : IPSocket δ × List (SocketCall δ) :=
  (⟨p.invalidHandle⟩, [.close s.handle])

/-- `Accept()`: the new socket. -/
def accept (s : IPSocket δ) (answer : δ) : IPSocket δ × List (SocketCall δ) :=
  (⟨answer⟩, [.accept s.handle answer])

variable [DecidableEq δ]

/-- `IsValid()`. -/
def isValid (s : IPSocket δ) : Bool := s.handle ≠ p.invalidHandle

/-- `Open(family, protocol)`. -/
def openFamily (s : IPSocket δ) (family protocol : ℕ) (answer : δ) : Opened δ :=
  if s.isValid p then ⟨s, false, []⟩
  else
    let s : IPSocket δ := ⟨answer⟩
    ⟨s, s.isValid p, [.socket family protocol answer]⟩

/-- `Open(address, protocol, openAttempt)`. -/
def openAddress (s : IPSocket δ) (address : IPAddress) (protocol : ℕ) (openAttempt : OpenAttempt)
    (os : OpenAnswers δ) : Opened δ :=
  let opened := s.openFamily p address.getFamily protocol os.socket
  let s := opened.object
  if opened.result then
    match openAttempt with
    | .openAndBind =>
      let (bound, calls) := s.bind address os.bind
      ⟨s, bound, opened.calls ++ calls⟩
    | .openBindAndListen =>
      let (bound, calls) := s.bind address os.bind
      if bound then
        let (listening, calls') := s.listen p.somaxconn os.listen
        ⟨s, listening, opened.calls ++ (calls ++ calls')⟩
      else ⟨s, false, opened.calls ++ calls⟩
    | .openAndConnect =>
      let (connected, calls) := s.connect p address os.connect
      ⟨s, connected ≠ .failed, opened.calls ++ calls⟩
    | .openOnly => ⟨s, true, opened.calls⟩
  else ⟨s, false, opened.calls⟩

end IPSocket

/-! ## `AutoCloseIPSocket` -/

namespace AutoCloseIPSocket

/-- `Swap(other)`, on objects that are found by their places: the two may be the same. -/
def swap {ι α : Type} [DecidableEq ι] (objects : ι → α) (this other : ι) : ι → α :=
  let otherSocket := objects other
  let objects := Function.update objects other (objects this)
  Function.update objects this otherSocket

/-- `~AutoCloseIPSocket()`. -/
def destroy [DecidableEq δ] (p : SocketPlatform δ) (s : IPSocket δ) : List (SocketCall δ) :=
  if s.isValid p then (s.close p).2 else []

end AutoCloseIPSocket

/-! ## What the calls mean for the handles -/

/-- The event of a call, if it is one for the handles.  Closing the invalid handle fails. -/
def SocketCall.event [DecidableEq δ] (p : SocketPlatform δ) :
    SocketCall δ → Option (Ownership.Event δ)
  | .socket _ _ answer => if answer = p.invalidHandle then none else some (.acquire answer)
  | .accept _ answer => if answer = p.invalidHandle then none else some (.acquire answer)
  | .close handle => if handle = p.invalidHandle then none else some (.release handle)
  | .bind _ _ _ => none
  | .listen _ _ _ => none
  | .connect _ _ _ => none

/-- The events of a sequence of calls. -/
def socketEvents [DecidableEq δ] (p : SocketPlatform δ) (calls : List (SocketCall δ)) :
    List (Ownership.Event δ) :=
  calls.filterMap (SocketCall.event p)

end SMBB
