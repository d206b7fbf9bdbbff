import SMBB.Construction.SocketOptions

/-!
# The options of a socket, POSIX build

The getters of the options with two levels read the level of IPv4 and, where that cannot be read,
the one of IPv6.  The other options have one level: what their setters and getters do is one call.

What `getsockopt` says of an option that holds a value is a rule of the kernel too: some options
cannot be read, and some values are not reported as they were set.
-/

namespace SMBB

open Requests

/-- `DSCP_MASK`. -/
def dscpMask : ℕ := 0x3F

/-- What `getsockopt` stores for an option that holds a value, unless it fails. -/
abbrev OptionReport := SocketOption → OptionValue → Option ℤ

/-! ## Two levels -/

/-- `MTU_DISCOVER_DEFAULT`, which is `IP_PMTUDISC_DONT`. -/
def mtuDiscoverDefault : ℤ := 0

namespace SocketOptions

section Getters

variable (report : OptionReport) (options : SocketOptions)

/-- `GetOptionInternal(level, name, value)`: whether the option could be read, and `value` then. -/
def getOptionInternal (option : SocketOption) (value : ℤ) : Bool × ℤ :=
  match report option (options.contents option) with
  | some valueOfOption => (true, valueOfOption)
  | none => (false, value)

/-- `GetOptionInternalDefault(level, name, defaultValue)`. -/
def getOptionInternalDefault (option : SocketOption) (defaultValue : ℤ) : ℤ :=
  (getOptionInternal report options option defaultValue).2

/-- The body the four getters share. -/
def getEither (option optionV6 : SocketOption) (value : ℤ) : ℤ :=
  let first := getOptionInternal report options option value
  if first.1 then first.2 else getOptionInternalDefault report options optionV6 first.2

/-- `GetTOS()`. -/
def getTOS : ℤ := getEither report options .ipTos .ipv6Tclass 0

/-- `GetMTUDiscover()`. -/
def getMTUDiscover : ℤ :=
  getEither report options .ipMtuDiscover .ipv6MtuDiscover mtuDiscoverDefault

/-- `GetMulticastHops()`. -/
def getMulticastHops : ℤ := getEither report options .ipMulticastTtl .ipv6MulticastHops (-1)

/-- `GetMulticastLoopback()`. -/
def getMulticastLoopback : Bool :=
  getEither report options .ipMulticastLoop .ipv6MulticastLoop 0 ≠ 0

/-- `GetDSCP()`. -/
def getDSCP : ℤ := getTOS report options >>> (2 : ℕ)

end Getters

/-- `SetDSCP(value)`. -/
def setDSCP (kernel : OptionKernel) (options : SocketOptions) (value : ℕ) :
    Bool × SocketOptions :=
  setTOS kernel options (value <<< 2)

end SocketOptions

/-! ## One level -/

/-- A level and a name of `setsockopt` for the other options. -/
inductive PlainOption
  | tcpNodelay
  | soKeepalive
  | soReuseaddr
  | soReuseport
  | soRcvbuf
  | soSndbuf
deriving DecidableEq

/-- How the kernel of a socket answers its calls that set these options. -/
abbrev PlainKernel := Keeper PlainOption ℤ

/-- These options of one socket. -/
abbrev PlainOptions := Table PlainOption ℤ

/-- What `getsockopt` stores for them. -/
abbrev PlainReport := PlainOption → ℤ → Option ℤ

namespace PlainOptions

section Setters

variable (kernel : PlainKernel) (options : PlainOptions)

/-- `SetOptionInternal(level, name, value)`. -/
def setOptionInternal (option : PlainOption) (value : ℤ) : Bool × PlainOptions :=
  ask kernel options ⟨option, value⟩

/-- `SetImmediateSend(enable)`. -/
def setImmediateSend (enable : Bool) : Bool × PlainOptions :=
  setOptionInternal kernel options .tcpNodelay (if enable then 1 else 0)

/-- `SetKeepAlive(enable)`. -/
def setKeepAlive (enable : Bool) : Bool × PlainOptions :=
  setOptionInternal kernel options .soKeepalive (if enable then 1 else 0)

/-- `SetReuseAddress(enable)`. -/
def setReuseAddress (enable : Bool) : Bool × PlainOptions :=
  setOptionInternal kernel options .soReuseaddr (if enable then 1 else 0)

/-- `SetReusePort(enable)`. -/
def setReusePort (enable : Bool) : Bool × PlainOptions :=
  setOptionInternal kernel options .soReuseport (if enable then 1 else 0)

/-- `SetReceiveBufferSize(size)`. -/
def setReceiveBufferSize (size : ℤ) : Bool × PlainOptions :=
  setOptionInternal kernel options .soRcvbuf size

/-- `SetSendBufferSize(size)`. -/
def setSendBufferSize (size : ℤ) : Bool × PlainOptions :=
  setOptionInternal kernel options .soSndbuf size

end Setters

section Getters

variable (report : PlainReport) (options : PlainOptions)

/-- `GetOptionInternalDefault(level, name, 0)`. -/
def getOptionInternalDefault (option : PlainOption) : ℤ :=
  (report option (options.contents option)).getD 0

/-- `GetImmediateSend()`. -/
def getImmediateSend : Bool := getOptionInternalDefault report options .tcpNodelay ≠ 0

/-- `GetKeepAlive()`. -/
def getKeepAlive : Bool := getOptionInternalDefault report options .soKeepalive ≠ 0

/-- `GetReuseAddress()`. -/
def getReuseAddress : Bool := getOptionInternalDefault report options .soReuseaddr ≠ 0

/-- `GetReusePort()`. -/
def getReusePort : Bool := getOptionInternalDefault report options .soReuseport ≠ 0

/-- `GetReceiveBufferSize()`. -/
def getReceiveBufferSize : ℤ := getOptionInternalDefault report options .soRcvbuf

/-- `GetSendBufferSize()`. -/
def getSendBufferSize : ℤ := getOptionInternalDefault report options .soSndbuf

end Getters

end PlainOptions

end SMBB
