import SMBB.Framework.Requests
import SMBB.Construction.Interfaces
import Mathlib.Data.Nat.Bitwise

/-!
# The options with two levels, POSIX build

Five setters know their option at the level of IPv4 and at that of IPv6.  Each asks for the first
and, refused, for the second; a request granted at either level is the setter's success.  Which
of them a kernel grants is its own affair: `OptionKernel` is any rule, and the two levels are
slots of one table.

The build is one where the headers define every option named here.
-/

namespace SMBB

open Requests

/-! ## Options and their values -/

/-- A level and a name of `setsockopt`. -/
inductive SocketOption
  | ipTos
  | ipMtuDiscover
  | ipMulticastTtl
  | ipMulticastLoop
  | ipMulticastIf
  | ipv6Tclass
  | ipv6MtuDiscover
  | ipv6MulticastHops
  | ipv6MulticastLoop
  | ipv6MulticastIf
deriving DecidableEq

/-- The object whose bytes a call hands over. -/
inductive OptionValue
  | int (value : ℤ)
  | inAddr (addr : Vector UInt8 4)
deriving DecidableEq

/-- How the kernel of a socket answers its calls of `setsockopt`. -/
abbrev OptionKernel := Keeper SocketOption OptionValue

/-- The options of one socket. -/
abbrev SocketOptions := Table SocketOption OptionValue

/-- `TOS_MASK`. -/
def tosMask : ℕ := 0xFE

/-! ## The setters -/

namespace SocketOptions

variable (kernel : OptionKernel)

/-- `SetOptionInternal(level, name, value)`. -/
def setOptionInternal (options : SocketOptions) (option : SocketOption) (value : OptionValue) :
    Bool × SocketOptions :=
  ask kernel options ⟨option, value⟩

/-- The body the five setters share. -/
def setEither (options : SocketOptions) (option : SocketOption) (value : OptionValue)
    (optionV6 : SocketOption) (valueV6 : OptionValue) : Bool × SocketOptions :=
  let first := setOptionInternal kernel options option value
  if first.1 then (true, first.2)
  else setOptionInternal kernel first.2 optionV6 valueV6

/-- `SetTOS(value)`, the `TypeOfService` as its number. -/
def setTOS (options : SocketOptions) (value : ℕ) : Bool × SocketOptions :=
  setEither kernel options .ipTos (.int (value &&& tosMask : ℕ))
    .ipv6Tclass (.int (value &&& tosMask : ℕ))

/-- `SetMTUDiscover(value)`. -/
def setMTUDiscover (options : SocketOptions) (value : ℤ) : Bool × SocketOptions :=
  setEither kernel options .ipMtuDiscover (.int value) .ipv6MtuDiscover (.int value)

/-- `SetMulticastHops(value)`. -/
def setMulticastHops (options : SocketOptions) (value : ℤ) : Bool × SocketOptions :=
  setEither kernel options .ipMulticastTtl (.int value) .ipv6MulticastHops (.int value)

/-- `SetMulticastLoopback(value)`. -/
def setMulticastLoopback (options : SocketOptions) (value : Bool) : Bool × SocketOptions :=
  setEither kernel options .ipMulticastLoop (.int (if value then 1 else 0))
    .ipv6MulticastLoop (.int (if value then 1 else 0))

/-- `SetMulticastSendInterface(localAddress)`.  The value for IPv4 is `sin_addr`, whatever the
family of `localAddress`. -/
def setMulticastSendInterface (interfaces : Interfaces) (options : SocketOptions)
    (localAddress : IPAddress) : Bool × SocketOptions :=
  setEither kernel options .ipMulticastIf (.inAddr localAddress.sinAddr)
    .ipv6MulticastIf (.int (localAddress.getInterfaceIndex interfaces))

/-- The shared body is a turn of two requests. -/
lemma setEither_eq_askInTurn (options : SocketOptions) (option : SocketOption)
    (value : OptionValue) (optionV6 : SocketOption) (valueV6 : OptionValue) :
    setEither kernel options option value optionV6 valueV6
      = askInTurn kernel [⟨option, value⟩, ⟨optionV6, valueV6⟩] options := by
  rw [askInTurn, askInTurn_singleton]
  rfl

end SocketOptions

end SMBB
