import SMBB.Construction.InterfacesWindows

/-!
# Multicast memberships

A membership is asked for with a structure of the family of the group.  Those of IPv4 name an
interface by its address, that of IPv6 by its index.  The address union is read for them by
member, whatever member it holds: of the arguments, only the group is asked for its family.

`setsockopt` is a parameter, and so is where a build finds its interfaces.
-/

namespace SMBB

/-- Where a build finds its interfaces. -/
inductive InterfaceSource
  | posix (interfaces : Interfaces)
  | windows (getAdaptersAddresses : Windows.GetAdaptersAddresses)

/-- `GetInterfaceIndex()`, of the build. -/
def InterfaceSource.getInterfaceIndex : InterfaceSource → IPAddress → ℤ
  | .posix interfaces, a => a.getInterfaceIndex interfaces
  | .windows getAdaptersAddresses, a => Windows.getInterfaceIndex getAdaptersAddresses a

/-- The options that a membership is asked for and given up with. -/
inductive MembershipOption
  | ipAddMembership
  | ipDropMembership
  | ipv6AddMembership
  | ipv6DropMembership
  | ipAddSourceMembership
  | ipDropSourceMembership
deriving DecidableEq

/-- `ip_mreq`, `ipv6_mreq` and `ip_mreq_source`. -/
inductive MembershipRequest
  | ipMreq (multiaddr interface : Vector UInt8 4)
  | ipv6Mreq (multiaddr : Vector UInt8 16) (interface : BitVec 32)
  | ipMreqSource (multiaddr interface sourceaddr : Vector UInt8 4)
deriving DecidableEq

/-- A call of `setsockopt`. -/
structure MembershipCall where
  option : MembershipOption
  request : MembershipRequest
deriving DecidableEq

/-- What a function returns, and the calls it made. -/
abbrev MembershipOutcome := Bool × List MembershipCall

/-- `setsockopt(...) == 0`. -/
def MembershipCall.make (setsockopt : MembershipCall → Bool) (call : MembershipCall) :
    MembershipOutcome :=
  (setsockopt call, [call])

/-- `ManageMulticastAddress(subscribe, multicastAddress, localAddress)`. -/
def manageMulticastAddress (setsockopt : MembershipCall → Bool) (source : InterfaceSource)
    (subscribe : Bool) (multicastAddress localAddress : IPAddress) : MembershipOutcome :=
  if multicastAddress.getFamily = ipv4 then
    MembershipCall.make setsockopt
      { option := if subscribe then .ipAddMembership else .ipDropMembership
        request := .ipMreq multicastAddress.sinAddr localAddress.sinAddr }
  else if multicastAddress.getFamily = ipv6 then
    MembershipCall.make setsockopt
      { option := if subscribe then .ipv6AddMembership else .ipv6DropMembership
        request := .ipv6Mreq multicastAddress.sin6Addr
          (BitVec.ofInt 32 (source.getInterfaceIndex localAddress)) }
  else (false, [])

/-- `ManageMulticastSourceAddress(subscribe, multicastAddress, sourceAddress, localAddress)`. -/
def manageMulticastSourceAddress (setsockopt : MembershipCall → Bool) (subscribe : Bool)
    (multicastAddress sourceAddress localAddress : IPAddress) : MembershipOutcome :=
  if multicastAddress.getFamily = ipv4 then
    MembershipCall.make setsockopt
      { option := if subscribe then .ipAddSourceMembership else .ipDropSourceMembership
        request := .ipMreqSource multicastAddress.sinAddr localAddress.sinAddr
          sourceAddress.sinAddr }
  else (false, [])

end SMBB
