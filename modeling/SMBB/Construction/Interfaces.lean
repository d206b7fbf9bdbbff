import SMBB.Construction.Address

/-!
# `GetInterfaceIndex`, POSIX build

The function walks the list of `getifaddrs` and asks `if_nametoindex` for the name of the first
entry that carries the address.  Both answers come from outside; they are the fields of
`Interfaces`.  `if_nametoindex` returns an `unsigned int` and the function an `int`, so an index
of `2 ^ 31` or more comes out negative and the walk goes on.
-/

namespace SMBB

/-- One entry of the list, as far as it is read.  An `ifa_addr` of another family than the two
supported ones is only asked for that family. -/
structure Ifaddr where
  name : List Char
  addr : Option IPAddress

/-- What the system knows of its interfaces: the list, or `none` where `getifaddrs` fails, and
the index of each name. -/
structure Interfaces where
  getifaddrs : Option (List Ifaddr)
  ifNametoindex : List Char → BitVec 32

namespace IPAddress

/-- The entry carries the address: same family, same address bytes. -/
def carriedBy (a : IPAddress) (it : Ifaddr) : Bool :=
  match it.addr with
  | none => false
  | some addr =>
    a.getFamily = addr.getFamily
      && ((a.getFamily = ipv6 && addr.sin6Addr = a.sin6Addr)
        || (a.getFamily = ipv4 && addr.sinAddr = a.sinAddr))

/-- The loop of `GetInterfaceIndex`: entries are looked at while `result` is negative. -/
def interfaceIndexLoop (interfaces : Interfaces) (a : IPAddress) : List Ifaddr → ℤ → ℤ
  | [], result => result
  | it :: rest, result =>
    if result < 0 then
      interfaceIndexLoop interfaces a rest
        (if a.carriedBy it then (interfaces.ifNametoindex it.name).toInt else result)
    else result

/-- `GetInterfaceIndex()`. -/
def getInterfaceIndex (interfaces : Interfaces) (a : IPAddress) : ℤ :=
  if a.getFamily = familyUnspecified ∨ a.isAny then 0
  else
    match interfaces.getifaddrs with
    | none => -1
    | some addresses => interfaceIndexLoop interfaces a addresses (-1)

end IPAddress

end SMBB
