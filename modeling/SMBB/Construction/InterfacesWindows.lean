import SMBB.Construction.Interfaces

/-!
# `GetInterfaceIndex`, Windows build

The function walks the adapters that `GetAdaptersAddresses` lists for the family of the address,
and the unicast addresses of each.  The family of a listed address is not looked at again.
-/

namespace SMBB.Windows

/-- The fields of an `IP_ADAPTER_ADDRESSES` that are read. -/
structure Adapter where
  ifIndex : BitVec 32
  ipv6IfIndex : BitVec 32
  unicastAddresses : List (Option IPAddress)

/-- `GetAdaptersAddresses`: the adapters for a family, as the last of the calls lists them that are
made while the buffer is too small, or `none` if that one fails. -/
abbrev GetAdaptersAddresses := ℕ → Option (List Adapter)

/-- The index that is taken of an adapter, as an `int`. -/
def Adapter.index (it : Adapter) (family : ℕ) : BitVec 32 :=
  if family = ipv4 then it.ifIndex else it.ipv6IfIndex

/-- The address bytes are those of the list. -/
def carriedBy (a : IPAddress) (addr : Option IPAddress) : Bool :=
  match addr with
  | none => false
  | some addr =>
    (a.getFamily = ipv4 && addr.sinAddr = a.sinAddr)
      || (a.getFamily = ipv6 && addr.sin6Addr = a.sin6Addr)

/-- The inner loop, over the addresses of the adapter `it`. -/
def unicastLoop (a : IPAddress) (it : Adapter) : List (Option IPAddress) → ℤ → ℤ
  | [], result => result
  | addr :: rest, result =>
    if result < 0 then
      unicastLoop a it rest (if carriedBy a addr then (it.index a.getFamily).toInt else result)
    else result

/-- The outer loop: adapters are looked at while `result` is negative. -/
def adapterLoop (a : IPAddress) : List Adapter → ℤ → ℤ
  | [], result => result
  | it :: rest, result =>
    if result < 0 then adapterLoop a rest (unicastLoop a it it.unicastAddresses result)
    else result

/-- `GetInterfaceIndex()`. -/
def getInterfaceIndex (getAdaptersAddresses : GetAdaptersAddresses) (a : IPAddress) : ℤ :=
  if a.getFamily = familyUnspecified ∨ a.isAny then 0
  else
    match getAdaptersAddresses a.getFamily with
    | none => -1
    | some adapters => adapterLoop a adapters (-1)

end SMBB.Windows
