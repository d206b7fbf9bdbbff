import SMBB.Construction.Address

/-!
# Addresses made from nothing

The constructor from a family, the loopback addresses, and the predicates on addresses that
`SMBB/Construction/Address.lean` does not have.
-/

namespace SMBB
namespace IPAddress

/-- `IPAddress(family)`: zeros, and the family. -/
def ofFamily (family : ℕ) : IPAddress :=
  ⟨(#v[UInt8.ofNat family, UInt8.ofNat (family / 256)] ++ Vector.replicate 26 (0 : UInt8) :
    Vector UInt8 (2 + 26))⟩

/-- `memcpy` of bytes to the place `offset`. -/
def copyTo {len : ℕ} (a : IPAddress) (offset : ℕ) (source : Vector UInt8 len) : IPAddress :=
  ⟨Vector.ofFn fun i : Fin 28 =>
    if h : offset ≤ i ∧ i - offset < len then source.get ⟨i - offset, h.2⟩ else a.bytes.get i⟩

/-- `Loopback(family)`. -/
def loopback (family : ℕ) : IPAddress :=
  if family = ipv4 then (ofFamily family).copyTo 4 loopbackIP
  else if family = ipv6 then (ofFamily family).copyTo 8 loopbackIPv6
  else ofFamily family

/-- `IsMulticast()`. -/
def isMulticast (a : IPAddress) : Bool :=
  if a.getFamily = ipv4 then (a.sinAddr.toList.headD 0).toNat &&& 0xF0 = 0xE0
  else if a.getFamily = ipv6 then (a.sin6Addr.toList.headD 0).toNat &&& 0xFF = 0xFF
  else false

/-- `IsValid()`. -/
def isValid (a : IPAddress) : Bool := a.getFamily ≠ familyUnspecified

end IPAddress
end SMBB
