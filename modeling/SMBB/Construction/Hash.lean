import SMBB.Construction.Address
import SMBB.Framework.Fnv

/-!
# `IPAddress::Hash`

Every byte of the address is read through a pointer and widened to `size_t` for the exclusive or.
The branch for IPv4 reads through `const unsigned char *`, the branch for IPv6 through
`const char *`, and whether `char` has a sign is up to the platform.  So `hash` depends on two
things that platforms choose: the width `w` of `size_t`, and `charSigned`.
-/

namespace SMBB
namespace IPAddress

/-- `multiplier`. -/
def multiplier : ℕ := 16777619

/-- The value that `hash` starts from. -/
def hashOffset : ℕ := 0x811c9dc5

/-- A byte that was read as a character, as a `size_t`. -/
def widen (w : ℕ) (signed : Bool) (b : UInt8) : BitVec w :=
  if signed then b.toBitVec.signExtend w else b.toBitVec.setWidth w

/-- `hash = (hash ^ b) * multiplier`. -/
def hashByte {w : ℕ} (signed : Bool) (hash : BitVec w) (b : UInt8) : BitVec w :=
  Fnv.absorb multiplier hash (widen w signed b)

/-- `_ipv4.sin_port` and `_ipv6.sin6_port` as a host reads them, the low byte first. -/
def storedPort (a : IPAddress) : BitVec 16 :=
  BitVec.ofNat 16 ((a.sinPort.get 0).toNat + 256 * (a.sinPort.get 1).toNat)

/-- `static_cast<unsigned char>(port)`. -/
def lowByte (port : BitVec 16) : UInt8 := UInt8.ofNat port.toNat

/-- `static_cast<unsigned char>(port >> 8)`. -/
def highByte (port : BitVec 16) : UInt8 := UInt8.ofNat (port >>> 8).toNat

/-- The port, behind the address. -/
def hashPort {w : ℕ} (hash : BitVec w) (port : BitVec 16) : BitVec w :=
  hashByte false (hashByte false hash (lowByte port)) (highByte port)

/-- `Hash(includePort)`. -/
def hash (w : ℕ) (charSigned : Bool) (a : IPAddress) (includePort : Bool) : BitVec w :=
  let hash := BitVec.ofNat w hashOffset
  if a.getFamily = ipv4 then
    let hash := a.sinAddr.toList.foldl (hashByte false) hash
    if includePort then hashPort hash a.storedPort else hash
  else if a.getFamily = ipv6 then
    let hash := a.sin6Addr.toList.foldl (hashByte charSigned) hash
    if includePort then hashPort hash a.storedPort else hash
  else hash

lemma port_eq (a : IPAddress) :
    a.port = 256 * (a.sinPort.get 0).toNat + (a.sinPort.get 1).toNat := rfl

lemma storedPort_toNat (a : IPAddress) :
    a.storedPort.toNat = (a.sinPort.get 0).toNat + 256 * (a.sinPort.get 1).toNat := by
  have h0 := (a.sinPort.get 0).toNat_lt
  have h1 := (a.sinPort.get 1).toNat_lt
  rw [storedPort, BitVec.toNat_ofNat, Nat.mod_eq_of_lt (by omega)]

@[simp] lemma lowByte_storedPort (a : IPAddress) : lowByte a.storedPort = a.sinPort.get 0 := by
  apply UInt8.toNat_inj.mp
  have h0 := (a.sinPort.get 0).toNat_lt
  rw [lowByte, storedPort_toNat, UInt8.toNat_ofNat']
  omega

@[simp] lemma highByte_storedPort (a : IPAddress) : highByte a.storedPort = a.sinPort.get 1 := by
  apply UInt8.toNat_inj.mp
  have h0 := (a.sinPort.get 0).toNat_lt
  have h1 := (a.sinPort.get 1).toNat_lt
  rw [highByte, BitVec.toNat_ushiftRight, storedPort_toNat, UInt8.toNat_ofNat',
    Nat.shiftRight_eq_div_pow]
  omega

end IPAddress
end SMBB
