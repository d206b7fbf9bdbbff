import Mathlib.Tactic.Lemma
import Mathlib.Data.List.OfFn

/-!
# The address union

`IPAddress` is a union of `sockaddr_in6` and `sockaddr_in`, so one value is twenty-eight bytes
that both members read.  The model keeps those bytes, and every field is a slice of them at the
offset the Linux headers give it:

* `sin_family` and `sin6_family` at 0, two bytes in host order (little-endian hosts);
* `sin_port` and `sin6_port` at 2, two bytes in network order;
* `sin_addr` at 4, four bytes, over the `sin6_flowinfo` of the other member;
* `sin6_addr` at 8, sixteen bytes;
* `sin6_scope_id` at 24, four bytes.

Reading a field of one family out of a value of the other is therefore a computation like any
other: `sinAddr` of an IPv6 value is its flow information.  Nothing but `getFamily` says which
member a value holds.

`sin6Addr` is a vector of sixteen bytes, so no later definition can read past the address.
-/

namespace SMBB

/-! ## Families -/

/-- `AF_INET`. -/
def ipv4 : ℕ := 2

/-- `AF_INET6`. -/
def ipv6 : ℕ := 10

/-- `AF_UNSPEC`. -/
def familyUnspecified : ℕ := 0

lemma ipv6_ne_ipv4 : ipv6 ≠ ipv4 := by decide

/-! ## The union and its fields -/

/-- The fields of a `sockaddr_in`, its `sin_zero` included. -/
structure SockaddrIn where
  port : Vector UInt8 2
  addr : Vector UInt8 4
  zero : Vector UInt8 8
deriving DecidableEq

/-- The fields of a `sockaddr_in6`. -/
structure SockaddrIn6 where
  port : Vector UInt8 2
  flowinfo : Vector UInt8 4
  addr : Vector UInt8 16
  scopeId : Vector UInt8 4
deriving DecidableEq

/-- The object representation of one `IPAddress`: `sizeof(sockaddr_in6)` bytes. -/
structure IPAddress where
  bytes : Vector UInt8 28
deriving DecidableEq

/-- `LOOPBACK_IP`: 127, 0, 0, 1. -/
def loopbackIP : Vector UInt8 4 := #v[127, 0, 0].push 1

/-- `LOOPBACK_IPV6`: fifteen zeros and 1. -/
def loopbackIPv6 : Vector UInt8 16 := (Vector.replicate 15 0).push 1

namespace IPAddress

/-- `len` bytes of the representation from `offset` on. -/
def slice (a : IPAddress) (offset len : ℕ) (h : offset + len ≤ 28) : Vector UInt8 len :=
  Vector.ofFn fun i => a.bytes.get ⟨offset + i, by omega⟩

/-- A vector as the list of its entries. -/
lemma toList_eq_ofFn {α : Type*} {n : ℕ} (v : Vector α n) : v.toList = List.ofFn v.get := by
  have hv : v = Vector.ofFn v.get := by
    apply Vector.ext
    intro i hi
    rw [Vector.getElem_ofFn]
    rfl
  rw [← Vector.toList_ofFn, ← hv]

/-- Two values are the same when all their bytes are. -/
lemma eq_of_get {a b : IPAddress} (h : ∀ i, a.bytes.get i = b.bytes.get i) : a = b := by
  have hbytes : a.bytes = b.bytes := by
    apply Vector.ext
    intro i hi
    exact h ⟨i, hi⟩
  cases a
  exact congrArg mk hbytes

/-- `sin_port` and `sin6_port`, which share their place. -/
def sinPort (a : IPAddress) : Vector UInt8 2 := a.slice 2 2 (by decide)

/-- `_ipv4.sin_addr`. -/
def sinAddr (a : IPAddress) : Vector UInt8 4 := a.slice 4 4 (by decide)

/-- `_ipv6.sin6_addr`. -/
def sin6Addr (a : IPAddress) : Vector UInt8 16 := a.slice 8 16 (by decide)

/-- `_ipv6.sin6_flowinfo`. -/
def sin6Flowinfo (a : IPAddress) : Vector UInt8 4 := a.slice 4 4 (by decide)

/-- `_ipv6.sin6_scope_id`. -/
def sin6ScopeId (a : IPAddress) : Vector UInt8 4 := a.slice 24 4 (by decide)

/-- `ntohs` of two bytes in network order. -/
def ntohs (p : Vector UInt8 2) : ℕ := 256 * p[0].toNat + p[1].toNat

/-- `ntohl` of four bytes in network order. -/
def ntohl (p : Vector UInt8 4) : ℕ :=
  0x1000000 * (p.get 0).toNat + 0x10000 * (p.get 1).toNat + 0x100 * (p.get 2).toNat
    + (p.get 3).toNat

lemma ntohs_lt (p : Vector UInt8 2) : ntohs p < 65536 := by
  have h0 := p[0].toNat_lt
  have h1 := p[1].toNat_lt
  simp only [ntohs]
  omega

lemma ntohs_injective {p q : Vector UInt8 2} (h : ntohs p = ntohs q) : p = q := by
  have hp := p[1].toNat_lt
  have hq := q[1].toNat_lt
  simp only [ntohs] at h
  have h0 : p[0] = q[0] := UInt8.toNat_inj.mp (by omega)
  have h1 : p[1] = q[1] := UInt8.toNat_inj.mp (by omega)
  apply Vector.ext
  intro i hi
  match i, hi with
  | 0, _ => exact h0
  | 1, _ => exact h1

/-- `GetFamily()`: the two family bytes, low byte first. -/
def getFamily (a : IPAddress) : ℕ :=
  (a.bytes.get 0).toNat + 256 * (a.bytes.get 1).toNat

/-- The port in host order. -/
def port (a : IPAddress) : ℕ := ntohs a.sinPort

lemma port_lt (a : IPAddress) : a.port < 65536 := ntohs_lt a.sinPort

/-- `IPAddress(const sockaddr_in &)`.  The member is shorter than the union: `rest` is what the
storage behind it holds. -/
def ofSockaddrIn (address : SockaddrIn) (rest : Vector UInt8 12) : IPAddress :=
  ⟨(#v[(2 : UInt8), 0] ++ address.port ++ address.addr ++ address.zero ++ rest :
    Vector UInt8 (2 + 2 + 4 + 8 + 12))⟩

/-- `IPAddress(const sockaddr_in6 &)`. -/
def ofSockaddrIn6 (address : SockaddrIn6) : IPAddress :=
  ⟨(#v[(10 : UInt8), 0] ++ address.port ++ address.flowinfo ++ address.addr ++ address.scopeId :
    Vector UInt8 (2 + 2 + 4 + 16 + 4))⟩

/-- The `sockaddr_in` that the representation holds. -/
def sockaddrIn (a : IPAddress) : SockaddrIn where
  port := a.sinPort
  addr := a.sinAddr
  zero := a.slice 8 8 (by decide)

/-- The `sockaddr_in6` that the representation holds. -/
def sockaddrIn6 (a : IPAddress) : SockaddrIn6 where
  port := a.sinPort
  flowinfo := a.slice 4 4 (by decide)
  addr := a.sin6Addr
  scopeId := a.slice 24 4 (by decide)

/-- `htons`, in memory. -/
def htons (port : ℕ) : Vector UInt8 2 := #v[UInt8.ofNat (port / 256), UInt8.ofNat port]

/-- Stores a port. -/
def setPort (a : IPAddress) (port : Vector UInt8 2) : IPAddress :=
  ⟨(a.bytes.set 2 port[0]).set 3 port[1]⟩

/-- `IPAddress(const IPAddress &, unsigned short port)`. -/
def withPort (a : IPAddress) (port : ℕ) : IPAddress :=
  if a.getFamily = ipv4 then a.setPort (htons port)
  else if a.getFamily = ipv6 then a.setPort (htons port)
  else a

/-- The result of `ntohs` as a `short`. -/
def toShort (port : ℕ) : ℤ := (BitVec.ofNat 16 port).toInt

/-- `GetPort()`. -/
def getPort (a : IPAddress) : ℤ :=
  if a.getFamily = ipv4 then toShort (ntohs a.sinPort)
  else if a.getFamily = ipv6 then toShort (ntohs a.sinPort)
  else 0

/-- `sizeof(sockaddr_in)`. -/
def sizeofSockaddrIn : ℕ := 16

/-- `sizeof(sockaddr_in6)`, which is `sizeof(IPAddress)`. -/
def sizeofSockaddrIn6 : ℕ := 28

/-- `GetLength()`. -/
def getLength (a : IPAddress) : ℕ :=
  if a.getFamily = ipv4 then sizeofSockaddrIn
  else if a.getFamily = ipv6 then sizeofSockaddrIn6
  else 0

/-- `operator==`: `memcmp` of the address bytes and equality of the stored ports. -/
def operatorEq (a other : IPAddress) : Bool :=
  if a.getFamily = other.getFamily then
    if a.getFamily = ipv4 then a.sinAddr = other.sinAddr && a.sinPort = other.sinPort
    else if a.getFamily = ipv6 then a.sin6Addr = other.sin6Addr && a.sinPort = other.sinPort
    else false
  else false

/-- `IsAny()`. -/
def isAny (a : IPAddress) : Bool :=
  if a.getFamily = ipv4 then a.sinAddr = Vector.replicate 4 0
  else if a.getFamily = ipv6 then a.sin6Addr = Vector.replicate 16 0
  else false

/-- `IsLoopback()`. -/
def isLoopback (a : IPAddress) : Bool :=
  if a.getFamily = ipv4 then a.sinAddr = loopbackIP
  else if a.getFamily = ipv6 then a.sin6Addr = loopbackIPv6
  else false

/-- The bytes `operator==` and `Hash` look at: the host address of a value, by its family. -/
def addressBytes (a : IPAddress) : List UInt8 :=
  if a.getFamily = ipv4 then a.sinAddr.toList
  else if a.getFamily = ipv6 then a.sin6Addr.toList
  else []

lemma addressBytes_ipv4 {a : IPAddress} (h : a.getFamily = ipv4) :
    a.addressBytes = a.sinAddr.toList := if_pos h

lemma addressBytes_ipv6 {a : IPAddress} (h : a.getFamily = ipv6) :
    a.addressBytes = a.sin6Addr.toList := by
  rw [addressBytes, h, if_neg ipv6_ne_ipv4, if_pos rfl]

/-! ## Fields of a value that was put together -/

lemma getFamily_eq (a : IPAddress) :
    a.getFamily = a.bytes[0].toNat + 256 * a.bytes[1].toNat := rfl

lemma getElem_slice (a : IPAddress) {offset len : ℕ} (h : offset + len ≤ 28) {i : ℕ}
    (hi : i < len) : (a.slice offset len h)[i] = a.bytes[offset + i] := by
  rw [slice, Vector.getElem_ofFn]
  rfl

lemma getElem_ofSockaddrIn_family (address : SockaddrIn) (rest : Vector UInt8 12) {i : ℕ}
    (hi : i < 2) : (ofSockaddrIn address rest).bytes[i] = #v[(2 : UInt8), 0][i] := by
  simp only [ofSockaddrIn]
  rw [Vector.getElem_append_left (by omega), Vector.getElem_append_left (by omega),
    Vector.getElem_append_left (by omega), Vector.getElem_append_left (by omega)]

lemma getElem_ofSockaddrIn6_family (address : SockaddrIn6) {i : ℕ} (hi : i < 2) :
    (ofSockaddrIn6 address).bytes[i] = #v[(10 : UInt8), 0][i] := by
  simp only [ofSockaddrIn6]
  rw [Vector.getElem_append_left (by omega), Vector.getElem_append_left (by omega),
    Vector.getElem_append_left (by omega), Vector.getElem_append_left (by omega)]

@[simp] lemma getFamily_ofSockaddrIn (address : SockaddrIn) (rest : Vector UInt8 12) :
    (ofSockaddrIn address rest).getFamily = ipv4 := by
  rw [getFamily_eq, getElem_ofSockaddrIn_family _ _ Nat.zero_lt_two,
    getElem_ofSockaddrIn_family _ _ Nat.one_lt_two]
  rfl

@[simp] lemma getFamily_ofSockaddrIn6 (address : SockaddrIn6) :
    (ofSockaddrIn6 address).getFamily = ipv6 := by
  rw [getFamily_eq, getElem_ofSockaddrIn6_family _ Nat.zero_lt_two,
    getElem_ofSockaddrIn6_family _ Nat.one_lt_two]
  rfl

@[simp] lemma sinAddr_ofSockaddrIn (address : SockaddrIn) (rest : Vector UInt8 12) :
    (ofSockaddrIn address rest).sinAddr = address.addr := by
  apply Vector.ext
  intro i hi
  rw [sinAddr, getElem_slice _ _ hi]
  simp only [ofSockaddrIn]
  rw [Vector.getElem_append_left (by omega), Vector.getElem_append_left (by omega),
    Vector.getElem_append_right (by omega) (by omega)]
  simp

@[simp] lemma sin6Addr_ofSockaddrIn6 (address : SockaddrIn6) :
    (ofSockaddrIn6 address).sin6Addr = address.addr := by
  apply Vector.ext
  intro i hi
  rw [sin6Addr, getElem_slice _ _ hi]
  simp only [ofSockaddrIn6]
  rw [Vector.getElem_append_left (by omega), Vector.getElem_append_right (by omega) (by omega)]
  simp

/-- What a `sockaddr_in` goes into holds it. -/
lemma sockaddrIn_ofSockaddrIn (address : SockaddrIn) (rest : Vector UInt8 12) :
    (ofSockaddrIn address rest).sockaddrIn = address := by
  have hport : (ofSockaddrIn address rest).sinPort = address.port := by
    apply Vector.ext
    intro i hi
    rw [sinPort, getElem_slice _ _ hi]
    simp only [ofSockaddrIn]
    rw [Vector.getElem_append_left (by omega), Vector.getElem_append_left (by omega),
      Vector.getElem_append_left (by omega), Vector.getElem_append_right (by omega) (by omega)]
    simp
  have hzero : (ofSockaddrIn address rest).slice 8 8 (by decide) = address.zero := by
    apply Vector.ext
    intro i hi
    rw [getElem_slice _ _ hi]
    simp only [ofSockaddrIn]
    rw [Vector.getElem_append_left (by omega), Vector.getElem_append_right (by omega) (by omega)]
    simp
  rw [sockaddrIn, hport, hzero, sinAddr_ofSockaddrIn]

/-- What a `sockaddr_in6` goes into holds it. -/
lemma sockaddrIn6_ofSockaddrIn6 (address : SockaddrIn6) :
    (ofSockaddrIn6 address).sockaddrIn6 = address := by
  have hport : (ofSockaddrIn6 address).sinPort = address.port := by
    apply Vector.ext
    intro i hi
    rw [sinPort, getElem_slice _ _ hi]
    simp only [ofSockaddrIn6]
    rw [Vector.getElem_append_left (by omega), Vector.getElem_append_left (by omega),
      Vector.getElem_append_left (by omega), Vector.getElem_append_right (by omega) (by omega)]
    simp
  have hflowinfo : (ofSockaddrIn6 address).slice 4 4 (by decide) = address.flowinfo := by
    apply Vector.ext
    intro i hi
    rw [getElem_slice _ _ hi]
    simp only [ofSockaddrIn6]
    rw [Vector.getElem_append_left (by omega), Vector.getElem_append_left (by omega),
      Vector.getElem_append_right (by omega) (by omega)]
    simp
  have hscopeId : (ofSockaddrIn6 address).slice 24 4 (by decide) = address.scopeId := by
    apply Vector.ext
    intro i hi
    rw [getElem_slice _ _ hi]
    simp only [ofSockaddrIn6]
    rw [Vector.getElem_append_right (by omega) (by omega)]
    simp
  rw [sockaddrIn6, hport, hflowinfo, hscopeId, sin6Addr_ofSockaddrIn6]

/-- A port is stored in its two bytes only. -/
lemma getElem_withPort (a : IPAddress) (port : ℕ) {i : ℕ} (hi : i < 28) (h2 : i ≠ 2)
    (h3 : i ≠ 3) : (a.withPort port).bytes[i] = a.bytes[i] := by
  have hset (p : Vector UInt8 2) : (a.setPort p).bytes[i] = a.bytes[i] := by
    simp only [setPort]
    rw [Vector.getElem_set_ne _ hi h3.symm, Vector.getElem_set_ne _ hi h2.symm]
  unfold withPort
  split
  · exact hset _
  · split
    · exact hset _
    · rfl

@[simp] lemma getFamily_withPort (a : IPAddress) (port : ℕ) :
    (a.withPort port).getFamily = a.getFamily := by
  rw [getFamily_eq, getFamily_eq, getElem_withPort a port (by decide) (by decide) (by decide),
    getElem_withPort a port (by decide) (by decide) (by decide)]

lemma slice_withPort (a : IPAddress) (port : ℕ) {offset len : ℕ} (h : offset + len ≤ 28)
    (hoffset : 4 ≤ offset) : (a.withPort port).slice offset len h = a.slice offset len h := by
  apply Vector.ext
  intro i hi
  rw [getElem_slice _ _ hi, getElem_slice _ _ hi,
    getElem_withPort a port (by omega) (by omega) (by omega)]

@[simp] lemma sinAddr_withPort (a : IPAddress) (port : ℕ) :
    (a.withPort port).sinAddr = a.sinAddr :=
  slice_withPort a port _ (by decide)

@[simp] lemma sin6Addr_withPort (a : IPAddress) (port : ℕ) :
    (a.withPort port).sin6Addr = a.sin6Addr :=
  slice_withPort a port _ (by decide)

@[simp] lemma sin6Flowinfo_withPort (a : IPAddress) (port : ℕ) :
    (a.withPort port).sin6Flowinfo = a.sin6Flowinfo :=
  slice_withPort a port _ (by decide)

@[simp] lemma sin6ScopeId_withPort (a : IPAddress) (port : ℕ) :
    (a.withPort port).sin6ScopeId = a.sin6ScopeId :=
  slice_withPort a port _ (by decide)

@[simp] lemma addressBytes_withPort (a : IPAddress) (port : ℕ) :
    (a.withPort port).addressBytes = a.addressBytes := by
  rw [addressBytes, addressBytes, getFamily_withPort, sinAddr_withPort, sin6Addr_withPort]

lemma sinPort_setPort (a : IPAddress) (p : Vector UInt8 2) : (a.setPort p).sinPort = p := by
  apply Vector.ext
  intro i hi
  rw [sinPort, getElem_slice _ _ hi]
  simp only [setPort]
  match i, hi with
  | 0, _ => rw [Vector.getElem_set_ne _ _ (by decide), Vector.getElem_set_self]
  | 1, _ => rw [Vector.getElem_set_self]

lemma ntohs_htons {port : ℕ} (h : port < 65536) : ntohs (htons port) = port := by
  have hhigh : (UInt8.ofNat (port / 256)).toNat = port / 256 := by
    rw [UInt8.toNat_ofNat']
    omega
  have hlow : (UInt8.ofNat port).toNat = port % 256 := UInt8.toNat_ofNat'
  have hsum : ntohs (htons port)
      = 256 * (UInt8.ofNat (port / 256)).toNat + (UInt8.ofNat port).toNat := rfl
  rw [hsum, hhigh, hlow, Nat.div_add_mod]

/-! ## Addresses of the two supported families -/

/-- A value whose family is one the class supports. -/
def IsInet (a : IPAddress) : Prop := a.getFamily = ipv4 ∨ a.getFamily = ipv6

instance (a : IPAddress) : Decidable a.IsInet := inferInstanceAs (Decidable (_ ∨ _))

/-- The port that is stored is the port that is read. -/
lemma port_withPort {a : IPAddress} (ha : a.IsInet) {port : ℕ} (h : port < 65536) :
    (a.withPort port).port = port := by
  have hset : a.withPort port = a.setPort (htons port) := by
    rcases ha with h4 | h6
    · rw [withPort, if_pos h4]
    · rw [withPort, h6, if_neg ipv6_ne_ipv4, if_pos rfl]
  rw [IPAddress.port, hset, sinPort_setPort, ntohs_htons h]

/-- On the supported families `operator==` compares family, address bytes and port. -/
lemma operatorEq_iff {a b : IPAddress} (ha : a.IsInet) :
    a.operatorEq b = true
      ↔ (a.getFamily = b.getFamily ∧ a.addressBytes = b.addressBytes) ∧ a.port = b.port := by
  by_cases hf : a.getFamily = b.getFamily
  · have hport : a.port = b.port ↔ a.sinPort = b.sinPort :=
      ⟨ntohs_injective, fun h => congrArg ntohs h⟩
    rcases ha with h4 | h6
    · have h4' : b.getFamily = ipv4 := hf ▸ h4
      simp [operatorEq, addressBytes, h4, h4', hport, Vector.toList_inj]
    · have h6' : b.getFamily = ipv6 := hf ▸ h6
      simp [operatorEq, addressBytes, h6, h6', ipv6_ne_ipv4, hport, Vector.toList_inj]
  · simp [operatorEq, hf]

end IPAddress

end SMBB
