import SMBB.Construction.ToURI
import SMBB.Framework.Writes

/-!
# `IPAddress::ToURI` in memory

The function of `Construction/ToURI.lean` once more, with its accesses to memory.  The buffer is an
address here, and nothing keeps the writes through it inside of the caller's array.  The bytes of
`sin6_addr` are read at an index from its start, and nothing keeps the index inside of it:
`byteAt` also has the bytes behind the address, and those behind the object.

Every read is recorded where the source makes it.  The conditions on groups are evaluated from
left to right, so the two bytes of the next group are read only in the order of `&&`.
-/

namespace SMBB

namespace IPAddress

open Writes

/-- `sizeof(String)`. -/
def sizeofString : ℕ := 64

/-- The byte at an index from the start of `sin6_addr`; `behind` is what follows the object. -/
def byteAt (a : IPAddress) (behind : ℕ → UInt8) (i : ℕ) : UInt8 :=
  if h : 8 + i < 28 then a.bytes.get ⟨8 + i, h⟩ else behind i

/-! ## Decimal digits -/

/-- The variables of `IP_ADDRESS_GET_DIGIT`. -/
structure DigitPointer where
  value : ℕ
  buffer : Pointer Char
  shown : ℕ

/-- `IP_ADDRESS_GET_DIGIT(VALUE, BUFFER, DIV, SHOW)`. -/
def getDigitAt (div : ℕ) (s : DigitPointer) : DigitPointer :=
  let d := s.value / div
  let shown := s.shown ||| d
  { value := s.value % div
    shown := shown
    buffer := if shown ≠ 0 then s.buffer.put (digit d) else s.buffer }

/-- One octet. -/
def putOctetAt (num : ℕ) (buffer : Pointer Char) : Pointer Char :=
  let s := getDigitAt 10 (getDigitAt 100 ⟨num, buffer, 0⟩)
  s.buffer.put (digit s.value)

/-- The port. -/
def putPortAt (port : ℕ) (buffer : Pointer Char) : Pointer Char :=
  let s := getDigitAt 10 (getDigitAt 100 (getDigitAt 1000 (getDigitAt 10000 ⟨port, buffer, 0⟩)))
  s.buffer.put (digit s.value)

/-! ## The IPv4 branch -/

/-- One round of the loop over the octets of `value`. -/
def octetStepAt (value : ℕ) (buffer : Pointer Char) (i : ℕ) : Pointer Char :=
  putOctetAt ((value >>> (8 * (3 - i))) % 256) (if i ≠ 0 then buffer.put '.' else buffer)

/-- The pointer after the IPv4 branch. -/
def ipv4HostAt (addr : Vector UInt8 4) (buffer : Pointer Char) : Pointer Char :=
  [0, 1, 2, 3].foldl (octetStepAt (ntohl addr)) buffer

/-! ## The IPv6 branch -/

/-- The four conditional writes of one group. -/
def hextetAt (a b : UInt8) (buffer : Pointer Char) : Pointer Char :=
  let buffer := if (highNibble a).val ≠ 0 then buffer.put (hex (highNibble a)) else buffer
  let buffer := if a ≠ 0 then buffer.put (hex (lowNibble a)) else buffer
  let buffer := if a ≠ 0 ∨ (highNibble b).val ≠ 0 then buffer.put (hex (highNibble b)) else buffer
  buffer.put (hex (lowNibble b))

/-- The loop variables of the IPv6 branch, with the indices read so far. -/
structure GroupPointer where
  buffer : Pointer Char
  foundZeros : Bool
  inZeros : Bool
  reads : List ℕ

/-- `i < 7` and the two bytes of the group after `i` are zero, with the indices read for it. -/
def nextGroupZeroAt (byte : ℕ → UInt8) (i : ℕ) : Bool × List ℕ :=
  if i < 7 then
    if byte (2 * i + 2) == 0 then (byte (2 * i + 3) == 0, [2 * i + 2, 2 * i + 3])
    else (false, [2 * i + 2])
  else (false, [])

/-- Whether the group at `i` is skipped, with the indices read after its own two. -/
def skipsGroupAt (byte : ℕ → UInt8) (s : GroupPointer) (i : ℕ) : Bool × List ℕ :=
  if byte (2 * i) == 0 && byte (2 * i + 1) == 0 && !s.foundZeros then
    if s.inZeros then (true, []) else nextGroupZeroAt byte i
  else (false, [])

/-- One round of the loop over the groups. -/
def groupStepAt (byte : ℕ → UInt8) (s : GroupPointer) (i : ℕ) : GroupPointer :=
  let a := byte (2 * i)
  let b := byte (2 * i + 1)
  let (skips, ahead) := skipsGroupAt byte s i
  let reads := s.reads ++ ([2 * i, 2 * i + 1] ++ ahead)
  if skips then { s with inZeros := true, reads }
  else
    let buffer := if s.inZeros then s.buffer.put ':' else s.buffer
    let buffer := if i ≠ 0 then buffer.put ':' else buffer
    { buffer := hextetAt a b buffer
      foundZeros := s.foundZeros || s.inZeros
      inZeros := false
      reads }

/-- The pointer after the IPv6 branch, with the indices read. -/
def ipv6HostAt (byte : ℕ → UInt8) (start : ℕ) (buffer : Pointer Char) : Pointer Char × List ℕ :=
  let s := (List.range 8).foldl (groupStepAt byte) ⟨buffer.put '[', false, false, []⟩
  let buffer := if s.buffer.address = start + 1 then (s.buffer.put ':').put ':' else s.buffer
  (buffer.put ']', s.reads)

/-! ## The function -/

/-- What a call of `ToURI` returns and accesses: the returned address, or `none` for `NULL`, the
writes through `buffer`, and the indices from the start of `sin6_addr` that are read. -/
structure URIAccess where
  result : Option ℕ
  writes : List (ℕ × Char)
  reads : List ℕ
deriving DecidableEq

/-- `ToURI(buffer, includePort)`. -/
def toURIAt (a : IPAddress) (behind : ℕ → UInt8) (buffer : ℕ) (includePort : Bool) : URIAccess :=
  let start := buffer
  let finish (buffer : Pointer Char) (reads : List ℕ) : URIAccess :=
    let buffer := if includePort then putPortAt a.port (buffer.put ':') else buffer
    ⟨some start, (buffer.store CString.nul).writes, reads⟩
  if a.getFamily = ipv4 then finish (ipv4HostAt a.sinAddr (Pointer.fresh buffer)) []
  else if a.getFamily = ipv6 then
    let (buffer, reads) := ipv6HostAt (a.byteAt behind) start (Pointer.fresh buffer)
    finish buffer reads
  else ⟨none, [], []⟩

end IPAddress

end SMBB
