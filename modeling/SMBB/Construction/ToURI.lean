import SMBB.Construction.Address
import SMBB.Framework.CString

/-!
# `IPAddress::ToURI`

The function writes the authority of an address (`host` or `host:port`) through a pointer it
only ever advances, so what it leaves in the caller's buffer is a list of characters that grows
at its end: `*buffer++ = c` is `buffer ++ [c]`.  `toURI` is the list of all bytes written from
the start of the buffer, the terminator included, and `uriText` is the C string a reader of the
buffer sees.

`getDigit` is the statement macro `IP_ADDRESS_GET_DIGIT`.  `groupStep` is one round of the loop
over the eight groups of an IPv6 address, with its two flags: `inZeros` while a run of zero
groups is being skipped, `foundZeros` once one has been.  The doubled separator is written when
the run *ends*, at the next nonzero group; a run that reaches the last group never ends inside
the loop, and the only test after the loop is for the address that is all zero.
-/

namespace SMBB

namespace IPAddress

/-! ## Decimal digits -/

/-- The variables `IP_ADDRESS_GET_DIGIT` reads and changes. -/
structure DigitState where
  value : ℕ
  buffer : List Char
  shown : ℕ

/-- `'0' + digit`. -/
def digit (d : ℕ) : Char := Char.ofNat (48 + d)

/-- `IP_ADDRESS_GET_DIGIT(VALUE, BUFFER, DIV, SHOW)`. -/
def getDigit (div : ℕ) (s : DigitState) : DigitState :=
  let d := s.value / div
  let shown := s.shown ||| d
  { value := s.value % div
    shown := shown
    buffer := if shown ≠ 0 then s.buffer ++ [digit d] else s.buffer }

/-- One octet: the hundreds and the tens when they are needed, then the units. -/
def putOctet (num : ℕ) (buffer : List Char) : List Char :=
  let s := getDigit 10 (getDigit 100 ⟨num, buffer, 0⟩)
  s.buffer ++ [digit s.value]

/-- The port, from the ten thousands down. -/
def putPort (port : ℕ) (buffer : List Char) : List Char :=
  let s := getDigit 10 (getDigit 100 (getDigit 1000 (getDigit 10000 ⟨port, buffer, 0⟩)))
  s.buffer ++ [digit s.value]

/-! ## The IPv4 branch -/

/-- One round of the loop over the octets of `value`, most significant first. -/
def octetStep (value : ℕ) (buffer : List Char) (i : ℕ) : List Char :=
  putOctet ((value >>> (8 * (3 - i))) % 256) (if i ≠ 0 then buffer ++ ['.'] else buffer)

/-- The buffer after the IPv4 branch. -/
def ipv4Host (addr : Vector UInt8 4) : List Char :=
  [0, 1, 2, 3].foldl (octetStep (ntohl addr)) []

/-! ## The IPv6 branch -/

/-- The table `hex`. -/
def hex (n : Fin 16) : Char :=
  ['0', '1', '2', '3', '4', '5', '6', '7', '8', '9', 'a', 'b', 'c', 'd', 'e', 'f'].get n

/-- `a >> 4`. -/
def highNibble (a : UInt8) : Fin 16 := ⟨a.toNat / 16, by have := a.toNat_lt; omega⟩

/-- `a & 0xF`. -/
def lowNibble (a : UInt8) : Fin 16 := ⟨a.toNat % 16, by omega⟩

/-- The four conditional writes of one group. -/
def hextet (a b : UInt8) : List Char :=
  (if highNibble a ≠ 0 then [hex (highNibble a)] else [])
    ++ (if a ≠ 0 then [hex (lowNibble a)] else [])
    ++ (if a ≠ 0 ∨ highNibble b ≠ 0 then [hex (highNibble b)] else [])
    ++ [hex (lowNibble b)]

/-- The loop variables of the IPv6 branch. -/
structure GroupState where
  buffer : List Char
  foundZeros : Bool
  inZeros : Bool
deriving DecidableEq

/-- The group at `i` of a sixteen-byte address: bytes `2 * i` and `2 * i + 1`. -/
def group (addr : Vector UInt8 16) (i : ℕ) (h : i < 8) : UInt8 × UInt8 :=
  (addr.get ⟨2 * i, by omega⟩, addr.get ⟨2 * i + 1, by omega⟩)

/-- `i < 7` and the two bytes of the group after `i` are zero. -/
def nextGroupZero (addr : Vector UInt8 16) (i : ℕ) : Bool :=
  if h : i < 7 then
    addr.get ⟨2 * i + 2, by omega⟩ == 0 && addr.get ⟨2 * i + 3, by omega⟩ == 0
  else false

/-- One round of the loop over the groups. -/
def groupStep (addr : Vector UInt8 16) (s : GroupState) (i : Fin 8) : GroupState :=
  let a := (group addr i i.isLt).1
  let b := (group addr i i.isLt).2
  if a == 0 && b == 0 && !s.foundZeros && (s.inZeros || nextGroupZero addr i) then
    { s with inZeros := true }
  else
    { buffer := s.buffer ++ (if s.inZeros then [':'] else [])
        ++ (if i ≠ 0 then [':'] else []) ++ hextet a b
      foundZeros := s.foundZeros || s.inZeros
      inZeros := false }

/-- The buffer after the IPv6 branch: the bracket, the groups, the all-zero address, the
bracket. -/
def ipv6Host (addr : Vector UInt8 16) : List Char :=
  let s := (List.finRange 8).foldl (groupStep addr) ⟨['['], false, false⟩
  (if s.buffer.length = 1 then s.buffer ++ [':', ':'] else s.buffer) ++ [']']

/-! ## The function -/

/-- The bytes `ToURI` writes from the start of the buffer, or `none` where it returns `NULL`. -/
def toURI (a : IPAddress) (includePort : Bool) : Option (List Char) :=
  let finish (buffer : List Char) : List Char :=
    (if includePort then putPort a.port (buffer ++ [':']) else buffer) ++ [CString.nul]
  if a.getFamily = ipv4 then some (finish (ipv4Host a.sinAddr))
  else if a.getFamily = ipv6 then some (finish (ipv6Host a.sin6Addr))
  else none

/-- The text of the authority, as a C string. -/
def uriText (a : IPAddress) (includePort : Bool) : Option (List Char) :=
  (a.toURI includePort).map CString.text

end IPAddress

end SMBB
