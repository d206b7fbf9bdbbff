import SMBB.Framework.Requests
import Mathlib.Data.Nat.Notation

/-!
# The linger time

`SO_LINGER` counts seconds in an `int`, or in a `u_short` on Windows, and the interface counts
milliseconds in an `unsigned long`.  The widths are parameters: the same lines are compiled for
all of them.
-/

namespace SMBB

open Requests

/-- The integer types of a build that `linger` and its accessors use. -/
structure LingerTypes where
  /-- The width of `unsigned long`. -/
  unsignedLong : ℕ
  /-- The width of `l_linger`. -/
  lLinger : ℕ
  lLingerSigned : Bool
  ge_unsignedLong : 32 ≤ unsignedLong
  lLinger_pos : 0 < lLinger
  lLinger_le : lLinger ≤ unsignedLong

namespace LingerTypes

/-- POSIX builds with a 64 bit `long`. -/
def posix : LingerTypes := ⟨64, 32, true, by decide, by decide, by decide⟩

/-- POSIX builds with a 32 bit `long`. -/
def posix32 : LingerTypes := ⟨32, 32, true, by decide, by decide, by decide⟩

/-- Windows builds, of 32 and of 64 bits. -/
def windows : LingerTypes := ⟨32, 16, false, by decide, by decide, by decide⟩

end LingerTypes

/-- `linger`.  `l_onoff` is only ever set and compared to zero. -/
structure Linger (types : LingerTypes) where
  lOnoff : ℕ
  lLinger : BitVec types.lLinger
deriving DecidableEq

/-- How the kernel of a socket answers its calls that set `SO_LINGER`. -/
abbrev LingerKernel (types : LingerTypes) := Keeper Unit (Linger types)

/-- The option `SO_LINGER` of one socket. -/
abbrev LingerOption (types : LingerTypes) := Table Unit (Linger types)

namespace LingerOption

variable {types : LingerTypes}

/-- The usual arithmetic conversion of `l_linger` next to `1000UL`. -/
def toUnsignedLong (value : BitVec types.lLinger) : BitVec types.unsignedLong :=
  if types.lLingerSigned then value.signExtend types.unsignedLong
  else value.setWidth types.unsignedLong

/-- `milliseconds / 1000UL + (milliseconds % 1000UL ? 1UL : 0UL)`. -/
def toSeconds (milliseconds : BitVec types.unsignedLong) : BitVec types.unsignedLong :=
  let thousand := BitVec.ofNat types.unsignedLong 1000
  milliseconds / thousand +
    if milliseconds % thousand ≠ 0 then BitVec.ofNat types.unsignedLong 1 else 0

/-- The structure that `SetLingerTime(milliseconds)` hands over; the `StaticCast` narrows. -/
def makeLinger (milliseconds : BitVec types.unsignedLong) : Linger types where
  lOnoff := 1
  lLinger := (toSeconds milliseconds).setWidth types.lLinger

/-- `SetLingerTime(milliseconds)`. -/
def setLingerTime (kernel : LingerKernel types) (option : LingerOption types)
    (milliseconds : BitVec types.unsignedLong) : Bool × LingerOption types :=
  ask kernel option ⟨(), makeLinger milliseconds⟩

/-- `GetLingerTime()`, with what `getsockopt` stores, if it does. -/
def getLingerTime (answer : Option (Linger types)) : BitVec types.unsignedLong :=
  let value := answer.getD ⟨0, 0⟩
  if value.lOnoff ≠ 0 then
    toUnsignedLong value.lLinger * BitVec.ofNat types.unsignedLong 1000
  else 0

end LingerOption

end SMBB
