import SMBB.Construction.IPSocket

/-!
# `SetNonblocking`, POSIX build

The mode of a socket is one of the flags of its open file, and these can only be read and written
all at once: `F_GETFL`, then `F_SETFL`.
-/

namespace SMBB
namespace IPSocket

/-- `O_NONBLOCK`. -/
def oNonblock : BitVec 32 := BitVec.twoPow 32 11

/-- What `F_GETFL` returns where it fails. -/
def noFlags : BitVec 32 := BitVec.allOnes 32

/-- The argument of `F_SETFL`. -/
def withNonblocking (nonblocking : Bool) (flags : BitVec 32) : BitVec 32 :=
  if nonblocking then flags ||| oNonblock else flags &&& ~~~oNonblock

/-- `flags != -1`. -/
def hasFlags (flags : BitVec 32) : Bool := flags ≠ noFlags

/-- `SetNonblocking(nonblocking)`, by a thread that is alone with the flags: its result, and the
flags after it.  The two system calls may fail. -/
def setNonblocking (nonblocking : Bool) (flags : BitVec 32) (getfl setfl : Bool) :
    Bool × BitVec 32 :=
  let read := if getfl then flags else noFlags
  if hasFlags read && setfl then (true, withNonblocking nonblocking read) else (false, flags)

end IPSocket
end SMBB
