import Mathlib.Data.Nat.Notation

/-!
# Offsets of `SharedMemorySection`

`GetOffsetSize` and `GetMapOffset` each keep a value in a static variable and compute it in the
first call that finds it zero.  `OffsetStatics` is the two variables.  An `unsigned long` has `w`
bits, a `Size` has 64.

What the system says about the granularity is a parameter: `dwAllocationGranularity` on Windows,
`sysconf(_SC_PAGE_SIZE)` or `sysconf(_SC_PAGESIZE)` elsewhere, as an `unsigned long`.  The branch
of the source with the constant 4096 is never compiled, since the two branches in front of it
cover all cases.
-/

namespace SMBB

/-- `SharedMemory::Size`, a signed type. -/
abbrev Size := BitVec 64

/-- The variables `offsetSize` of `GetOffsetSize` and `mask` of `GetMapOffset`. -/
structure OffsetStatics (w : ℕ) where
  offsetSize : BitVec w
  mask : Size

namespace OffsetStatics

variable {w : ℕ}

/-- Both variables start as zero. -/
def initial (w : ℕ) : OffsetStatics w := ⟨0, 0⟩

/-- `GetOffsetSize()`. -/
def getOffsetSize (granularity : BitVec w) (s : OffsetStatics w) : BitVec w × OffsetStatics w :=
  let s := if s.offsetSize = 0 then { s with offsetSize := granularity } else s
  (s.offsetSize, s)

/-- `GetMapOffset(offset)`; the subtraction is one of `unsigned long` values. -/
def getMapOffset (granularity : BitVec w) (offset : Size) (s : OffsetStatics w) :
    Size × OffsetStatics w :=
  let s :=
    if s.mask = 0 then
      let (offsetSize, s) := s.getOffsetSize granularity
      { s with mask := (offsetSize - 1).setWidth 64 }
    else s
  (offset &&& ~~~s.mask, s)

/-- The two functions, as calls of a program. -/
inductive OffsetCall
  | getOffsetSize
  | getMapOffset (offset : Size)

/-- The static variables after a call. -/
def afterCall (granularity : BitVec w) (s : OffsetStatics w) : OffsetCall → OffsetStatics w
  | .getOffsetSize => (s.getOffsetSize granularity).2
  | .getMapOffset offset => (s.getMapOffset granularity offset).2

/-- The static variables after the calls of a program so far. -/
def afterCalls (granularity : BitVec w) (calls : List OffsetCall) : OffsetStatics w :=
  calls.foldl (afterCall granularity) (initial w)

/-- What `GetMapOffset(offset)` returns in a program that has made these calls. -/
def mapOffset (granularity : BitVec w) (calls : List OffsetCall) (offset : Size) : Size :=
  ((afterCalls granularity calls).getMapOffset granularity offset).1

end OffsetStatics

end SMBB
