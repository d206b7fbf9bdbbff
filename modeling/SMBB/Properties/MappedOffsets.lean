import SMBB.Properties.SharedViews
import SMBB.Properties.MapOffsets

/-!
# Sections over `GetMapOffset`

`mmap` takes only offsets that are multiples of the page size.  To show the bytes from `offset` on,
a user maps from `GetMapOffset(offset)`, and adds the difference to the size and to every index.
-/

namespace SMBB
namespace Posix

open OffsetStatics (OffsetCall mapOffset)

variable {w e : ℕ} {granularity : BitVec w} {offset : Size}

end Posix
end SMBB
