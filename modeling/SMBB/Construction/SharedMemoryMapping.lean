import SMBB.Framework.Multiples
import SMBB.Framework.Pieces
import SMBB.Construction.SharedMemory
import SMBB.Construction.SharedMemorySection

/-!
# `SharedMemorySection`, POSIX build

A section maps a part of what a `SharedMemory` has open, and takes the mapping away when it is
destroyed.  It keeps nothing of the `SharedMemory` but `_readOnly`.

`Kernel` is what the calls of both classes work on: the names, the open descriptors, the pages of
the address space, and the bytes of the entities.  A page that is mapped is a page of an entity.
The kernel may refuse any `open` and any `mmap`; where it grants one, it grants what the system's
documentation allows and nothing else (`Kernel.Admits`).  Whether an entity is long enough is not
asked by `mmap`, but when a byte is read or written: behind the page that has the last byte of the
entity there is `SIGBUS`.
-/

namespace SMBB
namespace Posix

/-! ## The object -/

/-- `MAP_FAILED`. -/
def mapFailed : ℕ := 0xffffffffffffffff

/-- A call of the system that a section makes, with its answer. -/
inductive MapCall
  /-- `mmap` with `PROT_READ`, and with `PROT_WRITE` if `writable`. -/
  | mmap (size : ℕ) (writable : Bool) (descriptor : ℤ) (offset : Size) (answer : ℕ)
  | munmap (address size : ℕ)
deriving DecidableEq

/-- `SharedMemorySection`. -/
structure SharedMemorySection where
  data : ℕ
  size : ℕ
  offset : Size
  readOnly : Bool
deriving DecidableEq

namespace SharedMemorySection

variable {M : ℕ}

/-- `SharedMemorySection(sharedMemory, size, offset)`, where `mmap` answers so. -/
def construct (sharedMemory : SharedMemory M) (size : ℕ) (offset : Size) (answer : ℕ) :
    SharedMemorySection × List MapCall :=
  let s : SharedMemorySection := ⟨0, size, offset, sharedMemory.readOnly⟩
  if s.size = 0 then (s, [])
  else
    let calls := [MapCall.mmap s.size (!s.readOnly) sharedMemory.handle s.offset answer]
    let s := { s with data := answer }
    if s.data = mapFailed then ({ s with data := 0 }, calls) else (s, calls)

/-- `~SharedMemorySection()`. -/
def destroy (s : SharedMemorySection) : List MapCall :=
  if s.data ≠ 0 then [.munmap s.data s.size] else []

/-- `Valid()`. -/
def valid (s : SharedMemorySection) : Bool := s.data ≠ 0

end SharedMemorySection

/-! ## What the calls mean -/

/-- An open descriptor: the entity behind it, and whether it was opened with `O_RDONLY`. -/
structure OpenFile where
  entity : ℕ
  readOnly : Bool
deriving DecidableEq

/-- A page of an entity that is mapped. -/
structure MappedPage where
  entity : ℕ
  index : ℕ
  writable : Bool
deriving DecidableEq

/-- The place of a byte that is mapped. -/
structure Place where
  entity : ℕ
  position : ℕ
  writable : Bool
deriving DecidableEq

/-- What the calls work on; `contents` gives the byte of an entity at a position, `lengths` how
many bytes an entity has, and `offsetMaximum` how many it can have. -/
structure Kernel where
  names : Names Key
  files : Pieces.Space ℤ OpenFile
  pages : Pieces.Space ℕ MappedPage
  contents : ℕ × ℕ → UInt8
  lengths : ℕ → ℕ
  offsetMaximum : ℕ → ℕ

/-- The kernel after an entity has got a length, if it has: the bytes that it did not have before
are zero. -/
def Kernel.resized (kernel : Kernel) (resize : Option (ℕ × ℕ)) : Kernel :=
  { kernel with
    contents := resize.elim kernel.contents fun (entity, length) cell =>
      if cell.1 = entity ∧ min (kernel.lengths entity) length ≤ cell.2 then 0
      else kernel.contents cell
    lengths := resize.elim kernel.lengths fun (entity, length) =>
      Function.update kernel.lengths entity length }

namespace Call

/-- What a call does to the open descriptors; `names` are the names after it. -/
def onFiles (names : Names Key) (files : Pieces.Space ℤ OpenFile) :
    Call → Option (Pieces.Space ℤ OpenFile)
  | .openEntity space path readOnly _ answer =>
    if answer = -1 then some files
    else if (files answer).isSome then none
    else (names.entity (space, path)).map fun entity =>
      files.place (Pieces.single answer ⟨entity, readOnly⟩)
  | .ftruncate _ _ _ => some files
  | .unlink _ _ => some files
  | .close descriptor => some (files.clear fun d => d = descriptor)

/-- The entity that a call creates or resizes, and the length that it has then; `names` and `files`
are the names and the descriptors after the call. -/
def resizes (names : Names Key) (files : Pieces.Space ℤ OpenFile) : Call → Option (ℕ × ℕ)
  | .openEntity space path _ create answer =>
    if answer = -1 ∨ create = false then none
    else (names.entity (space, path)).map fun entity => (entity, 0)
  | .ftruncate descriptor size ok =>
    if ok then (files descriptor).map fun file => (file.entity, size.toNat) else none
  | .unlink _ _ => none
  | .close _ => none

/-- What a call of `SharedMemory` does, or `none` where the system cannot give this answer. -/
def onKernel (kernel : Kernel) (call : Call) : Option Kernel := do
  let names ← call.onNames kernel.names
  let files ← call.onFiles names kernel.files
  return { kernel with names, files }.resized (call.resizes names files)

end Call

namespace Kernel

/-- What `mmap` grants where the pages have `pageSize` bytes: a range of free pages that does not
start at the null pointer, of a file that may be used in this way, from a page of it on and up to
what a file can have. -/
def Admits (pageSize : ℕ) (kernel : Kernel) (file : OpenFile) (writable : Bool) (size : ℕ)
    (offset : Size) (address : ℕ) : Prop :=
  ¬(file.readOnly = true ∧ writable = true)
    ∧ (0 ≤ offset.toInt ∧ pageSize ∣ offset.toNat)
    ∧ offset.toNat + size ≤ kernel.offsetMaximum file.entity
    ∧ (address ≠ 0 ∧ pageSize ∣ address)
    ∧ ∀ i < Multiples.roundUp pageSize size, kernel.pages (address / pageSize + i) = none

instance (pageSize : ℕ) (kernel : Kernel) (file : OpenFile) (writable : Bool) (size : ℕ)
    (offset : Size) (address : ℕ) :
    Decidable (kernel.Admits pageSize file writable size offset address) :=
  inferInstanceAs (Decidable (_ ∧ _ ∧ _ ∧ _ ∧ _))

/-- The pages that a mapping of `size` bytes consists of. -/
def mappedPages (pageSize : ℕ) (file : OpenFile) (writable : Bool) (size : ℕ) (offset : Size)
    (address : ℕ) : Pieces.Space ℕ MappedPage :=
  Pieces.stretch (address / pageSize) (Multiples.roundUp pageSize size) fun i =>
    ⟨file.entity, offset.toNat / pageSize + i, writable⟩

/-- The place of the byte at an address. -/
def locate (pageSize : ℕ) (kernel : Kernel) (address : ℕ) : Option Place :=
  (kernel.pages (address / pageSize)).map fun page =>
    ⟨page.entity, page.index * pageSize + address % pageSize, page.writable⟩

/-- How many bytes of an entity there are in its pages. -/
def extent (pageSize : ℕ) (kernel : Kernel) (entity : ℕ) : ℕ :=
  pageSize * Multiples.roundUp pageSize (kernel.lengths entity)

/-- Reads the byte at an address. -/
def load (pageSize : ℕ) (kernel : Kernel) (address : ℕ) : Option UInt8 :=
  (kernel.locate pageSize address).bind fun place =>
    if place.position < kernel.extent pageSize place.entity then
      some (kernel.contents (place.entity, place.position))
    else none

/-- Writes the byte at an address, if it may be written. -/
def store (pageSize : ℕ) (kernel : Kernel) (address : ℕ) (value : UInt8) : Option Kernel :=
  (kernel.locate pageSize address).bind fun place =>
    if place.position < kernel.extent pageSize place.entity ∧ place.writable = true then
      some { kernel with
        contents := Function.update kernel.contents (place.entity, place.position) value }
    else none

end Kernel

/-- What a call of a section does, or `none` where the system cannot give this answer. -/
def MapCall.onKernel (pageSize : ℕ) (kernel : Kernel) : MapCall → Option Kernel
  | .mmap size writable descriptor offset answer =>
    if answer = mapFailed then some kernel
    else if descriptor < 0 then none
    else (kernel.files descriptor).bind fun file =>
      if kernel.Admits pageSize file writable size offset answer then
        some { kernel with
          pages := kernel.pages.place
            (Kernel.mappedPages pageSize file writable size offset answer) }
      else none
  | .munmap address size =>
    some { kernel with
      pages := kernel.pages.clear
        (Pieces.inStretch (address / pageSize) (Multiples.roundUp pageSize size)) }

end Posix
end SMBB
