import SMBB.Framework.Pieces
import SMBB.Construction.SharedMemoryWindows
import SMBB.Construction.SharedMemorySection

/-!
# `SharedMemorySection`, Windows build

A section maps a view of the mapping that a `SharedMemory` has, and takes the view away when it is
destroyed.  `MapViewOfFile` takes the offset in two halves.

`HandleTable` is what the handles of a process stand for: a file, or the mapping of something.
Which entity a call finds is up to the system, so it comes with the answers; a mapping over a file
is one of the file's entity.
-/

namespace SMBB
namespace Windows

/-! ## The object -/

/-- A call of the system that a section makes, with its answer. -/
inductive ViewCall
  /-- `readOnly` stands for `FILE_MAP_READ`, otherwise it is `FILE_MAP_WRITE`. -/
  | mapViewOfFile (mapHandle : ℤ) (readOnly : Bool) (offsetHigh offsetLow : BitVec 32)
    (size answer : ℕ)
  | unmapViewOfFile (address : ℕ)
deriving DecidableEq

/-- `SharedMemorySection`. -/
structure SharedMemorySection where
  data : ℕ
  size : ℕ
  offset : Size
  readOnly : Bool
deriving DecidableEq

namespace SharedMemorySection

/-- `SharedMemorySection(sharedMemory, size, offset)`, where `MapViewOfFile` answers so. -/
def construct (sharedMemory : SharedMemory) (size : ℕ) (offset : Size) (answer : ℕ) :
    SharedMemorySection × List ViewCall :=
  let s : SharedMemorySection := ⟨0, size, offset, sharedMemory.readOnly⟩
  if s.size = 0 then (s, [])
  else
    ({ s with data := answer },
      [.mapViewOfFile sharedMemory.mapHandle s.readOnly ((s.offset.sshiftRight 32).setWidth 32)
        (s.offset.setWidth 32) s.size answer])

/-- `~SharedMemorySection()`. -/
def destroy (s : SharedMemorySection) : List ViewCall :=
  if s.data ≠ 0 then [.unmapViewOfFile s.data] else []

/-- `Valid()`. -/
def valid (s : SharedMemorySection) : Bool := s.data ≠ 0

end SharedMemorySection

/-! ## What the calls mean -/

/-- The two kinds of handles. -/
inductive HandleKind
  | file
  | mapping
deriving DecidableEq

/-- What a handle stands for, and whether it was asked for reading only. -/
structure HandleObject where
  kind : HandleKind
  entity : ℕ
  readOnly : Bool
deriving DecidableEq

/-- What the open handles stand for. -/
abbrev HandleTable := Pieces.Space ℤ HandleObject

/-- The handle is handed out, if it is not open. -/
def HandleTable.grant (handles : HandleTable) (handle : ℤ) (object : HandleObject) :
    Option HandleTable :=
  if (handles handle).isSome then none
  else some (Pieces.Space.place handles (Pieces.single handle object))

/-- What a call of `SharedMemory` does to the handles, or `none` where the system cannot give this
answer; `entity` is what a file name or the name of a mapping leads to.  A file that is open for
reading only has no mapping for writing. -/
def Call.onHandles (entity : ℕ) (handles : HandleTable) : Call → Option HandleTable
  | .createFile _ readOnly _ _ answer =>
    if answer = invalidHandleValue then some handles
    else handles.grant answer ⟨.file, entity, readOnly⟩
  | .setFilePointerEx _ _ _ => some handles
  | .setEndOfFile _ _ => some handles
  | .mapFile handle readOnly answer =>
    if answer = nullHandle then some handles
    else (handles handle).bind fun file =>
      if file.kind = .file ∧ (file.readOnly = true → readOnly = true) then
        handles.grant answer ⟨.mapping, file.entity, readOnly⟩
      else none
  | .createMapping _ readOnly _ answer =>
    if answer = nullHandle then some handles
    else handles.grant answer ⟨.mapping, entity, readOnly⟩
  | .openFileMapping _ readOnly answer =>
    if answer = nullHandle then some handles
    else handles.grant answer ⟨.mapping, entity, readOnly⟩
  | .closeHandle handle => some (Pieces.Space.clear handles fun h => h = handle)

/-- A view: the bytes of an entity that it shows. -/
structure MappedView where
  entity : ℕ
  offset : ℕ
  size : ℕ
  readOnly : Bool
deriving DecidableEq

/-- The handles, and the views by the addresses they start at. -/
structure ViewKernel where
  handles : HandleTable
  views : Pieces.Space ℕ MappedView

/-- What a call of a section does, or `none` where the system cannot give this answer.  Views start
at multiples of the granularity, and a mapping for reading only has no view for writing. -/
def ViewCall.onViews (granularity : ℕ) (kernel : ViewKernel) : ViewCall → Option ViewKernel
  | .mapViewOfFile mapHandle readOnly offsetHigh offsetLow size answer =>
    if answer = 0 then some kernel
    else if mapHandle = nullHandle then none
    else (kernel.handles mapHandle).bind fun object =>
      let offset := offsetHigh.toNat * 0x100000000 + offsetLow.toNat
      if object.kind = .mapping ∧ (object.readOnly = true → readOnly = true)
          ∧ granularity ∣ offset ∧ (kernel.views answer).isSome = false then
        some { kernel with
          views := kernel.views.place
            (Pieces.single answer ⟨object.entity, offset, size, readOnly⟩) }
      else none
  | .unmapViewOfFile address =>
    some { kernel with views := kernel.views.clear fun a => a = address }

end Windows
end SMBB
