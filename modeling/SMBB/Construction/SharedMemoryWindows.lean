import SMBB.Construction.SharedMemory

/-!
# `SharedMemory`, Windows build

Here an object has two handles: `_handle` of the file, and `_mapHandle` of the mapping that
`SharedMemorySection` maps from.  Deleting on close is a flag of `CreateFile`: the system deletes
the file when the handle that carries the flag is closed, so the object has no name to remember.

The answer of the call that makes the mapping is stored and never looked at.
-/

namespace SMBB
namespace Windows

/-- `INVALID_HANDLE_VALUE`. -/
def invalidHandleValue : ℤ := -1

/-- `NULL`, as a mapping handle. -/
def nullHandle : ℤ := 0

/-! ## Calls -/

/-- A call of the system with its answer. -/
inductive Call
  /-- `create` stands for `CREATE_NEW`, otherwise it is `OPEN_EXISTING`. -/
  | createFile (filename : List Char) (readOnly create deleteOnClose : Bool) (answer : ℤ)
  | setFilePointerEx (handle size : ℤ) (ok : Bool)
  | setEndOfFile (handle : ℤ) (ok : Bool)
  /-- `CreateFileMapping` over an open file. -/
  | mapFile (handle : ℤ) (readOnly : Bool) (answer : ℤ)
  /-- `CreateFileMapping` over the paging file. -/
  | createMapping (name : List Char) (readOnly : Bool) (size answer : ℤ)
  | openFileMapping (name : List Char) (readOnly : Bool) (answer : ℤ)
  | closeHandle (handle : ℤ)
deriving DecidableEq

/-- What the system answers to the calls of one `Load`; `mapping` is for whichever of the three
calls that make a mapping it comes to. -/
structure Answers where
  file : ℤ
  pointerSet : Bool
  endSet : Bool
  mapping : ℤ

/-! ## The object -/

/-- `SharedMemory`. -/
structure SharedMemory where
  handle : ℤ
  mapHandle : ℤ
  readOnly : Bool

/-- What `Load` leaves behind. -/
structure Loaded where
  object : SharedMemory
  result : LoadResult
  calls : List Call

namespace SharedMemory

/-- `SharedMemory()`. -/
def construct : SharedMemory := ⟨invalidHandleValue, nullHandle, false⟩

/-- `Close()`. -/
def close (m : SharedMemory) : SharedMemory × List Call :=
  let (m, unmapping) :=
    if m.mapHandle ≠ nullHandle then
      ({ m with mapHandle := nullHandle }, [Call.closeHandle m.mapHandle])
    else (m, [])
  let (m, closing) :=
    if m.handle ≠ invalidHandleValue then
      ({ m with handle := invalidHandleValue }, [Call.closeHandle m.handle])
    else (m, [])
  (m, unmapping ++ closing)

/-- `SetFilePointerEx` and, if that succeeds, `SetEndOfFile`. -/
def resizing (m : SharedMemory) (size : ℤ) (os : Answers) : List Call :=
  Call.setFilePointerEx m.handle size os.pointerSet
    :: if os.pointerSet then [.setEndOfFile m.handle os.endSet] else []

/-- `Load` on an open file, from `CreateFileMapping` on. -/
def mapFile (m : SharedMemory) (readOnly : Bool) (os : Answers) : Loaded :=
  ⟨{ m with mapHandle := os.mapping, readOnly }, .success, [.mapFile m.handle readOnly os.mapping]⟩

/-- The file branch of `Load`. -/
def loadFile (m : SharedMemory) (filename : CString) (args : LoadArgs) (os : Answers) : Loaded :=
  let opening :=
    Call.createFile filename.chars args.readOnly (args.size ≠ 0) args.deleteOnClose os.file
  let m := { m with handle := os.file }
  if m.handle = invalidHandleValue then ⟨m, .failedToOpenFile, [opening]⟩
  else if args.size ≠ 0 then
    if os.pointerSet && os.endSet then
      let loaded := m.mapFile args.readOnly os
      { loaded with calls := opening :: m.resizing args.size os ++ loaded.calls }
    else
      let (m', closing) := m.close
      ⟨m', .failedToResizeFile, opening :: m.resizing args.size os ++ closing⟩
  else
    let loaded := m.mapFile args.readOnly os
    { loaded with calls := opening :: loaded.calls }

/-- The branch of `Load` for a name. -/
def loadNamed (m : SharedMemory) (name : CString) (args : LoadArgs) (os : Answers) : Loaded :=
  let mapping :=
    if args.size ≠ 0 then Call.createMapping name.chars args.readOnly args.size os.mapping
    else Call.openFileMapping name.chars args.readOnly os.mapping
  ⟨{ m with mapHandle := os.mapping, readOnly := args.readOnly }, .success, [mapping]⟩

/-- `Load` after its call of `Close`. -/
def loadClosed (m : SharedMemory) (args : LoadArgs) (os : Answers) : Loaded :=
  if args.size < 0 then ⟨m, .failedBadSize, []⟩
  else
    match args.filename, args.name with
    | some filename, _ => m.loadFile filename args os
    | none, none => ⟨m, .failedBadName, []⟩
    | none, some name => m.loadNamed name args os

/-- `Load(name, filename, readOnly, size, deleteOnClose)`. -/
def load (m : SharedMemory) (args : LoadArgs) (os : Answers) : Loaded :=
  let (m, closing) := m.close
  let loaded := m.loadClosed args os
  { loaded with calls := closing ++ loaded.calls }

end SharedMemory

end Windows
end SMBB
