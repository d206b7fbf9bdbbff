import SMBB.Construction.SharedMemory
import SMBB.Framework.Writes

/-!
# The name buffers of `SharedMemory` in memory, POSIX build

`Construction/SharedMemory.lean` stores names with `CString.store`, which cannot write past the
end of a vector.  Here are the writes of the same functions as the source makes them: `memcpy` and
the assignment of the terminator go to addresses, computed from the start of the buffer and from
`strlen`, and nothing but the test in front of them keeps them inside.

The object's fields other than `_name` are taken from the other model, which also says which
branch is taken.  `Placed` is an object with all the writes to memory that it made so far.
-/

namespace SMBB

namespace Posix

open Writes

/-! ## The two copies -/

/-- `CopyFilename`: its writes, or `none` where it returns `false`. -/
def copyFilenameAt (newFilename newNameSize : ℕ) (filename : CString) :
    Option (List (ℕ × Char)) :=
  let len := filename.chars.length
  if len ≥ newNameSize then none
  else some (consecutive newFilename filename.chars ++ [(newFilename + len, CString.nul)])

/-- `CopyName`: its writes, or `none` where it returns `false`. -/
def copyNameAt (newName newNameSize : ℕ) (name : CString) : Option (List (ℕ × Char)) :=
  let len := name.chars.length
  if len ≥ newNameSize - 1 then none
  else some ([(newName, '/')] ++ consecutive (newName + 1) name.chars
    ++ [(newName + (len + 1), CString.nul)])

/-! ## `DeleteNamed` -/

variable {M : ℕ}

/-- `DeleteNamed(name)`: what it returns and the calls it makes.  `storage` is what the memory of
`realName` holds, and `unlinked` says whether `shm_unlink` succeeds. -/
def deleteNamed (storage : Vector Char M) (name : Option CString) (unlinked : Bool) :
    Bool × List Call :=
  match name with
  | none => (false, [])
  | some name =>
    match copyName storage name with
    | none => (false, [])
    | some realName => (unlinked, [.unlink .shm (CString.text realName.toList)])

/-- The writes of `DeleteNamed(name)` to `realName`, which has `M` characters. -/
def deleteNamedWrites (M realName : ℕ) (name : Option CString) : List (ℕ × Char) :=
  match name with
  | none => []
  | some name => (copyNameAt realName M name).getD []

/-! ## The object -/

namespace SharedMemory

variable [NeZero M]

/-- The writes of `Close()` to `_name`, which starts at the address `name`. -/
def closeWrites (m : SharedMemory M) (name : ℕ) : List (ℕ × Char) :=
  if m.name.get 0 ≠ CString.nul then [(name, CString.nul)] else []

/-- The writes of `loadStored`. -/
def loadStoredWrites (m : SharedMemory M) (name : ℕ) (args : LoadArgs) (os : Answers) :
    List (ℕ × Char) :=
  let clearing := if args.deleteOnClose then [] else [(name, CString.nul)]
  let m := { m with handle := os.opened }
  let m := if args.deleteOnClose then m else m.clearName
  if m.handle = -1 then clearing ++ ([(name, CString.nul)] ++ m.clearName.closeWrites name)
  else if args.size ≠ 0 then
    if os.resized then clearing else clearing ++ m.closeWrites name
  else clearing

/-- The writes of `loadClosed`. -/
def loadClosedWrites (m : SharedMemory M) (name : ℕ) (args : LoadArgs) (os : Answers) :
    List (ℕ × Char) :=
  if args.size < 0 then []
  else
    match args.filename, args.name with
    | some filename, _ =>
      match copyFilenameAt name M filename with
      | none => []
      | some copying =>
        copying ++ ((copyFilename m.name filename).map fun stored =>
          loadStoredWrites { m with name := stored, usingFile := true } name args os).getD []
    | none, none => []
    | none, some s =>
      match copyNameAt name M s with
      | none => []
      | some copying =>
        copying ++ ((copyName m.name s).map fun stored =>
          loadStoredWrites { m with name := stored, usingFile := false } name args os).getD []

/-- The writes of `Load(name, filename, readOnly, size, deleteOnClose)`. -/
def loadWrites (m : SharedMemory M) (name : ℕ) (args : LoadArgs) (os : Answers) :
    List (ℕ × Char) :=
  m.closeWrites name ++ m.close.1.loadClosedWrites name args os

/-- The object after an operation. -/
def operate (m : SharedMemory M) (operation : Operation Answers) : SharedMemory M :=
  match operation.load with
  | some (args, os) => (m.load args os).object
  | none => m.close.1

/-- The writes of an operation. -/
def operateWrites (m : SharedMemory M) (name : ℕ) (operation : Operation Answers) :
    List (ℕ × Char) :=
  match operation.load with
  | some (args, os) => m.loadWrites name args os
  | none => m.closeWrites name

end SharedMemory

/-- An object, and the writes to memory that it has made since its construction began. -/
structure Placed (M : ℕ) where
  object : SharedMemory M
  writes : List (ℕ × Char)

namespace Placed

variable [NeZero M]

/-- `SharedMemory()` in a memory, with `_name` at the address `name`. -/
def construct (memory : ℕ → Char) (name : ℕ) : Placed M :=
  ⟨.construct (cells memory name M), [(name, CString.nul)]⟩

/-- An operation on the object. -/
def operate (name : ℕ) (p : Placed M) (operation : Operation Answers) : Placed M :=
  ⟨p.object.operate operation, p.writes ++ p.object.operateWrites name operation⟩

/-- The object after some operations. -/
def after (memory : ℕ → Char) (name : ℕ) (operations : List (Operation Answers)) : Placed M :=
  operations.foldl (operate name) (construct memory name)

end Placed

end Posix

end SMBB
