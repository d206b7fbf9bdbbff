import Mathlib.Algebra.GroupWithZero.Nat
import SMBB.Framework.CString
import SMBB.Framework.Names
import SMBB.Framework.Ownership

/-!
# `SharedMemory`, POSIX build

An object has four fields.  `_name` is a buffer of `MAX_SHARED_MEMORY_FILENAME_SIZE` characters,
here `M`, and means a pending delete while it does not start with the terminator; `_usingFile`
says whether the delete is for a file or for a shared memory name.

`Load` calls `Close` first and then makes at most three calls of its own.  What the system answers
is a parameter (`Answers`), and each operation returns the calls it made with their answers, in
order.  What a call does to the names that exist is `Call.onNames`; what it means for the
descriptors is `Call.event`.
-/

namespace SMBB

/-- `LoadResult`. -/
inductive LoadResult
  | success
  | failedUnsupported
  | failedBadSize
  | failedBadName
  | failedToOpenFile
  | failedToResizeFile
deriving DecidableEq

/-- The two kinds of names `Load` opens and `Close` deletes. -/
inductive Space
  | file
  | shm
deriving DecidableEq

/-- A path in one of the two spaces. -/
abbrev Key := Space × List Char

/-- What other processes do to the existing names. -/
inductive Outside
  | create (key : Key)
  | remove (key : Key)

/-- The effect on the names; nothing is created where there is something, or under the empty
path. -/
def Outside.onNames (names : Names Key) : Outside → Option (Names Key)
  | .create key =>
    if key.2 ≠ [] ∧ names.entity key = none then some (names.create key) else none
  | .remove key => some (names.remove key)

/-- The arguments of `Load`. -/
structure LoadArgs where
  name : Option CString
  filename : Option CString
  readOnly : Bool
  size : ℤ
  deleteOnClose : Bool

/-! ## The public functions' arguments -/

namespace LoadArgs

/-- `CreateFileBacked(filename, size, deleteOnClose)`. -/
def createFileBacked (filename : Option CString) (size : ℤ) (deleteOnClose : Bool) : LoadArgs :=
  ⟨none, filename, false, size, deleteOnClose⟩

/-- `OpenFileBacked(filename, readOnly)`. -/
def openFileBacked (filename : Option CString) (readOnly : Bool) : LoadArgs :=
  ⟨none, filename, readOnly, 0, false⟩

/-- `CreateNamed(name, size, deleteOnClose)`. -/
def createNamed (name : Option CString) (size : ℤ) (deleteOnClose : Bool) : LoadArgs :=
  ⟨name, none, false, size, deleteOnClose⟩

/-- `OpenNamed(name, readOnly)`. -/
def openNamed (name : Option CString) (readOnly : Bool) : LoadArgs :=
  ⟨name, none, readOnly, 0, false⟩

end LoadArgs

/-- The public operations on an object, with what the system answers to the calls of `Load`. -/
inductive Operation (α : Type*)
  | createFileBacked (filename : Option CString) (size : ℤ) (deleteOnClose : Bool) (os : α)
  | openFileBacked (filename : Option CString) (readOnly : Bool) (os : α)
  | createNamed (name : Option CString) (size : ℤ) (deleteOnClose : Bool) (os : α)
  | openNamed (name : Option CString) (readOnly : Bool) (os : α)
  | close

namespace Operation

variable {α : Type*}

/-- The call of `Load` an operation is, unless it is `Close`. -/
def load : Operation α → Option (LoadArgs × α)
  | .createFileBacked filename size deleteOnClose os =>
    some (.createFileBacked filename size deleteOnClose, os)
  | .openFileBacked filename readOnly os => some (.openFileBacked filename readOnly, os)
  | .createNamed name size deleteOnClose os => some (.createNamed name size deleteOnClose, os)
  | .openNamed name readOnly os => some (.openNamed name readOnly, os)
  | .close => none

/-- The arguments of `Load`, if the operation is one of the two that create. -/
def creates : Operation α → Option LoadArgs
  | .createFileBacked filename size deleteOnClose _ =>
    some (.createFileBacked filename size deleteOnClose)
  | .createNamed name size deleteOnClose _ => some (.createNamed name size deleteOnClose)
  | _ => none

/-- Only the operations that create can ask for a delete on close. -/
lemma creates_of_deleteOnClose {operation : Operation α} {args : LoadArgs} {os : α}
    (hload : operation.load = some (args, os)) (hdelete : args.deleteOnClose = true) :
    operation.creates = some args := by
  cases operation with
  | createFileBacked filename size deleteOnClose os' =>
    obtain ⟨rfl, rfl⟩ := Prod.mk.inj (Option.some.inj hload)
    rfl
  | openFileBacked filename readOnly os' =>
    obtain ⟨rfl, rfl⟩ := Prod.mk.inj (Option.some.inj hload)
    cases hdelete
  | createNamed name size deleteOnClose os' =>
    obtain ⟨rfl, rfl⟩ := Prod.mk.inj (Option.some.inj hload)
    rfl
  | openNamed name readOnly os' =>
    obtain ⟨rfl, rfl⟩ := Prod.mk.inj (Option.some.inj hload)
    cases hdelete
  | close => exact Option.absurd_none hload

end Operation

namespace Posix

/-! ## Names in the buffer -/

variable {M : ℕ}

/-- `CopyFilename`. -/
def copyFilename (newFilename : Vector Char M) (filename : CString) : Option (Vector Char M) :=
  if h : filename.chars.length ≥ M then none
  else some (CString.store newFilename (filename.chars ++ [CString.nul])
    (by rw [List.length_append, List.length_singleton]; omega))

/-- `CopyName`. -/
def copyName (newName : Vector Char M) (name : CString) : Option (Vector Char M) :=
  if h : name.chars.length ≥ M - 1 then none
  else some (CString.store newName ('/' :: name.chars ++ [CString.nul])
    (by rw [List.length_append, List.length_singleton, List.length_cons]; omega))

/-- `CopyFilename` for a file, `CopyName` for a name. -/
def copyPath (space : Space) (buffer : Vector Char M) (s : CString) : Option (Vector Char M) :=
  match space with
  | .file => copyFilename buffer s
  | .shm => copyName buffer s

/-- The path that `Load` opens for a string: a name gets a slash in front. -/
def pathOf (space : Space) (s : CString) : List Char :=
  match space with
  | .file => s.chars
  | .shm => '/' :: s.chars

lemma nul_not_mem_pathOf (space : Space) (s : CString) : CString.nul ∉ pathOf space s := by
  cases space with
  | file => exact s.nul_free
  | shm => exact List.not_mem_cons_of_ne_of_not_mem (by decide) s.nul_free

/-- A string that is copied becomes the text of the buffer. -/
lemma text_of_copyPath {space : Space} {buffer buffer' : Vector Char M} {s : CString}
    (h : copyPath space buffer s = some buffer') :
    CString.text buffer'.toList = pathOf space s := by
  have hnul := nul_not_mem_pathOf space s
  cases space with
  | file =>
    rw [copyPath, copyFilename, Option.dite_none_left_eq_some] at h
    obtain ⟨hfits, h⟩ := h
    obtain rfl := Option.some.inj h
    exact CString.text_store_nul buffer hnul _
  | shm =>
    rw [copyPath, copyName, Option.dite_none_left_eq_some] at h
    obtain ⟨hfits, h⟩ := h
    obtain rfl := Option.some.inj h
    exact CString.text_store_nul buffer hnul _

/-! ## Calls -/

/-- A call of the system with its answer. -/
inductive Call
  /-- `open` or `shm_open`; `create` stands for `O_CREAT | O_EXCL`. -/
  | openEntity (space : Space) (path : List Char) (readOnly create : Bool) (answer : ℤ)
  | ftruncate (descriptor size : ℤ) (ok : Bool)
  /-- `unlink` or `shm_unlink`. -/
  | unlink (space : Space) (path : List Char)
  | close (descriptor : ℤ)
deriving DecidableEq

namespace Call

/-- What the call means for the descriptors. -/
def event : Call → Option (Ownership.Event ℤ)
  | .openEntity _ _ _ _ answer => if answer = -1 then none else some (.acquire answer)
  | .ftruncate _ _ _ => none
  | .unlink _ _ => none
  | .close descriptor => some (.release descriptor)

/-- What the call does to the existing names, or `none` where the system cannot give this answer:
an entity is created only where there is none, opened only where there is one, and never under
the empty path. -/
def onNames (names : Names Key) : Call → Option (Names Key)
  | .openEntity space path _ create answer =>
    if answer = -1 then some names
    else if path = [] then none
    else if create then
      if names.entity (space, path) = none then some (names.create (space, path)) else none
    else
      if names.entity (space, path) = none then none else some names
  | .ftruncate _ _ _ => some names
  | .unlink space path => some (names.remove (space, path))
  | .close _ => some names

end Call

/-- What the system answers to `open` or `shm_open` and to `ftruncate`. -/
structure Answers where
  opened : ℤ
  resized : Bool

/-! ## The object -/

/-- `SharedMemory`. -/
structure SharedMemory (M : ℕ) where
  readOnly : Bool
  usingFile : Bool
  handle : ℤ
  name : Vector Char M

/-- What `Load` leaves behind. -/
structure Loaded (M : ℕ) where
  object : SharedMemory M
  result : LoadResult
  calls : List Call

namespace SharedMemory

variable [NeZero M]

/-- `_name[0] = (char)0`. -/
def clearName (m : SharedMemory M) : SharedMemory M :=
  { m with name := m.name.set 0 CString.nul (Nat.pos_of_neZero M) }

/-- `SharedMemory()`; `storage` is what the memory of `_name` holds. -/
def construct (storage : Vector Char M) : SharedMemory M :=
  clearName ⟨false, false, -1, storage⟩

/-- The space `_usingFile` stands for. -/
def space (m : SharedMemory M) : Space := if m.usingFile then .file else .shm

/-- The C string in `_name`. -/
def path (m : SharedMemory M) : List Char := CString.text m.name.toList

/-- `Close()`. -/
def close (m : SharedMemory M) : SharedMemory M × List Call :=
  let (m, deleting) :=
    if m.name.get 0 ≠ CString.nul then (m.clearName, [Call.unlink m.space m.path]) else (m, [])
  let (m, closing) :=
    if m.handle ≠ -1 then ({ m with handle := -1 }, [Call.close m.handle]) else (m, [])
  (m, deleting ++ closing)

/-- `Load` from the call of `open` or `shm_open` on; `_name` and `_usingFile` are set. -/
def loadStored (m : SharedMemory M) (args : LoadArgs) (os : Answers) : Loaded M :=
  let opening := Call.openEntity m.space m.path args.readOnly (args.size ≠ 0) os.opened
  let m := { m with handle := os.opened }
  let m := if args.deleteOnClose then m else m.clearName
  if m.handle = -1 then
    let (m, closing) := m.clearName.close
    ⟨m, .failedToOpenFile, opening :: closing⟩
  else if args.size ≠ 0 then
    let resizing := Call.ftruncate m.handle args.size os.resized
    if os.resized then ⟨{ m with readOnly := args.readOnly }, .success, [opening, resizing]⟩
    else
      let (m, closing) := m.close
      ⟨m, .failedToResizeFile, opening :: resizing :: closing⟩
  else ⟨{ m with readOnly := args.readOnly }, .success, [opening]⟩

/-- `Load` after its call of `Close`. -/
def loadClosed (m : SharedMemory M) (args : LoadArgs) (os : Answers) : Loaded M :=
  if args.size < 0 then ⟨m, .failedBadSize, []⟩
  else
    match args.filename, args.name with
    | some filename, _ =>
      match copyFilename m.name filename with
      | none => ⟨m, .failedBadName, []⟩
      | some name => loadStored { m with name, usingFile := true } args os
    | none, none => ⟨m, .failedBadName, []⟩
    | none, some name =>
      match copyName m.name name with
      | none => ⟨m, .failedBadName, []⟩
      | some name => loadStored { m with name, usingFile := false } args os

/-- `Load(name, filename, readOnly, size, deleteOnClose)`. -/
def load (m : SharedMemory M) (args : LoadArgs) (os : Answers) : Loaded M :=
  let (m, closing) := m.close
  let loaded := m.loadClosed args os
  { loaded with calls := closing ++ loaded.calls }

end SharedMemory

end Posix

end SMBB
