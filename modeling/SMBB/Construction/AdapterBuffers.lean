import SMBB.Construction.InterfacesWindows
import SMBB.Framework.Resources

/-!
# The buffer of `GetInterfaceIndex`, Windows build

`GetAdaptersAddresses` writes its list into a buffer of the caller.  The first one is on the stack;
while the system says that the buffer is too small, and how large it should be, the loop frees it
and allocates another one.  `InterfacesWindows` takes the list that comes out of this as given.

The loop ends when the system does not ask for a larger buffer any more, or `malloc` has none.  A
system that always asks for a larger one keeps it going: the result is `none` when the rounds that
the system has answered so far do not end it.
-/

namespace SMBB.Windows

open Resources

/-- Where a buffer is. -/
inductive BufferPlace
  | stack
  | heap (address : ℕ)
deriving DecidableEq

/-- Where the memory of a buffer comes from. -/
inductive BufferSource
  | automatic
  | malloc
deriving DecidableEq

/-- How `GetAdaptersAddresses` ends: with `NO_ERROR`, with `ERROR_BUFFER_OVERFLOW` and the size it
asks for in `bufferSize`, or with another error. -/
inductive AdaptersResult
  | noError (adapters : List Adapter)
  | bufferOverflow (bufferSize : BitVec 32)
  | failed

/-- What the system answers in one round: `malloc` is only asked if another buffer is needed, and
0 stands for `NULL`. -/
structure BufferRound where
  result : AdaptersResult
  malloc : ℕ

/-- `if (buffer != stackBuffer) free(buffer)`. -/
def freeing : BufferPlace → List (Event BufferPlace BufferSource)
  | .stack => []
  | .heap address => [.release .malloc (.heap address)]

/-- The loop of `GetInterfaceIndex`: its result, and what it does with memory. -/
def bufferLoop (a : IPAddress) : BufferPlace → BitVec 32 → List BufferRound →
    Option ℤ × List (Event BufferPlace BufferSource)
  | _, _, [] => (none, [])
  | buffer, bufferSize, round :: rounds =>
    let call := Event.use buffer bufferSize.toNat
    match round.result with
    | .noError adapters =>
      let reading := Event.use buffer bufferSize.toNat
      (some (adapterLoop a adapters (-1)), call :: reading :: freeing buffer)
    | .failed => (some (-1), call :: freeing buffer)
    | .bufferOverflow bufferSize =>
      if round.malloc = 0 then (some (-1), call :: freeing buffer)
      else
        let buffer' := BufferPlace.heap round.malloc
        let rest := bufferLoop a buffer' bufferSize rounds
        (rest.1, call :: freeing buffer
          ++ .acquire buffer' ⟨.malloc, bufferSize.toNat⟩ :: rest.2)

/-- `GetInterfaceIndex()`, where `stackSize` is the size of `stackBuffer`. -/
def getInterfaceIndexIn (stackSize : BitVec 32) (a : IPAddress) (rounds : List BufferRound) :
    Option ℤ × List (Event BufferPlace BufferSource) :=
  if a.getFamily = familyUnspecified ∨ a.isAny then (some 0, [])
  else bufferLoop a .stack stackSize rounds

end SMBB.Windows
