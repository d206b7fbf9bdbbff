import SMBB.Construction.PollItem
import SMBB.Framework.Flags
import Mathlib.Data.List.Induction

/-!
# A `PollItem` and its socket

A `PollItem` keeps the handle of its socket, a bit for whether it is enabled and the mask of what
it monitors, through any calls.  The bit is the sign bit of the handle: a handle that is negative
to begin with, such as the one of a socket that failed to open, comes out as another one, and that
one is valid.
-/

namespace SMBB

open Flags

/-- The calls on a `PollItem`. -/
inductive PollOperation
  | enable
  | disable
  | setMonitor (value : PollValue)
deriving DecidableEq

namespace PollItem

/-- A call. -/
def apply (item : PollItem) : PollOperation → PollItem
  | .enable => item.enable
  | .disable => item.disable
  | .setMonitor value => item.setMonitor value

/-- The item of a socket after some calls. -/
def after (socket : IPSocket (BitVec 32)) (monitor : PollValue) (ops : List PollOperation) :
    PollItem :=
  ops.foldl apply (make socket monitor)

/-- The last mask that was set. -/
def lastMonitor (monitor : PollValue) (ops : List PollOperation) : PollValue :=
  ops.foldl (fun last op => match op with | .setMonitor value => value | _ => last) monitor

/-- The calls that were made after the last `Enable`, the last one first. -/
def sinceEnable (ops : List PollOperation) : List PollOperation :=
  ops.reverse.takeWhile (· ≠ .enable)

/-! ## The handle -/

lemma getLsbD_eq_false_iff {handle : BitVec 32} :
    handle.getLsbD 31 = false ↔ 0 ≤ handle.toInt := by
  have hmsb : handle.getLsbD 31 = handle.msb := handle.msb_eq_getLsbD_last.symm
  rw [hmsb, BitVec.msb_eq_toInt, decide_eq_false_iff_not, not_lt]

lemma isEnabled_iff (item : PollItem) : item.isEnabled = true ↔ item.fd.getLsbD 31 = false := by
  rw [isEnabled, decide_eq_true_iff, ← Bool.not_eq_true, ← and_twoPow_ne_zero_iff (by decide),
    not_not]
  exact Iff.rfl

/-- A handle without a sign has nothing to lose. -/
lemma and_not_signBit_eq_iff (handle : BitVec 32) :
    handle &&& ~~~signBit = handle ↔ 0 ≤ handle.toInt := by
  rw [← getLsbD_eq_false_iff]
  constructor
  · intro h
    have hbit := getLsbD_clear handle 31 31
    rw [decide_eq_true rfl, Bool.not_true, Bool.and_false] at hbit
    exact h ▸ hbit
  · intro hbit
    refine clear_eq_self (not_not.mp fun h => ?_)
    rw [(and_twoPow_ne_zero_iff (by decide)).mp h] at hbit
    exact Bool.noConfusion hbit

/-- No call changes the handle but for its sign. -/
lemma getEnabledHandle_apply (item : PollItem) (op : PollOperation) :
    (item.apply op).getEnabledHandle = item.getEnabledHandle := by
  cases op with
  | enable => simp [apply, enable, getEnabledHandle, BitVec.and_assoc]
  | disable =>
    simp [apply, disable, getEnabledHandle, getDisabledHandle, BitVec.and_or_distrib_right]
  | setMonitor value => rfl

lemma getEnabledHandle_foldl (item : PollItem) (ops : List PollOperation) :
    (ops.foldl apply item).getEnabledHandle = item.getEnabledHandle := by
  induction ops generalizing item with
  | nil => rfl
  | cons op ops ih => rw [List.foldl_cons, ih, getEnabledHandle_apply]

/-! ## The mask -/

/-- A mask of `POLL_CHECK_ALL` fits into a `short`. -/
lemma signExtend_toEvents (value : PollValue) :
    (toEvents value).signExtend 32 = value &&& PollValue.checkAll :=
  signExtend_setWidth_and (by decide) value

lemma getMonitor_foldl (item : PollItem) {monitor : PollValue}
    (h : item.getMonitor = monitor &&& PollValue.checkAll) (ops : List PollOperation) :
    (ops.foldl apply item).getMonitor = lastMonitor monitor ops &&& PollValue.checkAll := by
  induction ops generalizing item monitor with
  | nil => exact h
  | cons op ops ih =>
    cases op with
    | enable => exact ih item.enable h
    | disable => exact ih item.disable h
    | setMonitor value => exact ih (item.setMonitor value) (signExtend_toEvents value)

/-! ## The switch -/

lemma isEnabled_disable (item : PollItem) : item.disable.isEnabled = false := by
  rw [← Bool.not_eq_true, isEnabled_iff, disable, getDisabledHandle, signBit]
  simp

lemma isEnabled_enable (item : PollItem) : item.enable.isEnabled = true := by
  rw [isEnabled_iff, enable, getEnabledHandle, signBit, getLsbD_clear]
  simp

/-- An item that was enabled is enabled unless it was disabled after the last `Enable`. -/
lemma isEnabled_foldl {item : PollItem} (h : item.isEnabled = true) (ops : List PollOperation) :
    (ops.foldl apply item).isEnabled = true ↔ .disable ∉ sinceEnable ops := by
  induction ops using List.reverseRecOn with
  | nil => exact iff_of_true h List.not_mem_nil
  | append_singleton ops op ih =>
    rw [List.foldl_concat, sinceEnable, List.reverse_concat, List.takeWhile_cons]
    cases op with
    | enable =>
      exact iff_of_true (isEnabled_enable _) List.not_mem_nil
    | disable =>
      refine iff_of_false ?_ ?_
      · rw [apply, isEnabled_disable]
        exact Bool.false_ne_true
      · simp
    | setMonitor value =>
      have hne : PollOperation.setMonitor value ≠ .enable := fun h => PollOperation.noConfusion h
      have hne' : PollOperation.disable ≠ .setMonitor value := fun h => PollOperation.noConfusion h
      rw [if_pos (decide_eq_true hne), List.mem_cons, or_iff_right hne']
      exact ih

/-! ## Whole runs -/

/-- After the calls, the item is still about the socket and monitors what was set last; if the
socket is valid, the item is enabled unless it was disabled after the last `Enable`. -/
structure KeepsSocket (socket : IPSocket (BitVec 32)) (monitor : PollValue)
    (ops : List PollOperation) : Prop where
  handle : (after socket monitor ops).getSocket.handle = socket.handle
  isValid : (after socket monitor ops).getSocket.handle ≠ invalidHandle
    ↔ socket.handle ≠ invalidHandle
  getMonitor : (after socket monitor ops).getMonitor
    = lastMonitor monitor ops &&& PollValue.checkAll
  isEnabled : socket.handle ≠ invalidHandle →
    ((after socket monitor ops).isEnabled = true ↔ .disable ∉ sinceEnable ops)

/-- **A `PollItem` keeps its socket through all calls** exactly when the handle is not negative. -/
theorem keepsSocket_iff (socket : IPSocket (BitVec 32)) (monitor : PollValue)
    (ops : List PollOperation) :
    KeepsSocket socket monitor ops ↔ 0 ≤ socket.handle.toInt := by
  have hhandle : (after socket monitor ops).getSocket.handle = socket.handle
      ↔ 0 ≤ socket.handle.toInt := by
    rw [getSocket, after, getEnabledHandle_foldl]
    exact and_not_signBit_eq_iff socket.handle
  constructor
  · exact fun h => hhandle.mp h.handle
  · intro hnonneg
    have henabled : (make socket monitor).isEnabled = true :=
      (isEnabled_iff _).mpr (getLsbD_eq_false_iff.mpr hnonneg)
    exact
      { handle := hhandle.mpr hnonneg
        isValid := by rw [hhandle.mpr hnonneg]
        getMonitor := getMonitor_foldl (make socket monitor) (signExtend_toEvents monitor) ops
        isEnabled := fun _ => isEnabled_foldl henabled ops }

/-- The item of a socket that failed to open gives back a socket that is valid. -/
theorem not_keepsSocket_invalid :
    (make ⟨invalidHandle⟩ .canRead).getSocket.handle = 0x7fffffff
      ∧ ¬KeepsSocket ⟨invalidHandle⟩ .canRead [] := by
  have hhandle : (make ⟨invalidHandle⟩ .canRead).getSocket.handle = 0x7fffffff := by decide
  exact ⟨hhandle, fun h => absurd (hhandle.symm.trans h.handle) (by decide)⟩

end PollItem

end SMBB
