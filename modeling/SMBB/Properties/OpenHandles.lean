import SMBB.Construction.SharedMemoryViews
import SMBB.Properties.SharedMemoryWindowsCalls
import SMBB.Framework.Objects

/-!
# Open handles as pieces

In the Windows build an object holds two handles, so its piece of the handle table is a file, a
mapping, or both.  `Close` gives back the two (`tiles_close`), and `Load` takes what it holds at the
end (`tiles_load`), also when the mapping could not be made and it returns success all the same.

`OpenMemory.Kept` says what the handles stand for: `_handle` for a file, and `_mapHandle` for a
mapping in the mode that `_readOnly` names, of that file if there is one.
-/

namespace SMBB
namespace Windows

open Pieces

/-! ## The objects -/

/-- A `SharedMemory` with what its handles stand for. -/
structure OpenMemory where
  object : SharedMemory
  file : Option HandleObject
  mapping : Option HandleObject

/-- What a handle stands for, unless it is the one that means there is none. -/
def HandleTable.objectOf (handles : HandleTable) (none handle : ℤ) : Option HandleObject :=
  if handle = none then .none else handles handle

/-- An object with what its handles stand for now. -/
def HandleTable.track (handles : HandleTable) (m : SharedMemory) : OpenMemory :=
  ⟨m, handles.objectOf invalidHandleValue m.handle, handles.objectOf nullHandle m.mapHandle⟩

/-- `SharedMemory` objects over the handles.  With the answers comes the entity that the name
leads to. -/
def memoryBehaviour :
    Objects.Behaviour Unit OpenMemory (Operation (Answers × ℕ)) Empty HandleTable where
  construct _ := ⟨.construct, none, none⟩
  operate handles m operation :=
    match operation.load with
    | some (args, os, entity) =>
      let loaded := m.object.load args os
      (Runs.run (Call.onHandles entity) handles loaded.calls).map fun handles =>
        (handles, handles.track loaded.object)
    | none =>
      let (object, calls) := m.object.close
      (Runs.run (Call.onHandles 0) handles calls).map fun handles => (handles, ⟨object, none, none⟩)
  destroy handles m := Runs.run (Call.onHandles 0) handles m.object.close.2
  outside _ x := x.elim

/-- The handle is one of the two that the object has. -/
def SharedMemory.Holds (m : SharedMemory) (handle : ℤ) : Prop :=
  m.handle ≠ invalidHandleValue ∧ m.handle = handle
    ∨ m.mapHandle ≠ nullHandle ∧ m.mapHandle = handle

namespace OpenMemory

/-- The piece of the handle table that an object has. -/
def piece (m : OpenMemory) : Pieces.Space ℤ HandleObject :=
  Pieces.Space.place (m.file.elim nothing (single m.object.handle))
    (m.mapping.elim nothing (single m.object.mapHandle))

/-- What the two handles of an object stand for. -/
structure Kept (m : OpenMemory) : Prop where
  closed : m.object.handle = invalidHandleValue → m.file = none
  opened : m.object.handle ≠ invalidHandleValue → ∃ file, m.file = some file ∧ file.kind = .file
  unmapped : m.object.mapHandle = nullHandle → m.mapping = none
  mapped : m.object.mapHandle ≠ nullHandle → ∃ mapping, m.mapping = some mapping
    ∧ mapping.kind = .mapping ∧ mapping.readOnly = m.object.readOnly
    ∧ ∀ file, m.file = some file → mapping.entity = file.entity
  apart : m.object.handle ≠ invalidHandleValue → m.object.mapHandle ≠ nullHandle →
    m.object.handle ≠ m.object.mapHandle

lemma piece_handle {m : OpenMemory} (hm : m.Kept) {file : HandleObject}
    (hfile : m.file = some file) : m.piece m.object.handle = some file := by
  have hhandle : m.object.handle ≠ invalidHandleValue := fun h =>
    Option.absurd_none ((hm.closed h).symm.trans hfile)
  rw [piece, hfile, Option.elim_some]
  refine Pieces.Space.place_of_free (fun {a v} ha => single_of_ne ?_) (single_self _ _)
  rcases hmapping : m.mapping with _ | mapping
  · rw [hmapping] at ha
    exact Option.absurd_none ha
  · rw [hmapping, Option.elim_some] at ha
    rw [(single_eq_some ha).1]
    exact (hm.apart hhandle fun h =>
      Option.absurd_none ((hm.unmapped h).symm.trans hmapping)).symm

lemma piece_mapHandle {m : OpenMemory} {mapping : HandleObject}
    (hmapping : m.mapping = some mapping) : m.piece m.object.mapHandle = some mapping := by
  rw [piece, hmapping, Option.elim_some, Pieces.Space.place, single_self, Option.some_or]

/-- The points of the piece of an object are its handles. -/
lemma Kept.isSome_piece {m : OpenMemory} (h : m.Kept) (a : ℤ) :
    (m.piece a).isSome = (decide (m.object.mapHandle ≠ nullHandle ∧ a = m.object.mapHandle)
      || decide (m.object.handle ≠ invalidHandleValue ∧ a = m.object.handle)) := by
  have hfile : ((m.file.elim nothing (single m.object.handle) : Pieces.Space ℤ HandleObject)
      a).isSome = decide (m.object.handle ≠ invalidHandleValue ∧ a = m.object.handle) := by
    by_cases hhandle : m.object.handle = invalidHandleValue
    · rw [h.closed hhandle, decide_eq_false fun h => h.1 hhandle]
      rfl
    · obtain ⟨file, hfile, -⟩ := h.opened hhandle
      rw [hfile, Option.elim_some, isSome_single]
      simp only [ne_eq, hhandle, not_false_eq_true, true_and]
  have hmapping : ((m.mapping.elim nothing (single m.object.mapHandle) :
      Pieces.Space ℤ HandleObject) a).isSome
        = decide (m.object.mapHandle ≠ nullHandle ∧ a = m.object.mapHandle) := by
    by_cases hmap : m.object.mapHandle = nullHandle
    · rw [h.unmapped hmap, decide_eq_false fun h => h.1 hmap]
      rfl
    · obtain ⟨mapping, hmapping, -⟩ := h.mapped hmap
      rw [hmapping, Option.elim_some, isSome_single]
      simp only [ne_eq, hmap, not_false_eq_true, true_and]
  rw [piece, Pieces.Space.isSome_place, hfile, hmapping]

lemma Kept.holds_iff {m : OpenMemory} (h : m.Kept) {d : ℤ} :
    (m.piece d).isSome = true ↔ m.object.Holds d := by
  rw [h.isSome_piece, Bool.or_eq_true, decide_eq_true_iff, decide_eq_true_iff,
    SharedMemory.Holds, or_comm, eq_comm (a := d), eq_comm (a := d)]

end OpenMemory

namespace SharedMemory

variable {τ : Type*} [DecidableEq τ] {pieces : τ → Pieces.Space ℤ HandleObject} {i : τ}
  {handles handles' : HandleTable} {entity : ℕ} {args : LoadArgs} {os : Answers}

lemma Closed.track {m : SharedMemory} (h : m.Closed) :
    handles.track m = ⟨m, none, none⟩ := by
  rw [HandleTable.track, HandleTable.objectOf, HandleTable.objectOf, if_pos h.1, if_pos h.2]

lemma Closed.kept {m : SharedMemory} (h : m.Closed) : OpenMemory.Kept ⟨m, none, none⟩ where
  closed _ := rfl
  opened hhandle := absurd h.1 hhandle
  unmapped _ := rfl
  mapped hmap := absurd h.2 hmap
  apart hhandle := absurd h.1 hhandle

lemma piece_none (m : SharedMemory) : OpenMemory.piece ⟨m, none, none⟩ = nothing := rfl

/-- `Close` clears the two handles. -/
lemma run_closes (m : SharedMemory) (handles : HandleTable) :
    Runs.run (Call.onHandles entity) handles m.closes
      = some (Pieces.Space.clear handles fun a =>
        decide (m.mapHandle ≠ nullHandle ∧ a = m.mapHandle)
          || decide (m.handle ≠ invalidHandleValue ∧ a = m.handle)) := by
  have hclear : ∀ (closed : Prop) [Decidable closed] (handle : ℤ) (handles : HandleTable),
      Runs.run (Call.onHandles entity) handles (if closed then [] else [.closeHandle handle])
        = some (Pieces.Space.clear handles fun a => decide (¬closed ∧ a = handle)) := by
    intro closed _ handle handles
    by_cases h : closed
    · have hsame : (Pieces.Space.clear handles fun a => decide (¬closed ∧ a = handle))
          = handles := by
        funext a
        rw [Pieces.Space.clear, decide_eq_false fun hc => hc.1 h]
        rfl
      rw [if_pos h, hsame]
      rfl
    · have hpoints : (fun a => decide (¬closed ∧ a = handle)) = fun a => decide (a = handle) := by
        simp only [h, not_false_eq_true, true_and]
      rw [if_neg h, hpoints]
      rfl
  rw [closes, Runs.run_append, hclear, Option.bind_some, hclear, Pieces.Space.clear_clear]

/-- `Close` gives back the piece of an object. -/
lemma tiles_close (h : Tiles pieces handles) {m : OpenMemory} (hm : m.Kept)
    (hi : pieces i = m.piece)
    (hrun : Runs.run (Call.onHandles entity) handles m.object.close.2 = some handles') :
    Tiles (Function.update pieces i nothing) handles' := by
  rw [m.object.close_spec.2, run_closes] at hrun
  obtain rfl := Option.some.inj hrun
  refine h.clear fun a => ?_
  rw [hi, hm.isSome_piece]

/-! ## `Load` -/

/-- A call that asks for a handle, with the answer and what was granted: nothing if the answer is
`null`, otherwise a handle that was free. -/
structure Granted (handles handles' : HandleTable) (null answer : ℤ) (object : HandleObject)
    (granted : Option HandleObject) : Prop where
  handles_eq : handles' = Pieces.Space.place handles (granted.elim nothing (single answer))
  refused : answer = null → granted = none
  given : answer ≠ null → granted = some object
  free : ∀ {a v}, (granted.elim nothing (single answer) : Pieces.Space ℤ HandleObject) a = some v →
    handles a = none

section Granted

variable {null answer : ℤ} {object : HandleObject} {granted : Option HandleObject}

lemma exists_granted
    (h : (if answer = null then some handles else handles.grant answer object) = some handles') :
    ∃ granted, Granted handles handles' null answer object granted := by
  split at h
  · rename_i hnull
    exact ⟨none, (Option.some.inj h).symm, fun _ => rfl, fun hanswer => absurd hnull hanswer,
      fun {_ v} hv => Option.absurd_none hv⟩
  · rename_i hnull
    rw [HandleTable.grant, Option.ite_none_left_eq_some] at h
    refine ⟨some object, (Option.some.inj h.2).symm, fun h => absurd h hnull, fun _ => rfl,
      fun hv => ?_⟩
    obtain ⟨rfl, -⟩ := single_eq_some hv
    exact Option.not_isSome_iff_eq_none.mp h.1

/-- What the answer stands for, as long as the handle is open. -/
lemma Granted.objectOf (h : Granted handles handles' null answer object granted)
    {later : HandleTable} (hlater : ∀ {a v}, handles' a = some v → later a = some v) :
    later.objectOf null answer = granted := by
  rw [HandleTable.objectOf]
  split
  · rename_i hnull
    rw [h.refused hnull]
  · rename_i hnull
    have hgranted := h.given hnull
    rw [hgranted]
    apply hlater
    rw [h.handles_eq, hgranted, Option.elim_some, Pieces.Space.place, single_self, Option.some_or]

end Granted

/-- Whatever `Load` was granted is what the object has afterwards. -/
lemma tiles_granted (h : Tiles pieces handles) (hi : pieces i = nothing) {m : OpenMemory}
    (hm : m.Kept) (hhandles : handles' = Pieces.Space.place handles m.piece)
    (hfree : ∀ {a v}, m.piece a = some v → handles a = none)
    (hfile : handles'.objectOf invalidHandleValue m.object.handle = m.file)
    (hmapping : handles'.objectOf nullHandle m.object.mapHandle = m.mapping) :
    Tiles (Function.update pieces i (handles'.track m.object).piece) handles'
      ∧ (handles'.track m.object).Kept := by
  have htrack : handles'.track m.object = m := by rw [HandleTable.track, hfile, hmapping]
  rw [htrack]
  exact ⟨hhandles ▸ h.place hi hfree, hm⟩

/-- `Load` on a closed object gives it the piece for what it holds at the end. -/
lemma Outcome.tiles {loaded : Loaded} (hloaded : Outcome args os loaded)
    (hmode : loaded.result = .success → loaded.object.readOnly = args.readOnly)
    (h : Tiles pieces handles) (hi : pieces i = nothing)
    (hrun : Runs.run (Call.onHandles entity) handles loaded.calls = some handles') :
    Tiles (Function.update pieces i (handles'.track loaded.object).piece) handles'
      ∧ (handles'.track loaded.object).Kept := by
  have hclosed : ∀ {object : SharedMemory}, object.Closed → handles' = handles →
      Tiles (Function.update pieces i (handles'.track object).piece) handles'
        ∧ (handles'.track object).Kept := by
    intro object hobject hhandles
    rw [hobject.track, piece_none, ← hi, Function.update_eq_self, hhandles]
    exact ⟨h, hobject.kept⟩
  cases hloaded with
  | refused _ _ hobject => exact hclosed hobject (Option.some.inj hrun).symm
  | unopened _ _ hfile hobject =>
    obtain ⟨next, hcreate, hrest⟩ := Runs.run_cons_eq_some.mp hrun
    rw [Call.onHandles, if_pos hfile] at hcreate
    exact hclosed hobject ((Option.some.inj hcreate).trans (Option.some.inj hrest)).symm
  | unresized _ _ hfile _ _ hobject =>
    rw [List.cons_append] at hrun
    obtain ⟨next, hcreate, hrun⟩ := Runs.run_cons_eq_some.mp hrun
    obtain ⟨file, hgranted⟩ := exists_granted hcreate
    have hfree : handles os.file = none :=
      hgranted.free (by rw [hgranted.given hfile, Option.elim_some, single_self])
    rw [Runs.run_append, Runs.run_eq_self, Option.bind_some] at hrun
    · obtain rfl := Option.some.inj hrun
      refine hclosed hobject ?_
      rw [hgranted.handles_eq, hgranted.given hfile]
      exact clear_place_single hfree
    · refine List.forall_mem_cons.mpr ⟨rfl, fun call hcall => ?_⟩
      split at hcall
      · obtain rfl := List.mem_singleton.mp hcall
        rfl
      · exact absurd hcall List.not_mem_nil
  | @mapped object filename _ _ hfile _ hhandle hmapping =>
    rw [List.cons_append] at hrun
    obtain ⟨opened, hcreate, hrun⟩ := Runs.run_cons_eq_some.mp hrun
    obtain ⟨file, hgfile⟩ := exists_granted hcreate
    have hfile_eq := hgfile.given hfile
    have hopen : opened os.file = some ⟨.file, entity, args.readOnly⟩ := by
      rw [hgfile.handles_eq, hfile_eq, Option.elim_some, Pieces.Space.place, single_self,
        Option.some_or]
    rw [Runs.run_append, Runs.run_eq_self, Option.bind_some] at hrun
    · obtain ⟨next, hmap, hrest⟩ := Runs.run_cons_eq_some.mp hrun
      obtain rfl := Option.some.inj hrest
      simp only [Call.onHandles, hopen, Option.bind_some, imp_self, and_self, if_true] at hmap
      obtain ⟨mapping, hgmapping⟩ := exists_granted hmap
      have hpiece : OpenMemory.piece ⟨object, file, mapping⟩
          = Pieces.Space.place (file.elim nothing (single os.file))
            (mapping.elim nothing (single os.mapping)) := by
        rw [← hhandle, ← hmapping]
        rfl
      refine tiles_granted h hi (m := ⟨object, file, mapping⟩) ?_ ?_ ?_ ?_ ?_
      · exact {
          closed := fun h => absurd (hhandle.symm.trans h) hfile
          opened := fun _ => ⟨_, hfile_eq, rfl⟩
          unmapped := fun h => hgmapping.refused (hmapping.symm.trans h)
          mapped := fun h => ⟨_, hgmapping.given fun hnull => h (hmapping.trans hnull), rfl,
            (hmode rfl).symm, fun f hf => by
              rw [Option.some.inj (hf.symm.trans hfile_eq)]⟩
          apart := fun _ h heq => by
            rw [hhandle, hmapping] at heq
            rw [hmapping] at h
            rw [heq, hgmapping.free (by rw [hgmapping.given h, Option.elim_some, single_self])]
              at hopen
            exact Option.absurd_none hopen }
      · rw [hgmapping.handles_eq, hgfile.handles_eq, hpiece, Pieces.Space.place_place]
      · intro a v ha
        rw [hpiece, Pieces.Space.place, Option.or_eq_some_iff] at ha
        obtain ha | ⟨-, ha⟩ := ha
        · have hfree := hgmapping.free ha
          rw [hgfile.handles_eq, Pieces.Space.place, Option.or_eq_none_iff] at hfree
          exact hfree.2
        · exact hgfile.free ha
      · rw [hhandle]
        refine hgfile.objectOf fun ha => ?_
        rw [hgmapping.handles_eq]
        exact Pieces.Space.place_of_free hgmapping.free ha
      · rw [hmapping]
        exact hgmapping.objectOf id
    · intro call hcall
      split at hcall
      · exact absurd hcall List.not_mem_nil
      · obtain rfl | hcall := List.mem_cons.mp hcall
        · rfl
        · obtain rfl := List.mem_singleton.mp hcall
          rfl
  | @named object name _ _ hhandle hmapping =>
    obtain ⟨next, hmap, hrest⟩ := Runs.run_cons_eq_some.mp hrun
    obtain rfl := Option.some.inj hrest
    obtain ⟨mapping, hgmapping⟩ : ∃ mapping, Granted handles next nullHandle os.mapping
        ⟨.mapping, entity, args.readOnly⟩ mapping := by
      split at hmap <;> exact exists_granted hmap
    have hpiece : OpenMemory.piece ⟨object, none, mapping⟩
        = mapping.elim nothing (single os.mapping) := by
      rw [OpenMemory.piece, Option.elim_none, hmapping]
      funext a
      exact Option.or_none
    refine tiles_granted h hi (m := ⟨object, none, mapping⟩) ?_ ?_ ?_ ?_ ?_
    · exact {
        closed := fun _ => rfl
        opened := fun h => absurd hhandle h
        unmapped := fun h => hgmapping.refused (hmapping.symm.trans h)
        mapped := fun h => ⟨_, hgmapping.given fun hnull => h (hmapping.trans hnull), rfl,
          (hmode rfl).symm, fun f hf => Option.absurd_none hf⟩
        apart := fun h => absurd hhandle h }
    · rw [hpiece]
      exact hgmapping.handles_eq
    · rw [hpiece]
      exact hgmapping.free
    · rw [HandleTable.objectOf, if_pos hhandle]
    · rw [hmapping]
      exact hgmapping.objectOf id

lemma readOnly_of_loadFile {m : SharedMemory} {filename : CString}
    (h : (m.loadFile filename args os).result = .success) :
    (m.loadFile filename args os).object.readOnly = args.readOnly := by
  unfold loadFile at h ⊢
  by_cases hfile : os.file = invalidHandleValue
  · rw [if_pos hfile] at h
    have hfailed : LoadResult.failedToOpenFile = .success := h
    exact LoadResult.noConfusion hfailed
  · rw [if_neg hfile] at h ⊢
    by_cases hsize : args.size = 0
    · rw [if_neg (not_not.mpr hsize)]
      rfl
    · rw [if_pos hsize] at h ⊢
      by_cases hresized : (os.pointerSet && os.endSet) = true
      · rw [if_pos hresized]
        rfl
      · rw [if_neg hresized] at h
        have hfailed : LoadResult.failedToResizeFile = .success := h
        exact LoadResult.noConfusion hfailed

/-- A `Load` that succeeds stores the mode. -/
lemma readOnly_of_loadClosed {m : SharedMemory} (h : (m.loadClosed args os).result = .success) :
    (m.loadClosed args os).object.readOnly = args.readOnly := by
  unfold loadClosed at h ⊢
  by_cases hsize : args.size < 0
  · rw [if_pos hsize] at h
    exact LoadResult.noConfusion h
  rw [if_neg hsize] at h ⊢
  rcases hfilename : args.filename with _ | filename
  · rcases hname : args.name with _ | name
    · rw [hfilename, hname] at h
      exact LoadResult.noConfusion h
    · rfl
  · rw [hfilename] at h
    exact readOnly_of_loadFile h

/-- `Load` exchanges the piece of an object. -/
lemma tiles_load (h : Tiles pieces handles) {m : OpenMemory} (hm : m.Kept)
    (hi : pieces i = m.piece)
    (hrun : Runs.run (Call.onHandles entity) handles (m.object.load args os).calls
      = some handles') :
    Tiles (Function.update pieces i (handles'.track (m.object.load args os).object).piece) handles'
      ∧ (handles'.track (m.object.load args os).object).Kept := by
  rw [load_calls, Runs.run_append] at hrun
  obtain ⟨closed, hclose, hload⟩ := Option.bind_eq_some_iff.mp hrun
  obtain ⟨htiles, hkept⟩ := (outcome_loadClosed m.object.close_spec.1 args os).tiles
    readOnly_of_loadClosed (tiles_close h hm hi hclose) (Function.update_self i _ _) hload
  rw [Function.update_idem] at htiles
  exact ⟨htiles, hkept⟩

/-- An operation exchanges the piece of its object. -/
lemma tiles_operate {m m' : OpenMemory} {operation : Operation (Answers × ℕ)}
    (hop : memoryBehaviour.operate handles m operation = some (handles', m')) (hm : m.Kept)
    (h : Tiles pieces handles) (hi : pieces i = m.piece) :
    Tiles (Function.update pieces i m'.piece) handles' ∧ m'.Kept := by
  rw [memoryBehaviour] at hop
  dsimp only at hop
  split at hop
  · obtain ⟨next, hrun, heq⟩ := Option.map_eq_some_iff.mp hop
    obtain ⟨rfl, rfl⟩ := Prod.mk.inj heq
    exact tiles_load h hm hi hrun
  · obtain ⟨next, hrun, heq⟩ := Option.map_eq_some_iff.mp hop
    obtain ⟨rfl, rfl⟩ := Prod.mk.inj heq
    exact ⟨tiles_close h hm hi hrun, m.object.close_spec.1.kept⟩

end SharedMemory

end Windows
end SMBB
