import SMBB.Properties.SharedMemoryCalls
import SMBB.Framework.Objects

/-!
# Descriptors and pending deletes over whole runs

Any number of `SharedMemory` objects are constructed, loaded, closed and destroyed in any order,
while the system answers as it likes: it may fail any call, and only never hands out a descriptor
that is still open.

Two invariants hold in every state.  The open descriptors are the `_handle` values, each in one
object, and none was closed twice: every operation follows the rule of ownership
(`follow_load`, `follow_close`).  And a pending delete is justified by the object's last `Load`
(`NameJustified`): it succeeded, was asked to delete on close, and opened exactly this path.
-/

namespace SMBB
namespace Posix

open Ownership (Table follow Exclusive)

variable {M : ℕ} [NeZero M]

/-- The last `Load` of an object. -/
structure LastLoad where
  deleteOnClose : Bool
  result : LoadResult
  calls : List Call

/-- An object with its last `Load`. -/
structure Tracked (M : ℕ) where
  object : SharedMemory M
  last : Option LastLoad

/-- The events of a sequence of calls. -/
def events (calls : List Call) : List (Ownership.Event ℤ) := calls.filterMap Call.event

@[simp] lemma events_nil : events [] = [] := rfl

@[simp] lemma events_ftruncate (descriptor size : ℤ) (ok : Bool) (calls : List Call) :
    events (.ftruncate descriptor size ok :: calls) = events calls := rfl

@[simp] lemma events_unlink (space : Space) (path : List Char) (calls : List Call) :
    events (.unlink space path :: calls) = events calls := rfl

@[simp] lemma events_close (descriptor : ℤ) (calls : List Call) :
    events (.close descriptor :: calls) = .release descriptor :: events calls := rfl

lemma events_openEntity_ok {answer : ℤ} (h : answer ≠ -1) (space : Space) (path : List Char)
    (readOnly create : Bool) (calls : List Call) :
    events (.openEntity space path readOnly create answer :: calls)
      = .acquire answer :: events calls :=
  List.filterMap_cons_some (if_neg h)

lemma events_openEntity_failed {answer : ℤ} (h : answer = -1) (space : Space) (path : List Char)
    (readOnly create : Bool) (calls : List Call) :
    events (.openEntity space path readOnly create answer :: calls) = events calls :=
  List.filterMap_cons_none (if_pos h)

lemma events_append (calls calls' : List Call) :
    events (calls ++ calls') = events calls ++ events calls' :=
  List.filterMap_append

/-- `SharedMemory` objects over the table of open descriptors.  Nothing else happens to it. -/
def descriptorBehaviour (M : ℕ) [NeZero M] :
    Objects.Behaviour (Vector Char M) (Tracked M) (Operation Answers) Empty (Table ℤ) where
  construct storage := ⟨.construct storage, none⟩
  operate table t operation :=
    match operation.load with
    | some (args, os) =>
      let loaded := t.object.load args os
      (Runs.run Table.apply table (events loaded.calls)).map fun table =>
        (table, ⟨loaded.object, some ⟨args.deleteOnClose, loaded.result, loaded.calls⟩⟩)
    | none =>
      let (object, calls) := t.object.close
      (Runs.run Table.apply table (events calls)).map fun table => (table, { t with object })
  destroy table t := Runs.run Table.apply table (events t.object.close.2)
  outside _ x := x.elim

namespace SharedMemory

/-- The descriptor an object holds. -/
def held (m : SharedMemory M) : Option ℤ := if m.handle = -1 then none else some m.handle

omit [NeZero M] in
lemma Closed.held {m : SharedMemory M} (h : m.Closed) : m.held = none := if_pos h.1

/-- `Close` gives back what the object holds. -/
lemma follow_close (m : SharedMemory M) :
    Runs.run follow m.held (events m.close.2) = some m.close.1.held := by
  obtain ⟨hclosed, hcalls⟩ := m.close_spec
  have hdeletes : events m.deletes = [] := by
    unfold deletes
    split <;> rfl
  rw [hcalls, hclosed.held, events_append, hdeletes, List.nil_append, closes, SharedMemory.held]
  split
  · rfl
  · rw [events_close, events_nil, Runs.run, follow, if_pos rfl]
    rfl

omit [NeZero M] in
/-- `Load` on a closed object takes at most the descriptor the object holds at the end. -/
lemma Outcome.follow {args : LoadArgs} {os : Answers} {loaded : Loaded M}
    (h : Outcome args os loaded) :
    Runs.run Ownership.follow none (events loaded.calls) = some loaded.object.held := by
  cases h with
  | refused _ _ hobject =>
    rw [hobject.held]
    rfl
  | unopened _ _ hopened hobject =>
    rw [hobject.held, events_openEntity_failed hopened]
    rfl
  | unresized _ _ hopened _ _ hobject =>
    rw [hobject.held, List.append_assoc, List.cons_append, events_openEntity_ok hopened]
    split <;> simp [Runs.run, Ownership.follow]
  | loaded _ _ hopened _ hhandle =>
    rw [SharedMemory.held, hhandle, if_neg hopened, events_openEntity_ok hopened]
    split <;> simp [Runs.run, Ownership.follow]

/-- `Load` gives back what the object holds and takes at most one descriptor instead. -/
lemma follow_load (m : SharedMemory M) (args : LoadArgs) (os : Answers) :
    Runs.run Ownership.follow m.held (events (m.load args os).calls)
      = some (m.load args os).object.held := by
  rw [load_calls, events_append, Runs.run_append, m.follow_close, m.close_spec.1.held]
  exact (outcome_loadClosed m.close_spec.1 args os).follow

/-- The pending delete of a tracked object, if there is one, is for what its last `Load` opened:
that `Load` succeeded and was asked to delete on close. -/
def NameJustified (t : Tracked M) : Prop :=
  t.object.path ≠ [] →
    t.object.handle ≠ -1 ∧ ∃ last, t.last = some last ∧ last.result = .success
      ∧ last.deleteOnClose = true
      ∧ ∃ readOnly create,
        .openEntity t.object.space t.object.path readOnly create t.object.handle ∈ last.calls

omit [NeZero M] in
/-- A `Load` justifies the delete it leaves pending. -/
lemma Outcome.justified {args : LoadArgs} {os : Answers} {loaded : Loaded M}
    (h : Outcome args os loaded) (closing : List Call) :
    NameJustified ⟨loaded.object,
      some ⟨args.deleteOnClose, loaded.result, closing ++ loaded.calls⟩⟩ := by
  intro hpath
  cases h with
  | refused _ _ hobject => exact absurd hobject.2 hpath
  | unopened _ _ _ hobject => exact absurd hobject.2 hpath
  | unresized _ _ _ _ _ hobject => exact absurd hobject.2 hpath
  | @loaded object space s _ _ hopened _ hhandle hspace hobject =>
    by_cases hdelete : args.deleteOnClose = true
    · rw [if_pos hdelete] at hobject
      refine ⟨hhandle ▸ hopened, _, rfl, rfl, hdelete, args.readOnly, args.size ≠ 0, ?_⟩
      simp only [hspace, hobject, hhandle]
      exact List.mem_append_right closing List.mem_cons_self
    · rw [if_neg hdelete] at hobject
      exact absurd hobject hpath

end SharedMemory

open SharedMemory (NameJustified)

variable {ι : Type*} [DecidableEq ι]

/-- A world of `SharedMemory` objects, and what can happen in it. -/
abbrev DescriptorWorld (ι : Type*) (M : ℕ) := Objects.World ι (Tracked M) (Table ℤ)
abbrev DescriptorAction (ι : Type*) (M : ℕ) :=
  Objects.Action ι (Vector Char M) (Operation Answers) Empty

/-- The descriptors and the pending deletes of a world are as they should be. -/
structure DescriptorWorld.Sound (w : DescriptorWorld ι M) : Prop where
  exclusive : Exclusive (w.held fun t => t.object.held) w.env
  justified : ∀ i t, w.objects i = some t → NameJustified t

omit [NeZero M] [DecidableEq ι] in
lemma sound_initial : DescriptorWorld.Sound (.initial Table.empty : DescriptorWorld ι M) where
  exclusive := Ownership.exclusive_empty
  justified _ _ h := Option.absurd_none h

lemma DescriptorWorld.Sound.step {w w' : DescriptorWorld ι M} {a : DescriptorAction ι M}
    (hw : w.Sound) (h : Objects.step (descriptorBehaviour M) w a = some w') : w'.Sound where
  exclusive := by
    refine Objects.exclusive id ?_ ?_ ?_ ?_ hw.exclusive h
    · exact fun storage => (SharedMemory.closed_construct storage).held
    · intro table t operation table' t' hop
      rw [descriptorBehaviour] at hop
      dsimp only at hop
      split at hop
      · obtain ⟨table'', hrun, heq⟩ := Option.map_eq_some_iff.mp hop
        obtain ⟨rfl, rfl⟩ := Prod.mk.inj heq
        exact ⟨_, t.object.follow_load _ _, hrun⟩
      · obtain ⟨table'', hrun, heq⟩ := Option.map_eq_some_iff.mp hop
        obtain ⟨rfl, rfl⟩ := Prod.mk.inj heq
        exact ⟨_, t.object.follow_close, hrun⟩
    · intro table t table' hdestroy
      have hfollow := t.object.follow_close
      rw [t.object.close_spec.1.held] at hfollow
      exact ⟨_, hfollow, hdestroy⟩
    · exact fun _ x => x.elim
  justified := by
    refine Objects.forall_objects (P := fun _ t => NameJustified t) (C := fun _ _ _ => True)
      ?_ ?_ ?_ ?_ hw.justified (fun _ _ _ _ _ => trivial) h
    · exact fun _ storage hpath => absurd (SharedMemory.closed_construct storage).2 hpath
    · intro table t operation table' t' _ _ hop
      rw [descriptorBehaviour] at hop
      dsimp only at hop
      split at hop
      · obtain ⟨table'', hrun, heq⟩ := Option.map_eq_some_iff.mp hop
        obtain ⟨rfl, rfl⟩ := Prod.mk.inj heq
        exact ⟨(SharedMemory.outcome_loadClosed t.object.close_spec.1 _ _).justified _,
          fun _ hp => hp⟩
      · obtain ⟨table'', hrun, heq⟩ := Option.map_eq_some_iff.mp hop
        obtain ⟨rfl, rfl⟩ := Prod.mk.inj heq
        exact ⟨fun hpath => absurd t.object.close_spec.1.2 hpath, fun _ hp => hp⟩
    · exact fun _ _ _ _ _ hp => hp
    · exact fun _ x => x.elim

/-- **Descriptors and pending deletes are sound in every state of every run.** -/
theorem sound_throughout (actions : List (DescriptorAction ι M)) :
    Runs.Throughout (Objects.step (descriptorBehaviour M)) DescriptorWorld.Sound
      (.initial Table.empty) actions :=
  Runs.throughout (fun _ _ _ hw h => hw.step h) actions sound_initial

/-- Two objects: one is destroyed with its delete pending, the other reloads what it holds. -/
theorem sound_throughout_two_objects :
    Runs.Throughout (Objects.step (descriptorBehaviour 4)) DescriptorWorld.Sound
      (.initial Table.empty)
      [.construct false (.replicate 4 'z'), .construct true (.replicate 4 'z'),
        .operate false (.createNamed (some ⟨['x'], by decide⟩) 1 true ⟨3, true⟩),
        .operate true (.openNamed (some ⟨['x'], by decide⟩) true ⟨4, true⟩),
        .operate true (.openNamed (some ⟨['x'], by decide⟩) false ⟨4, true⟩),
        .destroy false, .operate true .close] :=
  sound_throughout _

end Posix
end SMBB
