import SMBB.Properties.SharedMemoryWindowsCalls
import SMBB.Properties.SharedMemoryDeletes
import Mathlib.Data.Fintype.EquivFin

/-!
# What `Load` creates and what is deleted on close, Windows build

`System` is what the calls act on: the existing names, the open files, and a record of the files
that were deleted on close, each with the names that existed when its object was loaded.  A file
is deleted when the handle that carries the flag is closed, so the flag and the names are kept
with the handle.

A file is created only, under the same condition as in the POSIX build
(`successCreates_iff`).  For a name the result is success in any case, so a `CreateNamed` is
right about it only when the size is not zero, the name was free and the system did make the
mapping (`createdNew_named_iff`).
-/

namespace SMBB
namespace Windows

/-- An open file: the path and the entity it was opened as, whether it is deleted on close, and
the names that existed when its object was loaded. -/
structure OpenFile where
  path : List Char
  entity : ℕ
  deleteOnClose : Bool
  loadedAt : Names Key

/-- What the calls act on. -/
structure System where
  names : Names Key
  files : List (ℤ × OpenFile)
  removed : List (ℕ × Names Key)

namespace System

/-- `CloseHandle`: a file that is deleted on close goes, if its path still leads to it. -/
def closeHandle (s : System) (handle : ℤ) : System :=
  match s.files.lookup handle with
  | none => s
  | some f =>
    let files := s.files.filter (·.1 ≠ handle)
    if f.deleteOnClose = true ∧ s.names.entity (.file, f.path) = some f.entity then
      { names := s.names.remove (.file, f.path)
        files
        removed := s.removed ++ [(f.entity, f.loadedAt)] }
    else { s with files }

/-- The effect of a call of an object that is loaded while `loadedAt` exist, or `none` where the
system cannot give this answer.  A mapping under a name that exists is a handle to what is
there. -/
def apply (loadedAt : Names Key) (s : System) : Call → Option System
  | .createFile filename _ create deleteOnClose answer =>
    if answer = invalidHandleValue then some s
    else if filename = [] ∨ (s.files.lookup answer).isSome = true then none
    else if create then
      if s.names.entity (.file, filename) = none then
        some { s with
          names := s.names.create (.file, filename)
          files := (answer, ⟨filename, s.names.next, deleteOnClose, loadedAt⟩) :: s.files }
      else none
    else
      (s.names.entity (.file, filename)).map fun entity =>
        { s with files := (answer, ⟨filename, entity, deleteOnClose, loadedAt⟩) :: s.files }
  | .setFilePointerEx _ _ _ => some s
  | .setEndOfFile _ _ => some s
  | .mapFile _ _ _ => some s
  | .createMapping name _ _ answer =>
    if answer = nullHandle then some s
    else if s.names.entity (.shm, name) = none then
      some { s with names := s.names.create (.shm, name) }
    else some s
  | .openFileMapping name _ answer =>
    if answer = nullHandle then some s
    else if s.names.entity (.shm, name) = none then none else some s
  | .closeHandle handle => some (s.closeHandle handle)

variable {s s' : System} {loadedAt : Names Key}

/-! ## Calls -/

lemma closeHandle_names (s : System) (handle : ℤ) :
    (s.closeHandle handle).names = s.names
      ∨ ∃ path, (s.closeHandle handle).names = s.names.remove (.file, path) := by
  unfold closeHandle
  split
  · exact Or.inl rfl
  · rename_i f _
    split
    · exact Or.inr ⟨f.path, rfl⟩
    · exact Or.inl rfl

/-- Creating a file needs a path that is not there yet. -/
lemma apply_createFile_new {filename : List Char} {answer : ℤ} (loadedAt : Names Key)
    (readOnly deleteOnClose : Bool) (h : answer ≠ invalidHandleValue) :
    s.apply loadedAt (.createFile filename readOnly true deleteOnClose answer) = some s'
      ↔ ¬(filename = [] ∨ (s.files.lookup answer).isSome = true)
        ∧ s.names.entity (.file, filename) = none
        ∧ s' = { s with
          names := s.names.create (.file, filename)
          files := (answer, ⟨filename, s.names.next, deleteOnClose, loadedAt⟩) :: s.files } := by
  rw [apply, if_neg h, if_pos rfl, Option.ite_none_left_eq_some, Option.ite_none_right_eq_some,
    Option.some_inj, eq_comm (a := s')]

/-- Opening a file needs a path that is there. -/
lemma apply_createFile_existing {filename : List Char} {answer : ℤ} (loadedAt : Names Key)
    (readOnly deleteOnClose : Bool) (h : answer ≠ invalidHandleValue) :
    s.apply loadedAt (.createFile filename readOnly false deleteOnClose answer) = some s'
      ↔ ¬(filename = [] ∨ (s.files.lookup answer).isSome = true)
        ∧ ∃ entity, s.names.entity (.file, filename) = some entity
          ∧ { s with files := (answer, ⟨filename, entity, deleteOnClose, loadedAt⟩) :: s.files }
            = s' := by
  rw [apply, if_neg h, if_neg Bool.false_ne_true, Option.ite_none_left_eq_some,
    Option.map_eq_some_iff]

/-- Opening a mapping changes nothing. -/
lemma apply_openFileMapping {name : List Char} {readOnly : Bool} {answer : ℤ}
    (h : s.apply loadedAt (.openFileMapping name readOnly answer) = some s') : s' = s := by
  rw [apply] at h
  split at h
  · exact (Option.some.inj h).symm
  · exact (Option.some.inj (Option.ite_none_left_eq_some.mp h).2).symm

section CreateMapping

variable {name : List Char} {readOnly : Bool} {size answer : ℤ}

/-- A mapping that is made under a free name creates it. -/
lemma apply_createMapping_new (hanswer : answer ≠ nullHandle)
    (habsent : s.names.entity (.shm, name) = none)
    (h : s.apply loadedAt (.createMapping name readOnly size answer) = some s') :
    s' = { s with names := s.names.create (.shm, name) } := by
  rw [apply, if_neg hanswer, if_pos habsent] at h
  exact (Option.some.inj h).symm

/-- A mapping that is not made, or whose name exists, changes nothing. -/
lemma apply_createMapping_kept
    (hkept : ¬(answer ≠ nullHandle ∧ s.names.entity (.shm, name) = none))
    (h : s.apply loadedAt (.createMapping name readOnly size answer) = some s') : s' = s := by
  rw [apply] at h
  by_cases hanswer : answer = nullHandle
  · rw [if_pos hanswer] at h
    exact (Option.some.inj h).symm
  · rw [if_neg hanswer, if_neg fun habsent => hkept ⟨hanswer, habsent⟩] at h
    exact (Option.some.inj h).symm

end CreateMapping

/-- There is always a handle that is free. -/
lemma exists_fresh (s : System) :
    ∃ handle, handle ≠ invalidHandleValue ∧ ¬(s.files.lookup handle).isSome = true := by
  obtain ⟨handle, hfresh⟩ :=
    Infinite.exists_notMem_finset (insert invalidHandleValue (s.files.map Prod.fst).toFinset)
  rw [Finset.mem_insert, not_or, List.mem_toFinset] at hfresh
  refine ⟨handle, hfresh.1, ?_⟩
  rw [Option.not_isSome_iff_eq_none, List.lookup_eq_none_iff]
  intro p hp
  rw [bne_iff_ne]
  rintro rfl
  exact hfresh.2 (List.mem_map_of_mem hp)

end System

namespace SharedMemory

variable {m : SharedMemory} {args : LoadArgs} {os : Answers} {s after : System}
  {loadedAt : Names Key}

/-- The system after `Close`. -/
def afterClose (m : SharedMemory) (s : System) : System :=
  let s := if m.mapHandle = nullHandle then s else s.closeHandle m.mapHandle
  if m.handle = invalidHandleValue then s else s.closeHandle m.handle

lemma run_close (loadedAt : Names Key) (m : SharedMemory) (s : System) :
    Runs.run (System.apply loadedAt) s m.close.2 = some (m.afterClose s) := by
  rw [m.close_spec.2, closes, afterClose, Runs.run_append]
  split <;> split <;> rfl

/-- What closing leaves alone, it leaves as it was: a path is taken away or kept. -/
lemma closeHandle_kept (s : System) (handle : ℤ) (key : Key) :
    ((s.closeHandle handle).names.entity key = none
        ∧ (key.1 = .shm → s.names.entity key = none))
      ∨ (s.closeHandle handle).names.entity key = s.names.entity key := by
  rcases s.closeHandle_names handle with h | ⟨path, h⟩
  · rw [h]
    exact Or.inr rfl
  · rw [h]
    by_cases hkey : key = (.file, path)
    · rw [hkey]
      exact Or.inl ⟨Names.remove_entity_self, fun h => Space.noConfusion h⟩
    · exact Or.inr (Names.remove_entity_of_ne hkey)

lemma closeHandle_next (s : System) (handle : ℤ) :
    (s.closeHandle handle).names.next = s.names.next := by
  rcases s.closeHandle_names handle with h | ⟨path, h⟩ <;> rw [h]
  rfl

lemma afterClose_next (m : SharedMemory) (s : System) :
    (m.afterClose s).names.next = s.names.next := by
  unfold afterClose
  split <;> split <;> simp only [closeHandle_next]

/-- `Close` takes files away, and nothing else. -/
lemma afterClose_kept (m : SharedMemory) (s : System) (key : Key) :
    ((m.afterClose s).names.entity key = none ∧ (key.1 = .shm → s.names.entity key = none))
      ∨ (m.afterClose s).names.entity key = s.names.entity key := by
  unfold afterClose
  dsimp only
  split <;> split
  · exact Or.inr rfl
  · exact closeHandle_kept s _ key
  · exact closeHandle_kept s _ key
  · rcases closeHandle_kept (s.closeHandle m.mapHandle) m.handle key with ⟨h, hshm⟩ | h
    · refine Or.inl ⟨h, fun hkey => ?_⟩
      rcases closeHandle_kept s m.mapHandle key with ⟨-, hshm'⟩ | h'
      · exact hshm' hkey
      · exact h' ▸ hshm hkey
    · rw [h]
      exact closeHandle_kept s _ key

lemma afterClose_shm (m : SharedMemory) (s : System) (name : List Char) :
    (m.afterClose s).names.entity (.shm, name) = s.names.entity (.shm, name) := by
  rcases m.afterClose_kept s (.shm, name) with ⟨h, hshm⟩ | h
  · rw [h, hshm rfl]
  · exact h

lemma run_load (m : SharedMemory) (args : LoadArgs) (os : Answers) (s : System) :
    Runs.run (System.apply loadedAt) s (m.load args os).calls
      = Runs.run (System.apply loadedAt) (m.afterClose s)
        (m.close.1.loadClosed args os).calls := by
  rw [load_calls, Runs.run_append, run_close, Option.bind_some]

/-! ## Creation -/

/-- When a `Load` of a file with these arguments can only create: if the file exists, the size is
zero exactly when the object's own `Close` deletes it. -/
def CreatesOnly (m : SharedMemory) (s : System) (args : LoadArgs) : Prop :=
  ∀ filename, args.target = some (.file, filename) → Acceptable args → filename.chars ≠ [] →
    s.names.entity (.file, filename.chars) ≠ none →
      ((m.afterClose s).names.entity (.file, filename.chars) = none ↔ args.size = 0)

/-- A successful `Load` of a file is a successful open. -/
lemma Outcome.of_success {loaded : Loaded} (h : Outcome args os loaded)
    (hsuccess : loaded.result = .success) {filename : CString}
    (htarget : args.target = some (.file, filename)) :
    Acceptable args ∧ os.file ≠ invalidHandleValue
      ∧ ∀ s, Runs.run (System.apply loadedAt) s loaded.calls
        = s.apply loadedAt (.createFile filename.chars args.readOnly (args.size ≠ 0)
          args.deleteOnClose os.file) := by
  cases h with
  | refused _ hresult => exact absurd hsuccess hresult
  | unopened => exact LoadResult.noConfusion hsuccess
  | unresized => exact LoadResult.noConfusion hsuccess
  | named _ htarget' => cases htarget.symm.trans htarget'
  | mapped hargs htarget' hfile =>
    obtain ⟨-, rfl⟩ := LoadArgs.target_unique htarget' htarget
    refine ⟨hargs, hfile, fun s => ?_⟩
    split <;> exact Option.bind_fun_some _

/-- With answers that grant everything, acceptable arguments succeed. -/
lemma Outcome.success {loaded : Loaded} (h : Outcome args os loaded) (hargs : Acceptable args)
    (hfile : os.file ≠ invalidHandleValue) (hpointer : os.pointerSet = true)
    (hend : os.endSet = true) : loaded.result = .success := by
  cases h with
  | refused hrefused => exact absurd hargs hrefused
  | unopened _ _ hfailed => exact absurd hfailed hfile
  | unresized _ _ _ _ hfailed => exact absurd ⟨hpointer, hend⟩ hfailed
  | mapped => rfl
  | named => rfl

/-- What can only create has created. -/
lemma createdNew_of_createsOnly (honly : m.CreatesOnly s args)
    (hrun : Runs.run (System.apply loadedAt) s (m.load args os).calls = some after)
    (hsuccess : (m.load args os).result = .success) {filename : CString}
    (htarget : args.target = some (.file, filename)) :
    s.names.CreatedNew after.names (.file, filename.chars) := by
  obtain ⟨hargs, hfile, hcalls⟩ :=
    (outcome_loadClosed m.close_spec.1 args os).of_success hsuccess htarget
  rw [run_load, hcalls] at hrun
  have honly' := honly filename htarget hargs
  by_cases hsize : args.size = 0
  · rw [decide_eq_false (not_not.mpr hsize), System.apply_createFile_existing _ _ _ hfile] at hrun
    obtain ⟨hgranted, entity, hentity, -⟩ := hrun
    have hexists : s.names.entity (.file, filename.chars) ≠ none := by
      rcases m.afterClose_kept s (.file, filename.chars) with ⟨h, -⟩ | h
      · rw [h] at hentity
        exact Option.absurd_none hentity
      · rw [← h, hentity]
        exact Option.some_ne_none entity
    have hgone := (honly' (not_or.mp hgranted).1 hexists).mpr hsize
    rw [hgone] at hentity
    exact Option.absurd_none hentity
  · rw [decide_eq_true hsize, System.apply_createFile_new _ _ _ hfile] at hrun
    obtain ⟨hgranted, habsent, rfl⟩ := hrun
    refine ⟨?_, _, Names.create_entity_self, (m.afterClose_next s).ge⟩
    by_contra hexists
    exact hsize ((honly' (not_or.mp hgranted).1 hexists).mp habsent)

/-- Whatever the system answers, success means that the file was created. -/
def SuccessCreates (m : SharedMemory) (s : System) (args : LoadArgs) : Prop :=
  ∀ os after, Runs.run (System.apply s.names) s (m.load args os).calls = some after →
    (m.load args os).result = .success → ∀ filename, args.target = some (.file, filename) →
      s.names.CreatedNew after.names (.file, filename.chars)

/-- **A `Load` of a file only ever succeeds by creating it** exactly when it meets
`CreatesOnly`. -/
theorem successCreates_iff (m : SharedMemory) (s : System) (args : LoadArgs) :
    m.SuccessCreates s args ↔ m.CreatesOnly s args := by
  constructor
  · intro h filename htarget hargs hpath hexists
    -- a system that grants everything it can
    obtain ⟨handle, hhandle, hfresh⟩ := (m.afterClose s).exists_fresh
    have houtcome := outcome_loadClosed m.close_spec.1 args ⟨handle, true, true, 0⟩
    have hsuccess := houtcome.success hargs hhandle rfl rfl
    obtain ⟨-, -, hcalls⟩ := houtcome.of_success hsuccess htarget
    have hgranted : ¬(filename.chars = []
        ∨ ((m.afterClose s).files.lookup handle).isSome = true) := not_or.mpr ⟨hpath, hfresh⟩
    have hrefuse : (m.afterClose s).apply s.names (.createFile filename.chars args.readOnly
        (args.size ≠ 0) args.deleteOnClose handle) = none := by
      by_contra hgrant
      obtain ⟨after, hafter⟩ := Option.ne_none_iff_exists'.mp hgrant
      refine hexists (h ⟨handle, true, true, 0⟩ after ?_ hsuccess filename htarget).1
      rw [run_load, hcalls]
      exact hafter
    by_cases hsize : args.size = 0
    · refine iff_of_true ?_ hsize
      by_contra hkept
      obtain ⟨entity, hentity⟩ := Option.ne_none_iff_exists'.mp hkept
      have hopen := (System.apply_createFile_existing s.names args.readOnly args.deleteOnClose
        hhandle).mpr
        ⟨hgranted, entity, hentity, rfl⟩
      rw [decide_eq_false (not_not.mpr hsize), hopen] at hrefuse
      exact Option.absurd_none hrefuse.symm
    · refine iff_of_false (fun hgone => ?_) hsize
      have hcreate := (System.apply_createFile_new s.names args.readOnly args.deleteOnClose
        hhandle).mpr
        ⟨hgranted, hgone, rfl⟩
      rw [decide_eq_true hsize, hcreate] at hrefuse
      exact Option.absurd_none hrefuse.symm
  · intro honly os after hrun hsuccess filename htarget
    exact createdNew_of_createsOnly honly hrun hsuccess htarget

/-- **A `Load` of a name is right that it created the mapping** exactly when the size is not zero,
the name was free and the system made the mapping. -/
theorem createdNew_named_iff {name : CString} (htarget : args.target = some (.shm, name))
    (hrun : Runs.run (System.apply loadedAt) s (m.load args os).calls = some after) :
    ((m.load args os).result = .success →
        s.names.CreatedNew after.names (.shm, name.chars))
      ↔ (Acceptable args →
        args.size ≠ 0 ∧ s.names.entity (.shm, name.chars) = none ∧ os.mapping ≠ nullHandle) := by
  rw [run_load] at hrun
  have houtcome := outcome_loadClosed m.close_spec.1 args os
  show ((m.close.1.loadClosed args os).result = .success → _) ↔ _
  have hkept := m.afterClose_shm s name.chars
  have hnext := (m.afterClose_next s).ge
  generalize m.afterClose s = closed at hrun hkept hnext
  generalize m.close.1.loadClosed args os = loaded at houtcome hrun
  cases houtcome with
  | refused hargs hresult =>
    exact iff_of_true (fun h => absurd h hresult) fun h => absurd h hargs
  | unopened _ htarget' => cases htarget.symm.trans htarget'
  | unresized _ htarget' => cases htarget.symm.trans htarget'
  | mapped _ htarget' => cases htarget.symm.trans htarget'
  | named hargs htarget' =>
    obtain ⟨-, rfl⟩ := LoadArgs.target_unique htarget htarget'
    obtain ⟨s₁, hs₁, hrun⟩ := Runs.run_cons_eq_some.mp hrun
    obtain rfl := Option.some.inj hrun
    by_cases hsize : args.size = 0
    · rw [if_pos hsize] at hs₁
      obtain rfl := System.apply_openFileMapping hs₁
      refine iff_of_false (fun h => ?_) fun h => (h hargs).1 hsize
      exact Names.not_createdNew_of_kept hkept (h rfl)
    · rw [if_neg hsize] at hs₁
      by_cases hgranted : os.mapping ≠ nullHandle ∧ closed.names.entity (.shm, name.chars) = none
      · obtain rfl := System.apply_createMapping_new hgranted.1 hgranted.2 hs₁
        have habsent : s.names.entity (.shm, name.chars) = none := hkept ▸ hgranted.2
        exact iff_of_true (fun _ => ⟨habsent, _, Names.create_entity_self, hnext⟩)
          fun _ => ⟨hsize, habsent, hgranted.1⟩
      · obtain rfl := System.apply_createMapping_kept hgranted hs₁
        refine iff_of_false (fun h => ?_) fun h => ?_
        · exact Names.not_createdNew_of_kept hkept (h rfl)
        · exact hgranted ⟨(h hargs).2.2, hkept.trans (h hargs).2.1⟩

end SharedMemory

/-! ## Deletes over whole runs -/

/-- All that was removed was created after its object had been loaded, and so was every open file
that will be. -/
structure System.DeletesNew (s : System) : Prop where
  removed : ∀ r ∈ s.removed, r.2.next ≤ r.1
  files : ∀ p ∈ s.files, p.2.deleteOnClose = true → p.2.loadedAt.next ≤ p.2.entity

/-- No delete-on-close has removed an entity that existed when the object was loaded. -/
def System.SparesOld (s : System) : Prop := ∀ r ∈ s.removed, ∀ key, r.2.entity key ≠ some r.1

lemma System.DeletesNew.sparesOld {s : System} (h : s.DeletesNew) : s.SparesOld := by
  intro r hr key hkey
  exact absurd (r.2.entity_lt hkey) (Nat.not_lt.mpr (h.removed r hr))

lemma System.DeletesNew.closeHandle {s : System} (hs : s.DeletesNew) (handle : ℤ) :
    (s.closeHandle handle).DeletesNew := by
  unfold System.closeHandle
  split
  · exact hs
  · rename_i f hlookup
    have hfiles : ∀ p ∈ s.files.filter (·.1 ≠ handle), p.2.deleteOnClose = true →
        p.2.loadedAt.next ≤ p.2.entity := fun p hp => hs.files p (List.mem_of_mem_filter hp)
    dsimp only
    split
    · rename_i hdelete
      refine ⟨fun r hr => ?_, hfiles⟩
      rcases List.mem_append.mp hr with hr | hr
      · exact hs.removed r hr
      · rw [List.mem_singleton.mp hr]
        obtain ⟨before, behind, hmem, -⟩ := List.lookup_eq_some_iff.mp hlookup
        exact hs.files (handle, f) (hmem ▸ List.mem_append_right _ List.mem_cons_self) hdelete.1
    · exact ⟨hs.removed, hfiles⟩

/-- Opening a file keeps the invariant, unless it opens an old one to delete it on close. -/
lemma System.DeletesNew.createFile {s s' : System} {loadedAt : Names Key} {filename : List Char}
    {readOnly create deleteOnClose : Bool} {answer : ℤ} (hs : s.DeletesNew)
    (hnext : loadedAt.next ≤ s.names.next)
    (hnew : create = false → deleteOnClose = true → filename ≠ [] →
      s.names.entity (.file, filename) = none)
    (h : s.apply loadedAt (.createFile filename readOnly create deleteOnClose answer) = some s') :
    s'.DeletesNew := by
  by_cases hanswer : answer = invalidHandleValue
  · rw [System.apply, if_pos hanswer] at h
    exact Option.some.inj h ▸ hs
  · cases create with
    | true =>
      obtain ⟨-, -, rfl⟩ := (System.apply_createFile_new _ _ _ hanswer).mp h
      refine ⟨hs.removed, fun p hp hdelete => ?_⟩
      rcases List.mem_cons.mp hp with rfl | hp
      · exact hnext
      · exact hs.files p hp hdelete
    | false =>
      obtain ⟨hgranted, entity, hentity, rfl⟩ :=
        (System.apply_createFile_existing _ _ _ hanswer).mp h
      refine ⟨hs.removed, fun p hp hdelete => ?_⟩
      rcases List.mem_cons.mp hp with rfl | hp
      · rw [hnew rfl hdelete (not_or.mp hgranted).1] at hentity
        exact Option.absurd_none hentity
      · exact hs.files p hp hdelete

/-- Calls that open no file keep the invariant. -/
lemma System.DeletesNew.run {loadedAt : Names Key} {calls : List Call} {s s' : System}
    (hs : s.DeletesNew)
    (hcalls : ∀ filename readOnly create deleteOnClose answer,
      .createFile filename readOnly create deleteOnClose answer ∉ calls)
    (h : Runs.run (System.apply loadedAt) s calls = some s') : s'.DeletesNew := by
  induction calls generalizing s with
  | nil => exact Option.some.inj h ▸ hs
  | cons c calls ih =>
    obtain ⟨s₁, hs₁, hrest⟩ := Runs.run_cons_eq_some.mp h
    refine ih ?_ (fun _ _ _ _ _ hmem => hcalls _ _ _ _ _ (List.mem_cons_of_mem c hmem)) hrest
    cases c with
    | createFile => exact absurd List.mem_cons_self (hcalls _ _ _ _ _)
    | setFilePointerEx => exact Option.some.inj hs₁ ▸ hs
    | setEndOfFile => exact Option.some.inj hs₁ ▸ hs
    | mapFile => exact Option.some.inj hs₁ ▸ hs
    | createMapping =>
      rw [System.apply] at hs₁
      split at hs₁
      · exact Option.some.inj hs₁ ▸ hs
      · split at hs₁ <;> exact Option.some.inj hs₁ ▸ ⟨hs.removed, hs.files⟩
    | openFileMapping =>
      rw [System.apply] at hs₁
      split at hs₁
      · exact Option.some.inj hs₁ ▸ hs
      · exact Option.some.inj (Option.ite_none_left_eq_some.mp hs₁).2 ▸ hs
    | closeHandle handle => exact Option.some.inj hs₁ ▸ hs.closeHandle handle

namespace SharedMemory

variable {m : SharedMemory} {args : LoadArgs} {os : Answers} {s s' : System}

lemma deletesNew_close (hs : s.DeletesNew) {loadedAt : Names Key}
    (h : Runs.run (System.apply loadedAt) s m.close.2 = some s') : s'.DeletesNew := by
  refine hs.run ?_ h
  rw [m.close_spec.2, closes]
  intro filename readOnly create deleteOnClose answer
  split <;> split <;> simp

/-- A `Load` that can only create, or does not delete on close, keeps the invariant. -/
lemma deletesNew_load (hs : s.DeletesNew)
    (honly : args.deleteOnClose = true → m.CreatesOnly s args)
    (h : Runs.run (System.apply s.names) s (m.load args os).calls = some s') : s'.DeletesNew := by
  have hclosed : (m.afterClose s).DeletesNew :=
    deletesNew_close hs (run_close s.names m s)
  have hopen : ∀ filename, args.target = some (.file, filename) → Acceptable args →
      ∀ s₁, (m.afterClose s).apply s.names (.createFile filename.chars args.readOnly
        (args.size ≠ 0) args.deleteOnClose os.file) = some s₁ → s₁.DeletesNew := by
    intro filename htarget hargs s₁ hs₁
    refine hclosed.createFile (m.afterClose_next s).ge (fun hcreate hdelete hpath => ?_) hs₁
    have hsize : args.size = 0 := not_not.mp (of_decide_eq_false hcreate)
    by_cases hexists : s.names.entity (.file, filename.chars) = none
    · rcases m.afterClose_kept s (.file, filename.chars) with ⟨hgone, -⟩ | hsame
      · exact hgone
      · rw [hsame, hexists]
    · exact (honly hdelete filename htarget hargs hpath hexists).mpr hsize
  rw [run_load] at h
  have houtcome := outcome_loadClosed m.close_spec.1 args os
  generalize m.close.1.loadClosed args os = loaded at houtcome h
  cases houtcome with
  | refused => exact Option.some.inj h ▸ hclosed
  | @unopened object filename hargs htarget =>
    obtain ⟨s₁, hs₁, hrun⟩ := Runs.run_cons_eq_some.mp h
    exact (hopen _ htarget hargs s₁ hs₁).run (by simp) hrun
  | @unresized object filename hargs htarget =>
    obtain ⟨s₁, hs₁, hrun⟩ := Runs.run_cons_eq_some.mp h
    refine (hopen _ htarget hargs s₁ hs₁).run (fun _ _ _ _ _ => ?_) hrun
    cases os.pointerSet <;> simp
  | @mapped object filename hargs htarget =>
    obtain ⟨s₁, hs₁, hrun⟩ := Runs.run_cons_eq_some.mp h
    refine (hopen _ htarget hargs s₁ hs₁).run (fun _ _ _ _ _ hmem => ?_) hrun
    split at hmem <;> simp at hmem
  | named =>
    refine hclosed.run (fun _ _ _ _ _ hmem => ?_) h
    split at hmem <;> simp at hmem

end SharedMemory

/-- `SharedMemory` objects over the system.  `loadedAt` matters to the calls that open. -/
def fileBehaviour : Objects.Behaviour Unit SharedMemory (Operation Answers) Outside System where
  construct _ := .construct
  operate s m operation :=
    match operation.load with
    | some (args, os) =>
      let loaded := m.load args os
      (Runs.run (System.apply s.names) s loaded.calls).map fun s' => (s', loaded.object)
    | none => (Runs.run (System.apply s.names) s m.close.2).map fun s' => (s', m.close.1)
  destroy s m := Runs.run (System.apply s.names) s m.close.2
  outside s x := (x.onNames s.names).map fun names => { s with names }

variable {ι : Type*} [DecidableEq ι]

/-- A world of `SharedMemory` objects over the system, and what can happen in it. -/
abbrev FileWorld (ι : Type*) := Objects.World ι SharedMemory System
abbrev FileAction (ι : Type*) := Objects.Action ι Unit (Operation Answers) Outside

/-- Every `Create` of a file can only create. -/
def FileWorld.CreatesOnly (w : FileWorld ι) (a : FileAction ι) : Prop :=
  ∀ i operation m args, a = .operate i operation → w.objects i = some m →
    operation.creates = some args → m.CreatesOnly w.env args

lemma deletesNew_step {w w' : FileWorld ι} {a : FileAction ι} (hw : w.env.DeletesNew)
    (honly : w.CreatesOnly a) (h : Objects.step fileBehaviour w a = some w') :
    w'.env.DeletesNew := by
  obtain ⟨i, k, -, rfl⟩ | ⟨i, operation, m, env, m', hi, ha, hop, rfl⟩ | ⟨i, m, env, hi, hd, rfl⟩
    | ⟨x, env, hx, rfl⟩ := Objects.step_cases h
  · exact hw
  · rw [fileBehaviour] at hop
    dsimp only at hop
    split at hop
    · rename_i args os hload
      obtain ⟨s', hrun, heq⟩ := Option.map_eq_some_iff.mp hop
      obtain ⟨rfl, rfl⟩ := Prod.mk.inj heq
      exact SharedMemory.deletesNew_load hw (fun hdelete => honly i operation m args ha hi
        (Operation.creates_of_deleteOnClose hload hdelete)) hrun
    · obtain ⟨s', hrun, heq⟩ := Option.map_eq_some_iff.mp hop
      obtain ⟨rfl, rfl⟩ := Prod.mk.inj heq
      exact SharedMemory.deletesNew_close hw hrun
  · exact SharedMemory.deletesNew_close hw hd
  · obtain ⟨names, -, rfl⟩ := Option.map_eq_some_iff.mp hx
    exact ⟨hw.removed, hw.files⟩

/-- **In a run in which every `Create` of a file can only create**, no delete-on-close removes a
file that existed when its object was loaded. -/
theorem sparesOld_throughout (names : Names Key) {actions : List (FileAction ι)}
    (honly : Runs.Meets (Objects.step fileBehaviour) FileWorld.CreatesOnly
      (.initial ⟨names, [], []⟩) actions) :
    Runs.Throughout (Objects.step fileBehaviour) (fun w => w.env.SparesOld)
      (.initial ⟨names, [], []⟩) actions := by
  have hinitial : System.DeletesNew ⟨names, [], []⟩ :=
    ⟨fun _ hr => absurd hr List.not_mem_nil, fun _ hp => absurd hp List.not_mem_nil⟩
  exact (Runs.throughout_of_meets (fun w a w' hw hC h => deletesNew_step hw hC h) hinitial
    honly).mono fun w hw => hw.sparesOld

end Windows

/-- **Creating only, in both builds.**  On POSIX, and for files on Windows, the success of a `Load`
means that it created its entity exactly when it meets `CreatesOnly`, and in a run in which every
`Create` does so no delete-on-close removes an entity that existed when its object was loaded.
For names on Windows it further takes a mapping that was made. -/
theorem createsOnly_both {M : ℕ} [NeZero M] {ι : Type} [DecidableEq ι] :
    (∀ (m : Posix.SharedMemory M) (names : Names Key) (args : LoadArgs),
      m.SuccessCreates names args ↔ m.CreatesOnly names args)
    ∧ (∀ (names : Names Key) (actions : List (Posix.NameAction ι M)),
      Runs.Meets (Objects.step (Posix.nameBehaviour M)) Posix.NameWorld.CreatesOnly
          (.initial ⟨names, []⟩) actions →
        Runs.Throughout (Objects.step (Posix.nameBehaviour M)) (fun w => w.env.SparesOld)
          (.initial ⟨names, []⟩) actions)
    ∧ (∀ (m : Windows.SharedMemory) (s : Windows.System) (args : LoadArgs),
      m.SuccessCreates s args ↔ m.CreatesOnly s args)
    ∧ (∀ (m : Windows.SharedMemory) (s after : Windows.System) (args : LoadArgs)
        (os : Windows.Answers) (name : CString), args.target = some (.shm, name) →
      Runs.run (Windows.System.apply s.names) s (m.load args os).calls = some after →
        (((m.load args os).result = .success →
            s.names.CreatedNew after.names (.shm, name.chars))
          ↔ (Windows.Acceptable args → args.size ≠ 0
            ∧ s.names.entity (.shm, name.chars) = none ∧ os.mapping ≠ Windows.nullHandle)))
    ∧ (∀ (names : Names Key) (actions : List (Windows.FileAction ι)),
      Runs.Meets (Objects.step Windows.fileBehaviour) Windows.FileWorld.CreatesOnly
          (.initial ⟨names, [], []⟩) actions →
        Runs.Throughout (Objects.step Windows.fileBehaviour) (fun w => w.env.SparesOld)
          (.initial ⟨names, [], []⟩) actions) :=
  ⟨fun m names args => m.successCreates_iff names args,
    fun names _ honly => Posix.sparesOld_throughout names honly,
    fun m s args => m.successCreates_iff s args,
    fun _ _ _ _ _ _ htarget hrun => Windows.SharedMemory.createdNew_named_iff htarget hrun,
    fun names _ honly => Windows.sparesOld_throughout names honly⟩

/-- One object over names that have no entity: it creates, and is destroyed with its delete
pending. -/
theorem createsOnly_both_one_object :
    ((Posix.SharedMemory.construct (.replicate 4 'z')).SuccessCreates .empty
        (.createNamed (some ⟨['x'], by decide⟩) 1 true)
      ↔ (Posix.SharedMemory.construct (.replicate 4 'z')).CreatesOnly .empty
        (.createNamed (some ⟨['x'], by decide⟩) 1 true))
    ∧ Runs.Throughout (Objects.step (Posix.nameBehaviour 4)) (fun w => w.env.SparesOld)
        (.initial ⟨.empty, []⟩)
        [.construct true (.replicate 4 'z'),
          .operate true (.createNamed (some ⟨['x'], by decide⟩) 1 true ⟨3, true⟩),
          .destroy true]
    ∧ Runs.Throughout (Objects.step Windows.fileBehaviour) (fun w => w.env.SparesOld)
        (.initial ⟨.empty, [], []⟩)
        [.construct true (),
          .operate true (.createFileBacked (some ⟨['x'], by decide⟩) 1 true ⟨3, true, true, 4⟩),
          .destroy true]
    ∧ ((Windows.SharedMemory.construct.load (.createNamed (some ⟨['x'], by decide⟩) 1 true)
          ⟨3, true, true, 4⟩).result = .success →
        (Names.empty : Names Key).CreatedNew (Names.empty.create (.shm, ['x'])) (.shm, ['x'])) := by
  obtain ⟨hload, hrun, -, hnamed, hfiles⟩ := createsOnly_both (M := 4) (ι := Bool)
  refine ⟨hload _ _ _, hrun _ _ ⟨fun _ _ _ _ h => (by cases h), fun w hw => ⟨?_, fun _ _ => ?_⟩⟩,
    hfiles _ _ ⟨fun _ _ _ _ h => (by cases h), fun w hw => ⟨?_, fun _ _ => ?_⟩⟩,
    (hnamed .construct ⟨.empty, [], []⟩ ⟨Names.empty.create (.shm, ['x']), [], []⟩
      (.createNamed (some ⟨['x'], by decide⟩) 1 true) ⟨3, true, true, 4⟩ ⟨['x'], by decide⟩
      rfl rfl).mpr fun _ => ⟨by decide, rfl, by decide⟩⟩
  · -- the names have no entity when the object creates
    obtain rfl := Option.some.inj hw
    intro _ _ _ _ _ _ _ _ _ _ _ _ hentity
    exact absurd rfl hentity
  · exact ⟨fun _ _ _ _ h => (by cases h), fun _ _ => trivial⟩
  · obtain rfl := Option.some.inj hw
    intro _ _ _ _ _ _ _ _ _ _ _ hentity
    exact absurd rfl hentity
  · exact ⟨fun _ _ _ _ h => (by cases h), fun _ _ => trivial⟩

end SMBB
