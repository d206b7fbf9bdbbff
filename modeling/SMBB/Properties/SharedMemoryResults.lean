import SMBB.Properties.SharedMemoryWindowsCalls

/-!
# What the result of `Load` says

A result is truthful (`Truthful`) if success means that the arguments were acceptable, that every
call that was needed succeeded and that there is something to map from, and any other result means
that the object holds nothing.

The POSIX build is truthful whatever the system answers.  The Windows build is so except where it
comes to the call that makes the mapping and that call fails (`load_truthful_iff`): it returns
success then, with a `NULL` mapping handle.
-/

namespace SMBB

/-- A result that means what it says. -/
structure Truthful (result : LoadResult) (acceptable succeeded loaded empty : Prop) : Prop where
  success_iff : result = .success ↔ acceptable ∧ succeeded ∧ loaded
  empty_of_failure : result ≠ .success → empty

/-- Success is truthful when there is everything it stands for. -/
lemma truthful_success_iff {acceptable succeeded loaded empty : Prop} :
    Truthful .success acceptable succeeded loaded empty ↔ acceptable ∧ succeeded ∧ loaded :=
  ⟨fun h => h.success_iff.mp rfl, fun h => ⟨iff_of_true rfl h, fun hne => absurd rfl hne⟩⟩

/-- A failure is truthful when something is missing and nothing is held. -/
lemma truthful_of_failure {result : LoadResult} {acceptable succeeded loaded empty : Prop}
    (hresult : result ≠ .success) (hloaded : ¬(acceptable ∧ succeeded ∧ loaded)) (hempty : empty) :
    Truthful result acceptable succeeded loaded empty :=
  ⟨iff_of_false hresult hloaded, fun _ => hempty⟩

namespace Posix

variable {M : ℕ}

/-- The calls that are needed succeed: the open and, for a size, `ftruncate`. -/
def Answers.Suffice (os : Answers) (args : LoadArgs) : Prop :=
  os.opened ≠ -1 ∧ (args.size ≠ 0 → os.resized = true)

/-- The result of a POSIX `Load` is truthful. -/
def Loaded.Truthful (loaded : Loaded M) (args : LoadArgs) (os : Answers) : Prop :=
  SMBB.Truthful loaded.result (Acceptable M args) (os.Suffice args)
    (loaded.object.handle ≠ -1) (loaded.object.handle = -1)

namespace SharedMemory

variable [NeZero M] {args : LoadArgs} {os : Answers}

omit [NeZero M] in
lemma Outcome.truthful {loaded : Loaded M} (h : Outcome args os loaded) :
    loaded.Truthful args os := by
  cases h with
  | refused hargs hresult hobject =>
    exact truthful_of_failure hresult (fun h => hargs h.1) hobject.1
  | unopened hargs _ hopened hobject =>
    exact truthful_of_failure LoadResult.noConfusion (fun h => h.2.1.1 hopened) hobject.1
  | unresized hargs _ _ hsize hresized hobject =>
    refine truthful_of_failure LoadResult.noConfusion (fun h => ?_) hobject.1
    exact Bool.false_ne_true (hresized.symm.trans (h.2.1.2 hsize))
  | loaded hargs _ hopened hresized hhandle =>
    exact truthful_success_iff.mpr ⟨hargs, ⟨hopened, hresized⟩, hhandle ▸ hopened⟩

lemma truthful_load (m : SharedMemory M) (args : LoadArgs) (os : Answers) :
    (m.load args os).Truthful args os :=
  (outcome_loadClosed m.close_spec.1 args os).truthful

end SharedMemory
end Posix

namespace Windows

/-- `Load` comes to the call that makes the mapping. -/
def ReachesMapping (args : LoadArgs) (os : Answers) : Prop :=
  Acceptable args ∧ (args.filename.isSome = true → os.file ≠ invalidHandleValue
    ∧ (args.size ≠ 0 → os.pointerSet = true ∧ os.endSet = true))

/-- The calls that are needed succeed: for a file `CreateFile` and, for a size, the two that
resize it, and in any case the one that makes the mapping. -/
def Answers.Suffice (os : Answers) (args : LoadArgs) : Prop :=
  (args.filename.isSome = true → os.file ≠ invalidHandleValue
      ∧ (args.size ≠ 0 → os.pointerSet = true ∧ os.endSet = true))
    ∧ os.mapping ≠ nullHandle

/-- The result of a Windows `Load` is truthful. -/
def Loaded.Truthful (loaded : Loaded) (args : LoadArgs) (os : Answers) : Prop :=
  SMBB.Truthful loaded.result (Acceptable args) (os.Suffice args)
    (loaded.object.mapHandle ≠ nullHandle)
    (loaded.object.handle = invalidHandleValue ∧ loaded.object.mapHandle = nullHandle)

namespace SharedMemory

variable {args : LoadArgs} {os : Answers}

lemma isSome_filename_of_target {filename : CString}
    (h : args.target = some (.file, filename)) : args.filename.isSome = true := by
  rcases hfilename : args.filename with _ | filename'
  · rcases hname : args.name with _ | name <;> simp [LoadArgs.target, hfilename, hname] at h
  · rfl

lemma isNone_filename_of_target {name : CString} (h : args.target = some (.shm, name)) :
    args.filename = none := by
  rcases hfilename : args.filename with _ | filename'
  · rfl
  · simp [LoadArgs.target, hfilename] at h

/-- The result is truthful unless the mapping was reached and failed. -/
lemma Outcome.truthful_iff {loaded : Loaded} (h : Outcome args os loaded) :
    loaded.Truthful args os ↔ ¬(ReachesMapping args os ∧ os.mapping = nullHandle) := by
  -- where the mapping is reached, only its answer is left to be looked at
  have hreached : ∀ {object : SharedMemory} {calls : List Call}, ReachesMapping args os →
      object.mapHandle = os.mapping →
      ((⟨object, .success, calls⟩ : Loaded).Truthful args os
        ↔ ¬(ReachesMapping args os ∧ os.mapping = nullHandle)) := by
    intro object calls hreaches hmapping
    rw [and_iff_right hreaches]
    refine truthful_success_iff.trans ⟨fun h => h.2.1.2, fun h => ?_⟩
    exact ⟨hreaches.1, ⟨hreaches.2, h⟩, hmapping ▸ h⟩
  cases h with
  | refused hargs hresult hobject =>
    refine iff_of_true (truthful_of_failure hresult (fun h => hargs h.1) hobject) ?_
    exact fun h => hargs h.1.1
  | unopened hargs htarget hfile hobject =>
    have hfilename := isSome_filename_of_target htarget
    refine iff_of_true (truthful_of_failure LoadResult.noConfusion (fun h => ?_) hobject) ?_
    · exact (h.2.1.1 hfilename).1 hfile
    · exact fun h => (h.1.2 hfilename).1 hfile
  | unresized hargs htarget hfile hsize hresized hobject =>
    have hfilename := isSome_filename_of_target htarget
    refine iff_of_true (truthful_of_failure LoadResult.noConfusion (fun h => ?_) hobject) ?_
    · exact hresized ((h.2.1.1 hfilename).2 hsize)
    · exact fun h => hresized ((h.1.2 hfilename).2 hsize)
  | mapped hargs htarget hfile hresized hhandle hmapping =>
    exact hreached ⟨hargs, fun _ => ⟨hfile, hresized⟩⟩ hmapping
  | named hargs htarget hhandle hmapping =>
    have hfilename := isNone_filename_of_target htarget
    refine hreached ⟨hargs, fun h => ?_⟩ hmapping
    rw [hfilename] at h
    exact absurd h Bool.false_ne_true

/-- A Windows `Load` is truthful unless it comes to the mapping and the mapping fails. -/
lemma truthful_load_iff (m : SharedMemory) (args : LoadArgs) (os : Answers) :
    (m.load args os).Truthful args os
      ↔ ¬(ReachesMapping args os ∧ os.mapping = nullHandle) :=
  (outcome_loadClosed m.close_spec.1 args os).truthful_iff

end SharedMemory
end Windows

/-- **The result of `Load` is truthful** on POSIX always, and on Windows unless `Load` comes to
the call that makes the mapping and that call fails. -/
theorem load_truthful_iff {M : ℕ} [NeZero M] (args : LoadArgs) (m : Posix.SharedMemory M)
    (os : Posix.Answers) (m' : Windows.SharedMemory) (os' : Windows.Answers) :
    (m.load args os).Truthful args os
      ∧ ((m'.load args os').Truthful args os'
        ↔ ¬(Windows.ReachesMapping args os' ∧ os'.mapping = Windows.nullHandle)) :=
  ⟨m.truthful_load args os, m'.truthful_load_iff args os'⟩

/-- `OpenNamed("x")` on a fresh object of either build, where there is no such name. -/
theorem load_truthful_openNamed :
    ((Posix.SharedMemory.construct (.replicate 4 'z')).load
        (.openNamed (some ⟨['x'], by decide⟩) true) ⟨-1, true⟩).Truthful
          (.openNamed (some ⟨['x'], by decide⟩) true) ⟨-1, true⟩
      ∧ ((Windows.SharedMemory.construct.load (.openNamed (some ⟨['x'], by decide⟩) true)
            ⟨-1, true, true, 0⟩).Truthful (.openNamed (some ⟨['x'], by decide⟩) true)
              ⟨-1, true, true, 0⟩
        ↔ ¬(Windows.ReachesMapping (.openNamed (some ⟨['x'], by decide⟩) true)
            ⟨-1, true, true, 0⟩ ∧ (0 : ℤ) = Windows.nullHandle)) :=
  load_truthful_iff _ _ _ _ _

/-- On Windows that returns success with nothing to map from. -/
theorem openNamed_null_mapping :
    (Windows.SharedMemory.construct.load (.openNamed (some ⟨['x'], by decide⟩) true)
        ⟨-1, true, true, 0⟩).result = .success
      ∧ (Windows.SharedMemory.construct.load (.openNamed (some ⟨['x'], by decide⟩) true)
        ⟨-1, true, true, 0⟩).object.mapHandle = Windows.nullHandle
      ∧ ¬(Windows.SharedMemory.construct.load (.openNamed (some ⟨['x'], by decide⟩) true)
        ⟨-1, true, true, 0⟩).Truthful (.openNamed (some ⟨['x'], by decide⟩) true)
          ⟨-1, true, true, 0⟩ :=
  ⟨rfl, rfl, fun h => (truthful_success_iff.mp h).2.2 rfl⟩

end SMBB
