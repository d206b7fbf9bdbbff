import SMBB.Construction.SharedMemoryMapping
import SMBB.Properties.SharedMemoryCalls
import SMBB.Framework.Objects

/-!
# Open descriptors as pieces

The descriptors that a kernel has handed out are cut into one piece for each `SharedMemory` that
has something loaded, and one for the rest of the process.  `Close` gives the piece of an object
back (`tiles_close`), and `Load` gives it the piece for what it holds at the end
(`Outcome.tiles`).

`OpenMemory.Kept` adds what the descriptor alone does not say: it was opened in the mode that
`_readOnly` names.
-/

namespace SMBB
namespace Posix

open Pieces

variable {M : ℕ}

/-! ## The objects -/

/-- A `SharedMemory` with the file behind its descriptor. -/
structure OpenMemory (M : ℕ) where
  object : SharedMemory M
  file : Option OpenFile

/-- The file behind the descriptor of an object. -/
def Kernel.fileOf (kernel : Kernel) (m : SharedMemory M) : Option OpenFile :=
  if m.handle = -1 then none else kernel.files m.handle

/-- The calls of an operation. -/
def SharedMemory.callsOf [NeZero M] (m : SharedMemory M) (operation : Operation Answers) :
    List Call :=
  match operation.load with
  | some (args, os) => (m.load args os).calls
  | none => m.close.2

/-- `SharedMemory` objects over the kernel.  Other processes create and remove names. -/
def memoryBehaviour (M : ℕ) [NeZero M] :
    Objects.Behaviour (Vector Char M) (OpenMemory M) (Operation Answers) Outside Kernel where
  construct storage := ⟨.construct storage, none⟩
  operate kernel m operation :=
    match operation.load with
    | some (args, os) =>
      let loaded := m.object.load args os
      (Runs.run Call.onKernel kernel loaded.calls).map fun kernel =>
        (kernel, ⟨loaded.object, kernel.fileOf loaded.object⟩)
    | none =>
      let (object, calls) := m.object.close
      (Runs.run Call.onKernel kernel calls).map fun kernel => (kernel, ⟨object, none⟩)
  destroy kernel m := Runs.run Call.onKernel kernel m.object.close.2
  outside kernel x := (x.onNames kernel.names).map fun names => { kernel with names }

/-! ## What the calls of `SharedMemory` do to the kernel -/

section OnKernel

variable {kernel kernel' : Kernel} {call : Call} {calls : List Call}

lemma onKernel_eq_some :
    call.onKernel kernel = some kernel' ↔ ∃ names files, call.onNames kernel.names = some names
      ∧ call.onFiles names kernel.files = some files
      ∧ kernel' = { kernel with names, files }.resized (call.resizes names files) := by
  simp only [Call.onKernel, Option.bind_eq_bind, Option.bind_eq_some_iff, Option.pure_def,
    Option.some.injEq]
  constructor
  · rintro ⟨names, hnames, files, hfiles, rfl⟩
    exact ⟨names, files, hnames, hfiles, rfl⟩
  · rintro ⟨names, files, hnames, hfiles, rfl⟩
    exact ⟨names, hnames, files, hfiles, rfl⟩

/-- No call of `SharedMemory` touches a mapping. -/
lemma pages_of_run (hrun : Runs.run Call.onKernel kernel calls = some kernel') :
    kernel'.pages = kernel.pages := by
  induction calls generalizing kernel with
  | nil =>
    obtain rfl := Option.some.inj hrun
    rfl
  | cons call calls ih =>
    obtain ⟨next, hcall, hrest⟩ := Runs.run_cons_eq_some.mp hrun
    obtain ⟨names, files, -, -, rfl⟩ := onKernel_eq_some.mp hcall
    have hpages := ih hrest
    exact hpages

lemma files_unlink {space : Space} {path : List Char}
    (h : (Call.unlink space path).onKernel kernel = some kernel') :
    kernel'.files = kernel.files := by
  obtain ⟨names, files, -, hfiles, rfl⟩ := onKernel_eq_some.mp h
  exact (Option.some.inj hfiles).symm

lemma files_ftruncate {descriptor size : ℤ} {ok : Bool}
    (h : (Call.ftruncate descriptor size ok).onKernel kernel = some kernel') :
    kernel'.files = kernel.files := by
  obtain ⟨names, files, -, hfiles, rfl⟩ := onKernel_eq_some.mp h
  exact (Option.some.inj hfiles).symm

lemma files_close {descriptor : ℤ}
    (h : (Call.close descriptor).onKernel kernel = some kernel') :
    kernel'.files = kernel.files.clear fun d => d = descriptor := by
  obtain ⟨names, files, -, hfiles, rfl⟩ := onKernel_eq_some.mp h
  exact (Option.some.inj hfiles).symm

lemma files_openEntity_failed {space : Space} {path : List Char} {readOnly create : Bool}
    {answer : ℤ} (hanswer : answer = -1)
    (h : (Call.openEntity space path readOnly create answer).onKernel kernel = some kernel') :
    kernel'.files = kernel.files := by
  obtain ⟨names, files, -, hfiles, rfl⟩ := onKernel_eq_some.mp h
  rw [Call.onFiles, if_pos hanswer] at hfiles
  exact (Option.some.inj hfiles).symm

/-- A descriptor that is handed out was free, and stands for what the path names then. -/
lemma files_openEntity {space : Space} {path : List Char} {readOnly create : Bool}
    {answer : ℤ} (hanswer : answer ≠ -1)
    (h : (Call.openEntity space path readOnly create answer).onKernel kernel = some kernel') :
    kernel.files answer = none ∧ ∃ entity, kernel'.names.entity (space, path) = some entity
      ∧ kernel'.files = kernel.files.place (single answer ⟨entity, readOnly⟩) := by
  obtain ⟨names, files, -, hfiles, rfl⟩ := onKernel_eq_some.mp h
  rw [Call.onFiles, if_neg hanswer, Option.ite_none_left_eq_some, Option.map_eq_some_iff] at hfiles
  obtain ⟨hfree, entity, hentity, rfl⟩ := hfiles
  exact ⟨Option.not_isSome_iff_eq_none.mp hfree, entity, hentity, rfl⟩

end OnKernel

/-! ## Descriptors -/

namespace OpenMemory

/-- The piece of the descriptor table that an object has. -/
def piece (m : OpenMemory M) : Pieces.Space ℤ OpenFile :=
  m.file.elim nothing (single m.object.handle)

/-- An object has a file exactly while it has a descriptor, and its `_readOnly` is the mode in
which the file was opened. -/
structure Kept (m : OpenMemory M) : Prop where
  closed : m.object.handle = -1 → m.file = none
  opened : m.object.handle ≠ -1 → ∃ file, m.file = some file ∧ file.readOnly = m.object.readOnly

end OpenMemory

namespace SharedMemory

variable {args : LoadArgs} {os : Answers} {kernel kernel' : Kernel}

lemma Closed.kept {m : SharedMemory M} (h : m.Closed) : OpenMemory.Kept ⟨m, none⟩ where
  closed _ := rfl
  opened hhandle := absurd h.1 hhandle

lemma Closed.fileOf {m : SharedMemory M} (h : m.Closed) : kernel.fileOf m = none := if_pos h.1

variable [NeZero M]

/-- A `Load` that succeeds stores the mode. -/
lemma readOnly_of_loadStored {m : SharedMemory M}
    (h : (m.loadStored args os).result = .success) :
    (m.loadStored args os).object.readOnly = args.readOnly := by
  unfold loadStored at h ⊢
  obtain ⟨stored, hstored⟩ : ∃ stored : SharedMemory M,
      stored = if args.deleteOnClose then { m with handle := os.opened }
        else clearName { m with handle := os.opened } := ⟨_, rfl⟩
  simp only [← hstored] at h ⊢
  by_cases hhandle : stored.handle = -1
  · rw [if_pos hhandle] at h
    have hfailed : LoadResult.failedToOpenFile = .success := h
    exact LoadResult.noConfusion hfailed
  · rw [if_neg hhandle] at h ⊢
    by_cases hsize : args.size = 0
    · rw [if_neg (not_not.mpr hsize)]
    · rw [if_pos hsize] at h ⊢
      by_cases hresized : os.resized = true
      · rw [if_pos hresized]
      · rw [if_neg hresized] at h
        have hfailed : LoadResult.failedToResizeFile = .success := h
        exact LoadResult.noConfusion hfailed

lemma readOnly_of_loadClosed {m : SharedMemory M}
    (h : (m.loadClosed args os).result = .success) :
    (m.loadClosed args os).object.readOnly = args.readOnly := by
  by_cases hsize : args.size < 0
  · rw [loadClosed, if_pos hsize] at h
    exact LoadResult.noConfusion h
  rcases htarget : args.target with _ | ⟨space, s⟩
  · rw [loadClosed_of_target_none m os htarget hsize] at h
    exact LoadResult.noConfusion h
  rw [loadClosed_of_target m os htarget hsize] at h ⊢
  rcases hcopy : copyPath space m.name s with _ | name
  · rw [hcopy] at h
    exact LoadResult.noConfusion h
  · rw [hcopy] at h
    exact readOnly_of_loadStored h

section Files

variable {τ : Type*} [DecidableEq τ] {pieces : τ → Pieces.Space ℤ OpenFile} {i : τ}

omit [NeZero M] in
lemma files_run_deletes {m : SharedMemory M}
    (hrun : Runs.run Call.onKernel kernel m.deletes = some kernel') :
    kernel'.files = kernel.files := by
  unfold deletes at hrun
  split at hrun
  · obtain rfl := Option.some.inj hrun
    rfl
  · obtain ⟨next, hcall, hrest⟩ := Runs.run_cons_eq_some.mp hrun
    obtain rfl := Option.some.inj hrest
    exact files_unlink hcall

/-- `Close` gives back the piece of an object. -/
lemma tiles_close (h : Tiles pieces kernel.files) {m : OpenMemory M} (hm : m.Kept)
    (hi : pieces i = m.piece)
    (hrun : Runs.run Call.onKernel kernel m.object.close.2 = some kernel') :
    Tiles (Function.update pieces i nothing) kernel'.files := by
  rw [m.object.close_spec.2, Runs.run_append] at hrun
  obtain ⟨next, hdeletes, hcloses⟩ := Option.bind_eq_some_iff.mp hrun
  rw [← files_run_deletes hdeletes] at h
  unfold closes at hcloses
  split at hcloses
  · rename_i hhandle
    obtain rfl := Option.some.inj hcloses
    have hnothing : pieces i = nothing := by rw [hi, OpenMemory.piece, hm.closed hhandle]; rfl
    rw [← hnothing, Function.update_eq_self]
    exact h
  · rename_i hhandle
    obtain ⟨file, hfile, -⟩ := hm.opened hhandle
    obtain ⟨closed, hclose, hrest⟩ := Runs.run_cons_eq_some.mp hcloses
    obtain rfl := Option.some.inj hrest
    rw [files_close hclose]
    refine h.clear fun d => ?_
    rw [hi, OpenMemory.piece, hfile, Option.elim_some, isSome_single]

omit [NeZero M] in
/-- `Load` on a closed object gives it the piece for what it holds at the end. -/
lemma Outcome.tiles {loaded : Loaded M} (hloaded : Outcome args os loaded)
    (hmode : loaded.result = .success → loaded.object.readOnly = args.readOnly)
    (h : Tiles pieces kernel.files) (hi : pieces i = nothing)
    (hrun : Runs.run Call.onKernel kernel loaded.calls = some kernel') :
    Tiles (Function.update pieces i
          (OpenMemory.piece ⟨loaded.object, kernel'.fileOf loaded.object⟩))
        kernel'.files
      ∧ OpenMemory.Kept ⟨loaded.object, kernel'.fileOf loaded.object⟩ := by
  have hclosed : ∀ {object : SharedMemory M}, object.Closed → kernel'.files = kernel.files →
      Tiles (Function.update pieces i (OpenMemory.piece ⟨object, kernel'.fileOf object⟩))
          kernel'.files
        ∧ OpenMemory.Kept ⟨object, kernel'.fileOf object⟩ := by
    intro object hobject hfiles
    have hnothing : OpenMemory.piece ⟨object, none⟩ = pieces i := hi.symm
    rw [hobject.fileOf, hnothing, Function.update_eq_self, hfiles]
    exact ⟨h, hobject.kept⟩
  cases hloaded with
  | refused _ _ hobject =>
    obtain rfl := Option.some.inj hrun
    exact hclosed hobject rfl
  | unopened _ _ hopened hobject =>
    obtain ⟨next, hopen, hrest⟩ := Runs.run_cons_eq_some.mp hrun
    obtain rfl := Option.some.inj hrest
    exact hclosed hobject (files_openEntity_failed hopened hopen)
  | unresized _ _ hopened _ _ hobject =>
    rw [List.append_assoc, List.cons_append, List.cons_append, List.nil_append] at hrun
    obtain ⟨next, hopen, hrun⟩ := Runs.run_cons_eq_some.mp hrun
    obtain ⟨hfree, entity, -, hplace⟩ := files_openEntity hopened hopen
    obtain ⟨next₁, hresize, hrun⟩ := Runs.run_cons_eq_some.mp hrun
    rw [Runs.run_append] at hrun
    obtain ⟨next₂, hdelete, hrun⟩ := Option.bind_eq_some_iff.mp hrun
    have hfiles : next₂.files = next₁.files := by
      split at hdelete
      · obtain ⟨next₃, hunlink, hrest⟩ := Runs.run_cons_eq_some.mp hdelete
        obtain rfl := Option.some.inj hrest
        exact files_unlink hunlink
      · obtain rfl := Option.some.inj hdelete
        rfl
    obtain ⟨next₃, hclose, hrest⟩ := Runs.run_cons_eq_some.mp hrun
    obtain rfl := Option.some.inj hrest
    refine hclosed hobject ?_
    rw [files_close hclose, hfiles, files_ftruncate hresize, hplace, clear_place_single hfree]
  | @loaded object space s _ _ hopened _ hhandle =>
    obtain ⟨next, hopen, hrest⟩ := Runs.run_cons_eq_some.mp hrun
    obtain ⟨hfree, entity, -, hplace⟩ := files_openEntity hopened hopen
    have hfiles : kernel'.files = next.files := by
      split at hrest
      · obtain rfl := Option.some.inj hrest
        rfl
      · obtain ⟨next₁, hresize, hrest⟩ := Runs.run_cons_eq_some.mp hrest
        obtain rfl := Option.some.inj hrest
        exact files_ftruncate hresize
    have hopen : object.handle ≠ -1 := hhandle.symm ▸ hopened
    have hfile : kernel'.fileOf object = some ⟨entity, args.readOnly⟩ := by
      rw [Kernel.fileOf, if_neg hopen, hfiles, hplace, hhandle, Space.place, single_self,
        Option.some_or]
    rw [hfile, OpenMemory.piece, Option.elim_some, hfiles, hplace, hhandle]
    refine ⟨h.place hi fun {d file} hd => ?_, fun hclosed => absurd hclosed hopen, fun _ => ?_⟩
    · rw [(single_eq_some hd).1, hfree]
    · exact ⟨_, rfl, (hmode rfl).symm⟩

/-- `Load` exchanges the piece of an object. -/
lemma tiles_load (h : Tiles pieces kernel.files) {m : OpenMemory M} (hm : m.Kept)
    (hi : pieces i = m.piece)
    (hrun : Runs.run Call.onKernel kernel (m.object.load args os).calls = some kernel') :
    Tiles (Function.update pieces i (OpenMemory.piece
        ⟨(m.object.load args os).object, kernel'.fileOf (m.object.load args os).object⟩))
        kernel'.files
      ∧ OpenMemory.Kept
        ⟨(m.object.load args os).object, kernel'.fileOf (m.object.load args os).object⟩ := by
  rw [load_calls, Runs.run_append] at hrun
  obtain ⟨closed, hclose, hload⟩ := Option.bind_eq_some_iff.mp hrun
  obtain ⟨htiles, hkept⟩ := (outcome_loadClosed m.object.close_spec.1 args os).tiles
    readOnly_of_loadClosed (tiles_close h hm hi hclose) (Function.update_self i _ _) hload
  rw [Function.update_idem] at htiles
  exact ⟨htiles, hkept⟩

/-- An operation exchanges the piece of its object. -/
lemma tiles_operate {m m' : OpenMemory M} {operation : Operation Answers}
    (hop : (memoryBehaviour M).operate kernel m operation = some (kernel', m')) (hm : m.Kept)
    (h : Tiles pieces kernel.files) (hi : pieces i = m.piece) :
    Tiles (Function.update pieces i m'.piece) kernel'.files ∧ m'.Kept := by
  rw [memoryBehaviour] at hop
  dsimp only at hop
  split at hop
  · obtain ⟨next, hrun, heq⟩ := Option.map_eq_some_iff.mp hop
    obtain ⟨rfl, rfl⟩ := Prod.mk.inj heq
    exact tiles_load h hm hi hrun
  · obtain ⟨next, hrun, heq⟩ := Option.map_eq_some_iff.mp hop
    obtain ⟨rfl, rfl⟩ := Prod.mk.inj heq
    exact ⟨tiles_close h hm hi hrun, m.object.close_spec.1.kept⟩

end Files

/-- An operation runs its calls. -/
lemma run_callsOf {m m' : OpenMemory M} {operation : Operation Answers}
    (hop : (memoryBehaviour M).operate kernel m operation = some (kernel', m')) :
    Runs.run Call.onKernel kernel (m.object.callsOf operation) = some kernel' := by
  rw [memoryBehaviour] at hop
  rw [callsOf]
  dsimp only at hop
  split at hop
  · obtain ⟨next, hrun, heq⟩ := Option.map_eq_some_iff.mp hop
    obtain ⟨rfl, -⟩ := Prod.mk.inj heq
    exact hrun
  · obtain ⟨next, hrun, heq⟩ := Option.map_eq_some_iff.mp hop
    obtain ⟨rfl, -⟩ := Prod.mk.inj heq
    exact hrun

end SharedMemory

end Posix
end SMBB
