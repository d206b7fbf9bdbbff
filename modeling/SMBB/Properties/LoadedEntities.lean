import SMBB.Properties.SharedViews
import SMBB.Properties.SharedMemoryNames

/-!
# Objects that load the same name

Names are how two users of the class find the same memory.  The file behind a descriptor is the
entity that the path names when `Load` returns (`Loads.names`), and a name goes on naming its
entity until somebody removes it: another process, or an object with the name pending for deletion
in its next `Load`, `Close` or destruction (`Removes`).  So two objects that load the same name
have the same entity if nobody has removed it in between (`loads_same_entity`), and their sections
are views of the same bytes.
-/

namespace SMBB
namespace Posix

variable {M : ℕ} {kernel kernel' : Kernel} {key : Key} {entity : ℕ}

/-! ## Calls -/

/-- A call that does not delete a name leaves it to its entity. -/
lemma entity_of_onNames {names names' : Names Key} {call : Call}
    (hcall : ∀ space path, call = .unlink space path → (space, path) ≠ key)
    (hrun : call.onNames names = some names') (h : names.entity key = some entity) :
    names'.entity key = some entity := by
  cases call with
  | openEntity space path readOnly create answer =>
    by_cases hanswer : answer = -1
    · rw [onNames_failed hanswer] at hrun
      exact Option.some.inj hrun ▸ h
    · cases create with
      | true =>
        obtain ⟨-, habsent, rfl⟩ := (onNames_create_iff hanswer).mp hrun
        have hne : key ≠ (space, path) := by
          rintro rfl
          exact Option.absurd_none (habsent.symm.trans h)
        rw [Names.create_entity_of_ne hne, h]
      | false =>
        obtain ⟨-, -, rfl⟩ := (onNames_open_iff hanswer).mp hrun
        exact h
  | ftruncate descriptor size ok => exact Option.some.inj hrun ▸ h
  | unlink space path =>
    obtain rfl := Option.some.inj hrun
    rw [Names.remove_entity_of_ne (hcall space path rfl).symm, h]
  | close descriptor => exact Option.some.inj hrun ▸ h

lemma entity_of_run {calls : List Call}
    (hcalls : ∀ space path, .unlink space path ∈ calls → (space, path) ≠ key)
    (hrun : Runs.run Call.onKernel kernel calls = some kernel')
    (h : kernel.names.entity key = some entity) : kernel'.names.entity key = some entity := by
  induction calls generalizing kernel with
  | nil => exact Option.some.inj hrun ▸ h
  | cons call calls ih =>
    obtain ⟨next, hcall, hrest⟩ := Runs.run_cons_eq_some.mp hrun
    obtain ⟨names, files, hnames, -, rfl⟩ := onKernel_eq_some.mp hcall
    refine ih (fun space path hmem => hcalls space path (List.mem_cons_of_mem call hmem)) hrest ?_
    refine entity_of_onNames ?_ hnames h
    rintro space path rfl
    exact hcalls space path List.mem_cons_self

namespace SharedMemory

variable [NeZero M] {args : LoadArgs} {os : Answers}

/-- `Close` deletes the pending name and no other. -/
lemma entity_close {m : SharedMemory M} (hm : ¬m.PendingDelete key)
    (hrun : Runs.run Call.onKernel kernel m.close.2 = some kernel')
    (h : kernel.names.entity key = some entity) : kernel'.names.entity key = some entity := by
  refine entity_of_run (fun space path hmem hkey => hm ?_) hrun h
  obtain ⟨hpath, hcall⟩ | ⟨-, hcall⟩ := cases_of_mem_close hmem
  · obtain ⟨rfl, rfl⟩ := Call.unlink.inj hcall
    exact ⟨hpath, hkey⟩
  · exact Call.noConfusion hcall

omit [NeZero M] in
/-- `Load` deletes only what it has created itself. -/
lemma Outcome.keeps_entity {loaded : Loaded M} (hloaded : Outcome args os loaded)
    (hrun : Runs.run Call.onKernel kernel loaded.calls = some kernel')
    (h : kernel.names.entity key = some entity) : kernel'.names.entity key = some entity := by
  cases hloaded with
  | refused => exact entity_of_run (by simp) hrun h
  | unopened => exact entity_of_run (by simp) hrun h
  | @unresized object space s _ _ hopened hsize =>
    refine entity_of_run (fun space' path hmem hkey => ?_) hrun h
    obtain ⟨next, hopen, -⟩ := Runs.run_cons_eq_some.mp hrun
    obtain ⟨names, files, hnames, -, -⟩ := onKernel_eq_some.mp hopen
    rw [decide_eq_true hsize, onNames_create_iff hopened] at hnames
    have hunlink : (args.deleteOnClose = true ∧ pathOf space s ≠ [])
        ∧ space' = space ∧ path = pathOf space s := by
      simpa using hmem
    obtain ⟨-, rfl, rfl⟩ := hunlink
    rw [hkey, h] at hnames
    exact Option.some_ne_none entity hnames.2.1
  | loaded =>
    refine entity_of_run (fun space' path hmem => ?_) hrun h
    split at hmem <;> simp at hmem

omit [NeZero M] in
/-- What `Load` has opened is what its path names then. -/
lemma Outcome.fileOf {loaded : Loaded M} (hloaded : Outcome args os loaded)
    (hrun : Runs.run Call.onKernel kernel loaded.calls = some kernel') {file : OpenFile}
    (hfile : kernel'.fileOf loaded.object = some file) {space : Space} {s : CString}
    (htarget : args.target = some (space, s)) :
    kernel'.names.entity (space, pathOf space s) = some file.entity := by
  have hclosed : ∀ {object : SharedMemory M}, object.Closed →
      kernel'.fileOf object ≠ some file :=
    fun h heq => Option.some_ne_none file (heq.symm.trans h.fileOf)
  cases hloaded with
  | refused _ _ hobject => exact absurd hfile (hclosed hobject)
  | unopened _ _ _ hobject => exact absurd hfile (hclosed hobject)
  | unresized _ _ _ _ _ hobject => exact absurd hfile (hclosed hobject)
  | @loaded object space' s' _ htarget' hopened _ hhandle =>
    obtain ⟨rfl, rfl⟩ := LoadArgs.target_unique htarget' htarget
    obtain ⟨next, hopen, hrest⟩ := Runs.run_cons_eq_some.mp hrun
    obtain ⟨hfree, entity, hentity, hplace⟩ := files_openEntity hopened hopen
    have hsame : kernel'.files = next.files ∧ kernel'.names = next.names := by
      split at hrest
      · obtain rfl := Option.some.inj hrest
        exact ⟨rfl, rfl⟩
      · obtain ⟨next', hresize, hrest⟩ := Runs.run_cons_eq_some.mp hrest
        obtain rfl := Option.some.inj hrest
        obtain ⟨names, files, hnames, hfiles, rfl⟩ := onKernel_eq_some.mp hresize
        exact ⟨(Option.some.inj hfiles).symm, (Option.some.inj hnames).symm⟩
    rw [Kernel.fileOf, if_neg (hhandle.symm ▸ hopened), hsame.1, hplace, hhandle,
      Pieces.Space.place, Pieces.single_self, Option.some_or] at hfile
    obtain rfl := Option.some.inj hfile
    rw [hsame.2, hentity]

end SharedMemory

/-! ## Runs -/

namespace Process

variable {ι κ : Type*} [DecidableEq ι] [DecidableEq κ] [NeZero M] {pageSize : ℕ}
  {p p' : Process ι κ M} {a : ProcessAction ι κ M}

/-- An action takes the name away. -/
def Removes (key : Key) (p : Process ι κ M) : ProcessAction ι κ M → Prop
  | .memory (.operate i _) => ∃ m, p.memories i = some m ∧ m.object.PendingDelete key
  | .memory (.destroy i) => ∃ m, p.memories i = some m ∧ m.object.PendingDelete key
  | .memory (.outside (.remove key')) => key' = key
  | _ => False

/-- The object in the place `i` loads the path with this key, and has `file` open then. -/
structure Loads (pageSize : ℕ) (key : Key) (p : Process ι κ M) (i : ι)
    (operation : Operation Answers) (p' : Process ι κ M) (file : OpenFile) : Prop where
  target : ∃ args os space s, operation.load = some (args, os) ∧ args.target = some (space, s)
    ∧ key = (space, pathOf space s)
  step : p.step pageSize (.memory (.operate i operation)) = some p'
  file : ∃ m, p'.memories i = some m ∧ m.file = some file

/-- What an operation on the object in a place does. -/
lemma step_operate {i : ι} {operation : Operation Answers}
    (hstep : p.step pageSize (.memory (.operate i operation)) = some p') :
    ∃ m m' kernel, p.memories i = some m
      ∧ (memoryBehaviour M).operate p.kernel m operation = some (kernel, m')
      ∧ p' = { p with memories := Function.update p.memories i (some m'), kernel } := by
  obtain ⟨w, hw, rfl⟩ := Option.map_eq_some_iff.mp hstep
  obtain ⟨m, hm, hw⟩ := Option.bind_eq_some_iff.mp hw
  obtain ⟨⟨kernel, m'⟩, hop, rfl⟩ := Option.map_eq_some_iff.mp hw
  exact ⟨m, m', kernel, hm, hop, rfl⟩

/-- The file that an object has loaded is what its path names then. -/
lemma Loads.names {key : Key} {i : ι} {operation : Operation Answers} {file : OpenFile}
    (h : p.Loads pageSize key i operation p' file) :
    p'.kernel.names.entity key = some file.entity := by
  obtain ⟨args, os, space, s, hload, htarget, rfl⟩ := h.target
  obtain ⟨m, m', kernel, hm, hop, rfl⟩ := step_operate h.step
  obtain ⟨m'', hm', hfile⟩ := h.file
  obtain rfl := Option.some.inj ((Function.update_self i _ p.memories).symm.trans hm')
  rw [memoryBehaviour] at hop
  simp only [hload] at hop
  obtain ⟨kernel', hrun, heq⟩ := Option.map_eq_some_iff.mp hop
  obtain ⟨rfl, rfl⟩ := Prod.mk.inj heq
  rw [SharedMemory.load_calls, Runs.run_append] at hrun
  obtain ⟨closed, -, hrun⟩ := Option.bind_eq_some_iff.mp hrun
  exact (SharedMemory.outcome_loadClosed m.object.close_spec.1 args os).fileOf hrun hfile htarget

/-- **A name that an action does not take away goes on naming its entity.** -/
lemma entity_step {key : Key} {entity : ℕ} (h : p.kernel.names.entity key = some entity)
    (ha : ¬p.Removes key a) (hstep : p.step pageSize a = some p') :
    p'.kernel.names.entity key = some entity := by
  cases a with
  | memory a =>
    cases a with
    | construct i storage =>
      obtain ⟨w, hw, rfl⟩ := Option.map_eq_some_iff.mp hstep
      rw [Objects.step] at hw
      split at hw
      · obtain rfl := Option.some.inj hw
        exact h
      · exact Option.absurd_none hw
    | operate i operation =>
      obtain ⟨m, m', kernel, hm, hop, rfl⟩ := step_operate hstep
      have hpending : ¬m.object.PendingDelete key := fun hpending => ha ⟨m, hm, hpending⟩
      rw [memoryBehaviour] at hop
      dsimp only at hop
      split at hop
      · obtain ⟨kernel', hrun, heq⟩ := Option.map_eq_some_iff.mp hop
        obtain ⟨rfl, -⟩ := Prod.mk.inj heq
        rw [SharedMemory.load_calls, Runs.run_append] at hrun
        obtain ⟨closed, hclose, hrun⟩ := Option.bind_eq_some_iff.mp hrun
        exact (SharedMemory.outcome_loadClosed m.object.close_spec.1 _ _).keeps_entity hrun
          (SharedMemory.entity_close hpending hclose h)
      · obtain ⟨kernel', hrun, heq⟩ := Option.map_eq_some_iff.mp hop
        obtain ⟨rfl, -⟩ := Prod.mk.inj heq
        exact SharedMemory.entity_close hpending hrun h
    | destroy i =>
      obtain ⟨w, hw, rfl⟩ := Option.map_eq_some_iff.mp hstep
      obtain ⟨m, hm, hw⟩ := Option.bind_eq_some_iff.mp hw
      obtain ⟨kernel, hclose, rfl⟩ := Option.map_eq_some_iff.mp hw
      exact SharedMemory.entity_close (fun hpending => ha ⟨m, hm, hpending⟩) hclose h
    | outside x =>
      obtain ⟨w, hw, rfl⟩ := Option.map_eq_some_iff.mp hstep
      obtain ⟨kernel, hx, rfl⟩ := Option.map_eq_some_iff.mp hw
      obtain ⟨names, hnames, rfl⟩ := Option.map_eq_some_iff.mp hx
      cases x with
      | create key' =>
        rw [Outside.onNames, Option.ite_none_right_eq_some] at hnames
        obtain ⟨⟨-, habsent⟩, rfl⟩ := hnames.imp_right Option.some.inj
        have hne : key ≠ key' := by
          rintro rfl
          exact Option.absurd_none (habsent.symm.trans h)
        exact (Names.create_entity_of_ne hne).trans h
      | remove key' =>
        obtain rfl := Option.some.inj hnames
        have hne : key ≠ key' := fun hkey => ha hkey.symm
        exact (Names.remove_entity_of_ne hne).trans h
  | map k i size offset answer =>
    rw [step, Option.ite_none_left_eq_some, Option.bind_eq_some_iff] at hstep
    obtain ⟨-, m, -, hstep⟩ := hstep
    obtain ⟨kernel, hrun, rfl⟩ := Option.map_eq_some_iff.mp hstep
    have hnames := congrArg Kernel.names (kernel_of_run hrun)
    exact hnames ▸ h
  | unmap k =>
    obtain ⟨s, -, hstep⟩ := Option.bind_eq_some_iff.mp hstep
    obtain ⟨kernel, hrun, rfl⟩ := Option.map_eq_some_iff.mp hstep
    have hnames := congrArg Kernel.names (kernel_of_run hrun)
    exact hnames ▸ h
  | store k index value =>
    obtain ⟨s, -, hstep⟩ := Option.bind_eq_some_iff.mp hstep
    rw [Option.ite_none_right_eq_some] at hstep
    obtain ⟨kernel, hstore, rfl⟩ := Option.map_eq_some_iff.mp hstep.2
    obtain ⟨place, -, hwrite⟩ := Option.bind_eq_some_iff.mp hstore
    rw [Option.ite_none_right_eq_some] at hwrite
    obtain ⟨-, rfl⟩ := hwrite.imp_right Option.some.inj
    exact h
  | others contents lengths =>
    obtain rfl := Option.some.inj hstep
    exact h

/-- **Two objects that load the same name have the same entity**, if nobody takes the name away
between the two loads. -/
theorem loads_same_entity {key : Key} {i j : ι} {first second : Operation Answers}
    {p₁ p₂ p₃ p₄ : Process ι κ M} {file file' : OpenFile} {actions : List (ProcessAction ι κ M)}
    (hfirst : p₁.Loads pageSize key i first p₂ file)
    (hrun : Runs.run (step pageSize) p₂ actions = some p₃)
    (hkept : Runs.Meets (step pageSize) (fun p a => ¬p.Removes key a) p₂
      (actions ++ [.memory (.operate j second)]))
    (hsecond : p₃.Loads pageSize key j second p₄ file') : file.entity = file'.entity := by
  have hall : Runs.run (step pageSize) p₂ (actions ++ [.memory (.operate j second)])
      = some p₄ := by
    rw [Runs.run_append, hrun, Option.bind_some, Runs.run, hsecond.step]
    rfl
  have hnamed := (Runs.throughout_of_meets
    (fun _ _ _ h hmeets hstep => entity_step h hmeets hstep) hfirst.names hkept).last hall
  exact Option.some.inj (hnamed.symm.trans hsecond.names)

/-- One object creates a name, and another one opens it. -/
theorem loads_same_entity_open :
    ∃ (p₁ p₂ p₄ : Process Bool Bool 4) (file file' : OpenFile),
      p₁.Loads 4096 (.shm, ['/', 'x']) true
          (.createNamed (some ⟨['x'], by decide⟩) 9000 true ⟨3, true⟩) p₂ file
        ∧ p₂.Loads 4096 (.shm, ['/', 'x']) false
          (.openNamed (some ⟨['x'], by decide⟩) true ⟨4, true⟩) p₄ file'
        ∧ file.entity = file'.entity := by
  have hsteps : ∃ p₂ p₄, step 4096
        (⟨fun _ => some ⟨.construct (.replicate 4 'z'), none⟩, fun _ => none, emptyKernel⟩
          : Process Bool Bool 4)
        (.memory (.operate true (.createNamed (some ⟨['x'], by decide⟩) 9000 true ⟨3, true⟩)))
          = some p₂
      ∧ step 4096 p₂
        (.memory (.operate false (.openNamed (some ⟨['x'], by decide⟩) true ⟨4, true⟩))) = some p₄
      ∧ (∃ m, p₂.memories true = some m ∧ m.file = some ⟨0, false⟩)
      ∧ (∃ m, p₄.memories false = some m ∧ m.file = some ⟨0, true⟩)
      ∧ (∃ m, p₂.memories false = some m ∧ m.object.path = []) :=
    ⟨_, _, rfl, rfl, ⟨_, rfl, rfl⟩, ⟨_, rfl, rfl⟩, ⟨_, rfl, rfl⟩⟩
  obtain ⟨p₂, p₄, hstep, hstep', hfile, hfile', m, hm, hpath⟩ := hsteps
  have hfirst : Loads 4096 (.shm, ['/', 'x']) _ true _ p₂ ⟨0, false⟩ :=
    ⟨⟨_, _, _, _, rfl, rfl, rfl⟩, hstep, hfile⟩
  have hsecond : Loads 4096 (.shm, ['/', 'x']) p₂ false _ p₄ ⟨0, true⟩ :=
    ⟨⟨_, _, _, _, rfl, rfl, rfl⟩, hstep', hfile'⟩
  have hkept : ¬p₂.Removes (.shm, ['/', 'x'])
      (.memory (.operate false (.openNamed (some ⟨['x'], by decide⟩) true ⟨4, true⟩))) := by
    rintro ⟨m', hm', hpending⟩
    obtain rfl := Option.some.inj (hm.symm.trans hm')
    exact hpending.1 hpath
  have hrun : Runs.run (step 4096) p₂ [] = some p₂ := rfl
  exact ⟨_, p₂, p₄, _, _, hfirst, hsecond,
    loads_same_entity hfirst hrun ⟨hkept, fun _ _ => trivial⟩ hsecond⟩

end Process

end Posix
end SMBB
