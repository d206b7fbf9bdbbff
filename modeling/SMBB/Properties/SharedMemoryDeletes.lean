import SMBB.Properties.SharedMemoryNames

/-!
# What delete-on-close removes over whole runs, POSIX build

Objects and other processes create and remove entities in any order.  Every object carries the
names that existed when it was last loaded, and every delete that `Close` performs for it is
recorded with them.

The invariant is `DeletesNew`: whatever a pending delete will hit was created after the object was
loaded.  A `Load` establishes it if it can only create (`CreatesOnly`), and nothing that happens
later breaks it, because no entity number is given twice.
-/

namespace SMBB
namespace Posix

variable {M : ℕ}

/-- The existing names, and the entities that were removed by a delete-on-close, each with the
names that existed when the object was loaded. -/
structure System where
  names : Names Key
  removed : List (ℕ × Names Key)

/-- What a call removes. -/
def Call.removes (names : Names Key) : Call → Option ℕ
  | .unlink space path => names.entity (space, path)
  | _ => none

/-- The effect of a call of an object that was loaded when `loadedAt` existed. -/
def System.apply (loadedAt : Names Key) (s : System) (c : Call) : Option System :=
  (c.onNames s.names).map fun names =>
    ⟨names, s.removed ++ (c.removes s.names).toList.map fun id => (id, loadedAt)⟩

/-- An object, and the names that existed when it was last loaded. -/
structure Dated (M : ℕ) where
  object : SharedMemory M
  loadedAt : Names Key

/-- `SharedMemory` objects over the existing names.  `Close` acts for the last `Load`; the rest of
`Load` acts for itself. -/
def nameBehaviour (M : ℕ) [NeZero M] :
    Objects.Behaviour (Vector Char M) (Dated M) (Operation Answers) Outside System where
  construct storage := ⟨.construct storage, .empty⟩
  operate s t operation :=
    (Runs.run (System.apply t.loadedAt) s t.object.close.2).bind fun closed =>
      match operation.load with
      | some (args, os) =>
        let loaded := t.object.close.1.loadClosed args os
        (Runs.run (System.apply s.names) closed loaded.calls).map fun s' =>
          (s', ⟨loaded.object, s.names⟩)
      | none => some (closed, ⟨t.object.close.1, t.loadedAt⟩)
  destroy s t := Runs.run (System.apply t.loadedAt) s t.object.close.2
  outside s x := (x.onNames s.names).map fun names => { s with names }

/-- No delete-on-close has removed an entity that existed when the object was loaded. -/
def System.SparesOld (s : System) : Prop := ∀ r ∈ s.removed, ∀ key, r.2.entity key ≠ some r.1

/-- All that was removed was created after the object had been loaded. -/
def System.RemovedNew (s : System) : Prop := ∀ r ∈ s.removed, r.2.next ≤ r.1

lemma System.RemovedNew.sparesOld {s : System} (h : s.RemovedNew) : s.SparesOld := by
  intro r hr key hkey
  exact absurd (r.2.entity_lt hkey) (Nat.not_lt.mpr (h r hr))

/-- A pending delete hits only what was created after the object was loaded. -/
def DeletesNew (s : System) (t : Dated M) : Prop :=
  t.loadedAt.next ≤ s.names.next
    ∧ (t.object.path ≠ [] →
      s.names.NewSince t.loadedAt.next (t.object.space, t.object.path))

lemma DeletesNew.evolves {s s' : System} {t : Dated M} (h : DeletesNew s t)
    (hevolves : s.names.Evolves s'.names) : DeletesNew s' t :=
  ⟨h.1.trans hevolves.next_le, fun hpath => hevolves.newSince h.1 (h.2 hpath)⟩

/-! ## Calls -/

lemma evolves_onNames {names names' : Names Key} {c : Call}
    (h : c.onNames names = some names') : names.Evolves names' := by
  cases c with
  | openEntity space path readOnly create answer =>
    by_cases hanswer : answer = -1
    · rw [onNames_failed hanswer] at h
      obtain rfl := Option.some.inj h
      exact .refl _
    · cases create with
      | true =>
        obtain ⟨-, -, rfl⟩ := (onNames_create_iff hanswer).mp h
        exact names.evolves_create _
      | false =>
        obtain ⟨-, -, rfl⟩ := (onNames_open_iff hanswer).mp h
        exact .refl _
  | ftruncate => exact Option.some.inj h ▸ .refl _
  | unlink space path => exact Option.some.inj h ▸ names.evolves_remove _
  | close => exact Option.some.inj h ▸ .refl _

lemma run_apply_names {loadedAt : Names Key} {calls : List Call} {s s' : System}
    (h : Runs.run (System.apply loadedAt) s calls = some s') :
    Runs.run Call.onNames s.names calls = some s'.names := by
  induction calls generalizing s with
  | nil => exact congrArg (Option.map System.names) h
  | cons c calls ih =>
    obtain ⟨s₁, hs₁, hrest⟩ := Runs.run_cons_eq_some.mp h
    obtain ⟨names, hnames, rfl⟩ := Option.map_eq_some_iff.mp hs₁
    exact Runs.run_cons_eq_some.mpr ⟨names, hnames, ih hrest⟩

lemma evolves_run {calls : List Call} {names names' : Names Key}
    (h : Runs.run Call.onNames names calls = some names') : names.Evolves names' :=
  (Runs.throughout (Q := names.Evolves) (fun _ _ _ hn hc => hn.trans (evolves_onNames hc)) calls
    (.refl names)).last h

/-- A call records only new entities if it is not a delete, or a delete of something new. -/
lemma removedNew_apply {loadedAt : Names Key} {c : Call} {s s' : System} (hs : s.RemovedNew)
    (hnew : ∀ space path, c = .unlink space path →
      s.names.NewSince loadedAt.next (space, path))
    (h : s.apply loadedAt c = some s') : s'.RemovedNew := by
  obtain ⟨names, -, rfl⟩ := Option.map_eq_some_iff.mp h
  intro r hr
  rcases List.mem_append.mp hr with hr | hr
  · exact hs r hr
  · obtain ⟨id, hid, rfl⟩ := List.mem_map.mp hr
    have hremoves := Option.mem_toList.mp hid
    cases c with
    | unlink space path => exact hnew space path rfl id hremoves
    | openEntity => exact Option.absurd_none hremoves
    | ftruncate => exact Option.absurd_none hremoves
    | close => exact Option.absurd_none hremoves

/-- Calls without a delete record nothing. -/
lemma removedNew_run {loadedAt : Names Key} {calls : List Call} {s s' : System}
    (hs : s.RemovedNew) (hcalls : ∀ space path, .unlink space path ∉ calls)
    (h : Runs.run (System.apply loadedAt) s calls = some s') : s'.RemovedNew := by
  induction calls generalizing s with
  | nil => exact Option.some.inj h ▸ hs
  | cons c calls ih =>
    obtain ⟨s₁, hs₁, hrest⟩ := Runs.run_cons_eq_some.mp h
    refine ih (removedNew_apply hs ?_ hs₁) (fun space path hmem =>
      hcalls space path (List.mem_cons_of_mem c hmem)) hrest
    rintro space path rfl
    exact absurd List.mem_cons_self (hcalls space path)

namespace SharedMemory

variable [NeZero M]

/-- `Close` records only new entities. -/
lemma removedNew_close {s s' : System} {t : Dated M} (hs : s.RemovedNew) (ht : DeletesNew s t)
    (h : Runs.run (System.apply t.loadedAt) s t.object.close.2 = some s') : s'.RemovedNew := by
  have hcloses : ∀ space path, Call.unlink space path ∉ t.object.closes := by
    intro space path
    unfold closes
    split <;> simp
  rw [t.object.close_spec.2, deletes] at h
  split at h
  · exact removedNew_run hs hcloses h
  · rename_i hpath
    obtain ⟨s₁, hs₁, hrest⟩ := Runs.run_cons_eq_some.mp h
    refine removedNew_run (removedNew_apply hs ?_ hs₁) hcloses hrest
    rintro space path heq
    obtain ⟨rfl, rfl⟩ := Call.unlink.inj heq
    exact ht.2 hpath

omit [NeZero M] in
/-- The rest of `Load` records only what it created itself. -/
lemma Outcome.removedNew {args : LoadArgs} {os : Answers} {loaded : Loaded M}
    {loadedAt : Names Key} {s s' : System} (h : Outcome args os loaded) (hs : s.RemovedNew)
    (hnext : loadedAt.next ≤ s.names.next)
    (hrun : Runs.run (System.apply loadedAt) s loaded.calls = some s') : s'.RemovedNew := by
  cases h with
  | refused => exact removedNew_run hs (fun _ _ => List.not_mem_nil) hrun
  | unopened => exact removedNew_run hs (by simp) hrun
  | @unresized object space str hargs htarget hopened hsize hresized hobject =>
    obtain ⟨s₁, hs₁, hrun⟩ := Runs.run_cons_eq_some.mp hrun
    obtain ⟨s₂, hs₂, hrun⟩ := Runs.run_cons_eq_some.mp hrun
    have hnew₁ := removedNew_apply hs (by simp) hs₁
    have hnew₂ := removedNew_apply hnew₁ (by simp) hs₂
    split at hrun
    · obtain ⟨s₃, hs₃, hrun⟩ := Runs.run_cons_eq_some.mp hrun
      refine removedNew_run (removedNew_apply hnew₂ ?_ hs₃) (by simp) hrun
      -- the deleted entity is the one the call before has created
      intro space' path' heq
      obtain ⟨rfl, rfl⟩ := Call.unlink.inj heq
      obtain ⟨names₁, hopen, rfl⟩ := Option.map_eq_some_iff.mp hs₁
      obtain rfl := Option.some.inj hs₂
      rw [decide_eq_true hsize, onNames_create_iff hopened] at hopen
      obtain ⟨-, -, rfl⟩ := hopen
      intro id hid
      rw [Names.create_entity_self] at hid
      exact Option.some.inj hid ▸ hnext
    · exact removedNew_run hnew₂ (by simp) hrun
  | loaded =>
    refine removedNew_run hs (fun space path hmem => ?_) hrun
    split at hmem <;> simp at hmem

/-- A `Load` that can only create, or does not delete on close, leaves a pending delete only for
something new. -/
lemma deletesNew_load {m : SharedMemory M} {args : LoadArgs} {os : Answers} {names : Names Key}
    {s' : System} (honly : args.deleteOnClose = true → m.CreatesOnly names args)
    (hrun : Runs.run Call.onNames names (m.load args os).calls = some s'.names) :
    DeletesNew s' ⟨(m.load args os).object, names⟩ := by
  refine ⟨(evolves_run hrun).next_le, fun hpath => ?_⟩
  have houtcome := outcome_loadClosed m.close_spec.1 args os
  have hsuccess : (m.load args os).result = .success := by
    by_contra hfailed
    exact hpath (houtcome.path_of_failure hfailed)
  obtain ⟨-, -, space, s, htarget, hspace, hname, -⟩ := houtcome.of_success hsuccess
  have hspace' : (m.load args os).object.space = space := hspace
  have hname' : (m.load args os).object.path
      = if args.deleteOnClose then pathOf space s else [] := hname
  by_cases hdelete : args.deleteOnClose = true
  · obtain ⟨-, id, hid, hle⟩ :=
      createdNew_of_createsOnly (honly hdelete) hrun hsuccess htarget
    rw [if_pos hdelete] at hname'
    rw [hspace', hname']
    intro id' hid'
    obtain rfl := Option.some.inj (hid.symm.trans hid')
    exact hle
  · rw [if_neg hdelete] at hname'
    exact absurd hname' hpath

end SharedMemory

variable {ι : Type*} [DecidableEq ι] [NeZero M]

/-- A world of `SharedMemory` objects over the existing names, and what can happen in it. -/
abbrev NameWorld (ι : Type*) (M : ℕ) := Objects.World ι (Dated M) System
abbrev NameAction (ι : Type*) (M : ℕ) :=
  Objects.Action ι (Vector Char M) (Operation Answers) Outside

/-- Every `Create` can only create. -/
def NameWorld.CreatesOnly (w : NameWorld ι M) (a : NameAction ι M) : Prop :=
  ∀ i operation t args, a = .operate i operation → w.objects i = some t →
    operation.creates = some args → t.object.CreatesOnly w.env.names args

/-- Nothing old was removed, and nothing old is going to be. -/
structure NameWorld.Sound (w : NameWorld ι M) : Prop where
  removedNew : w.env.RemovedNew
  deletesNew : ∀ i t, w.objects i = some t → DeletesNew w.env t

/-- One operation, on the object and on the system. -/
lemma operate_cases {s s' : System} {t t' : Dated M} {operation : Operation Answers}
    (h : (nameBehaviour M).operate s t operation = some (s', t')) :
    ∃ closed, Runs.run (System.apply t.loadedAt) s t.object.close.2 = some closed
      ∧ ((∃ args os, operation.load = some (args, os)
          ∧ Runs.run (System.apply s.names) closed (t.object.close.1.loadClosed args os).calls
            = some s'
          ∧ t' = ⟨(t.object.load args os).object, s.names⟩)
        ∨ (s' = closed ∧ t' = ⟨t.object.close.1, t.loadedAt⟩)) := by
  obtain ⟨closed, hclosed, h⟩ := Option.bind_eq_some_iff.mp h
  refine ⟨closed, hclosed, ?_⟩
  rcases hload : operation.load with _ | ⟨args, os⟩
  · rw [hload] at h
    obtain ⟨rfl, rfl⟩ := Prod.mk.inj (Option.some.inj h)
    exact Or.inr ⟨rfl, rfl⟩
  · rw [hload] at h
    obtain ⟨s'', hrun, heq⟩ := Option.map_eq_some_iff.mp h
    obtain ⟨rfl, rfl⟩ := Prod.mk.inj heq
    exact Or.inl ⟨args, os, rfl, hrun, rfl⟩

/-- After one operation: the names have evolved, only new entities were recorded, and the pending
delete of the object is for something new. -/
lemma operate_sound {s s' : System} {t t' : Dated M} {operation : Operation Answers}
    (hs : s.RemovedNew) (ht : DeletesNew s t)
    (honly : ∀ args, operation.creates = some args → t.object.CreatesOnly s.names args)
    (h : (nameBehaviour M).operate s t operation = some (s', t')) :
    s'.RemovedNew ∧ DeletesNew s' t' ∧ s.names.Evolves s'.names := by
  obtain ⟨closed, hclosed, ⟨args, os, hload, hrun, rfl⟩ | ⟨rfl, rfl⟩⟩ := operate_cases h
  · have hnew := SharedMemory.removedNew_close hs ht hclosed
    have hnames : Runs.run Call.onNames s.names (t.object.load args os).calls = some s'.names := by
      rw [SharedMemory.load_calls, Runs.run_append, run_apply_names hclosed, Option.bind_some]
      exact run_apply_names hrun
    have hnext := (evolves_run (run_apply_names hclosed)).next_le
    refine ⟨?_, SharedMemory.deletesNew_load (fun hdelete => honly args
      (Operation.creates_of_deleteOnClose hload hdelete)) hnames, evolves_run hnames⟩
    exact (SharedMemory.outcome_loadClosed t.object.close_spec.1 args os).removedNew hnew hnext hrun
  · have hevolves := evolves_run (run_apply_names hclosed)
    refine ⟨SharedMemory.removedNew_close hs ht hclosed, ⟨ht.1.trans hevolves.next_le, ?_⟩,
      hevolves⟩
    exact fun hpath => absurd t.object.close_spec.1.2 hpath

lemma evolves_outside {names names' : Names Key} {x : Outside}
    (h : x.onNames names = some names') : names.Evolves names' := by
  cases x with
  | create key =>
    obtain ⟨-, h⟩ := Option.ite_none_right_eq_some.mp h
    exact Option.some.inj h ▸ names.evolves_create key
  | remove key => exact Option.some.inj h ▸ names.evolves_remove key

lemma NameWorld.Sound.step {w w' : NameWorld ι M} {a : NameAction ι M} (hw : w.Sound)
    (honly : w.CreatesOnly a) (h : Objects.step (nameBehaviour M) w a = some w') : w'.Sound where
  removedNew := by
    obtain ⟨i, k, -, rfl⟩ | ⟨i, x, t, env, t', hi, ha, hop, rfl⟩ | ⟨i, t, env, hi, hd, rfl⟩
      | ⟨x, env, hx, rfl⟩ := Objects.step_cases h
    · exact hw.removedNew
    · exact (operate_sound hw.removedNew (hw.deletesNew i t hi)
        (fun args => honly i x t args ha hi) hop).1
    · exact SharedMemory.removedNew_close hw.removedNew (hw.deletesNew i t hi) hd
    · obtain ⟨names, -, rfl⟩ := Option.map_eq_some_iff.mp hx
      exact hw.removedNew
  deletesNew := by
    refine Objects.forall_objects (C := fun s t operation => s.RemovedNew
      ∧ ∀ args, operation.creates = some args → t.object.CreatesOnly s.names args)
      ?_ ?_ ?_ ?_ hw.deletesNew ?_ h
    · exact fun s storage =>
        ⟨Nat.zero_le _, fun hpath => absurd (SharedMemory.closed_construct storage).2 hpath⟩
    · intro s t operation s' t' ht hC hop
      obtain ⟨-, ht', hevolves⟩ := operate_sound hC.1 ht hC.2 hop
      exact ⟨ht', fun p hp => hp.evolves hevolves⟩
    · intro s t s' hd p hp
      exact hp.evolves (evolves_run (run_apply_names hd))
    · intro s x s' hx p hp
      obtain ⟨names, hnames, rfl⟩ := Option.map_eq_some_iff.mp hx
      exact hp.evolves (evolves_outside hnames)
    · intro i x t ha hi
      exact ⟨hw.removedNew, fun args => honly i x t args ha hi⟩

omit [DecidableEq ι] [NeZero M] in
lemma sound_initial_names (names : Names Key) :
    NameWorld.Sound (.initial ⟨names, []⟩ : NameWorld ι M) where
  removedNew _ hr := absurd hr List.not_mem_nil
  deletesNew _ _ h := Option.absurd_none h

/-- **In a run in which every `Create` can only create**, no delete-on-close removes an entity that
existed when its object was loaded. -/
theorem sparesOld_throughout (names : Names Key) {actions : List (NameAction ι M)}
    (honly : Runs.Meets (Objects.step (nameBehaviour M)) NameWorld.CreatesOnly
      (.initial ⟨names, []⟩) actions) :
    Runs.Throughout (Objects.step (nameBehaviour M)) (fun w => w.env.SparesOld)
      (.initial ⟨names, []⟩) actions := by
  have hsound := Runs.throughout_of_meets (fun w a w' hw hC h => NameWorld.Sound.step hw hC h)
    (sound_initial_names names) honly
  exact hsound.mono fun w hw => hw.removedNew.sparesOld

end Posix
end SMBB
