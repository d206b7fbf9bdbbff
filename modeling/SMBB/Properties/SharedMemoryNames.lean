import SMBB.Properties.SharedMemoryCalls
import SMBB.Framework.Objects

/-!
# What `Load` creates and what it deletes, POSIX build

The only thing that tells creating from opening is whether the size is zero.

**Failure.**  A `Load` of a closed object that fails leaves the existing names as they were,
except when the entity was created, could not be resized, and was not to be deleted on close:
`_name` has been cleared by then, so `Close` has no path to take back
(`load_failed_unchanged_iff`).

**Creation.**  A `Create` that succeeds has created its entity unless it was called with size
zero, or the object was itself about to delete the entity (`CreatesOnly`).
-/

namespace SMBB
namespace Posix

variable {M : ℕ}

/-! ## Calls on names -/

section OnNames

variable {names names' : Names Key} {space : Space} {path : List Char} {readOnly create : Bool}
  {answer : ℤ}

lemma onNames_failed (h : answer = -1) :
    Call.onNames names (.openEntity space path readOnly create answer) = some names :=
  if_pos h

/-- Creating needs a path that is not empty and not there yet. -/
lemma onNames_create_iff (h : answer ≠ -1) :
    Call.onNames names (.openEntity space path readOnly true answer) = some names'
      ↔ path ≠ [] ∧ names.entity (space, path) = none ∧ names' = names.create (space, path) := by
  rw [Call.onNames, if_neg h]
  by_cases hpath : path = []
  · simp [hpath]
  · by_cases hentity : names.entity (space, path) = none
    · simp [hpath, hentity, eq_comm]
    · simp [hpath, hentity]

/-- Opening needs a path that is there. -/
lemma onNames_open_iff (h : answer ≠ -1) :
    Call.onNames names (.openEntity space path readOnly false answer) = some names'
      ↔ path ≠ [] ∧ names.entity (space, path) ≠ none ∧ names' = names := by
  rw [Call.onNames, if_neg h]
  by_cases hpath : path = []
  · simp [hpath]
  · by_cases hentity : names.entity (space, path) = none
    · simp [hpath, hentity]
    · simp [hpath, hentity, eq_comm]

end OnNames

namespace SharedMemory

variable [NeZero M] {m : SharedMemory M} {args : LoadArgs} {os : Answers}
  {names after : Names Key}

/-- A closed object makes no call to close. -/
lemma Closed.close_calls (hm : m.Closed) : m.close.2 = [] := by
  rw [m.close_spec.2, deletes, closes, if_pos hm.1, if_pos hm.2, List.append_nil]

/-! ## Failure -/

/-- The entity is created, not resized, and not to be deleted on close. -/
def LeavesPartial (M : ℕ) (args : LoadArgs) (os : Answers) : Prop :=
  Acceptable M args ∧ args.size ≠ 0 ∧ args.deleteOnClose = false ∧ os.opened ≠ -1
    ∧ os.resized = false

omit [NeZero M] in
lemma Outcome.unchanged_iff {loaded : Loaded M} (h : Outcome args os loaded)
    (hrun : Runs.run Call.onNames names loaded.calls = some after) :
    (loaded.result ≠ .success →
        (∀ k, (after.entity k).isSome = (names.entity k).isSome) ∧ loaded.object.Closed)
      ↔ ¬LeavesPartial M args os := by
  cases h with
  | refused hargs hresult hobject =>
    obtain rfl := Option.some.inj hrun
    exact iff_of_true (fun _ => ⟨fun _ => rfl, hobject⟩) fun h => hargs h.1
  | unopened hargs htarget hopened hobject =>
    obtain ⟨names', hopen, hrun⟩ := Runs.run_cons_eq_some.mp hrun
    rw [onNames_failed hopened] at hopen
    obtain rfl := Option.some.inj hopen
    obtain rfl := Option.some.inj hrun
    exact iff_of_true (fun _ => ⟨fun _ => rfl, hobject⟩) fun h => h.2.2.2.1 hopened
  | @unresized object space s hargs htarget hopened hsize hresized hobject =>
    obtain ⟨names', hopen, hrun⟩ := Runs.run_cons_eq_some.mp hrun
    rw [decide_eq_true hsize, onNames_create_iff hopened] at hopen
    obtain ⟨hpath, habsent, rfl⟩ := hopen
    by_cases hdelete : args.deleteOnClose = true
    · rw [if_pos ⟨hdelete, hpath⟩] at hrun
      obtain rfl : (names.create (space, pathOf space s)).remove (space, pathOf space s) = after :=
        Option.some.inj hrun
      refine iff_of_true (fun _ => ⟨fun k => ?_, hobject⟩) fun h => ?_
      · by_cases hk : k = (space, pathOf space s)
        · rw [hk, Names.remove_entity_self, habsent]
        · rw [Names.remove_entity_of_ne hk, Names.create_entity_of_ne hk]
      · exact Bool.false_ne_true (h.2.2.1.symm.trans hdelete)
    · rw [if_neg fun h => hdelete h.1] at hrun
      obtain rfl : names.create (space, pathOf space s) = after := Option.some.inj hrun
      have hpartial : LeavesPartial M args os :=
        ⟨hargs, hsize, Bool.eq_false_iff.mpr hdelete, hopened, hresized⟩
      refine iff_of_false (fun h => ?_) fun h => h hpartial
      have hkey := (h LoadResult.noConfusion).1 (space, pathOf space s)
      rw [Names.create_entity_self, habsent] at hkey
      cases hkey
  | loaded hargs htarget hopened hresized =>
    refine iff_of_true (fun h => absurd rfl h) ?_
    rintro ⟨-, hsize, -, -, hfailed⟩
    exact absurd (hresized hsize) (by simp [hfailed])

/-- **A `Load` that fails on a closed object leaves the existing names as they were**, and the
object closed, unless it leaves a partial entity behind. -/
theorem load_failed_unchanged_iff (hm : m.Closed) (args : LoadArgs) (os : Answers)
    (hrun : Runs.run Call.onNames names (m.load args os).calls = some after) :
    ((m.load args os).result ≠ .success →
        (∀ k, (after.entity k).isSome = (names.entity k).isSome)
          ∧ (m.load args os).object.Closed)
      ↔ ¬LeavesPartial M args os := by
  rw [load_calls, hm.close_calls, List.nil_append] at hrun
  exact (outcome_loadClosed m.close_spec.1 args os).unchanged_iff hrun

/-- `CreateNamed("x", 1)` in an empty namespace, where the resize fails. -/
theorem load_failed_unchanged_createNamed :
    ((((construct (.replicate 4 'z') : SharedMemory 4).load
          (.createNamed (some ⟨['x'], by decide⟩) 1 true) ⟨3, false⟩).result ≠ .success →
        (∀ k, ((((Names.empty : Names Key).create (.shm, ['/', 'x'])).remove
            (.shm, ['/', 'x'])).entity k).isSome = ((Names.empty : Names Key).entity k).isSome)
          ∧ ((construct (.replicate 4 'z') : SharedMemory 4).load
            (.createNamed (some ⟨['x'], by decide⟩) 1 true) ⟨3, false⟩).object.Closed)
      ↔ ¬LeavesPartial 4 (.createNamed (some ⟨['x'], by decide⟩) 1 true) ⟨3, false⟩) :=
  load_failed_unchanged_iff (closed_construct _) _ _ rfl

/-- `CreateNamed("x", 1)` without delete-on-close: the resize fails, and the name stays. -/
theorem createNamed_leaves_partial :
    ((construct (.replicate 4 'z') : SharedMemory 4).load
        (.createNamed (some ⟨['x'], by decide⟩) 1 false) ⟨3, false⟩).result = .failedToResizeFile
      ∧ ∃ after, Runs.run Call.onNames .empty ((construct (.replicate 4 'z') : SharedMemory 4).load
          (.createNamed (some ⟨['x'], by decide⟩) 1 false) ⟨3, false⟩).calls = some after
        ∧ (after.entity (.shm, ['/', 'x'])).isSome = true
        ∧ ((Names.empty : Names Key).entity (.shm, ['/', 'x'])).isSome = false :=
  ⟨rfl, _, rfl, rfl, rfl⟩

/-! ## Creation -/

/-- The object is about to delete the entity with this key. -/
def PendingDelete (m : SharedMemory M) (key : Key) : Prop :=
  m.path ≠ [] ∧ (m.space, m.path) = key

/-- The names after `Close`. -/
def afterClose (m : SharedMemory M) (names : Names Key) : Names Key :=
  if m.path = [] then names else names.remove (m.space, m.path)

lemma run_close (m : SharedMemory M) (names : Names Key) :
    Runs.run Call.onNames names m.close.2 = some (m.afterClose names) := by
  have hcloses : ∀ names : Names Key, Runs.run Call.onNames names m.closes = some names := by
    intro names
    unfold closes
    split <;> rfl
  rw [m.close_spec.2, Runs.run_append, deletes, afterClose]
  split
  · exact hcloses names
  · exact hcloses _

omit [NeZero M] in
lemma afterClose_next (m : SharedMemory M) (names : Names Key) :
    (m.afterClose names).next = names.next := by
  unfold afterClose
  split <;> rfl

omit [NeZero M] in
lemma afterClose_entity_of_pending {key : Key} (h : m.PendingDelete key) :
    (m.afterClose names).entity key = none := by
  rw [afterClose, if_neg h.1, h.2, Names.remove_entity_self]

omit [NeZero M] in
lemma afterClose_entity_of_not_pending {key : Key} (h : ¬m.PendingDelete key) :
    (m.afterClose names).entity key = names.entity key := by
  unfold afterClose
  split
  · rfl
  · rename_i hpath
    exact Names.remove_entity_of_ne fun heq => h ⟨hpath, heq.symm⟩

/-- When a `Load` with these arguments can only create: if the entity exists, the size is zero
exactly when the object itself is about to delete it. -/
def CreatesOnly (m : SharedMemory M) (names : Names Key) (args : LoadArgs) : Prop :=
  ∀ space s, args.target = some (space, s) → Acceptable M args → pathOf space s ≠ [] →
    names.entity (space, pathOf space s) ≠ none →
      (m.PendingDelete (space, pathOf space s) ↔ args.size = 0)

omit [NeZero M] in
/-- A successful `Load` on a closed object is a successful open. -/
lemma Outcome.of_success {loaded : Loaded M} (h : Outcome args os loaded)
    (hsuccess : loaded.result = .success) :
    Acceptable M args ∧ os.opened ≠ -1 ∧ ∃ space s, args.target = some (space, s)
      ∧ loaded.object.space = space
      ∧ (loaded.object.path = if args.deleteOnClose then pathOf space s else [])
      ∧ ∀ names, Runs.run Call.onNames names loaded.calls
        = Call.onNames names
          (.openEntity space (pathOf space s) args.readOnly (args.size ≠ 0) os.opened) := by
  cases h with
  | refused _ hresult => exact absurd hsuccess hresult
  | unopened => exact LoadResult.noConfusion hsuccess
  | unresized => exact LoadResult.noConfusion hsuccess
  | @loaded object space s hargs htarget hopened _ _ hspace hpath =>
    refine ⟨hargs, hopened, space, s, htarget, hspace, hpath, fun names => ?_⟩
    split <;> exact Option.bind_fun_some _

omit [NeZero M] in
/-- With answers that grant everything, acceptable arguments succeed. -/
lemma Outcome.success {loaded : Loaded M} (h : Outcome args os loaded) (hargs : Acceptable M args)
    (hopened : os.opened ≠ -1) (hresized : os.resized = true) : loaded.result = .success := by
  cases h with
  | refused hrefused => exact absurd hargs hrefused
  | unopened _ _ hfailed => exact absurd hfailed hopened
  | unresized _ _ _ _ hfailed => exact absurd (hresized.symm.trans hfailed) (by decide)
  | loaded => rfl

lemma run_load (m : SharedMemory M) (args : LoadArgs) (os : Answers) (names : Names Key) :
    Runs.run Call.onNames names (m.load args os).calls
      = Runs.run Call.onNames (m.afterClose names) (m.close.1.loadClosed args os).calls := by
  rw [load_calls, Runs.run_append, run_close, Option.bind_some]

/-- What can only create has created. -/
lemma createdNew_of_createsOnly (honly : m.CreatesOnly names args)
    (hrun : Runs.run Call.onNames names (m.load args os).calls = some after)
    (hsuccess : (m.load args os).result = .success) {space : Space} {s : CString}
    (htarget : args.target = some (space, s)) :
    names.CreatedNew after (space, pathOf space s) := by
  obtain ⟨hargs, hopened, space', s', htarget', -, -, hcalls⟩ :=
    (outcome_loadClosed m.close_spec.1 args os).of_success hsuccess
  obtain ⟨rfl, rfl⟩ := LoadArgs.target_unique htarget' htarget
  rw [run_load, hcalls] at hrun
  have honly' := honly _ _ htarget' hargs
  by_cases hsize : args.size = 0
  · -- the size is zero: the entity would have to be there after `Close`
    rw [decide_eq_false (not_not.mpr hsize), onNames_open_iff hopened] at hrun
    obtain ⟨hpath, hentity, -⟩ := hrun
    by_cases hpending : m.PendingDelete (space', pathOf space' s')
    · exact absurd (afterClose_entity_of_pending hpending) hentity
    · rw [afterClose_entity_of_not_pending hpending] at hentity
      exact absurd ((honly' hpath hentity).mpr hsize) hpending
  · rw [decide_eq_true hsize, onNames_create_iff hopened] at hrun
    obtain ⟨hpath, habsent, rfl⟩ := hrun
    refine ⟨?_, _, Names.create_entity_self, (m.afterClose_next names).ge⟩
    by_contra hentity
    have hpending : ¬m.PendingDelete (space', pathOf space' s') :=
      fun h => hsize ((honly' hpath hentity).mp h)
    rw [afterClose_entity_of_not_pending hpending] at habsent
    exact hentity habsent

/-- Whatever the system answers, success means that the entity was created. -/
def SuccessCreates (m : SharedMemory M) (names : Names Key) (args : LoadArgs) : Prop :=
  ∀ os after, Runs.run Call.onNames names (m.load args os).calls = some after →
    (m.load args os).result = .success → ∀ space s, args.target = some (space, s) →
      names.CreatedNew after (space, pathOf space s)

/-- **A `Load` only ever succeeds by creating its entity** exactly when it meets `CreatesOnly`. -/
theorem successCreates_iff (m : SharedMemory M) (names : Names Key) (args : LoadArgs) :
    m.SuccessCreates names args ↔ m.CreatesOnly names args := by
  constructor
  · intro h space s htarget hargs hpath hentity
    -- a system that grants everything it can
    have houtcome := outcome_loadClosed m.close_spec.1 args ⟨3, true⟩
    have hsuccess := houtcome.success hargs (by decide) rfl
    obtain ⟨-, hopened, space', s', htarget', -, -, hcalls⟩ := houtcome.of_success hsuccess
    obtain ⟨rfl, rfl⟩ := LoadArgs.target_unique htarget' htarget
    have hrefute : ∀ after, Call.onNames (m.afterClose names) (.openEntity space'
        (pathOf space' s') args.readOnly (args.size ≠ 0) 3) = some after → False := by
      intro after hafter
      refine hentity (h ⟨3, true⟩ after ?_ hsuccess space' s' htarget).1
      rw [run_load, hcalls]
      exact hafter
    by_cases hsize : args.size = 0
    · refine iff_of_true ?_ hsize
      by_contra hpending
      refine hrefute (m.afterClose names) ?_
      rw [decide_eq_false (not_not.mpr hsize), onNames_open_iff hopened,
        afterClose_entity_of_not_pending hpending]
      exact ⟨hpath, hentity, rfl⟩
    · refine iff_of_false (fun hpending => ?_) hsize
      refine hrefute ((m.afterClose names).create (space', pathOf space' s')) ?_
      rw [decide_eq_true hsize, onNames_create_iff hopened]
      exact ⟨hpath, afterClose_entity_of_pending hpending, rfl⟩
  · intro honly os after hrun hsuccess space s htarget
    exact createdNew_of_createsOnly honly hrun hsuccess htarget

/-- `CreateNamed("x", 0)` with delete-on-close, where `x` exists: it succeeds and creates nothing,
and the next `Close` deletes what was there. -/
theorem createNamed_zero_opens :
    let names : Names Key := Names.empty.create (.shm, ['/', 'x'])
    let loaded := (construct (.replicate 4 'z') : SharedMemory 4).load
      (.createNamed (some ⟨['x'], by decide⟩) 0 true) ⟨3, true⟩
    loaded.result = .success
      ∧ Runs.run Call.onNames names loaded.calls = some names
      ∧ ¬names.CreatedNew names (.shm, ['/', 'x'])
      ∧ Runs.run Call.onNames names loaded.object.close.2
        = some (names.remove (.shm, ['/', 'x'])) :=
  ⟨rfl, rfl, fun h => Option.some_ne_none 0 h.1, rfl⟩

end SharedMemory
end Posix
end SMBB
