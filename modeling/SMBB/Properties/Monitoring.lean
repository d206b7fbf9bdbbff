import SMBB.Construction.SelectSets
import SMBB.Framework.Runs
import SMBB.Framework.PartialMaps

/-!
# What a `SelectSets` monitors

Seen from outside, a `SelectSets` is a set of pairs of a socket and a condition, to which
`AddSocket` adds the pairs its mask names and from which `RemoveSocket` takes them away.  The POSIX
build keeps one bit for two of the three conditions, so it can represent such a set only as long
as removing one of the two does not leave the other behind.

`agrees_throughout_iff` says that this is the only way in which the two part: the two bit sets
stand for the monitored pairs in every state of a run exactly when no `RemoveSocket` of the run
splits a pair (`Splits`).
-/

namespace SMBB

/-- What a socket can be monitored for. -/
inductive Condition
  | canRead
  | canWrite
  | connectFailed
deriving DecidableEq

/-- The bit of a condition in a `SelectValue`. -/
def Condition.flag : Condition → ℕ
  | .canRead => selectCanRead
  | .canWrite => selectCanWrite
  | .connectFailed => selectConnectFailed

/-- A mask names a condition. -/
def namesCondition (mask : ℕ) (c : Condition) : Bool := mask &&& c.flag ≠ 0

lemma namesCondition_iff (mask : ℕ) (c : Condition) :
    namesCondition mask c = true ↔ mask &&& c.flag ≠ 0 :=
  decide_eq_true_iff

/-- The monitored pairs over sockets with handles below `N`. -/
abbrev Monitored (N : ℕ) := Fin N → Condition → Bool

namespace Monitored

variable {N : ℕ}

/-- Nothing is monitored. -/
def none : Monitored N := fun _ _ => false

/-- The pairs of the socket for the conditions the mask names are added. -/
def add (m : Monitored N) (socket : Fin N) (mask : ℕ) : Monitored N := fun s c =>
  m s c || (s = socket && namesCondition mask c)

/-- The pairs of the socket for the conditions the mask names are removed. -/
def remove (m : Monitored N) (socket : Fin N) (mask : ℕ) : Monitored N := fun s c =>
  m s c && !(s = socket && namesCondition mask c)

variable {m : Monitored N} {socket s : Fin N} {mask : ℕ} {c : Condition}

lemma add_iff : m.add socket mask s c = true
    ↔ m s c = true ∨ s = socket ∧ namesCondition mask c = true := by
  rw [add, Bool.or_eq_true, Bool.and_eq_true, decide_eq_true_iff]

lemma remove_iff : m.remove socket mask s c = true
    ↔ m s c = true ∧ ¬(s = socket ∧ namesCondition mask c = true) := by
  rw [remove, Bool.and_eq_true, Bool.not_eq_true', Bool.eq_false_iff, ne_eq, Bool.and_eq_true,
    decide_eq_true_iff]

end Monitored

/-- The calls on a `SelectSets`. -/
inductive SelectAction (N : ℕ)
  | addSocket (socket : Fin N) (toMonitor : ℕ)
  | removeSocket (socket : Fin N) (toMonitor : ℕ)

/-- A `SelectSets` and the pairs it is meant to monitor. -/
structure SelectState (N : ℕ) where
  sets : SelectSets N
  monitored : Monitored N

namespace SelectState

variable {N : ℕ}

/-- A fresh `SelectSets`. -/
def initial (N : ℕ) : SelectState N := ⟨.construct N, .none⟩

/-- A call on both.  An `AddSocket` that returns false is no step. -/
def step (st : SelectState N) : SelectAction N → Option (SelectState N)
  | .addSocket socket toMonitor =>
    match st.sets.addSocket (socket : ℕ) toMonitor with
    | some (sets, true) => some ⟨sets, st.monitored.add socket toMonitor⟩
    | some (_, false) => .none
    | none => .none
  | .removeSocket socket toMonitor =>
    (st.sets.removeSocket (socket : ℕ) toMonitor).map fun sets =>
      ⟨sets, st.monitored.remove socket toMonitor⟩

/-- The two bit sets stand for the monitored pairs. -/
structure Agrees (st : SelectState N) : Prop where
  readSet : ∀ s, s ∈ st.sets.readSet ↔ st.monitored s .canRead = true
  writeSet : ∀ s, s ∈ st.sets.writeSet
    ↔ st.monitored s .canWrite = true ∨ st.monitored s .connectFailed = true

/-- A `RemoveSocket` that names one of the two conditions that share a bit, while the socket is
monitored for the other one, which it does not name. -/
def Splits (st : SelectState N) : SelectAction N → Prop
  | .addSocket _ _ => False
  | .removeSocket socket toMonitor =>
    (namesCondition toMonitor .canWrite = true ∧ namesCondition toMonitor .connectFailed = false
        ∧ st.monitored socket .connectFailed = true)
      ∨ (namesCondition toMonitor .connectFailed = true
        ∧ namesCondition toMonitor .canWrite = false ∧ st.monitored socket .canWrite = true)

end SelectState

/-! ## The two calls on a socket in range -/

lemma and_writeFlags_ne_zero_iff (mask : ℕ) :
    mask &&& (selectCanWrite ||| selectConnectFailed) ≠ 0
      ↔ namesCondition mask .canWrite = true ∨ namesCondition mask .connectFailed = true := by
  rw [Nat.and_or_distrib_left, ne_eq, Nat.or_eq_zero_iff, Decidable.not_and_iff_not_or_not,
    namesCondition_iff, namesCondition_iff]
  exact Iff.rfl

lemma and_canRead_ne_zero_iff (mask : ℕ) :
    mask &&& selectCanRead ≠ 0 ↔ namesCondition mask .canRead = true :=
  (namesCondition_iff mask .canRead).symm

namespace SelectSets

variable {N : ℕ}

/-- An `AddSocket` that succeeds puts the socket into the sets its mask names. -/
lemma mem_of_addSocket {sets sets' : SelectSets N} {socket : Fin N} {toMonitor : ℕ}
    (h : sets.addSocket (socket : ℕ) toMonitor = some (sets', true)) :
    (∀ s, s ∈ sets'.readSet
        ↔ s ∈ sets.readSet ∨ s = socket ∧ namesCondition toMonitor .canRead = true)
      ∧ ∀ s, s ∈ sets'.writeSet ↔ s ∈ sets.writeSet ∨ s = socket
        ∧ (namesCondition toMonitor .canWrite = true
          ∨ namesCondition toMonitor .connectFailed = true) := by
  rw [addSocket_val] at h
  split at h
  · cases (Prod.mk.inj (Option.some.inj h)).2
  · obtain ⟨rfl, -⟩ := Prod.mk.inj (Option.some.inj h)
    simp only [mem_update, and_canRead_ne_zero_iff, and_writeFlags_ne_zero_iff, implies_true,
      and_self]

/-- A `RemoveSocket` takes the socket out of the sets its mask names. -/
lemma removeSocket_val (sets : SelectSets N) (socket : Fin N) (toMonitor : ℕ) :
    ∃ sets', sets.removeSocket (socket : ℕ) toMonitor = some sets'
      ∧ (∀ s, s ∈ sets'.readSet
        ↔ s ∈ sets.readSet ∧ ¬(s = socket ∧ namesCondition toMonitor .canRead = true))
      ∧ ∀ s, s ∈ sets'.writeSet ↔ s ∈ sets.writeSet ∧ ¬(s = socket
        ∧ (namesCondition toMonitor .canWrite = true
          ∨ namesCondition toMonitor .connectFailed = true)) := by
  refine ⟨_, sets.removeSocket_eq socket toMonitor, ?_⟩
  simp only [mem_update_erase, and_canRead_ne_zero_iff, and_writeFlags_ne_zero_iff, implies_true,
    and_self]

end SelectSets

/-! ## Runs -/

namespace SelectState

variable {N : ℕ}

lemma agrees_initial (N : ℕ) : (initial N).Agrees where
  readSet s := by simp [initial, SelectSets.construct, Monitored.none]
  writeSet s := by simp [initial, SelectSets.construct, Monitored.none]

/-- A call that does not split a pair keeps the agreement. -/
lemma Agrees.step {st st' : SelectState N} {a : SelectAction N} (hst : st.Agrees)
    (hsplits : ¬st.Splits a) (h : st.step a = some st') : st'.Agrees := by
  cases a with
  | addSocket socket toMonitor =>
    rw [SelectState.step] at h
    split at h
    · rename_i sets hadd
      obtain rfl := Option.some.inj h
      obtain ⟨hread, hwrite⟩ := SelectSets.mem_of_addSocket hadd
      constructor
      · intro s
        rw [hread, hst.readSet, Monitored.add_iff]
      · intro s
        rw [hwrite, hst.writeSet, Monitored.add_iff, Monitored.add_iff, and_or_left,
          or_or_or_comm]
    · exact Option.absurd_none h
    · exact Option.absurd_none h
  | removeSocket socket toMonitor =>
    obtain ⟨sets, hremove, hread, hwrite⟩ := st.sets.removeSocket_val socket toMonitor
    rw [SelectState.step, hremove] at h
    obtain rfl := Option.some.inj h
    constructor
    · intro s
      rw [hread, hst.readSet, Monitored.remove_iff]
    · intro s
      rw [hwrite, hst.writeSet, Monitored.remove_iff, Monitored.remove_iff]
      by_cases hs : s = socket
      · -- the mask names both conditions, or the socket is monitored for none it leaves out
        subst hs
        simp only [Splits, not_or, not_and, Bool.not_eq_true] at hsplits
        cases hwrite' : namesCondition toMonitor .canWrite <;>
          cases hfailed : namesCondition toMonitor .connectFailed <;>
          simp_all
      · simp [hs]

/-- A `RemoveSocket` that splits a pair breaks the agreement. -/
lemma not_agrees_of_splits {st : SelectState N} {a : SelectAction N} (hsplits : st.Splits a) :
    ∃ st', st.step a = some st' ∧ ¬st'.Agrees := by
  cases a with
  | addSocket => exact hsplits.elim
  | removeSocket socket toMonitor =>
    obtain ⟨sets, hremove, -, hwrite⟩ := st.sets.removeSocket_val socket toMonitor
    refine ⟨⟨sets, st.monitored.remove socket toMonitor⟩, ?_, fun hagrees => ?_⟩
    · rw [SelectState.step, hremove, Option.map_some]
    · -- the socket has left the set, and the condition that was not named is still monitored
      rcases hsplits with ⟨hnamed, hleft, hmonitored⟩ | ⟨hnamed, hleft, hmonitored⟩
      · have hkept : (st.monitored.remove socket toMonitor) socket .connectFailed = true :=
          Monitored.remove_iff.mpr ⟨hmonitored, fun h => by simp [hleft] at h⟩
        exact ((hwrite socket).mp ((hagrees.writeSet socket).mpr (Or.inr hkept))).2
          ⟨rfl, Or.inl hnamed⟩
      · have hkept : (st.monitored.remove socket toMonitor) socket .canWrite = true :=
          Monitored.remove_iff.mpr ⟨hmonitored, fun h => by simp [hleft] at h⟩
        exact ((hwrite socket).mp ((hagrees.writeSet socket).mpr (Or.inl hkept))).2
          ⟨rfl, Or.inr hnamed⟩

/-- **The bit sets stand for the monitored pairs throughout a run** exactly when no
`RemoveSocket` of the run splits a pair. -/
theorem agrees_throughout_iff (actions : List (SelectAction N)) :
    Runs.Throughout step Agrees (initial N) actions
      ↔ Runs.Meets step (fun st a => ¬st.Splits a) (initial N) actions :=
  Runs.throughout_iff_meets (fun _ _ _ hst hsplits h => hst.step hsplits h)
    (fun _ _ _ hsplits => not_agrees_of_splits (not_not.mp hsplits)) (agrees_initial N)

/-- Two conditions are added and one of them is removed: the other is monitored, and the socket is
in no set. -/
theorem not_agrees_add_remove :
    ∃ st, Runs.run step (initial 4)
        [.addSocket 3 (selectCanWrite ||| selectConnectFailed),
          .removeSocket 3 selectConnectFailed] = some st
      ∧ st.monitored 3 .canWrite = true ∧ 3 ∉ st.sets.writeSet ∧ ¬st.Agrees := by
  refine ⟨_, rfl, rfl, ?_, fun h => ?_⟩
  · decide
  · exact absurd ((h.writeSet 3).mpr (Or.inl rfl)) (by decide)

end SelectState

end SMBB
