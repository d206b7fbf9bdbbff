import SMBB.Construction.SelectSets
import SMBB.Framework.Runs

/-!
# What `select` is asked to watch

`Wait` does not look at the two bit sets: the first argument of `select` comes from `_max`, and
whether a set is passed at all from `_checks`.  Both only grow, while the sets grow, shrink and
are overwritten by `select`.  `Covered` is the relation between the four that every call keeps,
and `watched_throughout` what it says about `select`: in every state of every run, the call that
`Wait` would make there covers all descriptors of both sets.
-/

namespace SMBB

/-- The calls on a `SelectSets`, with what `select` answers to a `Wait`. -/
inductive SelectOperation (N : ℕ)
  | addSocket (socket : Fin N) (toMonitor : ℕ)
  | removeSocket (socket : Fin N) (toMonitor : ℕ)
  | wait (timeoutUs : ℕ) (answer : SelectAnswer N)

/-- `select` only takes descriptors out of the sets it is passed. -/
def SelectAnswer.Reports {N : ℕ} (answer : SelectAnswer N) (call : SelectCall N) : Prop :=
  (∀ fds ∈ call.readfds, answer.readfds ⊆ fds) ∧ ∀ fds ∈ call.writefds, answer.writefds ⊆ fds

instance {N : ℕ} (answer : SelectAnswer N) (call : SelectCall N) :
    Decidable (answer.Reports call) :=
  inferInstanceAs (Decidable (_ ∧ _))

/-- Every descriptor of the sets is one that the call makes `select` look at. -/
structure SelectCall.Watches {N : ℕ} (call : SelectCall N) (sets : SelectSets N) : Prop where
  lt_nfds : ∀ s : Fin N, s ∈ sets.readSet ∨ s ∈ sets.writeSet → ((s : ℕ) : ℤ) < call.nfds
  nfds_le : call.nfds ≤ N
  readfds : sets.readSet.Nonempty → call.readfds = some sets.readSet
  writefds : sets.writeSet.Nonempty → call.writefds = some sets.writeSet

namespace SelectSets

variable {N : ℕ}

/-- A call.  `select` does not answer otherwise than by taking descriptors out. -/
def step (sets : SelectSets N) : SelectOperation N → Option (SelectSets N)
  | .addSocket socket toMonitor => (sets.addSocket (socket : ℕ) toMonitor).map Prod.fst
  | .removeSocket socket toMonitor => sets.removeSocket (socket : ℕ) toMonitor
  | .wait timeoutUs answer =>
    if answer.Reports (sets.selectCall timeoutUs) then
      some (sets.wait timeoutUs fun _ => answer).1
    else none

/-- `_max` bounds the descriptors of both sets, and `_checks` names each set that has any. -/
structure Covered (sets : SelectSets N) : Prop where
  max_nonneg : 0 ≤ sets.max
  max_lt : sets.max < N
  le_max : ∀ s : Fin N, s ∈ sets.readSet ∨ s ∈ sets.writeSet → ((s : ℕ) : ℤ) ≤ sets.max
  readSet : sets.readSet.Nonempty → sets.checks &&& selectCanRead ≠ 0
  writeSet : sets.writeSet.Nonempty
    → sets.checks &&& (selectCanWrite ||| selectConnectFailed) ≠ 0

/-! ## The masks -/

/-- The checks that an `AddSocket` has recorded are the old ones and those of its mask. -/
lemma and_checks_ne_zero_iff (checks toMonitor : ℕ) {flags : ℕ}
    (hflags : selectCheckAll &&& flags = flags) :
    (checks ||| (toMonitor &&& selectCheckAll)) &&& flags ≠ 0
      ↔ checks &&& flags ≠ 0 ∨ toMonitor &&& flags ≠ 0 := by
  rw [Nat.and_or_distrib_right, Nat.and_assoc, hflags, ne_eq, Nat.or_eq_zero_iff,
    Decidable.not_and_iff_not_or_not]

/-! ## The calls -/

lemma covered_construct (hN : 0 < N) : (construct N).Covered where
  max_nonneg := le_rfl
  max_lt := Int.natCast_pos.mpr hN
  le_max s hs := by simp [construct] at hs
  readSet h := absurd h Finset.not_nonempty_empty
  writeSet h := absurd h Finset.not_nonempty_empty

/-- `AddSocket` raises `_max` to the handle, and adds its mask to `_checks`. -/
lemma Covered.addSocket {sets sets' : SelectSets N} (hsets : sets.Covered) {socket : Fin N}
    {toMonitor : ℕ} {added : Bool}
    (h : sets.addSocket (socket : ℕ) toMonitor = some (sets', added)) : sets'.Covered := by
  rw [addSocket_val] at h
  split at h
  · obtain ⟨rfl, -⟩ := Prod.mk.inj (Option.some.inj h)
    exact hsets
  · obtain ⟨rfl, -⟩ := Prod.mk.inj (Option.some.inj h)
    have hsocket : ((socket : ℕ) : ℤ) < N := Int.ofNat_lt.mpr socket.isLt
    have hnonneg := hsets.max_nonneg
    have hlt := hsets.max_lt
    constructor
    · dsimp only
      split <;> omega
    · dsimp only
      split <;> omega
    · intro s hs
      rw [mem_update, mem_update, or_or_or_comm] at hs
      dsimp only
      rcases hs with hs | hs
      · have := hsets.le_max s hs
        split <;> omega
      · obtain rfl : s = socket := hs.elim And.left And.left
        split <;> omega
    · rintro ⟨s, hs⟩
      rw [and_checks_ne_zero_iff _ _ rfl]
      exact ((mem_update _ _ _).mp hs).imp (fun hs => hsets.readSet ⟨s, hs⟩) And.right
    · rintro ⟨s, hs⟩
      rw [and_checks_ne_zero_iff _ _ rfl]
      exact ((mem_update _ _ _).mp hs).imp (fun hs => hsets.writeSet ⟨s, hs⟩) And.right

/-- A call that takes descriptors out of the two sets, and leaves the summaries. -/
lemma Covered.shrink {sets : SelectSets N} (hsets : sets.Covered) {readSet writeSet}
    (hread : readSet ⊆ sets.readSet) (hwrite : writeSet ⊆ sets.writeSet) :
    Covered { sets with readSet, writeSet } where
  max_nonneg := hsets.max_nonneg
  max_lt := hsets.max_lt
  le_max s hs := hsets.le_max s (hs.imp (fun h => hread h) (fun h => hwrite h))
  readSet h := hsets.readSet (h.mono hread)
  writeSet h := hsets.writeSet (h.mono hwrite)

lemma ite_erase_subset (p : Prop) [Decidable p] (socket : Fin N) (set : Finset (Fin N)) :
    (if p then set.erase socket else set) ⊆ set :=
  fun _ hs => ((mem_update_erase _ _ _).mp hs).1

lemma ite_passed_subset {p : Prop} [Decidable p] {left set : Finset (Fin N)}
    (hleft : ∀ fds ∈ (if p then some set else none), left ⊆ fds) :
    (if (if p then some set else none).isSome then left else set) ⊆ set := by
  by_cases hp : p
  · simpa [hp] using hleft
  · simp [hp]

/-- Every call keeps the sets covered. -/
lemma Covered.step {sets sets' : SelectSets N} {op : SelectOperation N} (hsets : sets.Covered)
    (h : sets.step op = some sets') : sets'.Covered := by
  cases op with
  | addSocket socket toMonitor =>
    obtain ⟨⟨_, added⟩, hadd, rfl⟩ := Option.map_eq_some_iff.mp h
    exact hsets.addSocket hadd
  | removeSocket socket toMonitor =>
    rw [SelectSets.step, removeSocket_eq] at h
    obtain rfl := Option.some.inj h
    exact hsets.shrink (ite_erase_subset _ _ _) (ite_erase_subset _ _ _)
  | wait timeoutUs answer =>
    rw [SelectSets.step, Option.ite_none_right_eq_some] at h
    obtain ⟨hreports, rfl⟩ := h.imp_right Option.some.inj
    exact hsets.shrink (ite_passed_subset hreports.1) (ite_passed_subset hreports.2)

/-- Where the sets are covered, the call of `Wait` watches all of them. -/
lemma Covered.watches {sets : SelectSets N} (hsets : sets.Covered) (timeoutUs : ℕ) :
    (sets.selectCall timeoutUs).Watches sets where
  lt_nfds s hs := Int.lt_add_one_of_le (hsets.le_max s hs)
  nfds_le := hsets.max_lt
  readfds h := if_pos (hsets.readSet h)
  writefds h := if_pos (hsets.writeSet h)

/-- A socket that `AddSocket` accepts is in the sets that its mask names, and in one at least. -/
lemma mem_of_accepted {sets sets' : SelectSets N} {socket : Fin N} {toMonitor : ℕ}
    (h : sets.addSocket (socket : ℕ) toMonitor = some (sets', true)) :
    (toMonitor &&& selectCanRead ≠ 0 → socket ∈ sets'.readSet)
      ∧ (toMonitor &&& (selectCanWrite ||| selectConnectFailed) ≠ 0 → socket ∈ sets'.writeSet)
      ∧ (socket ∈ sets'.readSet ∨ socket ∈ sets'.writeSet) := by
  rw [addSocket_val] at h
  split at h
  · exact absurd (Prod.mk.inj (Option.some.inj h)).2 Bool.false_ne_true
  · rename_i hmask
    obtain ⟨rfl, -⟩ := Prod.mk.inj (Option.some.inj h)
    have hread : toMonitor &&& selectCanRead ≠ 0 → socket ∈ if toMonitor &&& selectCanRead ≠ 0
        then insert socket sets.readSet else sets.readSet :=
      fun hnamed => (mem_update _ _ _).mpr (Or.inr ⟨rfl, hnamed⟩)
    have hwrite : toMonitor &&& (selectCanWrite ||| selectConnectFailed) ≠ 0 →
        socket ∈ if toMonitor &&& (selectCanWrite ||| selectConnectFailed) ≠ 0
          then insert socket sets.writeSet else sets.writeSet :=
      fun hnamed => (mem_update _ _ _).mpr (Or.inr ⟨rfl, hnamed⟩)
    refine ⟨hread, hwrite, ?_⟩
    rw [selectCheckAll, Nat.or_assoc, Nat.and_or_distrib_left, Nat.or_eq_zero_iff,
      Decidable.not_and_iff_not_or_not] at hmask
    exact hmask.imp hread hwrite

/-- What holds of a `SelectSets` at any time: `Wait` asks `select` for one call only, which watches
both sets, and a socket that `AddSocket` accepts comes into them. -/
structure Watched (sets : SelectSets N) : Prop where
  asks : ∀ timeoutUs (select select' : SelectCall N → SelectAnswer N),
    select (sets.selectCall timeoutUs) = select' (sets.selectCall timeoutUs) →
      sets.wait timeoutUs select = sets.wait timeoutUs select'
  watches : ∀ timeoutUs, (sets.selectCall timeoutUs).Watches sets
  accepts : ∀ (socket : Fin N) (toMonitor : ℕ) (sets' : SelectSets N),
    sets.addSocket (socket : ℕ) toMonitor = some (sets', true) →
      (toMonitor &&& selectCanRead ≠ 0 → socket ∈ sets'.readSet)
        ∧ (toMonitor &&& (selectCanWrite ||| selectConnectFailed) ≠ 0 → socket ∈ sets'.writeSet)
        ∧ (socket ∈ sets'.readSet ∨ socket ∈ sets'.writeSet)

lemma Covered.watched {sets : SelectSets N} (hsets : sets.Covered) : sets.Watched where
  asks timeoutUs select select' h := by rw [wait, wait, h]
  watches := hsets.watches
  accepts _ _ _ h := mem_of_accepted h

/-- **No descriptor of the sets is ignored by `select`**, in whichever state of whichever run
`Wait` is called. -/
theorem watched_throughout (hN : 0 < N) (ops : List (SelectOperation N)) :
    Runs.Throughout step Watched (construct N) ops :=
  (Runs.throughout (fun _ _ _ hsets h => hsets.step h) ops (covered_construct hN)).mono
    fun _ hsets => hsets.watched

/-- Descriptor 3 is reported and removed again, and descriptor 5 is added twice. -/
theorem watched_after_wait :
    Runs.Throughout step Watched (construct 8)
      [.addSocket 3 selectCanRead, .addSocket 5 selectConnectFailed, .wait 250 ⟨1, {3}, ∅⟩,
        .addSocket 5 selectCanWrite, .removeSocket 3 selectCheckAll, .wait 250 ⟨0, ∅, ∅⟩] :=
  watched_throughout (by decide) _

end SelectSets

end SMBB
