import SMBB.Construction.SelectSetsWindows

/-!
# Full sets, Windows build

`AddSocket` says in its comment that the sets cannot be updated when it returns false.  It asks for
room in one set after the other and inserts in between, and it asks for room also when the socket
is a member already.  `allOrNothing_iff` says when this cannot be noticed.
-/

namespace SMBB
namespace Windows
namespace SelectSets

variable {δ : Type} {N : ℕ} [DecidableEq δ]

/-- The three sets in the order in which `AddSocket` comes to them, and whether the mask selects
them. -/
def family (sets : SelectSets δ N) (toMonitor : ℕ) : List (Bool × FdSet δ N) :=
  [(toMonitor &&& selectCanRead ≠ 0, sets.readSet),
    (toMonitor &&& selectCanWrite ≠ 0, sets.writeSet),
    (toMonitor &&& selectConnectFailed ≠ 0, sets.exceptSet)]

/-- The sets that the mask selects. -/
def selected (sets : SelectSets δ N) (toMonitor : ℕ) : List (FdSet δ N) :=
  BoundedSet.selected (sets.family toMonitor)

/-- The sets that the mask selects, up to the first one that is full. -/
def reached (sets : SelectSets δ N) (toMonitor : ℕ) : List (FdSet δ N) :=
  BoundedSet.reached (sets.family toMonitor)

omit [DecidableEq δ] in
lemma family_inj {sets sets' : SelectSets δ N} {toMonitor : ℕ} :
    sets.family toMonitor = sets'.family toMonitor ↔ sets = sets' := by
  refine ⟨fun h => ?_, congrArg fun s => family s toMonitor⟩
  cases sets
  cases sets'
  simp_all [family]

/-- `AddSocket` inserts the socket into the sets of the family one after the other. -/
lemma addSocket_family (sets : SelectSets δ N) (socket : δ) {toMonitor : ℕ}
    (hmask : toMonitor &&& selectCheckAll ≠ 0) :
    ((sets.addSocket socket toMonitor).1.family toMonitor,
        (sets.addSocket socket toMonitor).2)
      = BoundedSet.insertEach socket (sets.family toMonitor) := by
  rw [addSocket, if_neg hmask]
  cases hread : addTo sets.readSet socket toMonitor selectCanRead with
  | none => rw [family, BoundedSet.insertEach_cons_none hread]
  | some readSet =>
    cases hwrite : addTo sets.writeSet socket toMonitor selectCanWrite with
    | none =>
      rw [family.eq_def sets, BoundedSet.insertEach_cons_some hread,
        BoundedSet.insertEach_cons_none hwrite]
      simp only [hwrite, family]
    | some writeSet =>
      cases hfailed : addTo sets.exceptSet socket toMonitor selectConnectFailed with
      | none =>
        rw [family.eq_def sets, BoundedSet.insertEach_cons_some hread,
          BoundedSet.insertEach_cons_some hwrite, BoundedSet.insertEach_cons_none hfailed]
        simp only [hwrite, hfailed, family]
      | some exceptSet =>
        rw [family.eq_def sets, BoundedSet.insertEach_cons_some hread,
          BoundedSet.insertEach_cons_some hwrite, BoundedSet.insertEach_cons_some hfailed]
        simp only [hwrite, hfailed, family, BoundedSet.insertEach]

omit [DecidableEq δ] in
/-- A mask that is refused selects no set. -/
lemma selected_eq_nil {sets : SelectSets δ N} {toMonitor : ℕ}
    (hmask : toMonitor &&& selectCheckAll = 0) : sets.selected toMonitor = [] := by
  rw [selectCheckAll, Nat.and_or_distrib_left, Nat.and_or_distrib_left, Nat.or_eq_zero_iff,
    Nat.or_eq_zero_iff] at hmask
  obtain ⟨⟨hread, hwrite⟩, hfailed⟩ := hmask
  simp [selected, BoundedSet.selected, family, hread, hwrite, hfailed]

/-- An `AddSocket` that returns false has changed nothing, and it does not return false for a
socket that is in every set the mask selects. -/
structure AllOrNothing (sets : SelectSets δ N) (socket : δ) (toMonitor : ℕ) : Prop where
  unchanged : (sets.addSocket socket toMonitor).2 = false →
    (sets.addSocket socket toMonitor).1 = sets
  readds : (∀ s ∈ sets.selected toMonitor, socket ∈ s) →
    (sets.addSocket socket toMonitor).2 = true

/-- **`AddSocket` is all or nothing, and adds a monitored socket again,** exactly when the mask
selects a set and no selected set is full, or the selected sets before the first full one have the
socket already and another selected one has not.  A mask that selects no set is always refused. -/
theorem allOrNothing_iff (sets : SelectSets δ N) (socket : δ) (toMonitor : ℕ) :
    sets.AllOrNothing socket toMonitor
      ↔ toMonitor &&& selectCheckAll ≠ 0
        ∧ ((∀ s ∈ sets.selected toMonitor, s.full = false)
          ∨ ((∀ s ∈ sets.reached toMonitor, socket ∈ s)
            ∧ ∃ s ∈ sets.selected toMonitor, socket ∉ s)) := by
  by_cases hmask : toMonitor &&& selectCheckAll = 0
  · refine iff_of_false (fun h => ?_) fun h => h.1 hmask
    have hadd : (sets.addSocket socket toMonitor).2 = false := by
      rw [addSocket, if_pos hmask]
    have hnone : ∀ s ∈ sets.selected toMonitor, socket ∈ s := by
      rw [selected_eq_nil hmask]
      exact fun s hs => absurd hs List.not_mem_nil
    exact Bool.false_ne_true (hadd.symm.trans (h.readds hnone))
  · have hfamily := sets.addSocket_family socket hmask
    rw [and_iff_right hmask, selected, reached,
      ← BoundedSet.insertEach_allOrNothing_iff (a := socket), ← hfamily, family_inj, ← selected]
    exact ⟨fun h => ⟨h.unchanged, h.readds⟩, fun h => ⟨h.1, h.2⟩⟩

/-- Two sockets fill the write set: a third one is refused and left in the read set, and the first
one is refused although it is there. -/
theorem not_allOrNothing_full :
    ∃ sets : SelectSets ℕ 2,
      sets = ((((construct ℕ 2).addSocket 100 selectCanWrite).1.addSocket 104 selectCanWrite).1)
      ∧ ¬sets.AllOrNothing 108 (selectCanRead ||| selectCanWrite)
      ∧ ¬sets.AllOrNothing 100 selectCanWrite := by
  refine ⟨_, rfl, fun h => ?_, fun h => ?_⟩
  · have hread := congrArg (fun sets => sets.readSet.elems.length) (h.unchanged (by decide))
    exact absurd hread (by decide)
  · exact absurd (h.readds (by decide)) (by decide)

end SelectSets

end Windows
end SMBB
