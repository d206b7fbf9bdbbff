import SMBB.Construction.SelectSetsWindows
import SMBB.Properties.Watching
import SMBB.Framework.Flags

/-!
# The Windows build watches

Three arrays of sockets show a `Watch`, one for each condition.  Every call answers as the `Watch`
does and keeps the relation (`Shows`), so that no program can tell the two apart
(`answers_watch`): also a refused `AddSocket`, whatever it has left behind, and a `Wait` for
nothing, which does not come to `select`.
-/

namespace SMBB
namespace Windows

open Flags

/-- The flags of the build. -/
def flag : Condition → SMBB.SelectValue
  | .canRead => .canRead
  | .canWrite => .canWrite
  | .connectFailed => SelectValue.connectFailed

/-- There is no room in an `fd_set` for more sockets. -/
def capacity {δ : Type} (N : ℕ) (set : Finset δ) : Bool := N ≤ set.card

/-- How `select` answers: it leaves the sockets that are ready in the sets it is passed, and
returns how many these are.  It fails if it is passed no set, and a call that fails leaves the sets
as they were: that much is assumed of it. -/
def SelectCall.answer {δ : Type} {N : ℕ} (ready : Condition → δ → Bool) (failed : Bool)
    (call : SelectCall δ N) : SelectAnswer δ N :=
  let readfds := call.readfds.getD .empty
  let writefds := call.writefds.getD .empty
  let exceptfds := call.exceptfds.getD .empty
  if failed = true
      ∨ (call.readfds.isNone && call.writefds.isNone && call.exceptfds.isNone) = true then
    ⟨-1, readfds, writefds, exceptfds⟩
  else
    let readfds := readfds.filter (ready .canRead)
    let writefds := writefds.filter (ready .canWrite)
    let exceptfds := exceptfds.filter (ready .connectFailed)
    ⟨(readfds.elems.length + writefds.elems.length + exceptfds.elems.length : ℕ),
      readfds, writefds, exceptfds⟩

namespace SelectSets

variable {δ : Type} {N : ℕ} [DecidableEq δ]

/-- The calls of a program. -/
def respond (sets : SelectSets δ N) : WatchInput δ → Option (SelectSets δ N × WatchAnswer)
  | .addSocket socket mask =>
    let added := sets.addSocket socket mask.toNat
    some (added.1, .added added.2)
  | .removeSocket socket mask => some (sets.removeSocket socket mask.toNat, .removed)
  | .wait timeoutUs ready failed =>
    let waited := sets.wait timeoutUs (SelectCall.answer ready failed)
    some (waited.1, .waited waited.2)
  | .testSocket socket mask => some (sets, .tested (sets.testSocket socket mask))

/-- The set of a condition. -/
def of (sets : SelectSets δ N) : Condition → FdSet δ N
  | .canRead => sets.readSet
  | .canWrite => sets.writeSet
  | .connectFailed => sets.exceptSet

/-- The sets with another one for a condition. -/
def withSet (sets : SelectSets δ N) (set : FdSet δ N) : Condition → SelectSets δ N
  | .canRead => { sets with readSet := set }
  | .canWrite => { sets with writeSet := set }
  | .connectFailed => { sets with exceptSet := set }

/-- Each array has the sockets that are watched for its condition. -/
def Shows (sets : SelectSets δ N) (w : Watch δ) : Prop := ∀ c, (sets.of c).elems.toFinset = w c

variable {sets : SelectSets δ N} {w : Watch δ} {socket : δ} {mask : SMBB.SelectValue}

lemma shows_construct : (construct δ N).Shows Watch.nothing := by
  rintro (_ | _ | _) <;> rfl

lemma Shows.length_eq (h : sets.Shows w) (c : Condition) :
    (sets.of c).elems.length = (w c).card := by
  rw [← h c, List.toFinset_card_of_nodup (sets.of c).nodup]

lemma Shows.mem_iff (h : sets.Shows w) (socket : δ) (c : Condition) :
    socket ∈ sets.of c ↔ socket ∈ w c := by
  rw [← h c, List.mem_toFinset]
  rfl

lemma Shows.withSet (h : sets.Shows w) {c : Condition} {set : FdSet δ N} {watched : Finset δ}
    (hset : set.elems.toFinset = watched) :
    (sets.withSet set c).Shows (Function.update w c watched) := by
  intro c'
  have hof : ((sets.withSet set c).of c').elems.toFinset
      = Function.update (fun c => (sets.of c).elems.toFinset) c set.elems.toFinset c' := by
    cases c <;> cases c' <;> rfl
  rw [hof, hset, funext h]

/-! ## `AddSocket` and `RemoveSocket` -/

lemma and_ne_zero_iff {k : ℕ} (hk : k < 4294967296) :
    mask.toNat &&& k ≠ 0 ↔ mask &&& BitVec.ofNat 32 k ≠ 0 := by
  rw [ne_eq, ne_eq, ← BitVec.toNat_inj, BitVec.toNat_and, BitVec.toNat_ofNat, Nat.mod_eq_of_lt hk]
  rfl

/-- The flag of a condition, as a number. -/
def flagNat : Condition → ℕ
  | .canRead => selectCanRead
  | .canWrite => selectCanWrite
  | .connectFailed => selectConnectFailed

lemma and_flagNat_ne_zero_iff (c : Condition) :
    mask.toNat &&& flagNat c ≠ 0 ↔ Watch.names flag mask c = true := by
  rw [Watch.names, decide_eq_true_iff]
  cases c <;> exact and_ne_zero_iff (by decide)

/-- The socket is added to the set of a condition, if the mask names it, before the rest of the
call; there is no rest if the set is full. -/
def addStage (socket : δ) (toMonitor : ℕ) (c : Condition)
    (rest : SelectSets δ N → SelectSets δ N × Bool) (sets : SelectSets δ N) :
    SelectSets δ N × Bool :=
  match addTo (sets.of c) socket toMonitor (flagNat c) with
  | none => (sets, false)
  | some set => rest (sets.withSet set c)

lemma addSocket_eq_stages (sets : SelectSets δ N) (socket : δ) (toMonitor : ℕ) :
    sets.addSocket socket toMonitor
      = if toMonitor &&& selectCheckAll = 0 then (sets, false)
        else addStage socket toMonitor .canRead
          (addStage socket toMonitor .canWrite
            (addStage socket toMonitor .connectFailed fun sets => (sets, true))) sets := rfl

omit [DecidableEq δ] in
lemma withSet_of (sets : SelectSets δ N) (c : Condition) : sets.withSet (sets.of c) c = sets := by
  cases c <;> rfl

lemma toFinset_insert {set : FdSet δ N} (hroom : set.full = false) :
    (set.insert socket).elems.toFinset = insert socket set.elems.toFinset := by
  have hlt : set.elems.length < N := Nat.lt_of_not_le (of_decide_eq_false hroom)
  rw [BoundedSet.insert]
  split
  · rw [List.toFinset_append, List.toFinset_cons, List.toFinset_nil, insert_empty_eq,
      Finset.union_comm]
    rfl
  · rename_i hold
    have hmem : socket ∈ set.elems := by
      by_contra hnew
      exact hold ⟨hnew, hlt⟩
    rw [Finset.insert_eq_self.mpr (List.mem_toFinset.mpr hmem)]

lemma Shows.full_eq (h : sets.Shows w) (c : Condition) : (sets.of c).full = capacity N (w c) := by
  rw [BoundedSet.full, h.length_eq]
  rfl

/-- One stage of the call does as one step of `addEach`. -/
lemma Shows.addStage (h : sets.Shows w) {c : Condition} {cs : List Condition}
    {rest : SelectSets δ N → SelectSets δ N × Bool}
    (hrest : ∀ {sets w}, sets.Shows w →
      (rest sets).1.Shows (w.addEach flag (capacity N) socket mask cs).1
        ∧ (rest sets).2 = (w.addEach flag (capacity N) socket mask cs).2) :
    (SelectSets.addStage socket mask.toNat c rest sets).1.Shows
        (w.addEach flag (capacity N) socket mask (c :: cs)).1
      ∧ (SelectSets.addStage socket mask.toNat c rest sets).2
        = (w.addEach flag (capacity N) socket mask (c :: cs)).2 := by
  rw [Watch.addEach]
  by_cases hnamed : Watch.names flag mask c = true
  · have hselected : decide (mask.toNat &&& flagNat c ≠ 0) = true :=
      decide_eq_true ((and_flagNat_ne_zero_iff c).mpr hnamed)
    rw [if_pos hnamed, SelectSets.addStage, addTo, hselected]
    by_cases hfull : (sets.of c).full = true
    · rw [BoundedSet.insertIf_full hfull, ← h.full_eq, if_pos hfull]
      exact ⟨h, rfl⟩
    · rw [Bool.not_eq_true] at hfull
      rw [BoundedSet.insertIf_room hfull, ← h.full_eq, hfull, if_neg Bool.false_ne_true]
      exact hrest (h.withSet ((toFinset_insert hfull).trans (by rw [h c])))
  · have hselected : decide (mask.toNat &&& flagNat c ≠ 0) = false :=
      decide_eq_false (mt (and_flagNat_ne_zero_iff c).mp hnamed)
    rw [if_neg hnamed, SelectSets.addStage, addTo, hselected, BoundedSet.insertIf_false]
    dsimp only
    rw [withSet_of]
    exact hrest h

lemma and_checkAll_eq_zero_iff :
    mask.toNat &&& selectCheckAll = 0
      ↔ ¬(Watch.conditions.any fun c => Watch.names flag mask c) = true := by
  have hnat : mask.toNat &&& selectCheckAll = 0 ↔ ∀ c, mask.toNat &&& flagNat c = 0 := by
    rw [selectCheckAll, Nat.and_or_distrib_left, Nat.and_or_distrib_left, Nat.or_eq_zero_iff,
      Nat.or_eq_zero_iff]
    refine ⟨?_, fun h => ⟨⟨h .canRead, h .canWrite⟩, h .connectFailed⟩⟩
    rintro ⟨⟨hread, hwrite⟩, hfailed⟩ (_ | _ | _)
    exacts [hread, hwrite, hfailed]
  rw [hnat, List.any_eq_true, not_exists]
  refine forall_congr' fun c => ?_
  have hc : c ∈ Watch.conditions := by cases c <;> decide
  rw [← and_flagNat_ne_zero_iff, and_iff_right hc, not_not]

lemma Shows.addSocket (h : sets.Shows w) (socket : δ) (mask : SMBB.SelectValue) :
    (sets.addSocket socket mask.toNat).1.Shows (w.add flag (capacity N) socket mask).1
      ∧ (sets.addSocket socket mask.toNat).2 = (w.add flag (capacity N) socket mask).2 := by
  rw [addSocket_eq_stages, Watch.add]
  by_cases hmask : mask.toNat &&& selectCheckAll = 0
  · rw [if_pos hmask, if_neg (and_checkAll_eq_zero_iff.mp hmask)]
    exact ⟨h, rfl⟩
  · rw [if_neg hmask, if_pos (not_not.mp (mt and_checkAll_eq_zero_iff.mpr hmask))]
    exact h.addStage fun h => h.addStage fun h => h.addStage fun h => ⟨h, rfl⟩

lemma Shows.removeSocket (h : sets.Shows w) (socket : δ) (mask : SMBB.SelectValue) :
    (sets.removeSocket socket mask.toNat).Shows (w.remove flag socket mask) := by
  intro c
  have hof : (sets.removeSocket socket mask.toNat).of c
      = if mask.toNat &&& flagNat c ≠ 0 then (sets.of c).erase socket else sets.of c := by
    by_cases hread : mask.toNat &&& selectCanRead = 0 <;>
      by_cases hwrite : mask.toNat &&& selectCanWrite = 0 <;>
      by_cases hfailed : mask.toNat &&& selectConnectFailed = 0 <;> cases c <;>
      simp only [SelectSets.removeSocket, of, flagNat, hread, hwrite, hfailed, ne_eq,
        not_true_eq_false, not_false_eq_true, if_true, if_false]
  rw [hof, Watch.remove, ← h c]
  by_cases hnamed : Watch.names flag mask c = true
  · rw [if_pos ((and_flagNat_ne_zero_iff c).mpr hnamed), if_pos hnamed]
    ext s
    rw [List.mem_toFinset, Finset.mem_erase, List.mem_toFinset]
    exact (sets.of c).nodup.mem_erase_iff
  · rw [if_neg (mt (and_flagNat_ne_zero_iff c).mp hnamed), if_neg hnamed]

/-! ## `Wait` -/

omit [DecidableEq δ] in
lemma passed_getD (set : FdSet δ N) : (passed set).getD .empty = set := by
  rw [passed]
  split
  · rfl
  · rename_i hlength
    exact BoundedSet.ext (List.length_eq_zero_iff.mp (not_not.mp hlength)).symm

omit [DecidableEq δ] in
lemma isNone_passed (set : FdSet δ N) : (passed set).isNone = true ↔ set.elems.length = 0 := by
  rw [passed]
  split
  · rename_i hlength
    exact iff_of_false Bool.false_ne_true hlength
  · rename_i hlength
    exact iff_of_true rfl (not_not.mp hlength)

omit [DecidableEq δ] in
/-- A set that `select` was not passed has no sockets that could be taken out. -/
lemma elems_of_passed (set : FdSet δ N) (p : δ → Bool) :
    (if (passed set).isSome then set.filter p else set).elems = set.elems.filter p := by
  split
  · rfl
  · rename_i hnone
    have hempty : set.elems = [] := by
      rw [passed] at hnone
      split at hnone
      · exact absurd rfl hnone
      · exact List.length_eq_zero_iff.mp (not_not.mp ‹_›)
    rw [hempty, List.filter_nil]

lemma Shows.wait (h : sets.Shows w) (timeoutUs : ℕ) (ready : Condition → δ → Bool)
    (failed : Bool) :
    (sets.wait timeoutUs (SelectCall.answer ready failed)).1.Shows
        (if failed = true ∧ w.size ≠ 0 then w else w.keep ready)
      ∧ (sets.wait timeoutUs (SelectCall.answer ready failed)).2
        = if failed = true ∧ w.size ≠ 0 then -1 else ((w.keep ready).size : ℤ) := by
  have hkeep : ∀ sets' : SelectSets δ N,
      (∀ c, (sets'.of c).elems = (sets.of c).elems.filter (ready c)) →
        sets'.Shows (w.keep ready)
          ∧ (sets'.readSet.elems.length + sets'.writeSet.elems.length
            + sets'.exceptSet.elems.length : ℕ) = (w.keep ready).size := by
    intro sets' hsets'
    have hshows : sets'.Shows (w.keep ready) := by
      intro c
      rw [hsets' c, List.toFinset_filter, h c]
      rfl
    refine ⟨hshows, ?_⟩
    rw [Watch.size, ← hshows.length_eq .canRead, ← hshows.length_eq .canWrite,
      ← hshows.length_eq .connectFailed]
    rfl
  have hsize : w.size = sets.readSet.elems.length + sets.writeSet.elems.length
      + sets.exceptSet.elems.length := by
    rw [Watch.size, ← h.length_eq .canRead, ← h.length_eq .canWrite, ← h.length_eq .connectFailed]
    rfl
  by_cases hnothing : w.size = 0
  · -- nothing is watched, and `select` is not called
    have hempty : sets.readSet.elems.length = 0 ∧ sets.writeSet.elems.length = 0
        ∧ sets.exceptSet.elems.length = 0 := by omega
    have hwait : sets.wait timeoutUs (SelectCall.answer ready failed) = (sets, 0) := by
      rw [SelectSets.wait, waitCall, if_pos hempty]
    have hkept := hkeep sets fun c => by
      have hc : (sets.of c).elems = [] := by
        cases c
        exacts [List.length_eq_zero_iff.mp hempty.1, List.length_eq_zero_iff.mp hempty.2.1,
          List.length_eq_zero_iff.mp hempty.2.2]
      rw [hc, List.filter_nil]
    rw [hwait, if_neg fun h => h.2 hnothing, if_neg fun h => h.2 hnothing, ← hkept.2, ← hsize,
      hnothing]
    exact ⟨hkept.1, rfl⟩
  · have hsome : ¬(sets.readSet.elems.length = 0 ∧ sets.writeSet.elems.length = 0
        ∧ sets.exceptSet.elems.length = 0) := by omega
    have hpassed : ((passed sets.readSet).isNone && (passed sets.writeSet).isNone
        && (passed sets.exceptSet).isNone) ≠ true := by
      rw [ne_eq, Bool.and_eq_true, Bool.and_eq_true, isNone_passed, isNone_passed, isNone_passed,
        and_assoc]
      exact hsome
    rw [SelectSets.wait, waitCall, if_neg hsome]
    by_cases hfail : failed = true
    · rw [if_pos ⟨hfail, hnothing⟩, if_pos ⟨hfail, hnothing⟩]
      simp only [SelectCall.answer, passed_getD, ite_self, if_pos (Or.inl hfail)]
      exact ⟨h, trivial⟩
    · rw [if_neg fun h => hfail h.1, if_neg fun h => hfail h.1]
      simp only [SelectCall.answer, passed_getD, if_neg (not_or.mpr ⟨hfail, hpassed⟩)]
      have hkept := hkeep ⟨
        if (passed sets.readSet).isSome then sets.readSet.filter (ready .canRead)
          else sets.readSet,
        if (passed sets.writeSet).isSome then sets.writeSet.filter (ready .canWrite)
          else sets.writeSet,
        if (passed sets.exceptSet).isSome then sets.exceptSet.filter (ready .connectFailed)
          else sets.exceptSet⟩ fun c => by cases c <;> exact elems_of_passed _ _
      refine ⟨hkept.1, ?_⟩
      rw [← hkept.2, elems_of_passed, elems_of_passed, elems_of_passed]
      rfl

/-! ## `TestSocket` -/

/-- The bit of a condition. -/
def bit : Condition → ℕ
  | .canRead => 0
  | .canWrite => 1
  | .connectFailed => 2

lemma flag_eq (c : Condition) : flag c = BitVec.twoPow 32 (bit c) := by cases c <;> rfl

lemma names_eq (v : SMBB.SelectValue) (c : Condition) :
    Watch.names flag v c = v.getLsbD (bit c) := by
  have hbit : bit c < 32 := by cases c <;> decide
  rw [Bool.eq_iff_iff, Watch.names, decide_eq_true_iff, flag_eq, and_twoPow_ne_zero_iff hbit]

lemma and_checkAll (v : SMBB.SelectValue) :
    v &&& SelectValue.checkAll = Watch.value flag (Watch.names flag v) := by
  have hall : SelectValue.checkAll
      = flagIf 32 true 0 ||| flagIf 32 true 1 ||| flagIf 32 true 2 := rfl
  rw [BitVec.and_comm, hall, BitVec.and_or_distrib_right, BitVec.and_or_distrib_right, flagIf_and,
    flagIf_and, flagIf_and, Bool.true_and, Bool.true_and, Bool.true_and, Watch.value, names_eq,
    names_eq, names_eq]
  rfl

/-- A test of one set. -/
lemma getLsbD_clearUnlessSet (socket : δ) (set : FdSet δ N) (v : SMBB.SelectValue) (i j : ℕ) :
    (clearUnlessSet socket set (BitVec.twoPow 32 i) v).getLsbD j
      = (v.getLsbD j && !(decide (i = j) && decide (socket ∉ set))) := by
  rw [clearUnlessSet]
  by_cases hset : socket ∈ set
  · rw [if_neg fun h => h.2 hset]
    simp [hset]
  · have hclear : (if v &&& BitVec.twoPow 32 i ≠ 0 ∧ socket ∉ set then
        v &&& ~~~BitVec.twoPow 32 i else v) = v &&& ~~~BitVec.twoPow 32 i := by
      split
      · rfl
      · rename_i hflag
        exact (clear_eq_self (not_not.mp fun h => hflag ⟨h, hset⟩)).symm
    rw [hclear, getLsbD_clear]
    simp [hset]

lemma Shows.testSocket (h : sets.Shows w) (socket : δ) (v : SMBB.SelectValue) :
    sets.testSocket socket v
      = Watch.value flag fun c => Watch.names flag v c && decide (socket ∈ w c) := by
  have hcleared : ∀ c, Watch.names flag
      (clearUnlessSet socket sets.readSet (flag .canRead)
        (clearUnlessSet socket sets.writeSet (flag .canWrite)
          (clearUnlessSet socket sets.exceptSet (flag .connectFailed) v))) c
        = (Watch.names flag v c && decide (socket ∈ w c)) := by
    intro c
    rw [names_eq, names_eq, flag_eq, flag_eq, flag_eq, getLsbD_clearUnlessSet,
      getLsbD_clearUnlessSet, getLsbD_clearUnlessSet]
    have hmem := h.mem_iff socket c
    cases c <;> simp [bit, ← hmem, of]
  rw [SelectSets.testSocket, and_checkAll]
  exact congrArg (Watch.value flag) (funext hcleared)

/-! ## Runs -/

/-- A call on the sets answers as the same call on what they show. -/
lemma Shows.respond (h : sets.Shows w) (input : WatchInput δ) :
    ∃ sets' w' answer, sets.respond input = some (sets', answer)
      ∧ w.respond flag (capacity N) input = some (w', answer) ∧ sets'.Shows w' := by
  cases input with
  | addSocket socket mask =>
    obtain ⟨hshows, hadded⟩ := h.addSocket socket mask
    refine ⟨_, _, _, rfl, ?_, hshows⟩
    rw [Watch.respond, hadded]
  | removeSocket socket mask => exact ⟨_, _, _, rfl, rfl, h.removeSocket socket mask⟩
  | wait timeoutUs ready failed =>
    obtain ⟨hshows, hresult⟩ := h.wait timeoutUs ready failed
    refine ⟨_, _, _, rfl, ?_, hshows⟩
    rw [Watch.respond, hresult]
    split <;> rfl
  | testSocket socket mask => exact ⟨_, _, _, rfl, by rw [Watch.respond, h.testSocket], h⟩

/-- **No program can tell the Windows `SelectSets` from a `Watch`** with room for `FD_SETSIZE`
sockets for each condition. -/
theorem answers_watch (N : ℕ) (inputs : List (WatchInput δ)) :
    Machines.answers respond (construct δ N) inputs
      = Machines.answers (Watch.respond flag (capacity N)) Watch.nothing inputs :=
  Machines.answers_eq (R := Shows) (Q := Eq) (C := fun _ _ => True)
    (fun _ _ i _ h hij _ => hij ▸ h.respond i) shows_construct
    (List.forall₂_same.mpr fun _ _ => rfl) (Machines.meets_of_forall (fun _ _ _ => trivial) _)

end SelectSets

end Windows
end SMBB
