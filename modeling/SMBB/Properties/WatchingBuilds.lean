import SMBB.Properties.WatchedSets
import SMBB.Properties.SelectTesting
import SMBB.Properties.SelectWaiting
import SMBB.Framework.PartialMaps
import Mathlib.Data.Fintype.Card

/-!
# Both builds watch alike

A program that asks only for sockets that can be read and that can be written, on two systems on
which the same sockets are ready.  The handles differ, the bit sets of the one build are the arrays
of the other, and the summaries `_max` and `_checks` are on one side only; the answers are the same
(`builds_answer_alike`), as long as the arrays have room for all sockets of the program.

The POSIX build is a `Watch` without limits for such a program (`answers_unlimited`).
-/

namespace SMBB

/-- How `select` answers on POSIX: of the first `nfds` descriptors of the sets it is passed it
leaves those that are ready, and returns how many these are.  A call that fails leaves the sets as
they were. -/
def SelectCall.answer {N : ℕ} (ready : Condition → Fin N → Bool) (failed : Bool)
    (call : SelectCall N) : SelectAnswer N :=
  let readfds := call.readfds.getD ∅
  let writefds := call.writefds.getD ∅
  if failed then ⟨-1, readfds, writefds⟩
  else
    let readfds := readfds.filter fun s : Fin N =>
      ((s : ℕ) : ℤ) < call.nfds ∧ ready .canRead s = true
    let writefds := writefds.filter fun s : Fin N =>
      ((s : ℕ) : ℤ) < call.nfds ∧ ready .canWrite s = true
    ⟨(readfds.card + writefds.card : ℕ), readfds, writefds⟩

namespace SelectSets

variable {N : ℕ}

/-- The flags of the build. -/
def flag : Condition → SelectValue
  | .canRead => .canRead
  | .canWrite => .canWrite
  | .connectFailed => .connectFailed

/-- The calls of a program; `soError` has the errors of the sockets. -/
def respond (soError : Fin N → Option ℤ) (sets : SelectSets N) :
    WatchInput (Fin N) → Option (SelectSets N × WatchAnswer)
  | .addSocket socket mask =>
    (sets.addSocket (socket : ℕ) mask.toNat).map fun added => (added.1, .added added.2)
  | .removeSocket socket mask =>
    (sets.removeSocket (socket : ℕ) mask.toNat).map fun sets => (sets, .removed)
  | .wait timeoutUs ready failed =>
    let waited := sets.wait timeoutUs (SelectCall.answer ready failed)
    some (waited.1, .waited waited.2)
  | .testSocket socket mask =>
    (sets.testSocket (socket : ℕ) mask (soError socket)).map fun tested =>
      (sets, .tested tested.1)

/-- The two sets are what is watched, and nothing is watched for a failed connection. -/
structure Shows (sets : SelectSets N) (w : Watch (Fin N)) : Prop where
  readSet : sets.readSet = w .canRead
  writeSet : sets.writeSet = w .canWrite
  connectFailed : w .connectFailed = ∅
  covered : sets.Covered

variable {sets : SelectSets N} {w : Watch (Fin N)} {socket : Fin N} {mask : SelectValue}

lemma shows_construct (hN : 0 < N) : (construct N).Shows Watch.nothing :=
  ⟨rfl, rfl, rfl, covered_construct hN⟩

lemma and_flags_iff (mask : SelectValue) :
    (mask.toNat &&& selectCanRead ≠ 0 ↔ Watch.names flag mask .canRead = true)
      ∧ (mask.toNat &&& selectCanWrite ≠ 0 ↔ Watch.names flag mask .canWrite = true)
      ∧ (mask.toNat &&& selectConnectFailed ≠ 0
        ↔ Watch.names flag mask .connectFailed = true) := by
  refine ⟨?_, ?_, ?_⟩ <;>
  · rw [Watch.names, decide_eq_true_iff]
    exact Windows.SelectSets.and_ne_zero_iff (by decide)

/-! ## Masks that do not name failed connections -/

section Plain

variable (hmask : Watch.names flag mask .connectFailed = false)

include hmask

lemma and_writeFlags_iff :
    mask.toNat &&& (selectCanWrite ||| selectConnectFailed) ≠ 0
      ↔ Watch.names flag mask .canWrite = true := by
  obtain ⟨-, hwrite, hfailed⟩ := and_flags_iff mask
  rw [hmask, iff_false_right Bool.false_ne_true, not_not] at hfailed
  rw [Nat.and_or_distrib_left, hfailed, Nat.or_zero, hwrite]

lemma and_selectCheckAll_iff :
    mask.toNat &&& selectCheckAll ≠ 0
      ↔ Watch.conditions.any (Watch.names flag mask) = true := by
  obtain ⟨hread, -, -⟩ := and_flags_iff mask
  have hwrite := and_writeFlags_iff hmask
  rw [selectCheckAll, Nat.or_assoc, Nat.and_or_distrib_left, ne_eq, Nat.or_eq_zero_iff,
    Decidable.not_and_iff_not_or_not, ← ne_eq, ← ne_eq, hread, hwrite]
  simp [Watch.conditions, hmask]

lemma Shows.addSocket (h : sets.Shows w) (socket : Fin N) :
    ∃ sets', sets.addSocket (socket : ℕ) mask.toNat
        = some (sets', (w.add flag (fun _ => false) socket mask).2)
      ∧ sets'.Shows (w.add flag (fun _ => false) socket mask).1 := by
  rw [Watch.add_neverFull]
  have hadd := sets.addSocket_val socket mask.toNat
  have hall := and_selectCheckAll_iff hmask
  by_cases hany : Watch.conditions.any (Watch.names flag mask) = true
  · rw [if_neg (hall.mpr hany)] at hadd
    rw [hany]
    refine ⟨_, hadd, ?_, ?_, ?_, h.covered.addSocket hadd⟩
    · simp only [(and_flags_iff mask).1, h.readSet]
    · simp only [and_writeFlags_iff hmask, h.writeSet]
    · simp only [hmask, Bool.false_eq_true, if_false, h.connectFailed]
  · have hnone : ∀ c, Watch.names flag mask c = false := by
      intro c
      rw [← Bool.not_eq_true]
      exact fun hc => hany (List.any_eq_true.mpr ⟨c, by cases c <;> decide, hc⟩)
    rw [if_pos (not_not.mp (mt hall.mp hany))] at hadd
    rw [Bool.eq_false_of_not_eq_true hany]
    simp only [hnone, Bool.false_eq_true, if_false]
    exact ⟨_, hadd, h⟩

lemma Shows.removeSocket (h : sets.Shows w) (socket : Fin N) :
    ∃ sets', sets.removeSocket (socket : ℕ) mask.toNat = some sets'
      ∧ sets'.Shows (w.remove flag socket mask) := by
  have hremove := sets.removeSocket_eq socket mask.toNat
  refine ⟨_, hremove, ?_, ?_, ?_, ?_⟩
  · simp only [(and_flags_iff mask).1, h.readSet, Watch.remove]
  · simp only [and_writeFlags_iff hmask, h.writeSet, Watch.remove]
  · simp only [hmask, Bool.false_eq_true, if_false, h.connectFailed, Watch.remove]
  · exact h.covered.shrink (ite_erase_subset _ _ _) (ite_erase_subset _ _ _)

lemma Shows.testSocket (h : sets.Shows w) (socket : Fin N) (soError : Option ℤ) :
    sets.testSocket (socket : ℕ) mask soError
      = some (Watch.value flag fun c => Watch.names flag mask c && decide (socket ∈ w c),
        soError) := by
  have hoverwrites : ¬sets.Overwrites socket mask :=
    fun h => of_decide_eq_false hmask h.1
  have hread : mask.getLsbD 0 = Watch.names flag mask .canRead := by
    rw [Bool.eq_iff_iff, ← SelectValue.and_canRead_iff, Watch.names, decide_eq_true_iff]
    rfl
  have hwrite : mask.getLsbD 1 = Watch.names flag mask .canWrite := by
    rw [Bool.eq_iff_iff, ← SelectValue.and_canWrite_iff, Watch.names, decide_eq_true_iff]
    rfl
  rw [testSocket_val, if_neg hoverwrites, hread, hwrite, h.readSet, h.writeSet, Watch.value, hmask,
    Bool.false_and]
  rfl

end Plain

/-! ## `Wait` -/

/-- A set is passed to `select` unless it has no descriptors. -/
lemma Covered.passed (h : sets.Covered) (timeoutUs : ℕ) :
    (sets.selectCall timeoutUs).readfds.getD ∅ = sets.readSet
      ∧ (sets.selectCall timeoutUs).writefds.getD ∅ = sets.writeSet := by
  have hpassed : ∀ {fds : Option (Finset (Fin N))} {set : Finset (Fin N)},
      (fds = some set ∨ fds = none) → (set.Nonempty → fds = some set) → fds.getD ∅ = set := by
    rintro fds set (rfl | rfl) hset
    · rfl
    · by_contra hne
      exact Option.some_ne_none _ (hset (Finset.nonempty_iff_ne_empty.mpr (Ne.symm hne))).symm
  have hwatches := h.watches timeoutUs
  refine ⟨hpassed ?_ hwatches.readfds, hpassed ?_ hwatches.writefds⟩
  · exact (ite_eq_or_eq _ _ _)
  · exact (ite_eq_or_eq _ _ _)

lemma Shows.wait (h : sets.Shows w) (timeoutUs : ℕ) (ready : Condition → Fin N → Bool)
    (failed : Bool) :
    (sets.wait timeoutUs (SelectCall.answer ready failed)).1.Shows
        (if failed = true then w else w.keep ready)
      ∧ (sets.wait timeoutUs (SelectCall.answer ready failed)).2
        = if failed = true then -1 else ((w.keep ready).size : ℤ) := by
  obtain ⟨hread, hwrite⟩ := h.covered.passed timeoutUs
  by_cases hfailed : failed = true
  · rw [if_pos hfailed, if_pos hfailed, SelectSets.wait]
    simp only [SelectCall.answer, hread, hwrite, hfailed, if_true, ite_self]
    exact ⟨h, trivial⟩
  · have hlt := (h.covered.watches timeoutUs).lt_nfds
    have hreadfds : (sets.readSet.filter fun s : Fin N =>
        ((s : ℕ) : ℤ) < (sets.selectCall timeoutUs).nfds ∧ ready .canRead s = true)
          = sets.readSet.filter fun s => ready .canRead s = true :=
      Finset.filter_congr fun s hs => and_iff_right (hlt s (Or.inl hs))
    have hwritefds : (sets.writeSet.filter fun s : Fin N =>
        ((s : ℕ) : ℤ) < (sets.selectCall timeoutUs).nfds ∧ ready .canWrite s = true)
          = sets.writeSet.filter fun s => ready .canWrite s = true :=
      Finset.filter_congr fun s hs => and_iff_right (hlt s (Or.inr hs))
    rw [if_neg hfailed, if_neg hfailed, SelectSets.wait]
    simp only [SelectCall.answer, hread, hwrite, hfailed, Bool.false_eq_true, if_false, hreadfds,
      hwritefds]
    -- a set that was not passed is empty
    have hleft : ∀ {fds : Option (Finset (Fin N))} {set : Finset (Fin N)} (c : Condition),
        fds.getD ∅ = set →
          (if fds.isSome then set.filter fun s => ready c s = true else set)
            = set.filter fun s => ready c s = true := by
      rintro (_ | fds) set c rfl
      · rfl
      · rfl
    rw [hleft .canRead hread, hleft .canWrite hwrite]
    have hfailedSet : (w.keep ready) .connectFailed = ∅ := by
      rw [Watch.keep, h.connectFailed, Finset.filter_empty]
    refine ⟨⟨?_, ?_, hfailedSet, ?_⟩, ?_⟩
    · rw [h.readSet, Watch.keep]
    · rw [h.writeSet, Watch.keep]
    · exact h.covered.shrink (Finset.filter_subset _ _) (Finset.filter_subset _ _)
    · rw [Watch.size, hfailedSet, h.readSet, h.writeSet]
      rfl

/-! ## Runs -/

/-- The call of `select` does not fail while nothing is watched. -/
def FailsWatching {σ : Type*} (w : Watch σ) : WatchInput σ → Prop
  | .wait _ _ failed => failed = true → w.size ≠ 0
  | _ => True

/-- **The POSIX build is a `Watch` without limits** for a program that does not ask for failed
connections. -/
lemma answers_unlimited (hN : 0 < N) (soError : Fin N → Option ℤ)
    {inputs : List (WatchInput (Fin N))}
    (hmask : ∀ input ∈ inputs, ∀ m ∈ Watch.mask input,
      Watch.names flag m .connectFailed = false)
    (hfails : Machines.Meets (Watch.respond flag fun _ => false) FailsWatching Watch.nothing
      inputs) :
    Machines.answers (respond soError) (construct N) inputs
      = Machines.answers (Watch.respond flag fun _ => false) Watch.nothing inputs := by
  refine Machines.answers_eq (R := Shows) (Q := fun i j => i = j ∧ i ∈ inputs)
    (fun sets w input input' h hij hfails => ?_) (shows_construct hN)
    (List.forall₂_same.mpr fun i hi => ⟨rfl, hi⟩) hfails
  obtain ⟨rfl, hinput⟩ := hij
  have hmask := hmask input hinput
  cases input with
  | addSocket socket m =>
    obtain ⟨sets', hadd, hshows⟩ := h.addSocket (hmask m rfl) socket
    refine ⟨sets', _, _, ?_, rfl, hshows⟩
    rw [respond, hadd, Option.map_some]
  | removeSocket socket m =>
    obtain ⟨sets', hremove, hshows⟩ := h.removeSocket (hmask m rfl) socket
    refine ⟨sets', _, _, ?_, rfl, hshows⟩
    rw [respond, hremove, Option.map_some]
  | wait timeoutUs ready failed =>
    obtain ⟨hshows, hresult⟩ := h.wait timeoutUs ready failed
    refine ⟨_, _, _, rfl, ?_, hshows⟩
    rw [Watch.respond, hresult]
    by_cases hfailed : failed = true
    · rw [if_pos ⟨hfailed, hfails hfailed⟩, if_pos hfailed, if_pos hfailed]
    · rw [if_neg fun h => hfailed h.1, if_neg hfailed, if_neg hfailed]
  | testSocket socket m =>
    refine ⟨sets, w, _, ?_, rfl, h⟩
    rw [respond, h.testSocket (hmask m rfl), Option.map_some]

end SelectSets

/-- The flags that one of the builds has for a failed connection. -/
def connectFailedFlags : SelectValue := .connectFailed ||| Windows.SelectValue.connectFailed

lemma not_names_connectFailed {m : SelectValue} (h : m &&& connectFailedFlags = 0) :
    Watch.names SelectSets.flag m .connectFailed = false
      ∧ Watch.names Windows.flag m .connectFailed = false := by
  have hflag : ∀ f : SelectValue, connectFailedFlags &&& f = f → m &&& f = 0 := by
    intro f hf
    rw [← hf, ← BitVec.and_assoc, h]
    exact BitVec.zero_and
  exact ⟨decide_eq_false (not_not.mpr (hflag _ rfl)), decide_eq_false (not_not.mpr (hflag _ rfl))⟩

/-- **A program that does not ask for failed connections gets the same answers from both builds**,
whatever the handles of its sockets are, if these are fewer than a set of the Windows build has room
for. -/
theorem builds_answer_alike {ι δ : Type} [Fintype ι] [DecidableEq ι] [DecidableEq δ] {N K : ℕ}
    (hN : 0 < N) (hK : Fintype.card ι < K) (fd : ι ↪ Fin N) (handle : ι ↪ δ)
    (soError : Fin N → Option ℤ) {inputs : List (WatchInput ι)}
    {posixInputs : List (WatchInput (Fin N))} {windowsInputs : List (WatchInput δ)}
    (hposix : List.Forall₂ (Watch.Named fd) posixInputs inputs)
    (hwindows : List.Forall₂ (Watch.Named handle) windowsInputs inputs)
    (hmask : ∀ input ∈ inputs, ∀ m ∈ Watch.mask input, m &&& connectFailedFlags = 0)
    (hfails : Machines.Meets (Watch.respond SelectSets.flag fun _ => false)
      SelectSets.FailsWatching Watch.nothing posixInputs) :
    Machines.answers (SelectSets.respond soError) (SelectSets.construct N) posixInputs
      = Machines.answers Windows.SelectSets.respond (Windows.SelectSets.construct δ K)
        windowsInputs := by
  have hroom : ∀ set : Finset ι, Windows.capacity K (set.map handle) = false := by
    intro set
    have hcard := Finset.card_le_univ set
    rw [Windows.capacity, Finset.card_map]
    exact decide_eq_false (by omega)
  have hmask' := fun input hinput m hm => not_names_connectFailed (hmask input hinput m hm)
  have hread : SelectSets.flag .canRead = Windows.flag .canRead := rfl
  have hwrite : SelectSets.flag .canWrite = Windows.flag .canWrite := rfl
  calc
    _ = Machines.answers (Watch.respond SelectSets.flag fun _ => false) Watch.nothing
          posixInputs :=
      SelectSets.answers_unlimited hN soError
        (Watch.mask_of_named fd hposix fun input hinput m hm => (hmask' input hinput m hm).1)
        hfails
    _ = Machines.answers (Watch.respond SelectSets.flag fun _ => false) Watch.nothing inputs :=
      Watch.answers_named fd (fun _ => rfl) hposix
    _ = Machines.answers (Watch.respond Windows.flag fun _ => false) Watch.nothing inputs :=
      Watch.answers_flag _ hread hwrite hmask'
    _ = Machines.answers (Watch.respond Windows.flag (Windows.capacity K)) Watch.nothing
          windowsInputs := (Watch.answers_named handle hroom hwindows).symm
    _ = _ := (Windows.SelectSets.answers_watch K windowsInputs).symm

/-- The descriptors of two sockets. -/
def twoDescriptors : Bool ↪ Fin 8 :=
  ⟨fun i => if i then ⟨5, by decide⟩ else ⟨3, by decide⟩, by decide⟩

/-- The handles of two sockets. -/
def twoHandles : Bool ↪ ℕ := ⟨fun i => if i then 260 else 256, by decide⟩

/-- One socket is watched for reading and one for writing too; a wait fails, and then the first
socket can be read. -/
def watchTwo {σ : Type} (first second : σ) (ready : Condition → σ → Bool) : List (WatchInput σ) :=
  [.addSocket first .canRead, .addSocket second (.canRead ||| .canWrite), .wait 1000 ready true,
    .wait 1000 ready false, .testSocket first (.canRead ||| .canWrite),
    .testSocket second (.canRead ||| .canWrite), .removeSocket second .canWrite]

lemma named_watchTwo {σ : Type} (names : Bool ↪ σ) {ready : Condition → σ → Bool}
    (hready : ∀ c i, ready c (names i) = (decide (c = .canRead) && i)) :
    List.Forall₂ (Watch.Named names) (watchTwo (names true) (names false) ready)
      (watchTwo true false fun c i => decide (c = .canRead) && i) :=
  .cons (.addSocket true _) (.cons (.addSocket false _) (.cons (.wait _ _ _ _ hready)
    (.cons (.wait _ _ _ _ hready) (.cons (.testSocket true _) (.cons (.testSocket false _)
      (.cons (.removeSocket false _) .nil))))))

theorem builds_answer_alike_watchTwo :
    Machines.answers (SelectSets.respond fun _ => none) (SelectSets.construct 8)
        (watchTwo 5 3 fun c s => decide (c = .canRead) && decide (s = 5))
      = Machines.answers Windows.SelectSets.respond (Windows.SelectSets.construct ℕ 64)
        (watchTwo 260 256 fun c s => decide (c = .canRead) && decide (s = 260))
    ∧ Machines.answers (SelectSets.respond fun _ => none) (SelectSets.construct 8)
        (watchTwo 5 3 fun c s => decide (c = .canRead) && decide (s = 5))
      = some [.added true, .added true, .waited (-1), .waited 1, .tested .canRead, .tested 0,
        .removed] := by
  refine ⟨builds_answer_alike (by decide) (by decide) twoDescriptors twoHandles _
    (named_watchTwo twoDescriptors fun c i => by cases i <;> rfl)
    (named_watchTwo twoHandles fun c i => by cases i <;> rfl) ?_ ?_, by decide⟩
  · intro input hinput m hm
    simp only [watchTwo, List.mem_cons, List.not_mem_nil, or_false] at hinput
    obtain rfl | rfl | rfl | rfl | rfl | rfl | rfl := hinput <;>
      first
        | exact Option.absurd_none hm
        | (obtain rfl := Option.some.inj hm; rfl)
  · -- the wait that fails comes when two sockets are watched
    refine ⟨trivial, fun w o h => ⟨trivial, fun w' o' h' => ⟨fun _ => ?_, fun w o h =>
      ⟨fun hfailed => absurd hfailed Bool.false_ne_true, fun w o h => ⟨trivial, fun w o h =>
        ⟨trivial, fun w o h => ⟨trivial, fun w o h => trivial⟩⟩⟩⟩⟩⟩⟩
    cases h
    cases h'
    decide

end SMBB
