import SMBB.Construction.AdapterBuffers

/-!
# The buffers are freed

Whatever sizes the system asks for and whenever `malloc` fails, the loop hands over a buffer that
is there and as large as it says, has at most one block at a time, frees each block once and never
the stack, and has none left at the end (`getInterfaceIndexIn_memory`).  The index that comes out
is that of the last list, which is the one `InterfacesWindows` takes as given.
-/

namespace SMBB.Windows

open Resources Pieces

/-- The list that the loop ends with, if it ends; `none` in it is a loop that ends without one. -/
def listed : List BufferRound → Option (Option (List Adapter))
  | [] => none
  | round :: rounds =>
    match round.result with
    | .noError adapters => some (some adapters)
    | .failed => some none
    | .bufferOverflow _ => if round.malloc = 0 then some none else listed rounds

/-- The memory while the loop has a buffer: the stack, or one block more than at the start. -/
inductive Holding (start : Pieces.Space BufferPlace (Resource BufferSource)) :
    BufferPlace → ℕ → Pieces.Space BufferPlace (Resource BufferSource) → Prop
  | stack {size : ℕ} (hstack : start .stack = some ⟨.automatic, size⟩) :
    Holding start .stack size start
  | heap {address size : ℕ} (hfree : start (.heap address) = none) :
    Holding start (.heap address) size
      (Pieces.Space.place start (single (.heap address) ⟨.malloc, size⟩))

variable {start held : Pieces.Space BufferPlace (Resource BufferSource)} {buffer : BufferPlace}
  {size : ℕ} {a : IPAddress}

/-- The buffer may be used. -/
lemma Holding.step_use (h : Holding start buffer size held) :
    step held (.use buffer size) = some held := by
  cases h with
  | stack hstack => exact Resources.step_use hstack (Nat.le_refl size)
  | @heap address size hfree =>
    have hheld : Pieces.Space.place start (single (.heap address) ⟨.malloc, size⟩)
        (.heap address) = some (⟨.malloc, size⟩ : Resource BufferSource) := by
      rw [Pieces.Space.place, single_self, Option.some_or]
    exact Resources.step_use hheld (Nat.le_refl size)

/-- Once the buffer is freed, the memory is as it was at the start. -/
lemma Holding.run_freeing (h : Holding start buffer size held) :
    Runs.run step held (freeing buffer) = some start := by
  cases h with
  | stack hstack => rfl
  | @heap address size hfree =>
    have hrelease : step (Pieces.Space.place start (single (.heap address) ⟨.malloc, size⟩))
        (.release BufferSource.malloc (.heap address)) = some start := step_release_acquired hfree
    rw [freeing, Runs.run, hrelease]
    rfl

/-- A buffer is used, and freed. -/
lemma Holding.run_use (h : Holding start buffer size held)
    {events : List (Event BufferPlace BufferSource)} :
    Runs.run step held (.use buffer size :: events) = Runs.run step held events := by
  rw [Runs.run, h.step_use, Option.bind_some]

/-- The result of the loop is the index in the list that it ends with. -/
lemma fst_bufferLoop (a : IPAddress) (buffer : BufferPlace) (bufferSize : BitVec 32)
    (rounds : List BufferRound) :
    (bufferLoop a buffer bufferSize rounds).1
      = (listed rounds).map fun adapters => adapters.elim (-1) fun l => adapterLoop a l (-1) := by
  induction rounds generalizing buffer bufferSize with
  | nil => rfl
  | cons round rounds ih =>
    rw [bufferLoop, listed]
    cases round.result with
    | noError adapters => rfl
    | failed => rfl
    | bufferOverflow bufferSize' =>
      by_cases hmalloc : round.malloc = 0
      · simp only [hmalloc, if_true]
        rfl
      · simp only [hmalloc, if_false]
        exact ih _ _

/-- The loop goes on only as long as the system asks for larger buffers and `malloc` has them. -/
lemma listed_eq_none_iff {rounds : List BufferRound} :
    listed rounds = none
      ↔ ∀ round ∈ rounds, (∃ bufferSize, round.result = .bufferOverflow bufferSize)
        ∧ round.malloc ≠ 0 := by
  induction rounds with
  | nil => exact iff_of_true rfl fun round hround => absurd hround List.not_mem_nil
  | cons round rounds ih =>
    rw [listed, List.forall_mem_cons]
    cases hresult : round.result with
    | noError adapters => simp
    | failed => simp
    | bufferOverflow bufferSize =>
      by_cases hmalloc : round.malloc = 0
      · simp [hmalloc]
      · simp [hmalloc, ih]

/-- The loop from any of its buffers on. -/
lemma Holding.run_bufferLoop (h : Holding start buffer size held) {bufferSize : BitVec 32}
    (hsize : bufferSize.toNat = size) {rounds : List BufferRound}
    (hfresh : ∀ round ∈ rounds, round.malloc ≠ 0 → start (.heap round.malloc) = none) :
    ∃ held', Runs.run step held (bufferLoop a buffer bufferSize rounds).2 = some held'
      ∧ (listed rounds ≠ none → held' = start)
      ∧ (listed rounds = none → ∃ buffer' size', Holding start buffer' size' held') := by
  induction rounds generalizing buffer size held bufferSize with
  | nil => exact ⟨held, rfl, fun hend => absurd rfl hend, fun _ => ⟨buffer, size, h⟩⟩
  | cons round rounds ih =>
    obtain ⟨hround, hrounds⟩ := List.forall_mem_cons.mp hfresh
    rw [bufferLoop, listed]
    cases round.result with
    | noError adapters =>
      refine ⟨start, ?_, fun _ => rfl, fun hrunning => Option.absurd_none hrunning.symm⟩
      dsimp only
      rw [hsize, h.run_use, h.run_use, h.run_freeing]
    | failed =>
      refine ⟨start, ?_, fun _ => rfl, fun hrunning => Option.absurd_none hrunning.symm⟩
      dsimp only
      rw [hsize, h.run_use, h.run_freeing]
    | bufferOverflow bufferSize' =>
      by_cases hmalloc : round.malloc = 0
      · simp only [hmalloc, if_true]
        refine ⟨start, ?_, fun _ => rfl, fun hrunning => Option.absurd_none hrunning.symm⟩
        rw [hsize, h.run_use, h.run_freeing]
      · simp only [hmalloc, if_false]
        -- the next buffer is as large as the system was told
        have hfree := hround hmalloc
        obtain ⟨held', hrun, hheld'⟩ := ih (Holding.heap hfree) rfl hrounds
        refine ⟨held', ?_, hheld'⟩
        rw [hsize, List.cons_append, h.run_use, Runs.run_append, h.run_freeing, Option.bind_some,
          Runs.run, step_acquire hfree, Option.bind_some, hrun]

/-- **The loop never misuses memory and does not leak.**  Once it has ended, the memory is as it
was, and the result is the index in the list that it ended with; while it goes on, it has at most
one block. -/
theorem getInterfaceIndexIn_memory {stackSize : BitVec 32} (a : IPAddress)
    (hstack : start .stack = some ⟨.automatic, stackSize.toNat⟩) {rounds : List BufferRound}
    (hfresh : ∀ round ∈ rounds, round.malloc ≠ 0 → start (.heap round.malloc) = none) :
    ∃ held, Runs.run step start (getInterfaceIndexIn stackSize a rounds).2 = some held
      ∧ (∀ index, (getInterfaceIndexIn stackSize a rounds).1 = some index → held = start
        ∧ index = getInterfaceIndex (fun _ => (listed rounds).getD none) a)
      ∧ ((getInterfaceIndexIn stackSize a rounds).1 = none →
        (∃ buffer size, Holding start buffer size held)
          ∧ ∀ round ∈ rounds, (∃ bufferSize, round.result = .bufferOverflow bufferSize)
            ∧ round.malloc ≠ 0) := by
  rw [getInterfaceIndexIn, getInterfaceIndex]
  by_cases hany : a.getFamily = familyUnspecified ∨ a.isAny = true
  · rw [if_pos hany, if_pos hany]
    exact ⟨start, rfl, fun index h => ⟨rfl, (Option.some.inj h).symm⟩,
      fun h => Option.absurd_none h.symm⟩
  · rw [if_neg hany, if_neg hany]
    obtain ⟨held, hrun, hended, hrunning⟩ :=
      (Holding.stack hstack).run_bufferLoop (a := a) rfl hfresh
    have hresult := fst_bufferLoop a .stack stackSize rounds
    refine ⟨held, hrun, fun index hindex => ?_, fun hnone => ?_⟩
    · rw [hresult] at hindex
      obtain ⟨adapters, hlisted, rfl⟩ := Option.map_eq_some_iff.mp hindex
      refine ⟨hended (hlisted ▸ Option.some_ne_none _), ?_⟩
      rw [hlisted, Option.getD_some]
      cases adapters <;> rfl
    · rw [hresult, Option.map_eq_none_iff] at hnone
      exact ⟨hrunning hnone, listed_eq_none_iff.mp hnone⟩

/-- The memory of a program that has nothing but the buffer on its stack. -/
def stackOnly (stackSize : ℕ) : Pieces.Space BufferPlace (Resource BufferSource) :=
  single .stack ⟨.automatic, stackSize⟩

/-- The buffer is too small twice, and the second time `malloc` has no other one. -/
def twoOverflows : List BufferRound :=
  [⟨.bufferOverflow 20000, 4096⟩, ⟨.bufferOverflow 30000, 0⟩]

/-- An address that is no wildcard. -/
def hostAddress : IPAddress :=
  .ofSockaddrIn6 ⟨.replicate 2 0, .replicate 4 0, loopbackIPv6, .replicate 4 0⟩

theorem getInterfaceIndexIn_memory_twoOverflows :
    (getInterfaceIndexIn 12288 hostAddress twoOverflows).1 = some (-1)
      ∧ Runs.run step (stackOnly 12288) (getInterfaceIndexIn 12288 hostAddress twoOverflows).2
        = some (stackOnly 12288) := by
  have hresult : (getInterfaceIndexIn 12288 hostAddress twoOverflows).1 = some (-1) := by decide
  have hstack : stackOnly 12288 .stack = some ⟨.automatic, (12288 : BitVec 32).toNat⟩ := rfl
  have hfresh : ∀ round ∈ twoOverflows, round.malloc ≠ 0 →
      stackOnly 12288 (.heap round.malloc) = none := by
    intro round hround _
    simp only [twoOverflows, List.mem_cons, List.not_mem_nil, or_false] at hround
    obtain rfl | rfl := hround <;> rfl
  obtain ⟨held, hrun, hended, -⟩ := getInterfaceIndexIn_memory hostAddress hstack hfresh
  refine ⟨hresult, ?_⟩
  rw [hrun, (hended (-1) hresult).1]

end SMBB.Windows
