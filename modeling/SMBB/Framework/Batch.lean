import SMBB.Framework.PartialMaps
import Mathlib.Tactic.Lemma
import Mathlib.Data.Nat.Notation
import Mathlib.Data.Int.Notation
import Mathlib.Tactic.TypeStar

/-!
# Batches of fallible calls

A batch makes one call for each item of a list, in order, and stops at the first call that
fails.  A call may change the state it runs on and the item it was given.  What is left over is
an `Outcome`: the last state, the items as the calls left them, how many calls succeeded, and
the failure that ended the batch.

`count` is the number a C interface reports for it: the successful calls, or `-1` when already
the first one failed.  The number alone decides whether the batch came to its end
(`done_eq_length_iff`), so two batches over lists of one length report the same number exactly
when they made the same number of successful calls (`count_eq_iff`).

The proof rules are `state_invariant`, for what every call preserves, and `run_rel`, for two
ways of making the calls that stay in step.  Where the calls are logged and the `i`-th of them
is answered by the `i`-th entry of a script, `Answered.run_ok` and `Answered.run_failed` read the
outcome off the script.
-/

namespace Batch

variable {σ τ α β ε : Type*}

/-- What a batch leaves behind. -/
structure Outcome (σ α ε : Type*) where
  state : σ
  items : List α
  done : ℕ
  failure : Option ε

namespace Outcome

/-- The outcome of a batch whose first call succeeded and left `x`. -/
def after (x : α) (o : Outcome σ α ε) : Outcome σ α ε :=
  { o with items := x :: o.items, done := o.done + 1 }

@[simp] lemma after_state (x : α) (o : Outcome σ α ε) : (o.after x).state = o.state := rfl
@[simp] lemma after_done (x : α) (o : Outcome σ α ε) : (o.after x).done = o.done + 1 := rfl
@[simp] lemma after_failure (x : α) (o : Outcome σ α ε) : (o.after x).failure = o.failure := rfl

/-- The number of successful calls, or `-1` when the first call failed. -/
def count (o : Outcome σ α ε) : ℤ :=
  if o.failure.isSome && o.done = 0 then -1 else o.done

end Outcome

/-- Calls `step` on the items in order, up to the first failure. -/
def run (step : σ → α → σ × α × Option ε) : σ → List α → Outcome σ α ε
  | s, [] => ⟨s, [], 0, none⟩
  | s, x :: xs =>
    match step s x with
    | (s', x', some e) => ⟨s', x' :: xs, 0, some e⟩
    | (s', x', none) => (run step s' xs).after x'

section Run

variable {step : σ → α → σ × α × Option ε} {s s' : σ} {x x' : α} {xs : List α}

lemma run_cons_ok (h : step s x = (s', x', none)) :
    run step s (x :: xs) = (run step s' xs).after x' := by
  rw [run, h]

lemma run_cons_failed {e : ε} (h : step s x = (s', x', some e)) :
    run step s (x :: xs) = ⟨s', x' :: xs, 0, some e⟩ := by
  rw [run, h]

lemma done_le_length (step : σ → α → σ × α × Option ε) (s : σ) (xs : List α) :
    (run step s xs).done ≤ xs.length := by
  induction xs generalizing s with
  | nil => exact Nat.le_refl 0
  | cons x xs ih =>
    rcases h : step s x with ⟨s', x', _ | e⟩
    · rw [run_cons_ok h, Outcome.after_done, List.length_cons]
      exact Nat.succ_le_succ (ih s')
    · rw [run_cons_failed h]
      exact Nat.zero_le _

/-- A batch ends without a failure exactly when every item had its successful call. -/
lemma done_eq_length_iff (step : σ → α → σ × α × Option ε) (s : σ) (xs : List α) :
    (run step s xs).done = xs.length ↔ (run step s xs).failure = none := by
  induction xs generalizing s with
  | nil => exact iff_of_true rfl rfl
  | cons x xs ih =>
    rcases h : step s x with ⟨s', x', _ | e⟩
    · rw [run_cons_ok h, Outcome.after_done, Outcome.after_failure, List.length_cons, ← ih s']
      exact Nat.succ_inj
    · rw [run_cons_failed h]
      exact iff_of_false (Nat.succ_ne_zero _).symm (Option.some_ne_none e)

/-- What every call preserves holds of the last state. -/
lemma state_invariant {P : σ → Prop} (hstep : ∀ s, ∀ x ∈ xs, P s → P (step s x).1) (hs : P s) :
    P (run step s xs).state := by
  induction xs generalizing s with
  | nil => exact hs
  | cons x xs ih =>
    have hs' := hstep s x List.mem_cons_self hs
    rcases h : step s x with ⟨s', x', _ | e⟩
    · rw [run_cons_ok h]
      rw [h] at hs'
      exact ih (fun s y hy => hstep s y (List.mem_cons_of_mem x hy)) hs'
    · rw [run_cons_failed h]
      rwa [h] at hs'

end Run

/-- Two ways of making the calls that keep `R` and fail together run in step. -/
lemma run_rel {step : σ → α → σ × α × Option ε} {step' : τ → α → τ × α × Option ε}
    {R : σ → τ → Prop} {xs : List α}
    (hstep : ∀ s t, ∀ x ∈ xs, R s t →
      R (step s x).1 (step' t x).1 ∧ (step s x).2.2 = (step' t x).2.2)
    {s : σ} {t : τ} (hR : R s t) :
    R (run step s xs).state (run step' t xs).state
      ∧ (run step s xs).done = (run step' t xs).done := by
  induction xs generalizing s t with
  | nil => exact ⟨hR, rfl⟩
  | cons x xs ih =>
    have hx := hstep s t x List.mem_cons_self hR
    rcases h : step s x with ⟨s', x', f⟩
    rcases h' : step' t x with ⟨t', y', f'⟩
    rw [h, h'] at hx
    obtain ⟨hR', rfl : f = f'⟩ := hx
    cases f with
    | none =>
      obtain ⟨hlast, hdone⟩ := ih (fun s t y hy => hstep s t y (List.mem_cons_of_mem x hy)) hR'
      rw [run_cons_ok h, run_cons_ok h']
      exact ⟨hlast, congrArg (· + 1) hdone⟩
    | some e =>
      rw [run_cons_failed h, run_cons_failed h']
      exact ⟨hR', rfl⟩

/-- Over lists of one length, the reported numbers agree exactly when the numbers of successful
calls do. -/
lemma count_eq_iff {step : σ → α → σ × α × Option ε} {step' : τ → β → τ × β × Option ε}
    {s : σ} {t : τ} {xs : List α} {ys : List β} (hlen : xs.length = ys.length) :
    (run step s xs).count = (run step' t ys).count
      ↔ (run step s xs).done = (run step' t ys).done := by
  have hs := done_eq_length_iff step s xs
  have ht := done_eq_length_iff step' t ys
  have hbound := done_le_length step s xs
  rw [hlen] at hs hbound
  simp only [Outcome.count, Bool.and_eq_true, decide_eq_true_eq, Option.isSome_iff_ne_none, ne_eq,
    ← hs, ← ht]
  split <;> split <;> omega

/-- A batch goes on where one without a failure ended. -/
lemma run_append {step : σ → α → σ × α × Option ε} {s : σ} {xs : List α}
    (h : (run step s xs).failure = none) (ys : List α) :
    run step s (xs ++ ys)
      = { state := (run step (run step s xs).state ys).state
          items := (run step s xs).items ++ (run step (run step s xs).state ys).items
          done := xs.length + (run step (run step s xs).state ys).done
          failure := (run step (run step s xs).state ys).failure } := by
  induction xs generalizing s with
  | nil => simp [run]
  | cons x xs ih =>
    rcases hx : step s x with ⟨s', x', _ | e⟩
    · rw [run_cons_ok hx] at h
      rw [List.cons_append, run_cons_ok hx, run_cons_ok hx, ih h, Outcome.after_state]
      simp only [Outcome.after, List.cons_append, List.length_cons, Nat.add_right_comm]
    · rw [run_cons_failed hx] at h
      exact Option.absurd_none h.symm

/-! ## Logged calls -/

variable {κ ι : Type*}

/-- Every call is added to a log, and the answer is that for its place there: the call succeeds
and its value becomes the size of the item, or it fails and leaves the size.  `P` is what the
requests rely on. -/
structure Answered (step : σ → α → σ × α × Option ε) (P : σ → Prop) (log : σ → List κ)
    (request : α → κ) (size : α → ι) (succeeds : ℕ → α → ι → Prop) (fails : ℕ → ε → Prop) :
    Prop where
  keeps : ∀ {s x}, P s → P (step s x).1
  logs : ∀ {s x}, P s → log (step s x).1 = log s ++ [request x]
  ok : ∀ {s x v}, P s → succeeds (log s).length x v →
    (step s x).2.2 = none ∧ size (step s x).2.1 = v
  failed : ∀ {s x e}, P s → fails (log s).length e →
    (step s x).2.2 = some e ∧ size (step s x).2.1 = size x

namespace Answered

variable {step : σ → α → σ × α × Option ε} {P : σ → Prop} {log : σ → List κ} {request : α → κ}
  {size : α → ι} {succeeds : ℕ → α → ι → Prop} {fails : ℕ → ε → Prop} {s : σ}

/-- If every answer is a success, every item is called for and gets its size. -/
lemma run_ok (h : Answered step P log request size succeeds fails) {xs : List α} {sizes : ℕ → ι}
    (hs : P s)
    (hxs : ∀ i x, xs[i]? = some x → succeeds ((log s).length + i) x (sizes i)) :
    P (run step s xs).state
      ∧ log (run step s xs).state = log s ++ xs.map request
      ∧ (run step s xs).items.map size = (List.range xs.length).map sizes
      ∧ (run step s xs).failure = none := by
  induction xs generalizing s sizes with
  | nil => exact ⟨hs, (List.append_nil _).symm, rfl, rfl⟩
  | cons x xs ih =>
    have hkeeps := h.keeps (x := x) hs
    have hlogs := h.logs (x := x) hs
    obtain ⟨hnone, hsize⟩ := h.ok hs (hxs 0 x rfl)
    rcases hx : step s x with ⟨s', x', failure⟩
    rw [hx] at hkeeps hlogs hnone hsize
    obtain rfl : failure = none := hnone
    have hrest : ∀ i y, xs[i]? = some y → succeeds ((log s').length + i) y (sizes (i + 1)) := by
      intro i y hy
      rw [hlogs, List.length_append, List.length_singleton, Nat.add_assoc, Nat.add_comm 1]
      exact hxs (i + 1) y hy
    obtain ⟨hP, hlog, hitems, hfailure⟩ := ih hkeeps hrest
    rw [run_cons_ok hx]
    refine ⟨hP, ?_, ?_, hfailure⟩
    · rw [Outcome.after_state, hlog, hlogs, List.append_assoc]
      rfl
    · rw [List.length_cons, List.range_succ_eq_map, List.map_cons, List.map_map]
      exact List.cons_eq_cons.mpr ⟨hsize, hitems⟩

/-- If an answer is the first failure, its item is the last one called for, and it and all behind
it keep their sizes. -/
lemma run_failed (h : Answered step P log request size succeeds fails) {earlier : List α}
    (x : α) (later : List α) {sizes : ℕ → ι} {e : ε} (hs : P s)
    (hxs : ∀ i y, earlier[i]? = some y → succeeds ((log s).length + i) y (sizes i))
    (hx : fails ((log s).length + earlier.length) e) :
    log (run step s (earlier ++ x :: later)).state = log s ++ (earlier ++ [x]).map request
      ∧ (run step s (earlier ++ x :: later)).items.map size
        = (List.range earlier.length).map sizes ++ (x :: later).map size
      ∧ (run step s (earlier ++ x :: later)).done = earlier.length
      ∧ (run step s (earlier ++ x :: later)).failure = some e := by
  obtain ⟨hP, hlog, hitems, hnone⟩ := h.run_ok hs hxs
  have hlogs := h.logs (x := x) hP
  have hfails : fails (log (run step s earlier).state).length e := by
    rw [hlog, List.length_append, List.length_map]
    exact hx
  obtain ⟨hsome, hsize⟩ := h.failed (x := x) hP hfails
  rw [run_append hnone]
  rcases hcall : step (run step s earlier).state x with ⟨s', x', failure⟩
  rw [hcall] at hlogs hsome hsize
  obtain rfl : failure = some e := hsome
  rw [run_cons_failed hcall]
  refine ⟨?_, ?_, Nat.add_zero _, rfl⟩
  · rw [hlogs, hlog, List.map_append, List.append_assoc]
    rfl
  · rw [List.map_append, hitems]
    exact congrArg _ (congrArg (· :: later.map size) hsize)

end Answered

end Batch
