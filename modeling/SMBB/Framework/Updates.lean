import SMBB.Framework.Runs
import SMBB.Framework.PartialMaps
import Mathlib.Logic.Function.Basic

/-!
# Updates in two steps

Some threads share a value and update it: a thread reads the value, and later writes back what the
update makes of the value it read.  In between, others may have written.  `atomic` is what the
value would be if every update were made in one step, at the moment it is written; the other
changes of the value are functions, so that both values can undergo them.

`synchronized_iff` says when nothing is lost: each update that is written is what the update would
make of the value that is there.  `freshAtWrites` gives this from a relation on values that updates
keep and do not look beyond, if the other changes keep it as well while an update is under way.
-/

namespace Updates

variable {θ α β : Type*}

/-- The shared value, the updates that are under way with the values they have read, and what the
value would be if no update took two steps. -/
structure Cell (θ α β : Type*) where
  current : α
  pending : θ → Option (β × α)
  atomic : α

/-- No update is under way. -/
def Cell.idle (a : α) : Cell θ α β := ⟨a, fun _ => none, a⟩

/-- What happens to the value. -/
inductive Action (θ α β : Type*)
  | read (t : θ) (update : β) (ok : Bool)
  | write (t : θ) (ok : Bool)
  | change (f : α → α)

variable [DecidableEq θ] (apply : β → α → α) (usable : α → Bool)

/-- One step.  A thread has one update under way at most; a read that fails, or whose value is of
no use, ends it, and so does every write. -/
def step (cell : Cell θ α β) : Action θ α β → Option (Cell θ α β)
  | .read t update ok =>
    match cell.pending t with
    | some _ => none
    | none =>
      some (if ok && usable cell.current then
        { cell with pending := Function.update cell.pending t (some (update, cell.current)) }
        else cell)
  | .write t ok =>
    (cell.pending t).map fun read =>
      { current := if ok then apply read.1 read.2 else cell.current
        pending := Function.update cell.pending t none
        atomic := if ok then apply read.1 cell.atomic else cell.atomic }
  | .change f => some { cell with current := f cell.current, atomic := f cell.atomic }

/-- Nothing has been lost. -/
def Synchronized (cell : Cell θ α β) : Prop := cell.current = cell.atomic

/-- What is written is what the update would make of the value that is there. -/
def FreshAtWrite (cell : Cell θ α β) : Action θ α β → Prop
  | .write t true => ∀ read ∈ cell.pending t, apply read.1 read.2 = apply read.1 cell.current
  | _ => True

variable {apply usable}

/-- **Nothing is ever lost** exactly if every update that is written is fresh. -/
theorem synchronized_iff {cell : Cell θ α β} (hstart : Synchronized cell)
    (actions : List (Action θ α β)) :
    Runs.Throughout (step apply usable) Synchronized cell actions
      ↔ Runs.Meets (step apply usable) (FreshAtWrite apply) cell actions := by
  refine Runs.throughout_iff_meets ?_ ?_ hstart
  · rintro cell (⟨t, update, ok⟩ | ⟨t, ok⟩ | f) cell' hsync hfresh hstep
    · rw [step] at hstep
      split at hstep
      · exact Option.absurd_none hstep
      · obtain rfl := Option.some.inj hstep
        split <;> exact hsync
    · obtain ⟨read, hread, rfl⟩ := Option.map_eq_some_iff.mp hstep
      cases ok
      · exact hsync
      · exact (hfresh read hread).trans (congrArg (apply read.1) hsync)
    · obtain rfl := Option.some.inj hstep
      exact congrArg f hsync
  · rintro cell (⟨t, update, ok⟩ | ⟨t, _ | _⟩ | f) hsync hstale
    · exact absurd trivial hstale
    · exact absurd trivial hstale
    · -- an update of a stale value: the run goes on without it
      obtain ⟨read, hread, hne⟩ := not_forall₂.mp hstale
      refine ⟨_, by rw [step, hread]; rfl, fun hsync' => hne ?_⟩
      exact (hsync' : apply read.1 read.2 = apply read.1 cell.atomic).trans
        (congrArg (apply read.1) hsync.symm)
    · exact absurd trivial hstale

/-! ## A part of the value -/

section Part

variable {γ : Type*} (rest : α → γ)

/-- The updates under way have read values that agree with the one that is there, in a part. -/
def Agrees (cell : Cell θ α β) : Prop :=
  ∀ t, ∀ read ∈ cell.pending t, rest read.2 = rest cell.current

/-- A change leaves the part alone, or comes while no update is under way. -/
def Considerate (cell : Cell θ α β) : Action θ α β → Prop
  | .change f => rest (f cell.current) = rest cell.current ∨ ∀ t, cell.pending t = none
  | _ => True

variable {rest}

lemma Agrees.step (hkeeps : ∀ update a, rest (apply update a) = rest a) {cell cell' : Cell θ α β}
    {action : Action θ α β} (h : Agrees rest cell) (hconsiderate : Considerate rest cell action)
    (hstep : Updates.step apply usable cell action = some cell') : Agrees rest cell' := by
  cases action with
  | read t update ok =>
    rw [Updates.step] at hstep
    split at hstep
    · exact Option.absurd_none hstep
    · obtain rfl := Option.some.inj hstep
      split
      · intro t' read hread
        by_cases ht : t' = t
        · rw [ht] at hread
          obtain rfl := Option.some.inj ((Function.update_self t _ _).symm.trans hread)
          rfl
        · exact h t' read ((Function.update_of_ne ht _ _).symm.trans hread)
      · exact h
  | write t ok =>
    obtain ⟨old, hold, rfl⟩ := Option.map_eq_some_iff.mp hstep
    intro t' read hread
    by_cases ht : t' = t
    · rw [ht] at hread
      exact Option.absurd_none ((Function.update_self t _ _).symm.trans hread)
    · have hagrees := h t' read ((Function.update_of_ne ht _ _).symm.trans hread)
      cases ok
      · exact hagrees
      · -- the other update leaves the part as it was when it was read
        exact hagrees.trans ((h t old hold).symm.trans (hkeeps old.1 old.2).symm)
  | change f =>
    obtain rfl := Option.some.inj hstep
    intro t read hread
    rcases hconsiderate with hrest | hnone
    · exact (h t read hread).trans hrest.symm
    · exact Option.absurd_none ((hnone t).symm.trans hread)

/-- Updates that look at nothing but the part, and keep it, are fresh when they are written. -/
theorem freshAtWrites (hkeeps : ∀ update a, rest (apply update a) = rest a)
    (hblind : ∀ update a b, rest a = rest b → apply update a = apply update b)
    {cell : Cell θ α β} (h : Agrees rest cell) {actions : List (Action θ α β)}
    (hconsiderate : Runs.Meets (step apply usable) (Considerate rest) cell actions) :
    Runs.Meets (step apply usable) (FreshAtWrite apply) cell actions := by
  induction actions generalizing cell with
  | nil => trivial
  | cons action actions ih =>
    refine ⟨?_, fun cell' hstep => ih (h.step hkeeps hconsiderate.1 hstep)
      (hconsiderate.2 cell' hstep)⟩
    rcases action with ⟨t, update, ok⟩ | ⟨t, _ | _⟩ | f
    · trivial
    · trivial
    · exact fun read hread => hblind read.1 read.2 cell.current (h t read hread)
    · trivial

end Part

end Updates
