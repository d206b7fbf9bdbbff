import Mathlib.Tactic.Lemma
import Mathlib.Tactic.TypeStar
import Mathlib.Data.Nat.Notation
import Mathlib.Logic.Function.Basic

/-!
# Views of shared cells

Entities have cells, numbered from zero, and a view shows `size` consecutive cells of one entity.
Any number of views are shown and hidden, and cells are stored through those that are writable.
A view has no cells of its own: what is stored through one is read through every other that shows
the same cell (`read_store`).

An entity has only so many cells, and the number changes: a view goes on showing its range, but
what lies behind the last cell can neither be read nor stored.
-/

namespace Views

variable {κ ε β : Type*}

/-- The cells `offset`, …, `offset + size - 1` of an entity. -/
structure View (ε : Type*) where
  entity : ε
  offset : ℕ
  size : ℕ
  writable : Bool

/-- The views that are shown, the cells of the entities, and how many each of them has. -/
structure State (κ ε β : Type*) where
  views : κ → Option (View ε)
  contents : ε × ℕ → β
  extent : ε → ℕ

/-- What can happen to views. -/
inductive Action (κ ε β : Type*)
  | display (k : κ) (view : View ε)
  | hide (k : κ)
  | store (k : κ) (index : ℕ) (value : β)
  /-- An entity gets another number of cells; those from `kept` on are blank. -/
  | resize (entity : ε) (kept extent : ℕ) (blank : β)
  /-- What others do to the entities. -/
  | outside (contents : ε × ℕ → β) (extent : ε → ℕ)

/-- The cell that an index of a view shows. -/
def View.cell (view : View ε) (index : ℕ) : ε × ℕ := (view.entity, view.offset + index)

/-- No view is shown. -/
def State.initial (contents : ε × ℕ → β) (extent : ε → ℕ) : State κ ε β :=
  ⟨fun _ => none, contents, extent⟩

/-- The entity of a view has the cell that an index shows. -/
def State.Has (s : State κ ε β) (view : View ε) (index : ℕ) : Prop :=
  index < view.size ∧ view.offset + index < s.extent view.entity

instance (s : State κ ε β) (view : View ε) (index : ℕ) : Decidable (s.Has view index) :=
  inferInstanceAs (Decidable (_ ∧ _))

/-- Reads the cell that an index of a view shows. -/
def State.read (s : State κ ε β) (k : κ) (index : ℕ) : Option β :=
  (s.views k).bind fun view =>
    if s.Has view index then some (s.contents (view.cell index)) else none

variable [DecidableEq κ] [DecidableEq ε]

/-- One action.  There is no storing through a view that is not writable, or behind its end or the
one of its entity. -/
def step (s : State κ ε β) : Action κ ε β → Option (State κ ε β)
  | .display k view =>
    if (s.views k).isSome then none
    else some { s with views := Function.update s.views k (some view) }
  | .hide k =>
    if (s.views k).isSome then some { s with views := Function.update s.views k none } else none
  | .store k index value =>
    (s.views k).bind fun view =>
      if s.Has view index ∧ view.writable = true then
        some { s with contents := Function.update s.contents (view.cell index) value }
      else none
  | .resize entity kept extent blank =>
    some { s with
      contents := fun cell =>
        if cell.1 = entity ∧ kept ≤ cell.2 then blank else s.contents cell
      extent := Function.update s.extent entity extent }
  | .outside contents extent => some { s with contents, extent }

variable {s s' : State κ ε β} {k l : κ}

end Views
