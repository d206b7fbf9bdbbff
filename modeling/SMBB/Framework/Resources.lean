import SMBB.Framework.Pieces
import SMBB.Framework.Runs

/-!
# Resources that are acquired and released

A program acquires resources, uses them and releases them; each is named by an address, has a size,
and must be released the way its source asks for.  `step` is partial where a program would go
wrong: it uses or releases what it does not have, uses more than there is, or releases the wrong
way.  That a run of its events ends with the resources it began with is that it neither goes wrong
nor leaks.
-/

namespace Resources

open Pieces

variable {A κ : Type*}

/-- What is behind an address. -/
structure Resource (κ : Type*) where
  source : κ
  size : ℕ
deriving DecidableEq

/-- What a program does with its resources. -/
inductive Event (A κ : Type*)
  | acquire (a : A) (resource : Resource κ)
  | use (a : A) (size : ℕ)
  | release (source : κ) (a : A)
deriving DecidableEq

variable [DecidableEq A] [DecidableEq κ] {held : Pieces.Space A (Resource κ)} {a : A}
  {resource : Resource κ} {size : ℕ}

/-- One event. -/
def step (held : Pieces.Space A (Resource κ)) : Event A κ → Option (Pieces.Space A (Resource κ))
  | .acquire a resource =>
    if (held a).isSome then none else some (Pieces.Space.place held (single a resource))
  | .use a size => (held a).bind fun resource => if size ≤ resource.size then some held else none
  | .release source a =>
    (held a).bind fun resource =>
      if resource.source = source then some (Pieces.Space.clear held fun b => b = a) else none

lemma step_acquire (hfree : held a = none) :
    step held (.acquire a resource) = some (Pieces.Space.place held (single a resource)) := by
  rw [step, hfree]
  rfl

lemma step_use (hheld : held a = some resource) (hsize : size ≤ resource.size) :
    step held (.use a size) = some held := by
  rw [step, hheld, Option.bind_some, if_pos hsize]

lemma step_release (hheld : held a = some resource) :
    step held (.release resource.source a) = some (Pieces.Space.clear held fun b => b = a) := by
  rw [step, hheld, Option.bind_some, if_pos rfl]

/-- A resource that was acquired is given back. -/
lemma step_release_acquired (hfree : held a = none) :
    step (Pieces.Space.place held (single a resource)) (.release resource.source a)
      = some held := by
  have hheld : Pieces.Space.place held (single a resource) a = some resource := by
    rw [Pieces.Space.place, single_self, Option.some_or]
  rw [step_release hheld, clear_place_single hfree]

end Resources
