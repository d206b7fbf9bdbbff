import Mathlib.Tactic.Lemma
import Mathlib.Tactic.TypeStar
import Mathlib.Logic.Function.Basic

/-!
# Partial maps

A function into `Option` gives some points a value.  These are the two facts that every case
analysis over such a function needs: a point has no value or it has one, and what holds of all
values goes on holding after one of them is replaced.
-/

/-- What has no value has not this one. -/
lemma Option.absurd_none {α : Type*} {a : α} {p : Prop} (h : none = some a) : p :=
  absurd h.symm (Option.some_ne_none a)

namespace PartialMaps

variable {ι α : Type*} [DecidableEq ι]

/-- What holds of all values and of a new one holds after the new one is put in its place. -/
lemma forall_update {P : α → Prop} {f : ι → Option α} {i : ι} {o : Option α}
    (h : ∀ {j a}, f j = some a → P a) (ho : ∀ {a}, o = some a → P a) {j : ι} {a : α}
    (hj : Function.update f i o j = some a) : P a := by
  rw [Function.update_apply] at hj
  split at hj
  · exact ho hj
  · exact h hj

end PartialMaps
