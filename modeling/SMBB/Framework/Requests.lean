import Mathlib.Tactic.Lemma
import Mathlib.Logic.Function.Basic

/-!
# Values kept by somebody else

A table of slots that its user cannot write: he asks, and a keeper grants or refuses.  A keeper
answers each request as it likes, in view of every request made before, so a statement for all
keepers covers every history of grants and refusals.

`askInTurn` asks for one thing after another until something is granted.  What its answer says
about the slot of the last request of the list is `askInTurn_concat_iff`: nothing new, when an
earlier one is granted.
-/

namespace Requests

variable {κ ν : Type*}

/-- A request that `slot` hold `value`. -/
structure Request (κ ν : Type*) where
  slot : κ
  value : ν
deriving DecidableEq

/-- Whether a request is granted, after the requests of the list, the latest first. -/
abbrev Keeper (κ ν : Type*) := List (Request κ ν) → Request κ ν → Bool

/-- The slots, and the requests made so far. -/
structure Table (κ ν : Type*) where
  contents : κ → ν
  asked : List (Request κ ν)

variable [DecidableEq κ]

/-- One request. -/
def ask (keeper : Keeper κ ν) (table : Table κ ν) (request : Request κ ν) : Bool × Table κ ν :=
  let granted := keeper table.asked request
  (granted,
    { contents :=
        if granted then Function.update table.contents request.slot request.value
        else table.contents
      asked := request :: table.asked })

lemma ask_fst (keeper : Keeper κ ν) (table : Table κ ν) (request : Request κ ν) :
    (ask keeper table request).1 = keeper table.asked request := rfl

/-- A granted request is kept. -/
lemma ask_granted {keeper : Keeper κ ν} {table : Table κ ν} {request : Request κ ν}
    (h : keeper table.asked request = true) :
    (ask keeper table request).2.contents request.slot = request.value := by
  show (if keeper table.asked request then _ else _ : κ → ν) request.slot = request.value
  rw [if_pos h, Function.update_self]

/-- A refused request changes no slot. -/
lemma ask_refused {keeper : Keeper κ ν} {table : Table κ ν} {request : Request κ ν}
    (h : keeper table.asked request = false) :
    (ask keeper table request).2.contents = table.contents := by
  show (if keeper table.asked request then _ else _ : κ → ν) = table.contents
  rw [h]
  exact if_neg Bool.false_ne_true

/-- A request touches no slot but its own. -/
lemma ask_other (keeper : Keeper κ ν) (table : Table κ ν) {request : Request κ ν} {slot : κ}
    (h : slot ≠ request.slot) :
    (ask keeper table request).2.contents slot = table.contents slot := by
  rcases hg : keeper table.asked request with _ | _
  · rw [ask_refused hg]
  · show (if keeper table.asked request then _ else _ : κ → ν) slot = table.contents slot
    rw [if_pos hg, Function.update_of_ne h]

/-- Ask for each of the list in turn, until one is granted. -/
def askInTurn (keeper : Keeper κ ν) : List (Request κ ν) → Table κ ν → Bool × Table κ ν
  | [], table => (false, table)
  | request :: rest, table =>
    if (ask keeper table request).1 then (true, (ask keeper table request).2)
    else askInTurn keeper rest (ask keeper table request).2

lemma askInTurn_cons_granted {keeper : Keeper κ ν} {table : Table κ ν} {request : Request κ ν}
    (rest : List (Request κ ν)) (h : keeper table.asked request = true) :
    askInTurn keeper (request :: rest) table = (true, (ask keeper table request).2) := by
  rw [askInTurn, ask_fst, if_pos h]

lemma askInTurn_cons_refused {keeper : Keeper κ ν} {table : Table κ ν} {request : Request κ ν}
    (rest : List (Request κ ν)) (h : keeper table.asked request = false) :
    askInTurn keeper (request :: rest) table
      = askInTurn keeper rest (ask keeper table request).2 := by
  rw [askInTurn, ask_fst, h]
  exact if_neg Bool.false_ne_true

lemma askInTurn_singleton (keeper : Keeper κ ν) (table : Table κ ν) (request : Request κ ν) :
    askInTurn keeper [request] table = ask keeper table request := by
  rcases hg : (ask keeper table request).1 with _ | _
  · rw [askInTurn_cons_refused [] hg]
    exact Prod.ext hg.symm rfl
  · rw [askInTurn_cons_granted [] hg]
    exact Prod.ext hg.symm rfl

/-- A turn touches no slot but those it asks for. -/
lemma askInTurn_other (keeper : Keeper κ ν) {slot : κ} :
    ∀ (requests : List (Request κ ν)) (table : Table κ ν),
      (∀ request ∈ requests, slot ≠ request.slot) →
      (askInTurn keeper requests table).2.contents slot = table.contents slot
  | [], _, _ => rfl
  | request :: rest, table, hslots => by
    have hother := ask_other keeper table (hslots request List.mem_cons_self)
    rcases hg : keeper table.asked request with _ | _
    · rw [askInTurn_cons_refused rest hg]
      have ih := askInTurn_other keeper rest (ask keeper table request).2
        (fun r hr => hslots r (List.mem_cons_of_mem request hr))
      exact ih.trans hother
    · rw [askInTurn_cons_granted rest hg]
      exact hother

/-- What a granted turn says about its last request: that its slot meets `P`, if it did so before
and one of the others is granted, or if the value asked for does and they are all refused. -/
theorem askInTurn_concat_iff (keeper : Keeper κ ν) (last : Request κ ν) (P : ν → Prop) :
    ∀ (earlier : List (Request κ ν)) (table : Table κ ν),
      (∀ request ∈ earlier, last.slot ≠ request.slot) →
      (((askInTurn keeper (earlier ++ [last]) table).1 = true →
          P ((askInTurn keeper (earlier ++ [last]) table).2.contents last.slot))
        ↔ ((askInTurn keeper earlier table).1 = true → P (table.contents last.slot))
          ∧ ((askInTurn keeper earlier table).1 = false →
            keeper (askInTurn keeper earlier table).2.asked last = true → P last.value))
  | [], table, _ => by
    rw [List.nil_append, askInTurn_singleton, ask_fst]
    constructor
    · refine fun h => ⟨fun hfalse => absurd hfalse Bool.false_ne_true, fun _ hg => ?_⟩
      have hgranted : keeper table.asked last = true := hg
      have hlast := h hgranted
      rwa [ask_granted hgranted] at hlast
    · intro h hg
      rw [ask_granted hg]
      exact h.2 rfl hg
  | request :: rest, table, hslots => by
    have hother := ask_other keeper table (hslots request List.mem_cons_self)
    rcases hg : keeper table.asked request with _ | _
    · have ih := askInTurn_concat_iff keeper last P rest (ask keeper table request).2
        (fun r hr => hslots r (List.mem_cons_of_mem request hr))
      rw [List.cons_append, askInTurn_cons_refused _ hg, askInTurn_cons_refused _ hg]
      rwa [hother] at ih
    · rw [List.cons_append, askInTurn_cons_granted _ hg, askInTurn_cons_granted _ hg]
      show (true = true → P ((ask keeper table request).2.contents last.slot))
        ↔ (true = true → P (table.contents last.slot)) ∧ (true = false → _)
      rw [hother]
      exact ⟨fun h => ⟨h, fun hf => absurd hf.symm Bool.false_ne_true⟩, fun h => h.1⟩

end Requests
