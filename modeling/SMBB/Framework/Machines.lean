import Mathlib.Tactic.Lemma
import Mathlib.Tactic.TypeStar
import Mathlib.Data.List.Forall2

/-!
# Machines that answer

A machine takes inputs one after the other and answers each.  `answers` is what can be seen of it
from outside; there is none if an input has no meaning in the state it comes in.

Two machines that are coupled by a relation on their states give the same answers
(`answers_eq`), if inputs that belong together are answered alike and keep the relation.  The
inputs may be restricted to those that meet a condition on the second machine, which is the one
that is simpler: a specification, or the same machine under other names.
-/

namespace Machines

variable {S T I J O : Type*}

/-- The answers to a list of inputs. -/
def answers (step : S → I → Option (S × O)) : S → List I → Option (List O)
  | _, [] => some []
  | s, i :: is => (step s i).bind fun (s', o) => (answers step s' is).map (o :: ·)

/-- Every input meets `C` in the state in which it comes. -/
def Meets (step : S → I → Option (S × O)) (C : S → I → Prop) : S → List I → Prop
  | _, [] => True
  | s, i :: is => C s i ∧ ∀ s' o, step s i = some (s', o) → Meets step C s' is

/-- The state that the inputs lead to, and the answers. -/
def play (step : S → I → Option (S × O)) : S → List I → Option (S × List O)
  | s, [] => some (s, [])
  | s, i :: is =>
    (step s i).bind fun after => (play step after.1 is).map (Prod.map id (after.2 :: ·))

variable {step : S → I → Option (S × O)} {step' : T → J → Option (T × O)}

/-- A machine that answers as another one, wherever it answers at all, and stays related to it. -/
lemma play_of_step {step' : T → I → Option (T × O)} {R : S → T → Prop}
    (hstep : ∀ s t i s' o, R s t → step s i = some (s', o) →
      ∃ t', step' t i = some (t', o) ∧ R s' t')
    {s s' : S} {t : T} (hR : R s t) {is : List I} {os : List O}
    (h : play step s is = some (s', os)) :
    ∃ t', play step' t is = some (t', os) ∧ R s' t' := by
  induction is generalizing s t os with
  | nil =>
    obtain ⟨rfl, rfl⟩ := Prod.mk.inj (Option.some.inj h)
    exact ⟨t, rfl, hR⟩
  | cons i is ih =>
    obtain ⟨⟨s₁, o⟩, hs, hrest⟩ := Option.bind_eq_some_iff.mp h
    obtain ⟨⟨s₂, os₂⟩, hplay, heq⟩ := Option.map_eq_some_iff.mp hrest
    obtain ⟨rfl, rfl⟩ := Prod.mk.inj heq
    obtain ⟨t₁, ht, hR₁⟩ := hstep s t i s₁ o hR hs
    obtain ⟨t', hplay', hR'⟩ := ih hR₁ hplay
    refine ⟨t', ?_, hR'⟩
    rw [play, ht, Option.bind_some, hplay']
    rfl

lemma answers_cons {s s' : S} {i : I} {o : O} {is : List I} (h : step s i = some (s', o)) :
    answers step s (i :: is) = (answers step s' is).map (o :: ·) := by
  rw [answers, h, Option.bind_some]

/-- A machine whose states are those of another one in disguise, failing where that one fails. -/
lemma answers_map {step' : T → I → Option (T × O)} (f : T → S)
    (h : ∀ t i, step (f t) i = (step' t i).map (Prod.map f id)) (t : T) (is : List I) :
    answers step (f t) is = answers step' t is := by
  induction is generalizing t with
  | nil => rfl
  | cons i is ih =>
    rw [answers, answers, h]
    rcases step' t i with _ | ⟨t', o⟩
    · rfl
    · exact congrArg (Option.map (o :: ·)) (ih t')

/-- Machines that take the inputs alike in all states. -/
lemma answers_congr {step' : S → I → Option (S × O)} {is : List I}
    (h : ∀ i ∈ is, ∀ s, step s i = step' s i) (s : S) : answers step s is = answers step' s is := by
  induction is generalizing s with
  | nil => rfl
  | cons i is ih =>
    obtain ⟨hi, his⟩ := List.forall_mem_cons.mp h
    rw [answers, answers, hi s]
    simp only [ih his]

/-- What every input meets in every state is met. -/
lemma meets_of_forall {C : S → I → Prop} {is : List I} (hC : ∀ i ∈ is, ∀ s, C s i) (s : S) :
    Meets step C s is := by
  induction is generalizing s with
  | nil => trivial
  | cons i is ih =>
    obtain ⟨hi, his⟩ := List.forall_mem_cons.mp hC
    exact ⟨hi s, fun s' _ _ => ih his s'⟩

/-- **Coupled machines give the same answers.** -/
theorem answers_eq {R : S → T → Prop} {Q : I → J → Prop} {C : T → J → Prop}
    (hstep : ∀ s t i j, R s t → Q i j → C t j →
      ∃ s' t' o, step s i = some (s', o) ∧ step' t j = some (t', o) ∧ R s' t')
    {s : S} {t : T} (hR : R s t) {is : List I} {js : List J} (hQ : List.Forall₂ Q is js)
    (hC : Meets step' C t js) : answers step s is = answers step' t js := by
  induction hQ generalizing s t with
  | nil => rfl
  | @cons i j is js hij _ ih =>
    obtain ⟨s', t', o, hs, ht, hR'⟩ := hstep s t i j hR hij hC.1
    rw [answers_cons hs, answers_cons ht, ih hR' (hC.2 t' o ht)]

end Machines
