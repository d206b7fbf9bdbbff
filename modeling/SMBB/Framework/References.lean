import SMBB.Framework.PartialMaps
import Mathlib.Tactic.Lemma
import Mathlib.Tactic.TypeStar
import Mathlib.Data.List.Nodup
import Mathlib.Logic.Function.Basic

/-!
# Records behind references

Holders have references into a heap that gives them out, and some references of the heap are held
by nobody.  `Refers` says that to each holder this looks as if it had its record itself: no two
holders have the same reference, and none has one of the strays.

The heap changes in three ways: a holder without a reference is given a fresh one
(`Refers.allocate`), a record is written through the reference of its holder (`Refers.write`), and
a record that nobody holds is made (`Refers.stray`).
-/

namespace References

variable {ι δ ρ : Type*}

/-- The holders with the references `reference` into `heap` have the records `own`, and the
references of `strays` are held by nobody. -/
structure Refers (reference : ι → Option δ) (heap : δ → Option ρ) (own : ι → Option ρ)
    (strays : List δ) : Prop where
  own_eq : ∀ i, own i = (reference i).bind heap
  live_iff : ∀ d, heap d ≠ none ↔ (∃ i, reference i = some d) ∨ d ∈ strays
  holder_unique : ∀ i j d, reference i = some d → reference j = some d → i = j
  unheld : ∀ i, ∀ d ∈ strays, reference i ≠ some d
  nodup : strays.Nodup

/-- Nobody has anything. -/
lemma refers_nothing :
    Refers (fun _ : ι => none) (fun _ : δ => none) (fun _ => (none : Option ρ)) [] where
  own_eq _ := rfl
  live_iff _ := by simp
  holder_unique _ _ _ h := Option.absurd_none h
  unheld _ _ h := absurd h List.not_mem_nil
  nodup := List.nodup_nil

namespace Refers

variable {reference : ι → Option δ} {heap : δ → Option ρ} {own : ι → Option ρ}
  {strays : List δ} {i : ι} {d : δ}

/-- A holder has a record if it has a reference. -/
lemma own_eq_none_iff (h : Refers reference heap own strays) :
    own i = none ↔ reference i = none := by
  rw [h.own_eq]
  rcases hd : reference i with _ | d
  · exact iff_of_true rfl rfl
  · refine iff_of_false ((h.live_iff d).mpr (Or.inl ⟨i, hd⟩)) (Option.some_ne_none d)

/-- What is not live is not held. -/
lemma ne_of_heap_eq_none (h : Refers reference heap own strays) (hfresh : heap d = none) (j : ι) :
    reference j ≠ some d :=
  fun hj => (h.live_iff d).mpr (Or.inl ⟨j, hj⟩) hfresh

variable [DecidableEq δ]

/-- A fresh reference for nobody. -/
lemma stray (h : Refers reference heap own strays) (hfresh : heap d = none) (r : ρ) :
    Refers reference (Function.update heap d (some r)) own (d :: strays) where
  own_eq j := by
    rw [h.own_eq]
    rcases hj : reference j with _ | e
    · rfl
    · have hne : e ≠ d := fun he => h.ne_of_heap_eq_none hfresh j (he ▸ hj)
      exact (Function.update_of_ne hne (some r) heap).symm
  live_iff e := by
    rw [List.mem_cons]
    by_cases he : e = d
    · subst he
      rw [Function.update_self]
      exact iff_of_true (Option.some_ne_none r) (Or.inr (Or.inl rfl))
    · rw [Function.update_of_ne he, h.live_iff]
      tauto
  holder_unique := h.holder_unique
  unheld j e he := by
    rcases List.mem_cons.mp he with rfl | he
    · exact h.ne_of_heap_eq_none hfresh j
    · exact h.unheld j e he
  nodup := List.nodup_cons.mpr ⟨fun hd => (h.live_iff d).mpr (Or.inr hd) hfresh, h.nodup⟩

/-- The live references stay what they are when the record of one is written. -/
lemma update_ne_none_iff (hlive : heap d ≠ none) (r : ρ) (e : δ) :
    Function.update heap d (some r) e ≠ none ↔ heap e ≠ none := by
  by_cases he : e = d
  · subst he
    rw [Function.update_self]
    exact iff_of_true (Option.some_ne_none r) hlive
  · rw [Function.update_of_ne he]

variable [DecidableEq ι]

/-- A record is written through the reference of its holder. -/
lemma write (h : Refers reference heap own strays) (hi : reference i = some d) (r : ρ) :
    Refers reference (Function.update heap d (some r)) (Function.update own i (some r))
      strays where
  own_eq j := by
    by_cases hj : j = i
    · subst hj
      rw [Function.update_self, hi]
      exact (Function.update_self d (some r) heap).symm
    · rw [Function.update_of_ne hj, h.own_eq]
      rcases he : reference j with _ | e
      · rfl
      · have hne : e ≠ d := fun hed => hj (h.holder_unique j i d (hed ▸ he) hi)
        exact (Function.update_of_ne hne (some r) heap).symm
  live_iff e := by
    rw [update_ne_none_iff ((h.live_iff d).mpr (Or.inl ⟨i, hi⟩)), h.live_iff]
  holder_unique := h.holder_unique
  unheld := h.unheld
  nodup := h.nodup

/-- A holder without a reference is given a fresh one. -/
lemma allocate (h : Refers reference heap own strays) (hi : reference i = none)
    (hfresh : heap d = none) (r : ρ) :
    Refers (Function.update reference i (some d)) (Function.update heap d (some r))
      (Function.update own i (some r)) strays where
  own_eq j := by
    by_cases hj : j = i
    · subst hj
      rw [Function.update_self, Function.update_self]
      exact (Function.update_self d (some r) heap).symm
    · rw [Function.update_of_ne hj, Function.update_of_ne hj, h.own_eq]
      rcases he : reference j with _ | e
      · rfl
      · have hne : e ≠ d := fun hed => h.ne_of_heap_eq_none hfresh j (hed ▸ he)
        exact (Function.update_of_ne hne (some r) heap).symm
  live_iff e := by
    by_cases he : e = d
    · subst he
      rw [Function.update_self]
      exact iff_of_true (Option.some_ne_none r) (Or.inl ⟨i, by rw [Function.update_self]⟩)
    · rw [Function.update_of_ne he, h.live_iff]
      refine or_congr_left ⟨?_, ?_⟩
      · rintro ⟨j, hj⟩
        have hne : j ≠ i := fun hji => Option.some_ne_none e (hj.symm.trans (hji ▸ hi))
        exact ⟨j, (Function.update_of_ne hne _ _).trans hj⟩
      · rintro ⟨j, hj⟩
        by_cases hji : j = i
        · rw [hji, Function.update_self] at hj
          exact absurd (Option.some.inj hj).symm he
        · exact ⟨j, (Function.update_of_ne hji _ _).symm.trans hj⟩
  holder_unique j k e hj hk := by
    by_cases hji : j = i <;> by_cases hki : k = i
    · rw [hji, hki]
    · rw [hji, Function.update_self] at hj
      rw [Function.update_of_ne hki, ← hj] at hk
      exact absurd hk (h.ne_of_heap_eq_none hfresh k)
    · rw [hki, Function.update_self] at hk
      rw [Function.update_of_ne hji, ← hk] at hj
      exact absurd hj (h.ne_of_heap_eq_none hfresh j)
    · rw [Function.update_of_ne hji] at hj
      rw [Function.update_of_ne hki] at hk
      exact h.holder_unique j k e hj hk
  unheld j e he := by
    by_cases hji : j = i
    · rw [hji, Function.update_self]
      intro hde
      exact (h.live_iff d).mpr (Or.inr (Option.some.inj hde ▸ he)) hfresh
    · rw [Function.update_of_ne hji]
      exact h.unheld j e he
  nodup := h.nodup

end Refers

end References
