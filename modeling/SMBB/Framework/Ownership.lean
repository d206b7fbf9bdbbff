import SMBB.Framework.PartialMaps
import Mathlib.Tactic.Lemma
import Mathlib.Data.Finset.Insert
import Mathlib.Data.Finset.Erase
import Mathlib.Logic.Function.Basic
import Mathlib.Logic.Equiv.Basic
import SMBB.Framework.Runs

/-!
# Exclusive ownership of handles

A process is given handles and gives them back.  `Table` is the side that hands them out: the
handles that are open, and how many were given back that were not open.  A handle that is open is
never handed out again.  The other side is a family of holders, each with room for one handle;
`follow` is what one holder may do: take a handle while it has none, and give back the one it has.

`Exclusive` is the invariant between the two sides: the open handles are the held ones, no two
holders have the same one, and nothing was given back twice.  `Exclusive.run` says that it is
kept as long as every holder follows the rule, whatever handles the table chooses, and
`Exclusive.comp` that the holders may exchange what they hold.

`history` is what happened to one handle.  As long as nothing is given back twice, it is itself a
sequence that follows the rule (`follow_history`): the handle is taken and given back in turn.
-/

namespace Ownership

variable {ι δ : Type*}

/-- What happens to a handle. -/
inductive Event (δ : Type*)
  | acquire (d : δ)
  | release (d : δ)
deriving DecidableEq

/-- What a holder of `held` holds afterwards, or `none` where it may not do this. -/
def follow [DecidableEq δ] (held : Option δ) : Event δ → Option (Option δ)
  | .acquire d => if held = none then some (some d) else none
  | .release d => if held = some d then some none else none

/-- The open handles, and the number of handles that were given back while they were not open. -/
structure Table (δ : Type*) where
  openHandles : Finset δ
  stray : ℕ

/-- A table that has handed out nothing. -/
def Table.empty : Table δ := ⟨∅, 0⟩

variable [DecidableEq δ]

/-- The effect of an event on the table.  An open handle is not handed out again. -/
def Table.apply (t : Table δ) : Event δ → Option (Table δ)
  | .acquire d => if d ∈ t.openHandles then none else some ⟨insert d t.openHandles, t.stray⟩
  | .release d =>
    some (if d ∈ t.openHandles then ⟨t.openHandles.erase d, t.stray⟩
      else ⟨t.openHandles, t.stray + 1⟩)

/-- The open handles are the held ones, each with one holder, and none was given back twice. -/
structure Exclusive (held : ι → Option δ) (t : Table δ) : Prop where
  mem_iff : ∀ d, d ∈ t.openHandles ↔ ∃ i, held i = some d
  holder_unique : ∀ {i j d}, held i = some d → held j = some d → i = j
  stray_eq_zero : t.stray = 0

omit [DecidableEq δ] in
lemma exclusive_empty : Exclusive (fun _ : ι => (none : Option δ)) Table.empty where
  mem_iff d := by simp [Table.empty]
  holder_unique := by simp
  stray_eq_zero := rfl

namespace Exclusive

variable [DecidableEq ι] {held : ι → Option δ} {t t' : Table δ}

/-- A holder without a handle takes one that is not open. -/
lemma acquire (h : Exclusive held t) {i : ι} {d : δ} (hi : held i = none)
    (hd : d ∉ t.openHandles) :
    Exclusive (Function.update held i (some d)) ⟨insert d t.openHandles, t.stray⟩ where
  mem_iff d' := by
    rw [Finset.mem_insert, h.mem_iff]
    constructor
    · rintro (rfl | ⟨j, hj⟩)
      · exact ⟨i, Function.update_self i _ held⟩
      · have hne : j ≠ i := by
          rintro rfl
          rw [hi] at hj
          exact Option.absurd_none hj
        exact ⟨j, (Function.update_of_ne hne _ held).trans hj⟩
    · rintro ⟨j, hj⟩
      by_cases hji : j = i
      · rw [hji, Function.update_self] at hj
        exact Or.inl (Option.some.inj hj).symm
      · rw [Function.update_of_ne hji] at hj
        exact Or.inr ⟨j, hj⟩
  holder_unique {j k d'} hj hk := by
    have hfree : ∀ l, held l ≠ some d := fun l hl => hd ((h.mem_iff d).mpr ⟨l, hl⟩)
    rw [Function.update_apply] at hj hk
    split at hj <;> split at hk
    · simp_all
    · exact absurd (hk.trans hj.symm) (hfree k)
    · exact absurd (hj.trans hk.symm) (hfree j)
    · exact h.holder_unique hj hk
  stray_eq_zero := h.stray_eq_zero

/-- A holder gives its handle back. -/
lemma release (h : Exclusive held t) {i : ι} {d : δ} (hi : held i = some d) :
    Exclusive (Function.update held i none) ⟨t.openHandles.erase d, t.stray⟩ where
  mem_iff d' := by
    rw [Finset.mem_erase, h.mem_iff]
    constructor
    · rintro ⟨hne, j, hj⟩
      have hji : j ≠ i := by
        rintro rfl
        exact hne (Option.some.inj (hj.symm.trans hi))
      exact ⟨j, (Function.update_of_ne hji _ held).trans hj⟩
    · rintro ⟨j, hj⟩
      rw [Function.update_apply] at hj
      split at hj
      · exact Option.absurd_none hj
      · rename_i hji
        refine ⟨?_, j, hj⟩
        rintro rfl
        exact hji (h.holder_unique hj hi)
  holder_unique {j k d'} hj hk := by
    rw [Function.update_apply] at hj hk
    split at hj
    · exact Option.absurd_none hj
    · split at hk
      · exact Option.absurd_none hk
      · exact h.holder_unique hj hk
  stray_eq_zero := h.stray_eq_zero

/-- One event of a holder that follows the rule. -/
lemma step (h : Exclusive held t) {i : ι} {e : Event δ} {now : Option δ}
    (hfollow : follow (held i) e = some now) (happly : t.apply e = some t') :
    Exclusive (Function.update held i now) t' := by
  cases e with
  | acquire d =>
    rw [follow, Option.ite_none_right_eq_some] at hfollow
    rw [Table.apply, Option.ite_none_left_eq_some] at happly
    obtain ⟨hi, rfl⟩ := hfollow.imp_right Option.some.inj
    obtain ⟨hd, rfl⟩ := happly.imp_right Option.some.inj
    exact h.acquire hi hd
  | release d =>
    rw [follow, Option.ite_none_right_eq_some] at hfollow
    obtain ⟨hi, rfl⟩ := hfollow.imp_right Option.some.inj
    have hmem : d ∈ t.openHandles := (h.mem_iff d).mpr ⟨i, hi⟩
    rw [Table.apply, if_pos hmem] at happly
    obtain rfl := Option.some.inj happly
    exact h.release hi

omit [DecidableEq δ] [DecidableEq ι] in
/-- The holders exchange what they hold. -/
lemma comp (h : Exclusive held t) (e : Equiv.Perm ι) : Exclusive (held ∘ e) t where
  mem_iff d := by
    rw [h.mem_iff]
    constructor
    · rintro ⟨i, hi⟩
      exact ⟨e.symm i, by rwa [Function.comp_apply, Equiv.apply_symm_apply]⟩
    · rintro ⟨i, hi⟩
      exact ⟨e i, hi⟩
  holder_unique hi hj := e.injective (h.holder_unique hi hj)
  stray_eq_zero := h.stray_eq_zero

/-- **A holder that follows the rule keeps the handles exclusive.** -/
theorem run (h : Exclusive held t) {i : ι} {events : List (Event δ)} {now : Option δ}
    (hfollow : Runs.run follow (held i) events = some now)
    (happly : Runs.run Table.apply t events = some t') :
    Exclusive (Function.update held i now) t' := by
  induction events generalizing held t with
  | nil =>
    obtain rfl := Option.some.inj hfollow
    obtain rfl := Option.some.inj happly
    rwa [Function.update_eq_self]
  | cons e events ih =>
    obtain ⟨next, hnext, hfollow⟩ := Runs.run_cons_eq_some.mp hfollow
    obtain ⟨t₁, ht₁, happly⟩ := Runs.run_cons_eq_some.mp happly
    have hrest := ih (h.step hnext ht₁) (by rwa [Function.update_self]) happly
    rwa [Function.update_idem] at hrest

end Exclusive

/-! ## The history of a handle -/

/-- The handle of an event. -/
def Event.handle : Event δ → δ
  | .acquire d => d
  | .release d => d

/-- What happened to a handle. -/
def history (d : δ) (log : List (Event δ)) : List (Event δ) :=
  log.filter fun e => e.handle = d

/-- The handle, if it is open. -/
def Table.whileOpen (t : Table δ) (d : δ) : Option δ := if d ∈ t.openHandles then some d else none

section History

variable {t t' : Table δ} {e : Event δ} {d : δ} {log : List (Event δ)}

lemma history_cons_self (e : Event δ) (log : List (Event δ)) :
    history e.handle (e :: log) = e :: history e.handle log :=
  List.filter_cons_of_pos (decide_eq_true rfl)

lemma history_cons_of_ne (hd : e.handle ≠ d) (log : List (Event δ)) :
    history d (e :: log) = history d log :=
  List.filter_cons_of_neg (Bool.not_eq_true _ ▸ decide_eq_false hd)

lemma Table.stray_le_apply (h : t.apply e = some t') : t.stray ≤ t'.stray := by
  cases e with
  | acquire d =>
    rw [Table.apply, Option.ite_none_left_eq_some] at h
    obtain ⟨-, rfl⟩ := h.imp_right Option.some.inj
    exact le_refl _
  | release d =>
    rw [Table.apply] at h
    obtain rfl := Option.some.inj h
    split
    · exact le_refl _
    · exact Nat.le_succ _

lemma Table.stray_le_run (h : Runs.run Table.apply t log = some t') : t.stray ≤ t'.stray := by
  induction log generalizing t with
  | nil =>
    obtain rfl : t = t' := Option.some.inj h
    exact le_refl _
  | cons e log ih =>
    obtain ⟨t₁, ht₁, hrest⟩ := Runs.run_cons_eq_some.mp h
    exact le_trans (Table.stray_le_apply ht₁) (ih hrest)

/-- An event that is not stray follows the rule of its own handle. -/
lemma Table.follow_apply (h : t.apply e = some t') (hstray : t'.stray = t.stray) :
    follow (t.whileOpen e.handle) e = some (t'.whileOpen e.handle) := by
  cases e with
  | acquire d =>
    rw [Table.apply, Option.ite_none_left_eq_some] at h
    obtain ⟨hd, rfl⟩ := h.imp_right Option.some.inj
    simp [follow, whileOpen, Event.handle, hd]
  | release d =>
    rw [Table.apply] at h
    obtain rfl := Option.some.inj h
    by_cases hd : d ∈ t.openHandles
    · simp [follow, whileOpen, Event.handle, hd]
    · simp [hd] at hstray

lemma Table.whileOpen_apply_of_ne (h : t.apply e = some t') (hd : e.handle ≠ d) :
    t'.whileOpen d = t.whileOpen d := by
  cases e with
  | acquire d' =>
    rw [Table.apply, Option.ite_none_left_eq_some] at h
    obtain ⟨-, rfl⟩ := h.imp_right Option.some.inj
    have hne : d ≠ d' := Ne.symm hd
    simp [whileOpen, Finset.mem_insert, hne]
  | release d' =>
    rw [Table.apply] at h
    obtain rfl := Option.some.inj h
    have hne : d ≠ d' := Ne.symm hd
    split
    · simp [whileOpen, Finset.mem_erase, hne]
    · rfl

/-- **Every handle is taken and given back in turn,** if none was given back twice. -/
theorem follow_history (h : Runs.run Table.apply t log = some t') (hstray : t'.stray = t.stray)
    (d : δ) :
    Runs.run follow (t.whileOpen d) (history d log) = some (t'.whileOpen d) := by
  induction log generalizing t with
  | nil =>
    obtain rfl : t = t' := Option.some.inj h
    rfl
  | cons e log ih =>
    obtain ⟨t₁, ht₁, hrest⟩ := Runs.run_cons_eq_some.mp h
    have hle := Table.stray_le_apply ht₁
    have hle' := Table.stray_le_run hrest
    have hstray₁ : t₁.stray = t.stray := by omega
    have hrest := ih hrest (by omega)
    by_cases hd : e.handle = d
    · subst hd
      rw [history_cons_self]
      exact Runs.run_cons_eq_some.mpr ⟨_, Table.follow_apply ht₁ hstray₁, hrest⟩
    · rw [history_cons_of_ne hd, ← Table.whileOpen_apply_of_ne ht₁ hd]
      exact hrest

end History

end Ownership
