import SMBB.Framework.PartialMaps
import Mathlib.Tactic.Lemma
import Mathlib.Tactic.TypeStar
import Mathlib.Data.Nat.Notation
import Mathlib.Logic.Function.Basic

/-!
# A space that is cut into pieces

A space gives some of its points a value: a table of descriptors, the pages of an address space.
Several holders each hold a piece of it.  `Tiles` is the invariant between the two sides: a point
that somebody holds has the value that the holder gives it, every point with a value is held, and
no point has two holders.

A holder that has nothing may be given points that are free (`Tiles.place`), and may give back all
it has (`Tiles.clear`).  Neither touches what the others hold.  What was there before anybody came
is the piece of one more holder, who never gives it back (`withRest`).
-/

namespace Pieces

variable {ι A V : Type*}

/-- A space or a piece of one: the points that have a value. -/
abbrev Space (A V : Type*) := A → Option V

/-- Nothing has a value. -/
def nothing : Space A V := fun _ => none

/-- The points of the piece get its values. -/
def Space.place (space piece : Space A V) : Space A V := fun a => (piece a).or (space a)

/-- The points of a set lose their values. -/
def Space.clear (space : Space A V) (points : A → Bool) : Space A V :=
  fun a => if points a then none else space a

lemma Space.place_place (space piece piece' : Space A V) :
    (space.place piece).place piece' = space.place (piece.place piece') := by
  funext a
  exact Option.or_assoc.symm

lemma Space.clear_clear (space : Space A V) (points points' : A → Bool) :
    (space.clear points).clear points' = space.clear fun a => points a || points' a := by
  funext a
  rw [Space.clear, Space.clear, Space.clear]
  cases points a <;> cases points' a <;> rfl

lemma Space.isSome_place (space piece : Space A V) (a : A) :
    (space.place piece a).isSome = ((piece a).isSome || (space a).isSome) :=
  Option.isSome_or

/-- Points that are given while they are free take nothing away. -/
lemma Space.place_of_free {space piece : Space A V}
    (hfree : ∀ {a v}, piece a = some v → space a = none) {a : A} {v : V} (ha : space a = some v) :
    space.place piece a = some v := by
  rcases hpiece : piece a with _ | v'
  · rw [Space.place, hpiece, Option.none_or, ha]
  · rw [hfree hpiece] at ha
    exact Option.absurd_none ha

/-- The piece of a holder that has something while it is valid. -/
def pieceOf {B : Type*} (valid : Bool) (o : Option B) (f : B → Space A V) : Space A V :=
  if valid then o.elim nothing f else nothing

lemma pieceOf_false {B : Type*} (o : Option B) (f : B → Space A V) :
    pieceOf false o f = nothing := rfl

lemma pieceOf_true {B : Type*} (x : B) (f : B → Space A V) : pieceOf true (some x) f = f x := rfl

/-- The pieces are disjoint, and together they are the space. -/
structure Tiles (pieces : ι → Space A V) (space : Space A V) : Prop where
  apply_of_piece : ∀ {i a v}, pieces i a = some v → space a = some v
  exists_piece : ∀ {a v}, space a = some v → ∃ i, pieces i a = some v
  holder_unique : ∀ {i j a v v'}, pieces i a = some v → pieces j a = some v' → i = j

namespace Tiles

variable [DecidableEq ι] {pieces : ι → Space A V} {space : Space A V} {i : ι}

/-- A holder that has nothing is given points that are free. -/
lemma place (h : Tiles pieces space) {piece : Space A V} (hi : pieces i = nothing)
    (hfree : ∀ {a v}, piece a = some v → space a = none) :
    Tiles (Function.update pieces i piece) (space.place piece) where
  apply_of_piece {j a v} hj := by
    rw [Function.update_apply] at hj
    split at hj
    · rw [Space.place, hj, Option.some_or]
    · have hspace := h.apply_of_piece hj
      rcases hpiece : piece a with _ | v'
      · rw [Space.place, hpiece, Option.none_or, hspace]
      · rw [hfree hpiece] at hspace
        exact Option.absurd_none hspace
  exists_piece {a v} ha := by
    rcases hpiece : piece a with _ | v'
    · rw [Space.place, hpiece, Option.none_or] at ha
      obtain ⟨j, hj⟩ := h.exists_piece ha
      have hji : j ≠ i := by
        rintro rfl
        rw [hi] at hj
        exact Option.absurd_none hj
      exact ⟨j, by rw [Function.update_of_ne hji, hj]⟩
    · rw [Space.place, hpiece, Option.some_or] at ha
      exact ⟨i, by rw [Function.update_self, hpiece, ha]⟩
  holder_unique {j k a v v'} hj hk := by
    have hothers : ∀ {l w w'}, piece a = some w → pieces l a = some w' → False :=
      fun hp hl => Option.some_ne_none _ ((h.apply_of_piece hl).symm.trans (hfree hp))
    rw [Function.update_apply] at hj hk
    split at hj <;> split at hk
    · simp_all
    · exact (hothers hj hk).elim
    · exact (hothers hk hj).elim
    · exact h.holder_unique hj hk

/-- A holder that has nothing goes on having nothing. -/
lemma update_nothing (h : Tiles pieces space) (hi : pieces i = nothing) :
    Tiles (Function.update pieces i nothing) space := by
  rw [← hi, Function.update_eq_self]
  exact h

/-- A holder gives back all it has. -/
lemma clear (h : Tiles pieces space) {points : A → Bool}
    (hpoints : ∀ a, points a = (pieces i a).isSome) :
    Tiles (Function.update pieces i nothing) (space.clear points) where
  apply_of_piece {j a v} hj := by
    rw [Function.update_apply] at hj
    split at hj
    · exact Option.absurd_none hj
    · rename_i hji
      have hnot : points a = false := by
        rw [hpoints, Option.isSome_eq_false_iff, Option.isNone_iff_eq_none]
        by_contra hheld
        obtain ⟨w, hw⟩ := Option.ne_none_iff_exists'.mp hheld
        exact hji (h.holder_unique hj hw)
      rw [Space.clear, hnot, if_neg Bool.false_ne_true, h.apply_of_piece hj]
  exists_piece {a v} ha := by
    rw [Space.clear, Option.ite_none_left_eq_some] at ha
    obtain ⟨j, hj⟩ := h.exists_piece ha.2
    have hji : j ≠ i := by
      rintro rfl
      exact ha.1 (by rw [hpoints, hj, Option.isSome_some])
    exact ⟨j, by rw [Function.update_of_ne hji, hj]⟩
  holder_unique {j k a v v'} hj hk := by
    rw [Function.update_apply] at hj hk
    split at hj
    · exact Option.absurd_none hj
    · split at hk
      · exact Option.absurd_none hk
      · exact h.holder_unique hj hk

/-- A holder gives back all it has, which is nothing if it is not valid. -/
lemma release {B : Type*} {valid : Bool} {o : Option B} {f : B → Space A V} {points : A → Bool}
    (h : Tiles pieces space) (hi : pieces i = pieceOf valid o f)
    (hpoints : valid = true → ∀ a, points a = (pieceOf valid o f a).isSome) :
    Tiles (Function.update pieces i nothing) (if valid then space.clear points else space) := by
  cases valid with
  | false => exact h.update_nothing hi
  | true => exact h.clear fun a => hi ▸ hpoints rfl a

end Tiles

/-! ## Objects in places -/

section WithRest

variable {O : Type*} (rest : Space A V) (piece : O → Space A V)

/-- The pieces of the objects that are there, and `rest` as the piece of one more holder. -/
def withRest (objects : ι → Option O) : Option ι → Space A V
  | none => rest
  | some i => (objects i).elim nothing piece

variable {rest piece} in
lemma withRest_of_some {objects : ι → Option O} {i : ι} {o : O} (h : objects i = some o) :
    withRest rest piece objects (some i) = piece o := by
  rw [withRest, h, Option.elim_some]

variable {rest piece} in
lemma withRest_of_none {objects : ι → Option O} {i : ι} (h : objects i = none) :
    withRest rest piece objects (some i) = nothing := by
  rw [withRest, h, Option.elim_none]

lemma withRest_update [DecidableEq ι] (objects : ι → Option O) (i : ι) (o : Option O) :
    withRest rest piece (Function.update objects i o)
      = Function.update (withRest rest piece objects) (some i) (o.elim nothing piece) := by
  funext k
  cases k with
  | none =>
    rw [Function.update_of_ne (Option.some_ne_none i).symm]
    rfl
  | some j =>
    rw [withRest, Function.update_apply, Function.update_apply]
    simp only [Option.some.injEq]
    split <;> rfl

/-- While there are no objects, there is what was there before. -/
lemma tiles_rest : Tiles (withRest rest piece fun _ : ι => none) rest where
  apply_of_piece {k a v} h := by
    cases k with
    | none => exact h
    | some i => exact Option.absurd_none h
  exists_piece {a v} h := ⟨none, h⟩
  holder_unique {k k' a v v'} h h' := by
    cases k with
    | none =>
      cases k' with
      | none => rfl
      | some j => exact Option.absurd_none h'
    | some i => exact Option.absurd_none h

end WithRest

/-! ## Single points and stretches -/

/-- One point. -/
def single [DecidableEq A] (a : A) (v : V) : Space A V := Function.update nothing a (some v)

section Single

variable [DecidableEq A] {a b : A} {v w : V}

@[simp] lemma single_self (a : A) (v : V) : single a v a = some v := Function.update_self a _ _

lemma single_eq_some (h : single a v b = some w) : b = a ∧ w = v := by
  rw [single, Function.update_apply] at h
  split at h
  · exact ⟨‹_›, (Option.some.inj h).symm⟩
  · exact Option.absurd_none h

lemma isSome_single (a : A) (v : V) (b : A) : (single a v b).isSome = decide (b = a) := by
  rw [single, Function.update_apply]
  split
  · rename_i h
    rw [decide_eq_true h]
    rfl
  · rename_i h
    rw [decide_eq_false h]
    rfl

lemma single_of_ne (h : b ≠ a) : single a v b = none := Function.update_of_ne h _ _

/-- A point that is given and taken back. -/
lemma clear_place_single {space : Space A V} (hfree : space a = none) :
    ((space.place (single a v)).clear fun b => b = a) = space := by
  funext b
  rw [Space.clear]
  split
  · rename_i h
    rw [of_decide_eq_true h, hfree]
  · rename_i h
    rw [Space.place, single_of_ne fun hb => h (decide_eq_true hb), Option.none_or]

end Single

/-- Whether a point is among the `len` ones from `base` on. -/
def inStretch (base len a : ℕ) : Bool := base ≤ a ∧ a < base + len

/-- The `len` points from `base` on, with the values of `f`. -/
def stretch (base len : ℕ) (f : ℕ → V) : Space ℕ V :=
  fun a => if inStretch base len a then some (f (a - base)) else none

lemma isSome_stretch (base len : ℕ) (f : ℕ → V) (a : ℕ) :
    (stretch base len f a).isSome = inStretch base len a := by
  rw [stretch]
  split
  · rename_i h
    rw [h]
    rfl
  · rename_i h
    rw [Bool.not_eq_true] at h
    rw [h]
    rfl

lemma stretch_eq_some {base len a : ℕ} {f : ℕ → V} {v : V} (h : stretch base len f a = some v) :
    ∃ i < len, a = base + i := by
  rw [stretch, Option.ite_none_right_eq_some, inStretch, decide_eq_true_iff] at h
  exact ⟨a - base, by omega, by omega⟩

lemma stretch_add {base len i : ℕ} (f : ℕ → V) (hi : i < len) :
    stretch base len f (base + i) = some (f i) := by
  have hin : inStretch base len (base + i) = true := decide_eq_true ⟨by omega, by omega⟩
  rw [stretch, if_pos hin, Nat.add_sub_cancel_left]

end Pieces
