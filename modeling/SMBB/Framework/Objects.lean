import SMBB.Framework.Ownership
import SMBB.Framework.Pieces

/-!
# Objects of one class in an environment

A `Behaviour` is a class seen from outside: how an object is constructed, what a method does to
the object and to the environment, what destruction does, and what the environment does by
itself.  A `World` holds any number of objects.  Objects are constructed, used and destroyed one
at a time, each in its own place.

Three rules carry an invariant over all runs of a world.  `forall_objects` is for a property of
single objects that the doings of the others leave alone; `exclusive` is for objects that hold
one handle each; `tiles` is for objects that hold pieces of a space.
-/

namespace Objects

variable {ι K O A X E δ : Type*}

/-- A class of objects. -/
structure Behaviour (K O A X E : Type*) where
  construct : K → O
  operate : E → O → A → Option (E × O)
  destroy : E → O → Option E
  outside : E → X → Option E

/-- The live objects and their environment. -/
structure World (ι O E : Type*) where
  objects : ι → Option O
  env : E

/-- What can happen in a world. -/
inductive Action (ι K A X : Type*)
  | construct (i : ι) (k : K)
  | operate (i : ι) (a : A)
  | destroy (i : ι)
  | outside (x : X)

/-- The world before anything is constructed. -/
def World.initial (env : E) : World ι O E := ⟨fun _ => none, env⟩

variable [DecidableEq ι]

/-- One action.  A place is constructed in while it is empty, and used only while it is not. -/
def step (b : Behaviour K O A X E) (w : World ι O E) :
    Action ι K A X → Option (World ι O E)
  | .construct i k =>
    match w.objects i with
    | none => some { w with objects := Function.update w.objects i (some (b.construct k)) }
    | some _ => none
  | .operate i a =>
    (w.objects i).bind fun o => (b.operate w.env o a).map fun (env, o) =>
      ⟨Function.update w.objects i (some o), env⟩
  | .destroy i =>
    (w.objects i).bind fun o => (b.destroy w.env o).map fun env =>
      ⟨Function.update w.objects i none, env⟩
  | .outside x => (b.outside w.env x).map fun env => { w with env }

/-- What a step can be. -/
lemma step_cases {b : Behaviour K O A X E} {w w' : World ι O E} {a : Action ι K A X}
    (h : step b w a = some w') :
    (∃ i k, w.objects i = none
      ∧ w' = { w with objects := Function.update w.objects i (some (b.construct k)) })
    ∨ (∃ i x o env o', w.objects i = some o ∧ a = .operate i x
      ∧ b.operate w.env o x = some (env, o')
      ∧ w' = ⟨Function.update w.objects i (some o'), env⟩)
    ∨ (∃ i o env, w.objects i = some o ∧ b.destroy w.env o = some env
      ∧ w' = ⟨Function.update w.objects i none, env⟩)
    ∨ (∃ x env, b.outside w.env x = some env ∧ w' = { w with env }) := by
  cases a with
  | construct i k =>
    left
    rw [step] at h
    split at h
    · exact ⟨i, k, ‹_›, (Option.some.inj h).symm⟩
    · exact Option.absurd_none h
  | operate i x =>
    right; left
    obtain ⟨o, ho, h⟩ := Option.bind_eq_some_iff.mp h
    obtain ⟨⟨env, o'⟩, hop, rfl⟩ := Option.map_eq_some_iff.mp h
    exact ⟨i, x, o, env, o', ho, rfl, hop, rfl⟩
  | destroy i =>
    right; right; left
    obtain ⟨o, ho, h⟩ := Option.bind_eq_some_iff.mp h
    obtain ⟨env, henv, rfl⟩ := Option.map_eq_some_iff.mp h
    exact ⟨i, o, env, ho, henv, rfl⟩
  | outside x =>
    right; right; right
    obtain ⟨env, henv, rfl⟩ := Option.map_eq_some_iff.mp h
    exact ⟨x, env, henv, rfl⟩

section Rules

variable {b : Behaviour K O A X E} {w w' : World ι O E} {actions : List (Action ι K A X)}

/-- **A property of single objects** holds of all of them, if construction establishes it,
operations preserve it, and nothing that happens to the environment breaks it.  Operations may be
restricted to those that meet `C`. -/
theorem forall_objects {P : E → O → Prop} {C : E → O → A → Prop}
    (hconstruct : ∀ env k, P env (b.construct k))
    (hoperate : ∀ env o a env' o', P env o → C env o a → b.operate env o a = some (env', o') →
      P env' o' ∧ ∀ p, P env p → P env' p)
    (hdestroy : ∀ env o env', b.destroy env o = some env' → ∀ p, P env p → P env' p)
    (houtside : ∀ env x env', b.outside env x = some env' → ∀ p, P env p → P env' p)
    {a : Action ι K A X} (hw : ∀ i o, w.objects i = some o → P w.env o)
    (hC : ∀ i x o, a = .operate i x → w.objects i = some o → C w.env o x)
    (h : step b w a = some w') : ∀ i o, w'.objects i = some o → P w'.env o := by
  obtain ⟨j, k, -, rfl⟩ | ⟨j, x, o, env, o', hj, rfl, hop, rfl⟩ | ⟨j, o, env, hj, hd, rfl⟩
    | ⟨x, env, hx, rfl⟩ := step_cases h
  · intro i p hp
    simp only [Function.update_apply] at hp
    split at hp
    · obtain rfl := Option.some.inj hp
      exact hconstruct w.env k
    · exact hw i p hp
  · obtain ⟨hself, hothers⟩ := hoperate w.env o x env o' (hw j o hj) (hC j x o rfl hj) hop
    intro i p hp
    simp only [Function.update_apply] at hp
    split at hp
    · obtain rfl := Option.some.inj hp
      exact hself
    · exact hothers p (hw i p hp)
  · intro i p hp
    simp only [Function.update_apply] at hp
    split at hp
    · exact Option.absurd_none hp
    · exact hdestroy w.env o env hd p (hw i p hp)
  · exact fun i p hp => houtside w.env x env hx p (hw i p hp)

/-- The handle each place holds. -/
def World.held (handle : O → Option δ) (w : World ι O E) (i : ι) : Option δ :=
  (w.objects i).bind handle

lemma held_update (handle : O → Option δ) (objects : ι → Option O) (env : E) (i : ι)
    (o : Option O) :
    World.held handle ⟨Function.update objects i o, env⟩
      = Function.update (World.held handle ⟨objects, env⟩) i (o.bind handle) :=
  Function.comp_update (fun o : Option O => o.bind handle) objects i o

open Ownership in
/-- **Objects that hold one handle each** keep the handles exclusive, if a fresh object holds
none, every operation follows the rule of ownership, and destruction gives the handle back. -/
theorem exclusive [DecidableEq δ] {handle : O → Option δ} (table : E → Table δ)
    (hconstruct : ∀ k, handle (b.construct k) = none)
    (hoperate : ∀ env o a env' o', b.operate env o a = some (env', o') →
      ∃ events, Runs.run follow (handle o) events = some (handle o')
        ∧ Runs.run Table.apply (table env) events = some (table env'))
    (hdestroy : ∀ env o env', b.destroy env o = some env' →
      ∃ events, Runs.run follow (handle o) events = some none
        ∧ Runs.run Table.apply (table env) events = some (table env'))
    (houtside : ∀ env x env', b.outside env x = some env' → table env' = table env)
    {a : Action ι K A X} (hw : Exclusive (w.held handle) (table w.env))
    (h : step b w a = some w') : Exclusive (w'.held handle) (table w'.env) := by
  obtain ⟨i, k, hi, rfl⟩ | ⟨i, x, o, env, o', hi, -, hop, rfl⟩ | ⟨i, o, env, hi, hd, rfl⟩
    | ⟨x, env, hx, rfl⟩ := step_cases h
  · have hnone : w.held handle i = none := by rw [World.held, hi, Option.bind_none]
    have hsame : Function.update (w.held handle) i none = w.held handle := by
      rw [← hnone, Function.update_eq_self]
    rw [held_update, Option.bind_some, hconstruct]
    exact hsame.symm ▸ hw
  · obtain ⟨events, hfollow, happly⟩ := hoperate w.env o x env o' hop
    rw [held_update, Option.bind_some]
    have hheld : w.held handle i = handle o := by rw [World.held, hi, Option.bind_some]
    exact hw.run (hheld ▸ hfollow) happly
  · obtain ⟨events, hfollow, happly⟩ := hdestroy w.env o env hd
    rw [held_update, Option.bind_none]
    have hheld : w.held handle i = handle o := by rw [World.held, hi, Option.bind_some]
    exact hw.run (hheld ▸ hfollow) happly
  · exact (houtside w.env x env hx).symm ▸ hw

open Pieces in
/-- **Objects that hold pieces of a space** keep them apart, if a fresh object holds nothing, every
operation exchanges the piece of its object, and destruction gives it back.  `Q` is what the objects
have to meet for this. -/
theorem tiles {α V : Type*} {rest : Space α V} {piece : O → Space α V} {Q : O → Prop}
    (space : E → Space α V)
    (hconstruct : ∀ k, piece (b.construct k) = nothing ∧ Q (b.construct k))
    (hoperate : ∀ {pieces : Option ι → Space α V} {i env o x env' o'},
      b.operate env o x = some (env', o') → Q o → Tiles pieces (space env) →
      pieces i = piece o → Tiles (Function.update pieces i (piece o')) (space env') ∧ Q o')
    (hdestroy : ∀ {pieces : Option ι → Space α V} {i env o env'},
      b.destroy env o = some env' → Q o → Tiles pieces (space env) → pieces i = piece o →
      Tiles (Function.update pieces i nothing) (space env'))
    (houtside : ∀ env x env', b.outside env x = some env' → space env' = space env)
    {a : Action ι K A X} (hQ : ∀ {i o}, w.objects i = some o → Q o)
    (hw : Tiles (withRest rest piece w.objects) (space w.env)) (h : step b w a = some w') :
    Tiles (withRest rest piece w'.objects) (space w'.env)
      ∧ ∀ {i o}, w'.objects i = some o → Q o := by
  obtain ⟨i, k, hi, rfl⟩ | ⟨i, x, o, env, o', hi, -, hop, rfl⟩ | ⟨i, o, env, hi, hd, rfl⟩
    | ⟨x, env, hx, rfl⟩ := step_cases h
  · obtain ⟨hnothing, hfresh⟩ := hconstruct k
    refine ⟨?_, PartialMaps.forall_update hQ fun hp => Option.some.inj hp ▸ hfresh⟩
    rw [withRest_update, Option.elim_some, hnothing]
    exact hw.update_nothing (withRest_of_none hi)
  · obtain ⟨htiles, hkept⟩ := hoperate hop (hQ hi) hw (withRest_of_some hi)
    refine ⟨?_, PartialMaps.forall_update hQ fun hp => Option.some.inj hp ▸ hkept⟩
    rw [withRest_update, Option.elim_some]
    exact htiles
  · refine ⟨?_, PartialMaps.forall_update hQ fun hp => Option.absurd_none hp⟩
    rw [withRest_update, Option.elim_none]
    exact hdestroy hd (hQ hi) hw (withRest_of_some hi)
  · exact ⟨(houtside w.env x env hx).symm ▸ hw, hQ⟩

end Rules

end Objects
