import SMBB.Properties.SocketOpening

/-!
# Handles of `AutoCloseIPSocket` objects over whole runs

Any number of `AutoCloseIPSocket` objects are constructed, opened, closed, swapped and destroyed
in any order, and the system answers as it likes: it may fail any call, and only never hands out a
handle that is still open.

`Swap` copies handles in three assignments, so that for a moment two objects have the same one;
`swap_eq_comp` says that this comes to an exchange, also when an object is swapped with itself.
Every other operation follows the rule of ownership (`act_cases`), and handles are given back by
`Close` and the destructor only (`closesOwn`).
-/

namespace SMBB

open Ownership (Event Table follow Exclusive history)

/-- What can happen to the objects.  Objects are found by their places. -/
inductive SocketAction (ι δ : Type)
  | construct (i : ι)
  | constructFamily (i : ι) (family protocol : ℕ) (answer : δ)
  | constructAddress (i : ι) (address : IPAddress) (protocol : ℕ) (openAttempt : OpenAttempt)
    (os : OpenAnswers δ)
  /-- `AutoCloseIPSocket(listener.Accept())`. -/
  | constructAccepted (i listener : ι) (answer : δ)
  | openFamily (i : ι) (family protocol : ℕ) (answer : δ)
  | openAddress (i : ι) (address : IPAddress) (protocol : ℕ) (openAttempt : OpenAttempt)
    (os : OpenAnswers δ)
  | close (i : ι)
  | swap (this other : ι)
  | destroy (i : ι)

/-- The live objects, the handles, and all that has happened to the handles. -/
structure SocketWorld (ι δ : Type) where
  objects : ι → Option (IPSocket δ)
  table : Table δ
  log : List (Event δ)

variable {ι δ : Type}

/-- The world before anything is constructed. -/
def SocketWorld.initial : SocketWorld ι δ := ⟨fun _ => none, Table.empty, []⟩

namespace AutoCloseIPSocket

variable [DecidableEq ι] [DecidableEq δ] (p : SocketPlatform δ)

/-- Constructs an object in a place that is empty. -/
def create (objects : ι → Option (IPSocket δ)) (i : ι) (s : IPSocket δ)
    (calls : List (SocketCall δ)) : Option ((ι → Option (IPSocket δ)) × List (SocketCall δ)) :=
  if objects i = none then some (Function.update objects i (some s), calls) else none

/-- The objects after an action, and the calls that it makes. -/
def act (objects : ι → Option (IPSocket δ)) :
    SocketAction ι δ → Option ((ι → Option (IPSocket δ)) × List (SocketCall δ))
  | .construct i => create objects i (.construct p) []
  | .constructFamily i family protocol answer =>
    let opened := (IPSocket.construct p).openFamily p family protocol answer
    create objects i opened.object opened.calls
  | .constructAddress i address protocol openAttempt os =>
    let opened := (IPSocket.construct p).openAddress p address protocol openAttempt os
    create objects i opened.object opened.calls
  | .constructAccepted i listener answer =>
    (objects listener).bind fun s =>
      let (accepted, calls) := s.accept answer
      create objects i accepted calls
  | .openFamily i family protocol answer =>
    (objects i).map fun s =>
      let opened := s.openFamily p family protocol answer
      (Function.update objects i (some opened.object), opened.calls)
  | .openAddress i address protocol openAttempt os =>
    (objects i).map fun s =>
      let opened := s.openAddress p address protocol openAttempt os
      (Function.update objects i (some opened.object), opened.calls)
  | .close i =>
    (objects i).map fun s =>
      let (closed, calls) := s.close p
      (Function.update objects i (some closed), calls)
  | .swap this other =>
    if objects this ≠ none ∧ objects other ≠ none then some (swap objects this other, [])
    else none
  | .destroy i =>
    (objects i).map fun s => (Function.update objects i none, destroy p s)

/-- An action in a world.  It cannot be taken if the system would hand out an open handle. -/
def step (w : SocketWorld ι δ) (a : SocketAction ι δ) : Option (SocketWorld ι δ) :=
  (act p w.objects a).bind fun (objects, calls) =>
    (Runs.run Table.apply w.table (socketEvents p calls)).map fun table =>
      ⟨objects, table, w.log ++ socketEvents p calls⟩

/-- The handle that each place holds. -/
def held (objects : ι → Option (IPSocket δ)) (i : ι) : Option δ :=
  (objects i).bind (IPSocket.held p)

/-- The handles are owned: the open ones are held by one object each, every handle was opened and
closed in turn, and no handle is open once all objects are gone. -/
structure Owned (w : SocketWorld ι δ) : Prop where
  exclusive : Exclusive (held p w.objects) w.table
  closed_once : ∀ d, Runs.run follow none (history d w.log) = some (w.table.whileOpen d)
  none_left : (∀ i, w.objects i = none) → w.table.openHandles = ∅

/-- The events of the calls that an action makes. -/
def eventsOf (w : SocketWorld ι δ) (a : SocketAction ι δ) : List (Event δ) :=
  ((act p w.objects a).map fun (_, calls) => socketEvents p calls).getD []

/-- A handle is given back only by the `Close` or the destructor of the object that holds it. -/
def ClosesOwn (w : SocketWorld ι δ) (a : SocketAction ι δ) : Prop :=
  ∀ d, .release d ∈ eventsOf p w a →
    ∃ i, (a = .close i ∨ a = .destroy i) ∧ held p w.objects i = some d

variable {p} {s : IPSocket δ}

/-! ## The operations -/

lemma follow_openAddress (p : SocketPlatform δ) (s : IPSocket δ) (address : IPAddress)
    (protocol : ℕ) (openAttempt : OpenAttempt) (os : OpenAnswers δ) :
    Runs.run follow (s.held p)
        (socketEvents p (s.openAddress p address protocol openAttempt os).calls)
      = some ((s.openAddress p address protocol openAttempt os).object.held p) := by
  obtain ⟨hobject, -, hevents⟩ := s.openAddress_spec p address protocol openAttempt os
  rw [hobject, hevents]
  exact s.follow_openFamily p address.getFamily protocol os.socket

lemma socketEvents_close_invalid (h : s.handle = p.invalidHandle) :
    socketEvents p (s.close p).2 = [] :=
  List.filterMap_cons_none (if_pos h)

lemma socketEvents_close_valid (h : s.handle ≠ p.invalidHandle) :
    socketEvents p (s.close p).2 = [.release s.handle] :=
  List.filterMap_cons_some (if_neg h)

/-- `Close` gives back what the object holds. -/
lemma follow_close (p : SocketPlatform δ) (s : IPSocket δ) :
    Runs.run follow (s.held p) (socketEvents p (s.close p).2) = some none := by
  by_cases h : s.handle = p.invalidHandle
  · rw [socketEvents_close_invalid h, IPSocket.held_of_invalid h]
    rfl
  · rw [socketEvents_close_valid h, IPSocket.held_of_valid h, Runs.run, follow, if_pos rfl]
    rfl

/-- The destructor makes the call of `Close`, unless that would close nothing. -/
lemma socketEvents_destroy (p : SocketPlatform δ) (s : IPSocket δ) :
    socketEvents p (destroy p s) = socketEvents p (s.close p).2 := by
  cases h : s.isValid p with
  | true => rw [destroy, if_pos h]
  | false =>
    rw [destroy, if_neg (Bool.not_eq_true _ ▸ h), socketEvents_nil,
      socketEvents_close_invalid (IPSocket.isValid_eq_false_iff.mp h)]

lemma follow_accept (p : SocketPlatform δ) (s : IPSocket δ) (answer : δ) :
    Runs.run follow none (socketEvents p (s.accept answer).2)
      = some ((s.accept answer).1.held p) :=
  (congrArg (Runs.run follow none) (socketEvents_accept s.handle answer)).trans
    (IPSocket.follow_handedOut p answer)

omit [DecidableEq δ] in
/-- The three assignments of `Swap` exchange the two objects. -/
lemma swap_eq_comp {α : Type} (objects : ι → α) (this other : ι) :
    swap objects this other = objects ∘ Equiv.swap this other :=
  (Equiv.comp_swap_eq_update this other objects).symm

/-! ## One action -/

omit [DecidableEq δ] in
lemma create_eq_some {objects objects' : ι → Option (IPSocket δ)} {i : ι}
    {calls calls' : List (SocketCall δ)} (h : create objects i s calls = some (objects', calls')) :
    objects i = none ∧ objects' = Function.update objects i (some s) ∧ calls' = calls := by
  rw [create, Option.ite_none_right_eq_some] at h
  obtain ⟨rfl, rfl⟩ := Prod.mk.inj (Option.some.inj h.2)
  exact ⟨h.1, rfl, rfl⟩

/-- What an action does to the place `i`: its object follows the rule of ownership. -/
def FollowsAt (p : SocketPlatform δ) (objects objects' : ι → Option (IPSocket δ))
    (calls : List (SocketCall δ)) (i : ι) : Prop :=
  ∃ o, objects' = Function.update objects i o
    ∧ Runs.run follow (held p objects i) (socketEvents p calls) = some (o.bind (IPSocket.held p))

/-- Construction of an object that has taken what it holds. -/
lemma followsAt_create {objects objects' : ι → Option (IPSocket δ)} {i : ι}
    {calls calls' : List (SocketCall δ)}
    (hs : Runs.run follow none (socketEvents p calls) = some (s.held p))
    (h : create objects i s calls = some (objects', calls')) :
    FollowsAt p objects objects' calls' i := by
  obtain ⟨hi, rfl, rfl⟩ := create_eq_some h
  refine ⟨some s, rfl, ?_⟩
  rw [held, hi]
  exact hs

/-- What is done to an object that is there. -/
lemma followsAt_map {objects objects' : ι → Option (IPSocket δ)} {i : ι}
    {calls : List (SocketCall δ)}
    {f : IPSocket δ → Option (IPSocket δ) × List (SocketCall δ)}
    (hf : ∀ s, Runs.run follow (IPSocket.held p s) (socketEvents p (f s).2)
      = some ((f s).1.bind (IPSocket.held p)))
    (h : (objects i).map (fun s => (Function.update objects i (f s).1, (f s).2))
      = some (objects', calls)) : FollowsAt p objects objects' calls i := by
  obtain ⟨s, hi, heq⟩ := Option.map_eq_some_iff.mp h
  obtain ⟨rfl, rfl⟩ := Prod.mk.inj heq
  refine ⟨(f s).1, rfl, ?_⟩
  rw [held, hi]
  exact hf s

/-- What an action can be: one object follows the rule, or two are exchanged. -/
lemma act_cases {objects objects' : ι → Option (IPSocket δ)} {a : SocketAction ι δ}
    {calls : List (SocketCall δ)} (h : act p objects a = some (objects', calls)) :
    (∃ i, FollowsAt p objects objects' calls i)
      ∨ ∃ this other, objects' = swap objects this other ∧ calls = [] := by
  have hclosed : (IPSocket.construct p).held p = none := IPSocket.held_of_invalid rfl
  cases a with
  | construct i => exact Or.inl ⟨i, followsAt_create (by rw [hclosed]; rfl) h⟩
  | constructFamily i family protocol answer =>
    have hfollow := (IPSocket.construct p).follow_openFamily p family protocol answer
    rw [hclosed] at hfollow
    exact Or.inl ⟨i, followsAt_create hfollow h⟩
  | constructAddress i address protocol openAttempt os =>
    have hfollow := follow_openAddress p (.construct p) address protocol openAttempt os
    rw [hclosed] at hfollow
    exact Or.inl ⟨i, followsAt_create hfollow h⟩
  | constructAccepted i listener answer =>
    obtain ⟨s, -, hcreate⟩ := Option.bind_eq_some_iff.mp h
    exact Or.inl ⟨i, followsAt_create (follow_accept p s answer) hcreate⟩
  | openFamily i family protocol answer =>
    exact Or.inl ⟨i, followsAt_map
      (f := fun s => (some (s.openFamily p family protocol answer).object,
        (s.openFamily p family protocol answer).calls))
      (fun s => s.follow_openFamily p family protocol answer) h⟩
  | openAddress i address protocol openAttempt os =>
    exact Or.inl ⟨i, followsAt_map
      (f := fun s => (some (s.openAddress p address protocol openAttempt os).object,
        (s.openAddress p address protocol openAttempt os).calls))
      (fun s => follow_openAddress p s address protocol openAttempt os) h⟩
  | close i =>
    exact Or.inl ⟨i, followsAt_map (f := fun s => (some (s.close p).1, (s.close p).2))
      (fun s => (follow_close p s).trans
        (congrArg some (IPSocket.held_of_invalid (p := p) (s := (s.close p).1) rfl).symm)) h⟩
  | swap this other =>
    rw [act, Option.ite_none_right_eq_some] at h
    obtain ⟨rfl, rfl⟩ := Prod.mk.inj (Option.some.inj h.2)
    exact Or.inr ⟨this, other, rfl, rfl⟩
  | destroy i =>
    exact Or.inl ⟨i, followsAt_map (f := fun s => (none, destroy p s))
      (fun s => (congrArg _ (socketEvents_destroy p s)).trans (follow_close p s)) h⟩

/-! ## Who closes -/

lemma release_mem_close {d : δ} (h : .release d ∈ socketEvents p (s.close p).2) :
    s.held p = some d := by
  by_cases hs : s.handle = p.invalidHandle
  · rw [socketEvents_close_invalid hs] at h
    exact absurd h List.not_mem_nil
  · rw [socketEvents_close_valid hs, List.mem_singleton] at h
    rw [IPSocket.held_of_valid hs, Event.release.inj h]

lemma release_not_mem_openAddress (p : SocketPlatform δ) (s : IPSocket δ) (address : IPAddress)
    (protocol : ℕ) (openAttempt : OpenAttempt) (os : OpenAnswers δ) (d : δ) :
    .release d ∉ socketEvents p (s.openAddress p address protocol openAttempt os).calls := by
  rw [(s.openAddress_spec p address protocol openAttempt os).2.2]
  exact s.release_not_mem_openFamily p address.getFamily protocol os.socket d

/-- Of all actions only `Close` and destruction give a handle back, and it is the object's own. -/
lemma release_mem_act {objects objects' : ι → Option (IPSocket δ)} {a : SocketAction ι δ}
    {calls : List (SocketCall δ)} {d : δ} (h : act p objects a = some (objects', calls))
    (hd : .release d ∈ socketEvents p calls) :
    ∃ i, (a = .close i ∨ a = .destroy i) ∧ held p objects i = some d := by
  cases a with
  | construct i =>
    obtain ⟨-, -, rfl⟩ := create_eq_some h
    exact absurd hd List.not_mem_nil
  | constructFamily i family protocol answer =>
    obtain ⟨-, -, rfl⟩ := create_eq_some h
    exact absurd hd (IPSocket.release_not_mem_openFamily p _ family protocol answer d)
  | constructAddress i address protocol openAttempt os =>
    obtain ⟨-, -, rfl⟩ := create_eq_some h
    exact absurd hd (release_not_mem_openAddress p _ address protocol openAttempt os d)
  | constructAccepted i listener answer =>
    obtain ⟨s, -, hcreate⟩ := Option.bind_eq_some_iff.mp h
    obtain ⟨-, -, rfl⟩ := create_eq_some hcreate
    exact absurd ((socketEvents_accept s.handle answer) ▸ hd) (release_not_mem_handedOut d answer)
  | openFamily i family protocol answer =>
    obtain ⟨s, -, heq⟩ := Option.map_eq_some_iff.mp h
    obtain ⟨-, rfl⟩ := Prod.mk.inj heq
    exact absurd hd (s.release_not_mem_openFamily p family protocol answer d)
  | openAddress i address protocol openAttempt os =>
    obtain ⟨s, -, heq⟩ := Option.map_eq_some_iff.mp h
    obtain ⟨-, rfl⟩ := Prod.mk.inj heq
    exact absurd hd (release_not_mem_openAddress p s address protocol openAttempt os d)
  | close i =>
    obtain ⟨s, hi, heq⟩ := Option.map_eq_some_iff.mp h
    obtain ⟨-, rfl⟩ := Prod.mk.inj heq
    refine ⟨i, Or.inl rfl, ?_⟩
    rw [held, hi]
    exact release_mem_close hd
  | swap this other =>
    rw [act, Option.ite_none_right_eq_some] at h
    obtain ⟨-, rfl⟩ := Prod.mk.inj (Option.some.inj h.2)
    exact absurd hd List.not_mem_nil
  | destroy i =>
    obtain ⟨s, hi, heq⟩ := Option.map_eq_some_iff.mp h
    obtain ⟨-, rfl⟩ := Prod.mk.inj heq
    refine ⟨i, Or.inr rfl, ?_⟩
    rw [held, hi]
    exact release_mem_close (socketEvents_destroy p s ▸ hd)

lemma closesOwn (p : SocketPlatform δ) (w : SocketWorld ι δ) (a : SocketAction ι δ) :
    ClosesOwn p w a := by
  intro d hd
  rw [eventsOf] at hd
  rcases h : act p w.objects a with _ | ⟨objects, calls⟩
  · rw [h] at hd
    exact absurd hd List.not_mem_nil
  · rw [h] at hd
    exact release_mem_act h hd

/-! ## Runs -/

/-- The handles are exclusive, and the table is what has happened to it. -/
structure Sound (p : SocketPlatform δ) (w : SocketWorld ι δ) : Prop where
  exclusive : Exclusive (held p w.objects) w.table
  table : Runs.run Table.apply Table.empty w.log = some w.table

omit [DecidableEq ι] in
lemma sound_initial (p : SocketPlatform δ) : Sound p (.initial : SocketWorld ι δ) where
  exclusive := Ownership.exclusive_empty
  table := rfl

lemma held_update (p : SocketPlatform δ) (objects : ι → Option (IPSocket δ)) (i : ι)
    (o : Option (IPSocket δ)) :
    held p (Function.update objects i o)
      = Function.update (held p objects) i (o.bind (IPSocket.held p)) :=
  Function.comp_update (fun o : Option (IPSocket δ) => o.bind (IPSocket.held p)) objects i o

lemma Sound.step {w w' : SocketWorld ι δ} {a : SocketAction ι δ} (hw : Sound p w)
    (h : AutoCloseIPSocket.step p w a = some w') : Sound p w' := by
  obtain ⟨⟨objects, calls⟩, hact, h⟩ := Option.bind_eq_some_iff.mp h
  obtain ⟨table, htable, rfl⟩ := Option.map_eq_some_iff.mp h
  constructor
  · rcases act_cases hact with ⟨i, o, rfl, hfollow⟩ | ⟨this, other, rfl, rfl⟩
    · dsimp only
      rw [held_update]
      exact hw.exclusive.run hfollow htable
    · obtain rfl := Option.some.inj htable
      dsimp only
      rw [swap_eq_comp]
      exact hw.exclusive.comp (Equiv.swap this other)
  · rw [Runs.run_append, hw.table]
    exact htable

omit [DecidableEq ι] in
lemma Sound.owned {w : SocketWorld ι δ} (hw : Sound p w) : Owned p w where
  exclusive := hw.exclusive
  closed_once := Ownership.follow_history hw.table hw.exclusive.stray_eq_zero
  none_left hgone := by
    refine Finset.eq_empty_of_forall_notMem fun d hd => ?_
    obtain ⟨i, hi⟩ := (hw.exclusive.mem_iff d).mp hd
    rw [held, hgone i] at hi
    exact Option.absurd_none hi

/-- **Every handle has one owner, and is closed once, by its owner,** in every run. -/
theorem owned_throughout (p : SocketPlatform δ) (actions : List (SocketAction ι δ)) :
    Runs.Throughout (step p) (Owned p) (.initial : SocketWorld ι δ) actions
      ∧ Runs.Meets (step p) (ClosesOwn p) (.initial : SocketWorld ι δ) actions := by
  have hsound : Runs.Throughout (step p) (Sound p) (.initial : SocketWorld ι δ) actions :=
    Runs.throughout (fun _ _ _ hw h => hw.step h) actions (sound_initial p)
  exact ⟨hsound.mono fun _ hw => hw.owned, Runs.meets_of_forall (closesOwn p) _ actions⟩

/-- The handle changes its owner, and the destructor of the new one closes it. -/
example : (Runs.run (step posixSockets) (.initial : SocketWorld Bool ℤ)
      [.constructFamily false ipv4 1 3, .construct true, .swap false true, .swap true true,
        .destroy false, .destroy true]).map SocketWorld.log
    = some [.acquire 3, .release 3] :=
  rfl

end AutoCloseIPSocket
end SMBB
