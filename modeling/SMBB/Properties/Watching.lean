import SMBB.Properties.Monitoring
import SMBB.Framework.Machines
import Mathlib.Data.Finset.Card
import Mathlib.Data.Finset.Image

/-!
# What a `SelectSets` is for

Seen from outside, a `SelectSets` watches sockets for conditions: a set of sockets for each of the
three.  `AddSocket` adds a socket to the sets that its mask names, `RemoveSocket` takes it out,
`Wait` leaves the sockets that are ready and returns how many there are, and `TestSocket` returns
the conditions of its mask that the socket is still watched for.

A build has its own number for each condition (`flag`), and it may have room for so many sockets
only (`full`).  `AddSocket` then comes to the named sets in order, and stops at the first one that
is full.

`Watch.answers_alike` says that the handles by which a system calls its sockets do not show.
-/

namespace SMBB

/-- The calls on a `SelectSets` over the sockets `σ`.  With a `Wait` comes which sockets are ready
for what, and whether the system call fails. -/
inductive WatchInput (σ : Type*)
  | addSocket (socket : σ) (toMonitor : SelectValue)
  | removeSocket (socket : σ) (toMonitor : SelectValue)
  | wait (timeoutUs : ℕ) (ready : Condition → σ → Bool) (failed : Bool)
  | testSocket (socket : σ) (checkResult : SelectValue)

/-- What the calls return. -/
inductive WatchAnswer
  | added (ok : Bool)
  | removed
  | waited (result : ℤ)
  | tested (value : SelectValue)
deriving DecidableEq

/-- The sockets that are watched for each condition. -/
abbrev Watch (σ : Type*) := Condition → Finset σ

namespace Watch

variable {σ : Type*}

/-- Nothing is watched. -/
def nothing : Watch σ := fun _ => ∅

/-- The conditions, in the order in which `AddSocket` comes to them. -/
def conditions : List Condition := [.canRead, .canWrite, .connectFailed]

/-- A mask names a condition. -/
def names (flag : Condition → SelectValue) (mask : SelectValue) (c : Condition) : Bool :=
  mask &&& flag c ≠ 0

/-- The flags of the conditions that hold. -/
def value (flag : Condition → SelectValue) (holds : Condition → Bool) : SelectValue :=
  (if holds .canRead then flag .canRead else 0)
    ||| (if holds .canWrite then flag .canWrite else 0)
    ||| (if holds .connectFailed then flag .connectFailed else 0)

/-- How many sockets are watched, one that is watched twice counting as two. -/
def size (w : Watch σ) : ℕ :=
  (w .canRead).card + (w .canWrite).card + (w .connectFailed).card

variable [DecidableEq σ] (flag : Condition → SelectValue) (full : Finset σ → Bool)

/-- The socket is watched for those of the conditions that the mask names, up to one that has no
room. -/
def addEach (socket : σ) (mask : SelectValue) : List Condition → Watch σ → Watch σ × Bool
  | [], w => (w, true)
  | c :: cs, w =>
    if names flag mask c then
      if full (w c) then (w, false)
      else addEach socket mask cs (Function.update w c (insert socket (w c)))
    else addEach socket mask cs w

/-- The socket is watched for the conditions of the mask, as far as there is room. -/
def add (w : Watch σ) (socket : σ) (mask : SelectValue) : Watch σ × Bool :=
  if conditions.any (names flag mask) then addEach flag full socket mask conditions w
  else (w, false)

/-- The socket is not watched any more for the conditions of the mask. -/
def remove (w : Watch σ) (socket : σ) (mask : SelectValue) : Watch σ := fun c =>
  if names flag mask c then (w c).erase socket else w c

/-- The sockets that are not ready are not watched any more. -/
def keep (w : Watch σ) (ready : Condition → σ → Bool) : Watch σ := fun c =>
  (w c).filter fun s => ready c s = true

/-- A call.  Only a wait for something can fail. -/
def respond (w : Watch σ) : WatchInput σ → Option (Watch σ × WatchAnswer)
  | .addSocket socket mask =>
    let added := w.add flag full socket mask
    some (added.1, .added added.2)
  | .removeSocket socket mask => some (w.remove flag socket mask, .removed)
  | .wait _ ready failed =>
    if failed = true ∧ w.size ≠ 0 then some (w, .waited (-1))
    else some (w.keep ready, .waited (w.keep ready).size)
  | .testSocket socket mask =>
    some (w, .tested (value flag fun c => names flag mask c && decide (socket ∈ w c)))

/-- The mask of a call. -/
def mask : WatchInput σ → Option SelectValue
  | .addSocket _ mask => some mask
  | .removeSocket _ mask => some mask
  | .wait _ _ _ => none
  | .testSocket _ mask => some mask

/-! ## Without a limit -/

section NeverFull

variable {flag}

lemma addEach_neverFull (socket : σ) (mask : SelectValue) (cs : List Condition) (w : Watch σ) :
    w.addEach flag (fun _ => false) socket mask cs
      = (fun c => if c ∈ cs ∧ names flag mask c = true then insert socket (w c) else w c,
        true) := by
  induction cs generalizing w with
  | nil => simp [addEach]
  | cons c cs ih =>
    rw [addEach]
    by_cases hnamed : names flag mask c = true
    · rw [if_pos hnamed, if_neg Bool.false_ne_true, ih]
      congr 1
      funext c'
      by_cases hc : c' = c
      · subst hc
        simp [hnamed]
      · simp [hc]
    · rw [if_neg hnamed, ih]
      congr 1
      funext c'
      by_cases hc : c' = c
      · subst hc
        simp [hnamed]
      · simp [hc]

/-- Where there is always room, a socket is added for all conditions that the mask names. -/
lemma add_neverFull (w : Watch σ) (socket : σ) (mask : SelectValue) :
    w.add flag (fun _ => false) socket mask
      = (fun c => if names flag mask c then insert socket (w c) else w c,
        conditions.any (names flag mask)) := by
  have hall : ∀ c, c ∈ conditions := by rintro (_ | _ | _) <;> decide
  rw [add]
  by_cases hany : conditions.any (names flag mask) = true
  · rw [if_pos hany, hany, addEach_neverFull]
    simp only [hall, true_and]
  · have hnone : ∀ c, names flag mask c = false := by
      intro c
      rw [← Bool.not_eq_true]
      exact fun h => hany (List.any_eq_true.mpr ⟨c, hall c, h⟩)
    rw [if_neg hany, Bool.eq_false_of_not_eq_true hany]
    simp only [hnone, Bool.false_eq_true, if_false]

end NeverFull

/-! ## Names -/

section Names

variable {ι : Type*} [DecidableEq ι] {flag full} (names : ι ↪ σ)

/-- The sockets under the names that a system gives them. -/
def map (v : Watch ι) : Watch σ := fun c => (v c).map names

omit [DecidableEq ι] [DecidableEq σ] in
lemma map_update (v : Watch ι) (c : Condition) (set : Finset ι) :
    Function.update (v.map names) c (set.map names) = map names (Function.update v c set) := by
  funext c'
  rw [map, Function.update_apply, Function.update_apply]
  split <;> rfl

omit [DecidableEq ι] [DecidableEq σ] in
lemma size_map (v : Watch ι) : (v.map names).size = v.size := by
  simp only [size, map, Finset.card_map]

omit [DecidableEq ι] [DecidableEq σ] in
lemma keep_map (v : Watch ι) (ready : Condition → σ → Bool) :
    (v.map names).keep ready = map names (v.keep fun c i => ready c (names i)) := by
  funext c
  exact Finset.filter_map

lemma remove_map (v : Watch ι) (i : ι) (mask : SelectValue) :
    (v.map names).remove flag (names i) mask = map names (v.remove flag i mask) := by
  funext c
  rw [remove, map, map, remove]
  split
  · exact (Finset.map_erase names (v c) i).symm
  · rfl

lemma addEach_map (hroom : ∀ set : Finset ι, full (set.map names) = false) (i : ι)
    (mask : SelectValue) (cs : List Condition) (v : Watch ι) :
    (v.map names).addEach flag full (names i) mask cs
      = (map names (v.addEach flag (fun _ => false) i mask cs).1,
        (v.addEach flag (fun _ => false) i mask cs).2) := by
  induction cs generalizing v with
  | nil => rfl
  | cons c cs ih =>
    rw [addEach, addEach]
    split
    · have hinsert : insert (names i) (v.map names c) = (insert i (v c)).map names :=
        (Finset.map_insert names i (v c)).symm
      have hfull : full (v.map names c) = false := hroom (v c)
      rw [hfull, if_neg Bool.false_ne_true, if_neg Bool.false_ne_true, hinsert, map_update]
      exact ih _
    · exact ih v

lemma add_map (hroom : ∀ set : Finset ι, full (set.map names) = false) (i : ι)
    (mask : SelectValue) (v : Watch ι) :
    (v.map names).add flag full (names i) mask
      = (map names (v.add flag (fun _ => false) i mask).1,
        (v.add flag (fun _ => false) i mask).2) := by
  rw [add, add]
  split
  · exact addEach_map names hroom i mask conditions v
  · rfl

/-- A call of a program, as a system sees it that has the sockets under other names. -/
inductive Named : WatchInput σ → WatchInput ι → Prop
  | addSocket (i : ι) (mask : SelectValue) :
    Named (.addSocket (names i) mask) (.addSocket i mask)
  | removeSocket (i : ι) (mask : SelectValue) :
    Named (.removeSocket (names i) mask) (.removeSocket i mask)
  | wait (timeoutUs : ℕ) (ready : Condition → σ → Bool) (ready' : Condition → ι → Bool)
    (failed : Bool) (hready : ∀ c i, ready c (names i) = ready' c i) :
    Named (.wait timeoutUs ready failed) (.wait timeoutUs ready' failed)
  | testSocket (i : ι) (mask : SelectValue) :
    Named (.testSocket (names i) mask) (.testSocket i mask)

omit [DecidableEq σ] [DecidableEq ι] in
lemma mask_of_named {P : SelectValue → Prop} {inputs : List (WatchInput σ)}
    {inputs' : List (WatchInput ι)} (hnamed : List.Forall₂ (Named names) inputs inputs')
    (h : ∀ input ∈ inputs', ∀ m ∈ mask input, P m) :
    ∀ input ∈ inputs, ∀ m ∈ mask input, P m := by
  induction hnamed with
  | nil => exact fun input hinput => absurd hinput List.not_mem_nil
  | cons hinput _ ih =>
    obtain ⟨hhead, htail⟩ := List.forall_mem_cons.mp h
    refine List.forall_mem_cons.mpr ⟨?_, ih htail⟩
    cases hinput <;> exact hhead

/-- The names do not show, and neither does a limit that is never reached. -/
lemma answers_named (hroom : ∀ set : Finset ι, full (set.map names) = false)
    {inputs : List (WatchInput σ)} {inputs' : List (WatchInput ι)}
    (hnamed : List.Forall₂ (Named names) inputs inputs') :
    Machines.answers (respond flag full) nothing inputs
      = Machines.answers (respond flag fun _ => false) nothing inputs' := by
  refine Machines.answers_eq (R := fun w v => w = map names v) (C := fun _ _ => True)
    (fun w v input input' h hij _ => ?_) (funext fun c => (Finset.map_empty names).symm) hnamed
    (Machines.meets_of_forall (fun _ _ _ => trivial) _)
  subst h
  cases hij with
  | addSocket i mask =>
    refine ⟨map names (v.add flag (fun _ => false) i mask).1, _, _, ?_, rfl, rfl⟩
    rw [respond, add_map names hroom]
  | removeSocket i mask => exact ⟨_, _, _, rfl, rfl, remove_map names v i mask⟩
  | wait timeoutUs ready ready' failed hready =>
    obtain rfl : (fun c i => ready c (names i)) = ready' := funext fun c => funext (hready c)
    rw [respond, respond, size_map, keep_map, size_map]
    split
    · exact ⟨_, _, _, rfl, rfl, rfl⟩
    · exact ⟨_, _, _, rfl, rfl, rfl⟩
  | testSocket i mask =>
    refine ⟨_, _, _, rfl, ?_, rfl⟩
    simp only [respond, map, Finset.mem_map']

end Names

/-! ## Numbers -/

section Numbers

variable {flag flag' : Condition → SelectValue}

lemma value_congr (hread : flag .canRead = flag' .canRead)
    (hwrite : flag .canWrite = flag' .canWrite) {holds : Condition → Bool}
    (hholds : holds .connectFailed = false) : value flag holds = value flag' holds := by
  rw [value, value, hread, hwrite, hholds, if_neg Bool.false_ne_true, if_neg Bool.false_ne_true]

lemma add_congr {socket : σ} {m : SelectValue} (h : names flag m = names flag' m) {w : Watch σ} :
    w.add flag full socket m = w.add flag' full socket m := by
  have heach : ∀ (cs : List Condition) (w : Watch σ),
      w.addEach flag full socket m cs = w.addEach flag' full socket m cs := by
    intro cs
    induction cs with
    | nil => exact fun _ => rfl
    | cons c cs ih =>
      intro w
      rw [addEach, addEach, h, ih, ih]
  rw [add, add, h, heach]

lemma remove_congr {socket : σ} {m : SelectValue} (h : names flag m = names flag' m)
    {w : Watch σ} : w.remove flag socket m = w.remove flag' socket m := by
  funext c
  rw [remove, remove, h]

/-- Two builds that have different numbers for failed connections only answer a program alike that
does not ask for them. -/
lemma answers_flag (hread : flag .canRead = flag' .canRead)
    (hwrite : flag .canWrite = flag' .canWrite) {inputs : List (WatchInput σ)}
    (hmask : ∀ input ∈ inputs, ∀ m ∈ mask input,
      names flag m .connectFailed = false ∧ names flag' m .connectFailed = false) :
    Machines.answers (respond flag full) nothing inputs
      = Machines.answers (respond flag' full) nothing inputs := by
  have hnames : ∀ {m}, names flag m .connectFailed = false ∧ names flag' m .connectFailed = false →
      names flag m = names flag' m := by
    rintro m ⟨h, h'⟩
    funext c
    cases c with
    | canRead => rw [names, names, hread]
    | canWrite => rw [names, names, hwrite]
    | connectFailed => rw [h, h']
  refine Machines.answers_congr (fun input hinput w => ?_) nothing
  have hmask := hmask input hinput
  cases input with
  | addSocket socket m => rw [respond, respond, add_congr full (hnames (hmask m rfl))]
  | removeSocket socket m => rw [respond, respond, remove_congr (hnames (hmask m rfl))]
  | wait timeoutUs ready failed => rfl
  | testSocket socket m =>
    rw [respond, respond, hnames (hmask m rfl), value_congr hread hwrite]
    rw [(hmask m rfl).2, Bool.false_and]

end Numbers

end Watch

end SMBB
