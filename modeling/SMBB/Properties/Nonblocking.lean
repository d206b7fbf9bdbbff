import SMBB.Construction.Nonblocking
import SMBB.Framework.Flags
import SMBB.Framework.Updates

/-!
# `SetNonblocking` among threads

Threads that share a socket call `SetNonblocking`, and whoever has its descriptor may change its
flags.  A call reads the flags and writes them back, so a change that comes in between may be
undone by it: that is exactly what can go wrong (`flags_asIfAtomic`).  The calls do not disturb one
another: as long as nobody else changes another flag while a call is under way, the flags are at
every moment what they would be if each call were one step.
-/

namespace SMBB
namespace IPSocket

open Updates Flags

/-- The other flags. -/
def otherFlags (flags : BitVec 32) : BitVec 32 := flags &&& ~~~oNonblock

/-- A call changes no other flag. -/
lemma otherFlags_withNonblocking (nonblocking : Bool) (flags : BitVec 32) :
    otherFlags (withNonblocking nonblocking flags) = otherFlags flags := by
  cases nonblocking
  · show (flags &&& ~~~oNonblock) &&& ~~~oNonblock = flags &&& ~~~oNonblock
    rw [BitVec.and_assoc, BitVec.and_self]
  · show (flags ||| oNonblock) &&& ~~~oNonblock = flags &&& ~~~oNonblock
    rw [BitVec.and_or_distrib_right, BitVec.and_not_self]
    exact BitVec.or_zero

/-- What a call writes depends on the other flags only, and on all of them. -/
lemma withNonblocking_eq_iff (nonblocking : Bool) (flags flags' : BitVec 32) :
    withNonblocking nonblocking flags = withNonblocking nonblocking flags'
      ↔ otherFlags flags = otherFlags flags' := by
  constructor
  · intro h
    rw [← otherFlags_withNonblocking nonblocking flags, h, otherFlags_withNonblocking]
  · intro h
    cases nonblocking
    · exact h
    · have hor : (flags &&& ~~~oNonblock) ||| oNonblock = (flags' &&& ~~~oNonblock) ||| oNonblock :=
        congrArg (· ||| oNonblock) h
      rwa [clear_or, clear_or] at hor

/-! ## Interleavings -/

/-- The flags of a socket, and the calls of `SetNonblocking` that have read them; `atomic` is what
they would be if each call were one step. -/
abbrev SocketFlags (θ : Type) := Cell θ (BitVec 32) Bool

/-- `read` is a call's `F_GETFL`, `write` its `F_SETFL`, and `change` is all that others do. -/
abbrev FlagAction (θ : Type) := Action θ (BitVec 32) Bool

variable {θ : Type}

/-- An `F_SETFL` that succeeds has the other flags as they are. -/
def OthersCurrent (flags : SocketFlags θ) : FlagAction θ → Prop
  | .write t true => ∀ read ∈ flags.pending t, otherFlags read.2 = otherFlags flags.current
  | _ => True

variable [DecidableEq θ]

/-- A thread that is alone goes through its call as `setNonblocking` says. -/
lemma run_alone (t : θ) (nonblocking : Bool) (flags : BitVec 32) (getfl setfl : Bool) :
    (Runs.run (step withNonblocking hasFlags) (.idle flags)
        (.read t nonblocking getfl :: if getfl && hasFlags flags then [.write t setfl] else [])).map
        Cell.current
      = some (setNonblocking nonblocking flags getfl setfl).2 := by
  cases getfl
  · rfl
  · rcases h : hasFlags flags with _ | _
    · simp [Runs.run, step, Cell.idle, setNonblocking, h]
    · cases setfl <;> simp [Runs.run, step, Cell.idle, setNonblocking, h]

omit [DecidableEq θ] in
lemma freshAtWrite_iff (flags : SocketFlags θ) (action : FlagAction θ) :
    FreshAtWrite withNonblocking flags action ↔ OthersCurrent flags action := by
  rcases action with ⟨t, nonblocking, ok⟩ | ⟨t, _ | _⟩ | f
  · exact Iff.rfl
  · exact Iff.rfl
  · exact forall₂_congr fun read _ => withNonblocking_eq_iff read.1 read.2 flags.current
  · exact Iff.rfl

/-- **Calls of `SetNonblocking` are as if atomic**, in every interleaving of their system calls,
which may fail, and of any other changes of the flags: at every moment the flags are what they
would be if each call were one step, exactly if no `F_SETFL` has other flags than there are; and
this is so if nobody changes another flag while a call is under way. -/
theorem flags_asIfAtomic (flags : BitVec 32) (actions : List (FlagAction θ)) :
    (Runs.Throughout (step withNonblocking hasFlags) Synchronized (.idle flags) actions
        ↔ Runs.Meets (step withNonblocking hasFlags) OthersCurrent (.idle flags) actions)
      ∧ (Runs.Meets (step withNonblocking hasFlags) (Considerate otherFlags) (.idle flags) actions →
        Runs.Throughout (step withNonblocking hasFlags) Synchronized (.idle flags) actions) := by
  have hstart : Synchronized (Cell.idle flags : SocketFlags θ) := rfl
  have hiff : Runs.Throughout (step withNonblocking hasFlags) Synchronized (.idle flags) actions
      ↔ Runs.Meets (step withNonblocking hasFlags) (FreshAtWrite withNonblocking) (.idle flags)
        actions := synchronized_iff hstart actions
  refine ⟨?_, fun hconsiderate => hiff.mpr ?_⟩
  · rw [hiff]
    exact Runs.meets_congr freshAtWrite_iff _ actions
  · refine freshAtWrites otherFlags_withNonblocking
      (fun nonblocking a b h => (withNonblocking_eq_iff nonblocking a b).mpr h) ?_ hconsiderate
    exact fun t read hread => absurd hread (Option.not_mem_none read)

/-- A flag that is set between the two system calls of a call is lost. -/
example : ¬Runs.Throughout (step withNonblocking hasFlags) Synchronized
    (.idle 0)
    [.read true true true, .change (· ||| 0x400), .write true true] := by
  intro h
  have hlast : (0x800 : BitVec 32) = 0xC00 := ((h.2 _ rfl).2 _ rfl).2 _ rfl
  exact absurd hlast (by decide)

end IPSocket
end SMBB
