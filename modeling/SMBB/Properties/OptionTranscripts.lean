import SMBB.Construction.OptionGetters
import SMBB.Properties.OptionLevels

/-!
# The options of a socket as registers

Seen from outside, the options are registers: a setter that succeeds writes one, a setter that
fails writes none, and a getter reads what was written last (`Registers.Explains`).  A value may
be reported differently than it was written, by a rule of the system; the type of service and the
DSCP are two views of one register, the latter of its upper six bits.

For the options with two levels this needs that a socket has each of them at one level, the same
for writing and for reading (`OneLevel`).  Then no run of setters and getters can be told from one
of registers (`options_explained`): which of the levels it was does not show, no option is
mistaken for another, and nothing is written by a setter that returns false.
-/

namespace SMBB

open Requests

/-! ## Registers -/

/-- The options with two levels that can be read. -/
inductive Feature
  | tos
  | mtuDiscover
  | multicastHops
  | multicastLoopback
deriving DecidableEq

/-- A register: a feature, or an option with one level. -/
inductive Register
  | feature (feature : Feature)
  | plain (option : PlainOption)
deriving DecidableEq

/-- What a getter reads. -/
abbrev Registers := Register → ℤ

/-- The setters. -/
inductive OptionSetter
  | setting (setting : Setting)
  | setDSCP (value : ℕ)
  | setImmediateSend (enable : Bool)
  | setKeepAlive (enable : Bool)
  | setReuseAddress (enable : Bool)
  | setReusePort (enable : Bool)
  | setReceiveBufferSize (size : ℤ)
  | setSendBufferSize (size : ℤ)

/-- The getters. -/
inductive OptionGetter
  | getTOS
  | getDSCP
  | getMTUDiscover
  | getMulticastHops
  | getMulticastLoopback
  | getImmediateSend
  | getKeepAlive
  | getReuseAddress
  | getReusePort
  | getReceiveBufferSize
  | getSendBufferSize
deriving DecidableEq

/-- A call. -/
inductive OptionCall
  | set (setter : OptionSetter)
  | get (getter : OptionGetter)

/-- What a call returns. -/
inductive OptionAnswer
  | done (ok : Bool)
  | int (value : ℤ)
  | bool (value : Bool)
deriving DecidableEq

/-- The register that a setter writes, and the value.  The interface for sending is nothing that
can be read. -/
def OptionSetter.target : OptionSetter → Option (Register × OptionValue)
  | .setting (.setTOS value) => some (.feature .tos, .int (value &&& tosMask : ℕ))
  | .setting (.setMTUDiscover value) => some (.feature .mtuDiscover, .int value)
  | .setting (.setMulticastHops value) => some (.feature .multicastHops, .int value)
  | .setting (.setMulticastLoopback value) =>
    some (.feature .multicastLoopback, .int (if value then 1 else 0))
  | .setting (.setMulticastSendInterface _) => none
  | .setDSCP value => some (.feature .tos, .int ((value &&& dscpMask) <<< 2 : ℕ))
  | .setImmediateSend enable => some (.plain .tcpNodelay, .int (if enable then 1 else 0))
  | .setKeepAlive enable => some (.plain .soKeepalive, .int (if enable then 1 else 0))
  | .setReuseAddress enable => some (.plain .soReuseaddr, .int (if enable then 1 else 0))
  | .setReusePort enable => some (.plain .soReuseport, .int (if enable then 1 else 0))
  | .setReceiveBufferSize size => some (.plain .soRcvbuf, .int size)
  | .setSendBufferSize size => some (.plain .soSndbuf, .int size)

/-- What a getter returns. -/
def OptionGetter.look (registers : Registers) : OptionGetter → OptionAnswer
  | .getTOS => .int (registers (.feature .tos))
  | .getDSCP => .int (registers (.feature .tos) >>> (2 : ℕ))
  | .getMTUDiscover => .int (registers (.feature .mtuDiscover))
  | .getMulticastHops => .int (registers (.feature .multicastHops))
  | .getMulticastLoopback => .bool (registers (.feature .multicastLoopback) ≠ 0)
  | .getImmediateSend => .bool (registers (.plain .tcpNodelay) ≠ 0)
  | .getKeepAlive => .bool (registers (.plain .soKeepalive) ≠ 0)
  | .getReuseAddress => .bool (registers (.plain .soReuseaddr) ≠ 0)
  | .getReusePort => .bool (registers (.plain .soReuseport) ≠ 0)
  | .getReceiveBufferSize => .int (registers (.plain .soRcvbuf))
  | .getSendBufferSize => .int (registers (.plain .soSndbuf))

namespace Registers

/-- The registers after a setter that has returned `ok`, a value `x` being reported as
`reading x`. -/
def write (reading : Register → OptionValue → ℤ) (registers : Registers) (setter : OptionSetter)
    (ok : Bool) : Registers :=
  match ok, setter.target with
  | true, some (register, value) =>
    Function.update registers register (reading register value)
  | _, _ => registers

/-- The calls and their answers are those of registers that begin so. -/
def Explains (reading : Register → OptionValue → ℤ) :
    Registers → List (OptionCall × OptionAnswer) → Prop
  | _, [] => True
  | registers, (.set setter, answer) :: rest =>
    ∃ ok, answer = .done ok ∧ Explains reading (registers.write reading setter ok) rest
  | registers, (.get getter, answer) :: rest =>
    answer = getter.look registers ∧ Explains reading registers rest

end Registers

/-! ## The options of a socket -/

/-- The options of one socket, of both kinds. -/
structure SocketState where
  options : SocketOptions
  plain : PlainOptions

/-- What the options of a socket depend on: how the system answers, and what it reports. -/
structure OptionSystem where
  kernel : OptionKernel
  report : OptionReport
  plainKernel : PlainKernel
  plainReport : PlainReport
  interfaces : Interfaces

namespace SocketState

variable (system : OptionSystem)

/-- A setter on the options with one level. -/
def setPlain (state : SocketState) (result : Bool × PlainOptions) : Bool × SocketState :=
  (result.1, { state with plain := result.2 })

/-- A setter on the options with two. -/
def setOptions (state : SocketState) (result : Bool × SocketOptions) : Bool × SocketState :=
  (result.1, { state with options := result.2 })

/-- A setter. -/
def set (state : SocketState) : OptionSetter → Bool × SocketState
  | .setting setting =>
    state.setOptions (setting.apply system.kernel system.interfaces state.options)
  | .setDSCP value => state.setOptions (state.options.setDSCP system.kernel value)
  | .setImmediateSend enable =>
    state.setPlain (PlainOptions.setImmediateSend system.plainKernel state.plain enable)
  | .setKeepAlive enable =>
    state.setPlain (PlainOptions.setKeepAlive system.plainKernel state.plain enable)
  | .setReuseAddress enable =>
    state.setPlain (PlainOptions.setReuseAddress system.plainKernel state.plain enable)
  | .setReusePort enable =>
    state.setPlain (PlainOptions.setReusePort system.plainKernel state.plain enable)
  | .setReceiveBufferSize size =>
    state.setPlain (PlainOptions.setReceiveBufferSize system.plainKernel state.plain size)
  | .setSendBufferSize size =>
    state.setPlain (PlainOptions.setSendBufferSize system.plainKernel state.plain size)

/-- A getter. -/
def get (state : SocketState) : OptionGetter → OptionAnswer
  | .getTOS => .int (state.options.getTOS system.report)
  | .getDSCP => .int (state.options.getDSCP system.report)
  | .getMTUDiscover => .int (state.options.getMTUDiscover system.report)
  | .getMulticastHops => .int (state.options.getMulticastHops system.report)
  | .getMulticastLoopback => .bool (state.options.getMulticastLoopback system.report)
  | .getImmediateSend => .bool (PlainOptions.getImmediateSend system.plainReport state.plain)
  | .getKeepAlive => .bool (PlainOptions.getKeepAlive system.plainReport state.plain)
  | .getReuseAddress => .bool (PlainOptions.getReuseAddress system.plainReport state.plain)
  | .getReusePort => .bool (PlainOptions.getReusePort system.plainReport state.plain)
  | .getReceiveBufferSize =>
    .int (PlainOptions.getReceiveBufferSize system.plainReport state.plain)
  | .getSendBufferSize => .int (PlainOptions.getSendBufferSize system.plainReport state.plain)

/-- A run of calls, with their answers. -/
def transcript : SocketState → List OptionCall → List (OptionCall × OptionAnswer)
  | _, [] => []
  | state, .set setter :: calls =>
    let (ok, state') := state.set system setter
    (.set setter, .done ok) :: transcript state' calls
  | state, .get getter :: calls =>
    (.get getter, state.get system getter) :: transcript state calls

end SocketState

/-! ## One level for each feature -/

namespace Feature

/-- The option of a feature at the level of IPv4, or at that of IPv6. -/
def option : Feature → Bool → SocketOption
  | .tos, true => .ipTos
  | .tos, false => .ipv6Tclass
  | .mtuDiscover, true => .ipMtuDiscover
  | .mtuDiscover, false => .ipv6MtuDiscover
  | .multicastHops, true => .ipMulticastTtl
  | .multicastHops, false => .ipv6MulticastHops
  | .multicastLoopback, true => .ipMulticastLoop
  | .multicastLoopback, false => .ipv6MulticastLoop

/-- What its getter returns when it can read nothing. -/
def unread : Feature → ℤ
  | .tos => 0
  | .mtuDiscover => mtuDiscoverDefault
  | .multicastHops => -1
  | .multicastLoopback => 0

end Feature

/-- The feature that an option belongs to. -/
def SocketOption.feature : SocketOption → Option Feature
  | .ipTos | .ipv6Tclass => some .tos
  | .ipMtuDiscover | .ipv6MtuDiscover => some .mtuDiscover
  | .ipMulticastTtl | .ipv6MulticastHops => some .multicastHops
  | .ipMulticastLoop | .ipv6MulticastLoop => some .multicastLoopback
  | .ipMulticastIf | .ipv6MulticastIf => none

lemma Feature.feature_option (feature : Feature) (atIPv4 : Bool) :
    (feature.option atIPv4).feature = some feature := by
  cases feature <;> cases atIPv4 <;> rfl

/-- An option of another feature, or of none, is another option. -/
lemma Feature.option_ne {feature : Feature} {other : SocketOption}
    (h : other.feature ≠ some feature) (atIPv4 : Bool) : feature.option atIPv4 ≠ other := by
  intro heq
  exact h (heq ▸ feature.feature_option atIPv4)

/-- The socket has each feature at the level of IPv4, or at that of IPv6: the level it has answers
`getsockopt`, the other one is refused what is set there.  A value refused at the level of IPv4
that the socket has is not granted at the other. -/
structure OneLevel (system : OptionSystem) (atIPv4 : Feature → Bool) : Prop where
  reads : ∀ (feature : Feature) (value : OptionValue),
    (system.report (feature.option true) value).isSome = atIPv4 feature
  refuses : ∀ (asked : List (Request SocketOption OptionValue)) (feature : Feature)
    (value : OptionValue), atIPv4 feature = false →
    system.kernel asked ⟨feature.option true, value⟩ = false
  agrees : ∀ (asked : List (Request SocketOption OptionValue)) (feature : Feature)
    (value : OptionValue), atIPv4 feature = true →
    system.kernel asked ⟨feature.option true, value⟩ = false →
    system.kernel (⟨feature.option true, value⟩ :: asked) ⟨feature.option false, value⟩ = false

section

variable (system : OptionSystem) (atIPv4 : Feature → Bool)

/-- How a value of a register is reported. -/
def reading : Register → OptionValue → ℤ
  | .feature feature, value =>
    (system.report (feature.option (atIPv4 feature)) value).getD feature.unread
  | .plain option, .int value => (system.plainReport option value).getD 0
  | .plain _, .inAddr _ => 0

/-- What the registers of a socket hold. -/
def registersOf (state : SocketState) : Registers
  | .feature feature =>
    reading system atIPv4 (.feature feature)
      (state.options.contents (feature.option (atIPv4 feature)))
  | .plain option => reading system atIPv4 (.plain option) (.int (state.plain.contents option))

end

section Steps

variable {system : OptionSystem} {atIPv4 : Feature → Bool}

/-! ## Getters -/

/-- A getter of a feature reads the level the socket has. -/
lemma OneLevel.getEither_eq (h : OneLevel system atIPv4) (state : SocketState)
    (feature : Feature) :
    state.options.getEither system.report (feature.option true) (feature.option false)
        feature.unread
      = registersOf system atIPv4 state (.feature feature) := by
  have hreads := h.reads feature (state.options.contents (feature.option true))
  rw [SocketOptions.getEither, SocketOptions.getOptionInternalDefault,
    SocketOptions.getOptionInternal, SocketOptions.getOptionInternal, registersOf, reading]
  rcases hlevel : atIPv4 feature with _ | _
  · rw [hlevel] at hreads
    rw [Option.isSome_eq_false_iff.mp hreads |> Option.isNone_iff_eq_none.mp]
    dsimp only
    rcases system.report (feature.option false)
      (state.options.contents (feature.option false)) with _ | value <;> rfl
  · rw [hlevel] at hreads
    obtain ⟨value, hvalue⟩ := Option.isSome_iff_exists.mp hreads
    rw [hvalue]
    rfl

/-- What a getter returns is what it looks up in the registers. -/
lemma OneLevel.get_eq (h : OneLevel system atIPv4) (state : SocketState)
    (getter : OptionGetter) :
    state.get system getter = getter.look (registersOf system atIPv4 state) := by
  cases getter
  case getTOS => exact congrArg OptionAnswer.int (h.getEither_eq state .tos)
  case getDSCP =>
    exact congrArg (fun value : ℤ => OptionAnswer.int (value >>> (2 : ℕ)))
      (h.getEither_eq state .tos)
  case getMTUDiscover => exact congrArg OptionAnswer.int (h.getEither_eq state .mtuDiscover)
  case getMulticastHops =>
    exact congrArg OptionAnswer.int (h.getEither_eq state .multicastHops)
  case getMulticastLoopback =>
    exact congrArg (fun value : ℤ => OptionAnswer.bool (value ≠ 0))
      (h.getEither_eq state .multicastLoopback)
  all_goals rfl

/-! ## Setters -/

/-- The slot of each feature after a setter of one: it is written if the setter succeeds, and no
other one ever is. -/
lemma OneLevel.setEither_contents (h : OneLevel system atIPv4) (options : SocketOptions)
    (feature : Feature) (value : OptionValue) (other : Feature) :
    (options.setEither system.kernel (feature.option true) value (feature.option false)
        value).2.contents (other.option (atIPv4 other))
      = if (options.setEither system.kernel (feature.option true) value (feature.option false)
            value).1 = true ∧ other = feature
        then value else options.contents (other.option (atIPv4 other)) := by
  rw [SocketOptions.setEither_eq_askInTurn]
  by_cases hother : other = feature
  case neg =>
    rw [if_neg (fun hboth => hother hboth.2)]
    have hlevels : ∀ level, other.option (atIPv4 other) ≠ feature.option level := by
      intro level
      refine other.option_ne ?_ _
      rw [feature.feature_option]
      exact fun heq => hother (Option.some.inj heq).symm
    exact askInTurn_other _ _ _
      (List.forall_mem_cons.mpr ⟨hlevels true, List.forall_mem_singleton.mpr (hlevels false)⟩)
  subst hother
  rcases hfirst : system.kernel options.asked ⟨other.option true, value⟩ with _ | _
  · rw [askInTurn_cons_refused _ hfirst, askInTurn_singleton]
    have hkept : (ask system.kernel options ⟨other.option true, value⟩).2.contents
        = options.contents := ask_refused hfirst
    rcases hsecond : system.kernel (⟨other.option true, value⟩ :: options.asked)
      ⟨other.option false, value⟩ with _ | _
    · rw [ask_fst, ask_refused hsecond, hkept]
      exact (if_neg fun hboth => Bool.false_ne_true (hsecond.symm.trans hboth.1)).symm
    · -- granted at the level of IPv6, which is then the one the socket has
      have hlevel : atIPv4 other = false := by
        by_contra hne
        have hagrees := h.agrees options.asked other value (Bool.not_eq_false _ ▸ hne) hfirst
        exact Bool.false_ne_true (hagrees.symm.trans hsecond)
      rw [ask_fst, if_pos ⟨hsecond, rfl⟩, hlevel]
      exact @ask_granted _ _ _ system.kernel _ ⟨other.option false, value⟩ hsecond
  · -- granted at the level of IPv4, which is then the one the socket has
    have hlevel : atIPv4 other = true := by
      by_contra hne
      have hrefuses := h.refuses options.asked other value (Bool.not_eq_true _ ▸ hne)
      exact Bool.false_ne_true (hrefuses.symm.trans hfirst)
    rw [askInTurn_cons_granted _ hfirst, if_pos ⟨rfl, rfl⟩, hlevel]
    exact ask_granted hfirst

/-- A setter of a feature writes its register, if it succeeds. -/
lemma OneLevel.registersOf_setEither (h : OneLevel system atIPv4) (state : SocketState)
    (feature : Feature) (value : OptionValue) :
    registersOf system atIPv4 (state.setOptions (state.options.setEither system.kernel
        (feature.option true) value (feature.option false) value)).2
      = if (state.options.setEither system.kernel (feature.option true) value
            (feature.option false) value).1
        then Function.update (registersOf system atIPv4 state) (.feature feature)
          (reading system atIPv4 (.feature feature) value)
        else registersOf system atIPv4 state := by
  have hcontents := h.setEither_contents state.options feature value
  generalize state.options.setEither system.kernel (feature.option true) value
    (feature.option false) value = result at hcontents ⊢
  funext register
  rcases register with other | option
  · show reading system atIPv4 (.feature other)
      (result.2.contents (other.option (atIPv4 other))) = _
    rw [hcontents other]
    rcases hok : result.1 with _ | _
    · rw [if_neg fun hboth => Bool.false_ne_true hboth.1, if_neg Bool.false_ne_true]
      rfl
    · rw [if_pos rfl]
      by_cases hother : other = feature
      · rw [if_pos ⟨rfl, hother⟩, hother, Function.update_self]
      · rw [if_neg fun hboth => hother hboth.2,
          Function.update_of_ne (fun heq => hother (Register.feature.inj heq))]
        rfl
  · rcases result.1 with _ | _
    · rfl
    · exact (Function.update_of_ne Register.noConfusion _ _).symm

/-- The setter of the interface for sending writes no register. -/
lemma registersOf_setMulticastSendInterface (state : SocketState) (localAddress : IPAddress) :
    registersOf system atIPv4 (state.setOptions (state.options.setMulticastSendInterface
        system.kernel system.interfaces localAddress)).2
      = registersOf system atIPv4 state := by
  funext register
  rcases register with other | option
  · have hlevels : ∀ option : SocketOption, option.feature = none →
        other.option (atIPv4 other) ≠ option := by
      intro option hnone
      exact other.option_ne (hnone ▸ Option.some_ne_none other ∘ Eq.symm) _
    refine congrArg (reading system atIPv4 (.feature other)) ?_
    show (state.options.setMulticastSendInterface system.kernel system.interfaces
      localAddress).2.contents _ = state.options.contents _
    rw [SocketOptions.setMulticastSendInterface, SocketOptions.setEither_eq_askInTurn]
    exact askInTurn_other _ _ _ (List.forall_mem_cons.mpr
      ⟨hlevels _ rfl, List.forall_mem_singleton.mpr (hlevels _ rfl)⟩)
  · rfl

/-- A setter of an option with one level writes its register, if it succeeds. -/
lemma registersOf_setPlain (state : SocketState) (option : PlainOption) (value : ℤ) :
    registersOf system atIPv4 (state.setPlain
        (PlainOptions.setOptionInternal system.plainKernel state.plain option value)).2
      = if (PlainOptions.setOptionInternal system.plainKernel state.plain option value).1
        then Function.update (registersOf system atIPv4 state) (.plain option)
          (reading system atIPv4 (.plain option) (.int value))
        else registersOf system atIPv4 state := by
  funext register
  rw [PlainOptions.setOptionInternal, ask_fst]
  rcases hgranted : system.plainKernel state.plain.asked ⟨option, value⟩ with _ | _
  · rw [if_neg Bool.false_ne_true]
    rcases register with feature | other
    · rfl
    · exact congrArg (fun contents => reading system atIPv4 (.plain other) (.int (contents other)))
        (ask_refused hgranted)
  · rw [if_pos rfl]
    rcases register with feature | other
    · exact (Function.update_of_ne Register.noConfusion _ _).symm
    · show reading system atIPv4 (.plain other)
        (.int ((ask system.plainKernel state.plain ⟨option, value⟩).2.contents other)) = _
      by_cases hother : other = option
      · rw [hother, Function.update_self]
        exact congrArg (fun kept => reading system atIPv4 (.plain option) (.int kept))
          (@ask_granted _ _ _ system.plainKernel _ ⟨option, value⟩ hgranted)
      · rw [Function.update_of_ne (fun heq => hother (Register.plain.inj heq)),
          @ask_other _ _ _ system.plainKernel state.plain ⟨option, value⟩ _ hother]
        rfl

/-! ## The type of service and the DSCP -/

/-- The bits of a shifted DSCP that `TOS_MASK` lets through are those of `DSCP_MASK`: the mask has
one bit more, and a shifted value has no such bit. -/
lemma shiftLeft_and_tosMask (value : ℕ) :
    (value <<< 2) &&& tosMask = (value &&& dscpMask) <<< 2 := by
  have hbit : (value <<< 2) &&& 2 = 0 := by
    refine Nat.eq_of_testBit_eq fun i => ?_
    rw [Nat.testBit_and, Nat.testBit_shiftLeft, Nat.zero_testBit]
    by_cases hi : i = 1
    · subst hi
      rfl
    · have htwo : Nat.testBit (2 ^ 1) i = false := Nat.testBit_two_pow_of_ne (Ne.symm hi)
      rw [show (2 : ℕ) = 2 ^ 1 from rfl, htwo, Bool.and_false]
  calc (value <<< 2) &&& tosMask
      = (value <<< 2) &&& (dscpMask <<< 2 ||| 2) := rfl
    _ = (value <<< 2) &&& (dscpMask <<< 2) ||| (value <<< 2) &&& 2 := Nat.and_or_distrib_left ..
    _ = (value <<< 2) &&& (dscpMask <<< 2) := by rw [hbit, Nat.or_zero]
    _ = (value &&& dscpMask) <<< 2 := Nat.shiftLeft_and_distrib.symm

/-! ## One call, and a run -/

lemma Registers.write_some {read : Register → OptionValue → ℤ} {registers : Registers}
    {setter : OptionSetter} {register : Register} {value : OptionValue}
    (h : setter.target = some (register, value)) (ok : Bool) :
    registers.write read setter ok
      = if ok then Function.update registers register (read register value) else registers := by
  cases ok
  · rfl
  · simp only [write, h]
    rfl

/-- A setter that succeeds writes the register it is for, and one that fails writes none. -/
lemma OneLevel.registersOf_set (h : OneLevel system atIPv4) (state : SocketState)
    (setter : OptionSetter) :
    registersOf system atIPv4 (state.set system setter).2
      = (registersOf system atIPv4 state).write (reading system atIPv4) setter
          (state.set system setter).1 := by
  have hplain := @registersOf_setPlain system atIPv4 state
  have heither := h.registersOf_setEither state
  cases setter
  case setting setting =>
    cases setting
    case setTOS value => exact (heither .tos _).trans (Registers.write_some rfl _).symm
    case setMTUDiscover value =>
      exact (heither .mtuDiscover _).trans (Registers.write_some rfl _).symm
    case setMulticastHops value =>
      exact (heither .multicastHops _).trans (Registers.write_some rfl _).symm
    case setMulticastLoopback value =>
      exact (heither .multicastLoopback _).trans (Registers.write_some rfl _).symm
    case setMulticastSendInterface localAddress =>
      refine (registersOf_setMulticastSendInterface state localAddress).trans ?_
      rcases (state.set system (.setting (.setMulticastSendInterface localAddress))).1 <;> rfl
  case setDSCP value =>
    have htarget : (OptionSetter.setDSCP value).target
        = some (.feature .tos, .int ((value <<< 2) &&& tosMask : ℕ)) := by
      rw [shiftLeft_and_tosMask]
      rfl
    exact (heither .tos _).trans (Registers.write_some htarget _).symm
  all_goals exact (hplain _ _).trans (Registers.write_some rfl _).symm

/-- The options of a socket are registers, for every kernel that gives the socket one level of
each feature, from every state of the options and over every run of setters and getters: each
getter returns what the last successful setter of its register wrote, the way the system reports
it, and no other call changes it. -/
theorem options_explained (h : OneLevel system atIPv4) :
    ∀ (calls : List OptionCall) (state : SocketState),
      Registers.Explains (reading system atIPv4) (registersOf system atIPv4 state)
        (state.transcript system calls)
  | [], _ => trivial
  | .set setter :: calls, state => by
    refine ⟨(state.set system setter).1, rfl, ?_⟩
    rw [← h.registersOf_set]
    exact options_explained h calls (state.set system setter).2
  | .get getter :: calls, state =>
    ⟨h.get_eq state getter, options_explained h calls state⟩

end Steps

/-- A system that has the type of service at the level of IPv4 and everything else at that of
IPv6. -/
def dualSystem : OptionSystem where
  kernel _ request := request.slot = .ipTos ∨ request.slot.feature ≠ some .tos
    ∧ request.slot ∉ [.ipMtuDiscover, .ipMulticastTtl, .ipMulticastLoop]
  report
    | .ipMtuDiscover, _ | .ipMulticastTtl, _ | .ipMulticastLoop, _ => none
    | _, .int value => some value
    | _, .inAddr _ => some 0
  plainKernel _ _ := true
  plainReport _ value := some value
  interfaces := ⟨some [], fun _ => 0⟩

/-- A DSCP at the level of IPv4, and hops at that of IPv6. -/
theorem options_explained_dual :
    let state : SocketState := ⟨⟨fun _ => .int 0, []⟩, ⟨fun _ => 0, []⟩⟩
    let run := state.transcript dualSystem [.set (.setDSCP 46),
      .set (.setting (.setMulticastHops 5)), .get .getTOS, .get .getDSCP, .get .getMulticastHops]
    Registers.Explains (reading dualSystem fun feature => feature = .tos)
        (registersOf dualSystem (fun feature => feature = .tos) state) run
      ∧ run.map Prod.snd = [.done true, .done true, .int 184, .int 46, .int 5] := by
  refine ⟨options_explained ⟨?_, ?_, ?_⟩ _ _, by decide⟩
  · intro feature value
    cases feature <;> cases value <;> rfl
  · intro _ feature _ h
    cases feature
    case tos => exact absurd h (by decide)
    all_goals rfl
  · intro _ feature _ h hrefused
    cases feature
    case tos => exact absurd hrefused.symm Bool.false_ne_true
    all_goals exact absurd h (by decide)

end SMBB
