import SMBB.Construction.SocketOptions
import SMBB.Properties.MulticastRequests

/-!
# What a setter's success says on an IPv6 socket

A socket of `AF_INET6` uses the options of the IPv6 level.  A kernel may grant it an option of
`IPPROTO_IP` all the same, as Linux does; the setter then returns true and never asks for the
one that counts.  And where the interface for sending is asked for at the level of IPv6, its index
is looked for without the scope of the address, and is `-1` where no interface has the address.
`reaches_iff` is the exact account of both.
-/

namespace SMBB

open Requests InterfaceSource

/-- A call of one of the five setters. -/
inductive Setting
  | setTOS (value : ℕ)
  | setMTUDiscover (value : ℤ)
  | setMulticastHops (value : ℤ)
  | setMulticastLoopback (value : Bool)
  | setMulticastSendInterface (localAddress : IPAddress)

namespace Setting

/-- The call. -/
def apply (kernel : OptionKernel) (interfaces : Interfaces) (options : SocketOptions) :
    Setting → Bool × SocketOptions
  | .setTOS value => options.setTOS kernel value
  | .setMTUDiscover value => options.setMTUDiscover kernel value
  | .setMulticastHops value => options.setMulticastHops kernel value
  | .setMulticastLoopback value => options.setMulticastLoopback kernel value
  | .setMulticastSendInterface localAddress =>
    options.setMulticastSendInterface kernel interfaces localAddress

/-! ## What a call is for -/

/-- The option that counts on an IPv6 socket. -/
def optionIPv6 : Setting → SocketOption
  | .setTOS _ => .ipv6Tclass
  | .setMTUDiscover _ => .ipv6MtuDiscover
  | .setMulticastHops _ => .ipv6MulticastHops
  | .setMulticastLoopback _ => .ipv6MulticastLoop
  | .setMulticastSendInterface _ => .ipv6MulticastIf

/-- The value is the one requested.  A type of service is its bits of `TOS_MASK`; a local address
stands for the index of an interface that has it. -/
def Requested (interfaces : Interfaces) : Setting → OptionValue → Prop
  | .setTOS value, held => held = .int (value &&& tosMask : ℕ)
  | .setMTUDiscover value, held => held = .int value
  | .setMulticastHops value, held => held = .int value
  | .setMulticastLoopback value, held => held = .int (if value then 1 else 0)
  | .setMulticastSendInterface localAddress, held =>
    ∃ index : BitVec 32, held = .int index.toInt
      ∧ NamesIndex (.posix interfaces) localAddress index

/-- Success means that the option of the IPv6 level has the value requested. -/
def Reaches (kernel : OptionKernel) (interfaces : Interfaces) (options : SocketOptions)
    (setting : Setting) : Prop :=
  (setting.apply kernel interfaces options).1 = true →
    setting.Requested interfaces
      ((setting.apply kernel interfaces options).2.contents setting.optionIPv6)

/-! ## What is asked for -/

/-- What the call asks for at the level of IPv4. -/
def requestIPv4 : Setting → Request SocketOption OptionValue
  | .setTOS value => ⟨.ipTos, .int (value &&& tosMask : ℕ)⟩
  | .setMTUDiscover value => ⟨.ipMtuDiscover, .int value⟩
  | .setMulticastHops value => ⟨.ipMulticastTtl, .int value⟩
  | .setMulticastLoopback value => ⟨.ipMulticastLoop, .int (if value then 1 else 0)⟩
  | .setMulticastSendInterface localAddress => ⟨.ipMulticastIf, .inAddr localAddress.sinAddr⟩

/-- What is left to ask for at the level of IPv6.  A local address comes as the index of the first
entry that is listed with its host address, or as `-1`. -/
def requestIPv6 (interfaces : Interfaces) (setting : Setting) :
    Request SocketOption OptionValue where
  slot := setting.optionIPv6
  value :=
    match setting with
    | .setTOS value => .int (value &&& tosMask : ℕ)
    | .setMTUDiscover value => .int value
    | .setMulticastHops value => .int value
    | .setMulticastLoopback value => .int (if value then 1 else 0)
    | .setMulticastSendInterface localAddress =>
      .int (listedIndex (.posix interfaces) localAddress)

/-- The local address, if there is one, is the empty or the any address, or the first entry with
its host address belongs to an interface that has it in its scope. -/
def Listed (interfaces : Interfaces) : Setting → Prop
  | .setMulticastSendInterface localAddress =>
    localAddress.IsWildcard ∨ FoundInScope (.posix interfaces) localAddress
  | _ => True

/-- Every setter asks for its option of the IPv4 level and, in turn, for that of IPv6. -/
lemma apply_eq_askInTurn (kernel : OptionKernel) {interfaces : Interfaces}
    (hsource : (InterfaceSource.posix interfaces).Documented) (options : SocketOptions)
    (setting : Setting) :
    setting.apply kernel interfaces options
      = askInTurn kernel [setting.requestIPv4, setting.requestIPv6 interfaces] options := by
  cases setting
  case setMulticastSendInterface localAddress =>
    rw [requestIPv6, ← getInterfaceIndex_eq_listedIndex hsource]
    exact SocketOptions.setEither_eq_askInTurn kernel options _ _ _ _
  all_goals exact SocketOptions.setEither_eq_askInTurn kernel options _ _ _ _

/-- The two levels have slots of their own. -/
lemma slot_ne (setting : Setting) : setting.optionIPv6 ≠ setting.requestIPv4.slot := by
  cases setting <;> exact SocketOption.noConfusion

/-- What is asked for at the level of IPv6 is what is requested, if the address is found. -/
lemma requested_requestIPv6_iff {interfaces : Interfaces}
    (hsource : (InterfaceSource.posix interfaces).Documented) (setting : Setting) :
    setting.Requested interfaces (setting.requestIPv6 interfaces).value
      ↔ setting.Listed interfaces := by
  cases setting
  case setMulticastSendInterface localAddress =>
    rw [Listed, ← namesIndex_iff hsource, getInterfaceIndex_eq_listedIndex hsource]
    constructor
    · rintro ⟨index, hindex, hnames⟩
      have hlisted : listedIndex (.posix interfaces) localAddress = index.toInt :=
        OptionValue.int.inj hindex
      rwa [hlisted, BitVec.ofInt_toInt]
    · exact fun hnames => ⟨_, congrArg OptionValue.int (toInt_ofInt_listedIndex _ _).symm, hnames⟩
  all_goals exact iff_of_true rfl trivial

/-- The setters' contract on an IPv6 socket, for every kernel, every state of the options and every
argument.  Where the kernel grants the request of the IPv4 level, success says nothing new: the
value must have been there before.  Where it refuses it and grants the one that is left, an
address must be found where it is. -/
theorem reaches_iff (kernel : OptionKernel) {interfaces : Interfaces}
    (hsource : (InterfaceSource.posix interfaces).Documented) (options : SocketOptions)
    (setting : Setting) :
    setting.Reaches kernel interfaces options
      ↔ (kernel options.asked setting.requestIPv4 = true →
          setting.Requested interfaces (options.contents setting.optionIPv6))
        ∧ (kernel options.asked setting.requestIPv4 = false →
          kernel (setting.requestIPv4 :: options.asked) (setting.requestIPv6 interfaces) = true →
          setting.Listed interfaces) := by
  have hturn := askInTurn_concat_iff kernel (setting.requestIPv6 interfaces)
    (setting.Requested interfaces) [setting.requestIPv4] options
    (List.forall_mem_singleton.mpr setting.slot_ne)
  rw [askInTurn_singleton, ask_fst, List.singleton_append,
    requested_requestIPv6_iff hsource] at hturn
  rw [Reaches, apply_eq_askInTurn kernel hsource]
  exact hturn

/-- A kernel that has no option of the IPv4 level, and the address of the first of two links. -/
theorem reaches_linkLocal :
    (Setting.setMulticastSendInterface (.linkLocal 1)).Reaches
      (fun _ request => request.slot = .ipv6MulticastIf) IPAddress.twoLinks
      ⟨fun _ => .int 0, []⟩ := by
  have hsource : (InterfaceSource.posix IPAddress.twoLinks).Documented := by
    simp only [InterfaceSource.Documented]
    decide
  have hentry : (IPAddress.linkLocal 1, 1)
      ∈ (InterfaceSource.posix IPAddress.twoLinks).entries ipv6 := List.mem_cons_self
  have hsame : IPAddress.SameAddress (.linkLocal 1) (.linkLocal 1) := ⟨Or.inr (by decide), rfl, rfl⟩
  refine (reaches_iff _ hsource _ _).mpr
    ⟨fun h => absurd h (by decide), fun _ _ => Or.inr ⟨1, firstIndex_cons_same hsame 1 _, ?_⟩⟩
  exact ⟨.linkLocal 1, hentry, hsame, fun _ _ => rfl⟩

/-- Two calls that succeed, on sockets that hold zeros.  A kernel that grants everything leaves
`IPV6_MULTICAST_HOPS` at zero, five hops being asked for; one that has no option of the IPv4 level
sends from the first of two links, the address being that of the second. -/
theorem not_reaches_hops_linkLocal :
    ¬(Setting.setMulticastHops 5).Reaches (fun _ _ => true) ⟨some [], fun _ => 0⟩
        ⟨fun _ => .int 0, []⟩
      ∧ ¬(Setting.setMulticastSendInterface (.linkLocal 2)).Reaches
        (fun _ request => request.slot = .ipv6MulticastIf) IPAddress.twoLinks
        ⟨fun _ => .int 0, []⟩ := by
  constructor
  · intro h
    have hheld : OptionValue.int 0 = .int 5 := h rfl
    exact absurd hheld (by decide)
  · intro h
    obtain ⟨index, hheld, -, hnames⟩ := h rfl
    have hindex : OptionValue.int (1 : BitVec 32).toInt = .int index.toInt := hheld
    obtain rfl := BitVec.eq_of_toInt_eq (OptionValue.int.inj hindex)
    obtain ⟨addr, hmem, -, hscope⟩ := hnames (by decide)
    have hentries : (addr, (1 : BitVec 32)) ∈ [(IPAddress.linkLocal 1, 1), (.linkLocal 2, 2)] :=
      hmem
    obtain rfl : addr = .linkLocal 1 := by simpa using hentries
    exact absurd (hscope (by decide) (by decide)) (by decide)

end Setting

end SMBB
