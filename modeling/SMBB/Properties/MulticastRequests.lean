import SMBB.Construction.Multicast
import SMBB.Properties.InterfaceIndices

/-!
# What a membership is asked for

A request should name the interface of the local address and the address of the source, and none
should be made of an address that it has no room for.  The IPv4 requests take the bytes of
`sin_addr` out of arguments of any family.  The index in an IPv6 request is looked for without the
scope of the address, and an address that no interface has makes an index of its own.
`multicast_namesArguments_iff` says when none of this matters.
-/

namespace SMBB

namespace IPAddress

/-- The empty address or the any address. -/
def IsWildcard (a : IPAddress) : Prop := a.getFamily = familyUnspecified ∨ a.isAny = true

/-- The values have the same host address. -/
def SameAddress (a addr : IPAddress) : Prop :=
  a.IsInet ∧ addr.getFamily = a.getFamily ∧ addr.addressBytes = a.addressBytes

/-- On values of one family, the comparisons of the two builds are that of the host addresses. -/
lemma sameAddress_iff {a addr : IPAddress} (hfamily : addr.getFamily = a.getFamily) :
    SameAddress a addr
      ↔ (a.getFamily = ipv4 ∧ addr.sinAddr = a.sinAddr)
        ∨ (a.getFamily = ipv6 ∧ addr.sin6Addr = a.sin6Addr) := by
  by_cases h4 : a.getFamily = ipv4
  · have hbytes : addr.addressBytes = a.addressBytes ↔ addr.sinAddr = a.sinAddr := by
      rw [addressBytes_ipv4 h4, addressBytes_ipv4 (hfamily.trans h4), Vector.toList_inj]
    simp [SameAddress, IsInet, hfamily, hbytes, h4, ipv6_ne_ipv4.symm]
  · by_cases h6 : a.getFamily = ipv6
    · have hbytes : addr.addressBytes = a.addressBytes ↔ addr.sin6Addr = a.sin6Addr := by
        rw [addressBytes_ipv6 h6, addressBytes_ipv6 (hfamily.trans h6), Vector.toList_inj]
      simp [SameAddress, IsInet, hfamily, hbytes, h6, ipv6_ne_ipv4]
    · simp [SameAddress, IsInet, h4, h6]

instance (a addr : IPAddress) : Decidable (SameAddress a addr) :=
  inferInstanceAs (Decidable (_ ∧ _ ∧ _))

/-- The scope id of the value, if it has one, is that of the other. -/
def InScope (a addr : IPAddress) : Prop :=
  a.getFamily = ipv6 → a.sin6ScopeId ≠ .replicate 4 0 → addr.sin6ScopeId = a.sin6ScopeId

lemma carriedBy_eq {a addr : IPAddress} {it : Ifaddr} (haddr : it.addr = some addr) :
    a.carriedBy it = decide (SameAddress a addr) := by
  rw [carriedBy, haddr]
  by_cases hfamily : addr.getFamily = a.getFamily
  · simp [sameAddress_iff hfamily, hfamily, or_comm]
  · simp [SameAddress, hfamily, Ne.symm hfamily]

end IPAddress

lemma Windows.carriedBy_eq {a addr : IPAddress} (hfamily : addr.getFamily = a.getFamily) :
    carriedBy a (some addr) = decide (a.SameAddress addr) := by
  simp [carriedBy, IPAddress.sameAddress_iff hfamily]

/-! ## The interfaces of an address -/

namespace InterfaceSource

/-- The address of an entry of `getifaddrs`, with its index. -/
def ofIfaddr (interfaces : Interfaces) (it : Ifaddr) : Option (IPAddress × BitVec 32) :=
  it.addr.map fun addr => (addr, interfaces.ifNametoindex it.name)

/-- The addresses of an adapter, with its index. -/
def ofAdapter (family : ℕ) (it : Windows.Adapter) (l : List (Option IPAddress)) :
    List (IPAddress × BitVec 32) :=
  l.filterMap fun addr => addr.map fun addr => (addr, it.index family)

/-- The addresses that are listed for a family, each with the index of its interface. -/
def entries : InterfaceSource → ℕ → List (IPAddress × BitVec 32)
  | .posix interfaces, _ => (interfaces.getifaddrs.getD []).filterMap (ofIfaddr interfaces)
  | .windows getAdaptersAddresses, family =>
    ((getAdaptersAddresses family).getD []).flatMap fun it =>
      ofAdapter family it it.unicastAddresses

/-- What the system documents: indices are positive, and Windows lists a family alone. -/
def Documented : InterfaceSource → Prop
  | .posix interfaces => ∀ it ∈ interfaces.getifaddrs.getD [], 0 < interfaces.index it
  | .windows getAdaptersAddresses =>
    ∀ family, ∀ it ∈ (getAdaptersAddresses family).getD [],
      ∀ addr, some addr ∈ it.unicastAddresses →
        addr.getFamily = family ∧ 0 < (it.index family).toInt

/-- The interface with this index has the address, in its scope. -/
def Carries (source : InterfaceSource) (a : IPAddress) (index : BitVec 32) : Prop :=
  ∃ addr, (addr, index) ∈ source.entries a.getFamily ∧ a.SameAddress addr ∧ a.InScope addr

/-- The index of the first entry with the host address. -/
def firstIndex (a : IPAddress) (entries : List (IPAddress × BitVec 32)) : Option (BitVec 32) :=
  (entries.find? fun e => a.SameAddress e.1).map Prod.snd

lemma firstIndex_cons_same {a addr : IPAddress} (h : a.SameAddress addr) (index : BitVec 32)
    (rest : List (IPAddress × BitVec 32)) : firstIndex a ((addr, index) :: rest) = some index := by
  rw [firstIndex, List.find?_cons, decide_eq_true h]
  rfl

lemma firstIndex_cons_other {a addr : IPAddress} (h : ¬a.SameAddress addr) (index : BitVec 32)
    (rest : List (IPAddress × BitVec 32)) :
    firstIndex a ((addr, index) :: rest) = firstIndex a rest := by
  rw [firstIndex, List.find?_cons, decide_eq_false h]
  rfl

lemma firstIndex_append (a : IPAddress) (l l' : List (IPAddress × BitVec 32)) :
    firstIndex a (l ++ l') = (firstIndex a l).or (firstIndex a l') := by
  rw [firstIndex, List.find?_append, Option.map_or]
  rfl

lemma exists_of_firstIndex {a : IPAddress} {l : List (IPAddress × BitVec 32)} {index : BitVec 32}
    (h : firstIndex a l = some index) : ∃ addr, (addr, index) ∈ l ∧ a.SameAddress addr := by
  obtain ⟨⟨addr, _⟩, hfind, rfl⟩ := Option.map_eq_some_iff.mp h
  have hsame := List.find?_some hfind
  exact ⟨addr, List.mem_of_find?_eq_some hfind, of_decide_eq_true hsame⟩

/-- A `GetInterfaceIndex` that has come to an entry, or to none. -/
def toResult (index : Option (BitVec 32)) : ℤ := index.elim (-1) BitVec.toInt

end InterfaceSource

open InterfaceSource

/-! ## The walks -/

/-- The walk of the POSIX build ends at the first entry with the address. -/
lemma interfaceIndexLoop_eq_toResult {interfaces : Interfaces} {a : IPAddress} {l : List Ifaddr}
    (hindex : ∀ it ∈ l, 0 < interfaces.index it) :
    a.interfaceIndexLoop interfaces l (-1)
      = toResult (firstIndex a (l.filterMap (ofIfaddr interfaces))) := by
  have hcarried (it : Ifaddr) :
      a.carriedBy it = (ofIfaddr interfaces it).any fun e => a.SameAddress e.1 := by
    cases haddr : it.addr with
    | none =>
      rw [IPAddress.carriedBy, ofIfaddr, haddr]
      rfl
    | some addr =>
      rw [IPAddress.carriedBy_eq haddr, ofIfaddr, haddr]
      rfl
  rw [IPAddress.interfaceIndexLoop_eq interfaces a hindex, firstIndex, List.find?_filterMap]
  simp only [hcarried]
  cases hfind : l.find? fun it => (ofIfaddr interfaces it).any fun e => a.SameAddress e.1 with
  | none => rfl
  | some it =>
    have hany := List.find?_some hfind
    obtain ⟨e, he, -⟩ := (Option.any_eq_true _ _).mp hany
    obtain ⟨addr, -, rfl⟩ := Option.map_eq_some_iff.mp he
    rw [Option.bind_some, he]
    rfl

namespace Windows

lemma unicastLoop_of_nonneg (a : IPAddress) (it : Adapter) (l : List (Option IPAddress))
    {result : ℤ} (h : 0 ≤ result) : unicastLoop a it l result = result := by
  cases l with
  | nil => rfl
  | cons addr rest => rw [unicastLoop, if_neg (not_lt.mpr h)]

lemma adapterLoop_of_nonneg (a : IPAddress) (l : List Adapter) {result : ℤ} (h : 0 ≤ result) :
    adapterLoop a l result = result := by
  cases l with
  | nil => rfl
  | cons it rest => rw [adapterLoop, if_neg (not_lt.mpr h)]

/-- The inner walk ends at the first address of the adapter that is the same. -/
lemma unicastLoop_eq_toResult {a : IPAddress} {it : Adapter} {l : List (Option IPAddress)}
    (hlisted : ∀ addr, some addr ∈ l →
      addr.getFamily = a.getFamily ∧ 0 < (it.index a.getFamily).toInt) :
    unicastLoop a it l (-1) = toResult (firstIndex a (ofAdapter a.getFamily it l)) := by
  induction l with
  | nil => rfl
  | cons entry rest ih =>
    have hrest := ih fun addr haddr => hlisted addr (List.mem_cons_of_mem entry haddr)
    rw [unicastLoop, if_pos (by decide), ofAdapter, List.filterMap_cons]
    cases entry with
    | none => exact hrest
    | some addr =>
      obtain ⟨hfamily, hpos⟩ := hlisted addr List.mem_cons_self
      rw [carriedBy_eq hfamily, Option.map_some]
      by_cases hsame : a.SameAddress addr
      · rw [decide_eq_true hsame, if_pos rfl, firstIndex_cons_same hsame]
        exact unicastLoop_of_nonneg a it rest hpos.le
      · rw [decide_eq_false hsame, if_neg Bool.false_ne_true, firstIndex_cons_other hsame]
        exact hrest

/-- The outer walk ends at the first adapter with such an address. -/
lemma adapterLoop_eq_toResult {a : IPAddress} {l : List Adapter}
    (hlisted : ∀ it ∈ l, ∀ addr, some addr ∈ it.unicastAddresses →
      addr.getFamily = a.getFamily ∧ 0 < (it.index a.getFamily).toInt) :
    adapterLoop a l (-1)
      = toResult (firstIndex a
          (l.flatMap fun it => ofAdapter a.getFamily it it.unicastAddresses)) := by
  induction l with
  | nil => rfl
  | cons it rest ih =>
    rw [List.forall_mem_cons] at hlisted
    rw [adapterLoop, if_pos (by decide), unicastLoop_eq_toResult hlisted.1, List.flatMap_cons,
      firstIndex_append]
    cases hfirst : firstIndex a (ofAdapter a.getFamily it it.unicastAddresses) with
    | none => exact ih hlisted.2
    | some index =>
      obtain ⟨addr, hmem, -⟩ := exists_of_firstIndex hfirst
      obtain ⟨entry, hentry, hmap⟩ := List.mem_filterMap.mp hmem
      obtain ⟨addr', rfl, hpair⟩ := Option.map_eq_some_iff.mp hmap
      obtain rfl : it.index a.getFamily = index := congrArg Prod.snd hpair
      exact adapterLoop_of_nonneg a rest (hlisted.1 addr' hentry).2.le

end Windows

namespace InterfaceSource

/-- Both builds come to the first entry with the address. -/
lemma getInterfaceIndex_eq {source : InterfaceSource} (hsource : source.Documented)
    {a : IPAddress} (ha : ¬a.IsWildcard) :
    source.getInterfaceIndex a = toResult (firstIndex a (source.entries a.getFamily)) := by
  rw [IPAddress.IsWildcard] at ha
  cases source with
  | posix interfaces =>
    simp only [Documented] at hsource
    simp only [getInterfaceIndex, IPAddress.getInterfaceIndex, if_neg ha, entries]
    cases hlist : interfaces.getifaddrs with
    | none => rfl
    | some addresses =>
      rw [hlist] at hsource
      exact interfaceIndexLoop_eq_toResult hsource
  | windows getAdaptersAddresses =>
    simp only [Documented] at hsource
    simp only [getInterfaceIndex, Windows.getInterfaceIndex, if_neg ha, entries]
    have hlisted := hsource a.getFamily
    cases hlist : getAdaptersAddresses a.getFamily with
    | none => rfl
    | some adapters =>
      rw [hlist] at hlisted
      exact Windows.adapterLoop_eq_toResult hlisted

/-- Listed indices are positive. -/
lemma toInt_pos_of_mem_entries {source : InterfaceSource} (hsource : source.Documented)
    {family : ℕ} {addr : IPAddress} {index : BitVec 32}
    (h : (addr, index) ∈ source.entries family) : 0 < index.toInt := by
  cases source with
  | posix interfaces =>
    obtain ⟨it, hit, hentry⟩ := List.mem_filterMap.mp h
    obtain ⟨addr', -, hpair⟩ := Option.map_eq_some_iff.mp hentry
    obtain rfl : interfaces.ifNametoindex it.name = index := congrArg Prod.snd hpair
    exact hsource it hit
  | windows getAdaptersAddresses =>
    obtain ⟨it, hit, hadapter⟩ := List.mem_flatMap.mp h
    obtain ⟨entry, hentry, hmap⟩ := List.mem_filterMap.mp hadapter
    obtain ⟨addr', rfl, hpair⟩ := Option.map_eq_some_iff.mp hmap
    obtain rfl : it.index family = index := congrArg Prod.snd hpair
    exact (hsource family it hit addr' hentry).2

lemma getInterfaceIndex_of_isWildcard (source : InterfaceSource) {a : IPAddress}
    (ha : a.IsWildcard) : source.getInterfaceIndex a = 0 := by
  cases source with
  | posix interfaces => exact if_pos ha
  | windows getAdaptersAddresses => exact if_pos ha

end InterfaceSource

namespace InterfaceSource

instance (a : IPAddress) : Decidable a.IsWildcard := inferInstanceAs (Decidable (_ ∨ _))

/-- The index that the list gives an address, whatever its scope: zero to the empty address and to
the any address, and `-1` where the host address is not listed. -/
def listedIndex (source : InterfaceSource) (a : IPAddress) : ℤ :=
  if a.IsWildcard then 0 else toResult (firstIndex a (source.entries a.getFamily))

lemma getInterfaceIndex_eq_listedIndex {source : InterfaceSource} (hsource : source.Documented)
    (a : IPAddress) : source.getInterfaceIndex a = source.listedIndex a := by
  rw [listedIndex]
  split
  · exact source.getInterfaceIndex_of_isWildcard ‹_›
  · exact getInterfaceIndex_eq hsource ‹_›

/-- It is the value of a word. -/
lemma toInt_ofInt_listedIndex (source : InterfaceSource) (a : IPAddress) :
    (BitVec.ofInt 32 (source.listedIndex a)).toInt = source.listedIndex a := by
  rw [listedIndex]
  split
  · rfl
  · rcases firstIndex a (source.entries a.getFamily) with _ | index
    · rfl
    · rw [toResult, Option.elim_some, BitVec.ofInt_toInt]

end InterfaceSource

/-! ## Requests -/

/-- The interface of a local address, by its address: 'any' for the empty address and for the any
address alone. -/
def NamesAddress (localAddress : IPAddress) (interface : Vector UInt8 4) : Prop :=
  (interface = .replicate 4 0 ↔ localAddress.IsWildcard)
    ∧ (¬localAddress.IsWildcard → interface.toList = localAddress.addressBytes)

/-- The interface of a local address, by its index. -/
def NamesIndex (source : InterfaceSource) (localAddress : IPAddress) (interface : BitVec 32) :
    Prop :=
  (interface = 0 ↔ localAddress.IsWildcard)
    ∧ (¬localAddress.IsWildcard → source.Carries localAddress interface)

/-- What a request says of the arguments it is made of. -/
def MembershipRequest.Names (source : InterfaceSource)
    (multicastAddress localAddress : IPAddress) (sourceAddress : Option IPAddress) :
    MembershipRequest → Prop
  | .ipMreq multiaddr interface =>
    multiaddr.toList = multicastAddress.addressBytes ∧ NamesAddress localAddress interface
      ∧ sourceAddress = none
  | .ipv6Mreq multiaddr interface =>
    multiaddr.toList = multicastAddress.addressBytes ∧ NamesIndex source localAddress interface
      ∧ sourceAddress = none
  | .ipMreqSource multiaddr interface sourceaddr =>
    multiaddr.toList = multicastAddress.addressBytes ∧ NamesAddress localAddress interface
      ∧ sourceAddress.map IPAddress.addressBytes = some sourceaddr.toList

/-- The families have a place in a request: with an IPv4 group, those of the other arguments are
IPv4, where the local address may be empty; with an IPv6 group there is no room for a source. -/
def Expressible (multicastAddress localAddress : IPAddress) (sourceAddress : Option IPAddress) :
    Prop :=
  (multicastAddress.getFamily = ipv4
      ∧ (localAddress.getFamily = ipv4 ∨ localAddress.getFamily = familyUnspecified)
      ∧ ∀ a ∈ sourceAddress, a.getFamily = ipv4)
    ∨ (multicastAddress.getFamily = ipv6 ∧ sourceAddress = none)

/-- Every call names its arguments, and there is none where they have no place. -/
structure NamesArguments (source : InterfaceSource) (multicastAddress localAddress : IPAddress)
    (sourceAddress : Option IPAddress) (outcome : MembershipOutcome) : Prop where
  refused : ¬Expressible multicastAddress localAddress sourceAddress → outcome = (false, [])
  named : ∀ call ∈ outcome.2,
    call.request.Names source multicastAddress localAddress sourceAddress

/-- `sin_addr` is the interface of the address. -/
def FitsIPv4 (localAddress : IPAddress) : Prop :=
  localAddress.getFamily = ipv4
    ∨ localAddress.getFamily = familyUnspecified ∧ localAddress.sinAddr = .replicate 4 0

/-! ## When they are right -/

namespace IPAddress

lemma isWildcard_ipv4_iff {a : IPAddress} (h : a.getFamily = ipv4) :
    a.IsWildcard ↔ a.sinAddr = .replicate 4 0 := by
  simp [IsWildcard, isAny, h, ipv4, familyUnspecified]

end IPAddress

/-- A call is right if its arguments have a place in its request and are named there. -/
lemma namesArguments_make_iff {source : InterfaceSource}
    {multicastAddress localAddress : IPAddress} {sourceAddress : Option IPAddress}
    (setsockopt : MembershipCall → Bool) (call : MembershipCall) :
    NamesArguments source multicastAddress localAddress sourceAddress (call.make setsockopt)
      ↔ Expressible multicastAddress localAddress sourceAddress
        ∧ call.request.Names source multicastAddress localAddress sourceAddress := by
  constructor
  · intro h
    refine ⟨?_, h.named call List.mem_cons_self⟩
    by_contra hplace
    exact List.cons_ne_nil _ _ (congrArg Prod.snd (h.refused hplace))
  · rintro ⟨hplace, hnames⟩
    exact ⟨fun h => absurd hplace h, List.forall_mem_singleton.mpr hnames⟩

/-- To make no call is right whatever the arguments are. -/
lemma namesArguments_nil (source : InterfaceSource) (multicastAddress localAddress : IPAddress)
    (sourceAddress : Option IPAddress) :
    NamesArguments source multicastAddress localAddress sourceAddress (false, []) :=
  ⟨fun _ => rfl, fun _ h => absurd h List.not_mem_nil⟩

/-- An IPv4 address is its interface, and so are zeros for the empty address. -/
lemma fitsIPv4_iff (localAddress : IPAddress) :
    (localAddress.getFamily = ipv4 ∨ localAddress.getFamily = familyUnspecified)
        ∧ NamesAddress localAddress localAddress.sinAddr
      ↔ FitsIPv4 localAddress := by
  constructor
  · rintro ⟨hfamily, hnames⟩
    exact hfamily.imp_right fun hempty => ⟨hempty, hnames.1.mpr (Or.inl hempty)⟩
  · rintro (h4 | ⟨hempty, hzero⟩)
    · refine ⟨Or.inl h4, (IPAddress.isWildcard_ipv4_iff h4).symm, fun _ => ?_⟩
      rw [IPAddress.addressBytes_ipv4 h4]
    · have hwildcard : localAddress.IsWildcard := Or.inl hempty
      exact ⟨Or.inr hempty, iff_of_true hzero hwildcard, fun h => absurd hwildcard h⟩

/-- The first entry with the host address belongs to an interface that has the address in its
scope. -/
def FoundInScope (source : InterfaceSource) (localAddress : IPAddress) : Prop :=
  ∃ index, firstIndex localAddress (source.entries localAddress.getFamily) = some index
    ∧ source.Carries localAddress index

/-- The index that is found is that of the address, if there is one. -/
lemma namesIndex_iff {source : InterfaceSource} (hsource : source.Documented)
    (localAddress : IPAddress) :
    NamesIndex source localAddress (BitVec.ofInt 32 (source.getInterfaceIndex localAddress))
      ↔ localAddress.IsWildcard ∨ FoundInScope source localAddress := by
  by_cases hwildcard : localAddress.IsWildcard
  · rw [source.getInterfaceIndex_of_isWildcard hwildcard]
    exact iff_of_true ⟨iff_of_true rfl hwildcard, fun h => absurd hwildcard h⟩ (Or.inl hwildcard)
  · rw [NamesIndex, or_iff_right hwildcard, iff_false_right hwildcard,
      forall_prop_of_true hwildcard, getInterfaceIndex_eq hsource hwildcard, FoundInScope]
    cases hfirst : firstIndex localAddress (source.entries localAddress.getFamily) with
    | none =>
      -- `-1` is an index that no interface has
      refine iff_of_false ?_ ?_
      · rintro ⟨-, addr, hmem, -, -⟩
        exact absurd (toInt_pos_of_mem_entries hsource hmem) (by decide)
      · rintro ⟨index, hsome, -⟩
        exact Option.some_ne_none index hsome.symm
    | some index =>
      obtain ⟨addr, hmem, -⟩ := exists_of_firstIndex hfirst
      have hpos := toInt_pos_of_mem_entries hsource hmem
      have hne : index ≠ 0 := by
        rintro rfl
        exact absurd hpos (lt_irrefl 0)
      rw [toResult, Option.elim_some, BitVec.ofInt_toInt]
      constructor
      · exact fun h => ⟨index, rfl, h.2⟩
      · rintro ⟨_, hsome, hcarries⟩
        exact ⟨hne, Option.some.inj hsome ▸ hcarries⟩

lemma manageMulticastAddress_names_iff (setsockopt : MembershipCall → Bool)
    {source : InterfaceSource} (hsource : source.Documented) (subscribe : Bool)
    (multicastAddress localAddress : IPAddress) :
    NamesArguments source multicastAddress localAddress none
        (manageMulticastAddress setsockopt source subscribe multicastAddress localAddress)
      ↔ (multicastAddress.getFamily = ipv4 → FitsIPv4 localAddress)
        ∧ (multicastAddress.getFamily = ipv6 →
          localAddress.IsWildcard ∨ FoundInScope source localAddress) := by
  rw [manageMulticastAddress, ← fitsIPv4_iff, ← namesIndex_iff hsource]
  by_cases h4 : multicastAddress.getFamily = ipv4
  · rw [if_pos h4, namesArguments_make_iff]
    simp [Expressible, MembershipRequest.Names, h4, ipv6_ne_ipv4.symm,
      IPAddress.addressBytes_ipv4 h4]
  · by_cases h6 : multicastAddress.getFamily = ipv6
    · rw [if_neg h4, if_pos h6, namesArguments_make_iff]
      simp [Expressible, MembershipRequest.Names, h6, ipv6_ne_ipv4,
        IPAddress.addressBytes_ipv6 h6]
    · rw [if_neg h4, if_neg h6]
      exact iff_of_true (namesArguments_nil _ _ _ _) ⟨fun h => absurd h h4, fun h => absurd h h6⟩

lemma manageMulticastSourceAddress_names_iff (setsockopt : MembershipCall → Bool)
    (source : InterfaceSource) (subscribe : Bool)
    (multicastAddress sourceAddress localAddress : IPAddress) :
    NamesArguments source multicastAddress localAddress (some sourceAddress)
        (manageMulticastSourceAddress setsockopt subscribe multicastAddress sourceAddress
          localAddress)
      ↔ (multicastAddress.getFamily = ipv4 →
          FitsIPv4 localAddress ∧ sourceAddress.getFamily = ipv4) := by
  rw [manageMulticastSourceAddress, ← fitsIPv4_iff]
  by_cases h4 : multicastAddress.getFamily = ipv4
  · have h6 : multicastAddress.getFamily ≠ ipv6 := fun h => ipv6_ne_ipv4 (h.symm.trans h4)
    rw [if_pos h4, namesArguments_make_iff, forall_prop_of_true h4]
    constructor
    · rintro ⟨⟨-, hlocal, hsource⟩ | ⟨habsurd, -⟩, -, hnames, -⟩
      · exact ⟨⟨hlocal, hnames⟩, hsource sourceAddress rfl⟩
      · exact absurd habsurd h6
    · rintro ⟨⟨hlocal, hnames⟩, hsource⟩
      have hplace : ∀ a ∈ some sourceAddress, a.getFamily = ipv4 := by
        rintro a ⟨⟩
        exact hsource
      refine ⟨Or.inl ⟨h4, hlocal, hplace⟩, ?_, hnames, ?_⟩
      · rw [IPAddress.addressBytes_ipv4 h4]
      · rw [Option.map_some, IPAddress.addressBytes_ipv4 hsource]
  · rw [if_neg h4]
    exact iff_of_true (namesArguments_nil _ _ _ _) (fun h => absurd h h4)

/-- **A membership request names the arguments of its call** exactly when `sin_addr` is the
interface of the local address and the host address of the source, for an IPv4 group, and when
the first interface with the local address is the one in its scope, for an IPv6 group; this for
every content of the arguments. -/
theorem multicast_namesArguments_iff (setsockopt : MembershipCall → Bool)
    {source : InterfaceSource} (hsource : source.Documented) (subscribe : Bool)
    (multicastAddress sourceAddress localAddress : IPAddress) :
    (NamesArguments source multicastAddress localAddress none
          (manageMulticastAddress setsockopt source subscribe multicastAddress localAddress)
        ↔ (multicastAddress.getFamily = ipv4 → FitsIPv4 localAddress)
          ∧ (multicastAddress.getFamily = ipv6 →
            localAddress.IsWildcard ∨ FoundInScope source localAddress))
      ∧ (NamesArguments source multicastAddress localAddress (some sourceAddress)
          (manageMulticastSourceAddress setsockopt subscribe multicastAddress sourceAddress
            localAddress)
        ↔ (multicastAddress.getFamily = ipv4 →
          FitsIPv4 localAddress ∧ sourceAddress.getFamily = ipv4)) :=
  ⟨manageMulticastAddress_names_iff setsockopt hsource subscribe multicastAddress localAddress,
    manageMulticastSourceAddress_names_iff setsockopt source subscribe multicastAddress
      sourceAddress localAddress⟩

/-- A group of the IPv4 family. -/
def groupIPv4 : IPAddress :=
  .ofSockaddrIn ⟨.replicate 2 0, Vector.ofFn fun i => if i.val = 0 then 239 else 0, .replicate 8 0⟩
    (.replicate 12 0)

/-- A group of the IPv6 family. -/
def groupIPv6 : IPAddress :=
  .ofSockaddrIn6 ⟨.replicate 2 0, .replicate 4 0,
    Vector.ofFn fun i => if i.val = 0 then 255 else 0, .replicate 4 0⟩

/-- A link-local address, for a group of its family. -/
theorem multicast_namesArguments_twoLinks :
    NamesArguments (.posix IPAddress.twoLinks) groupIPv6 (.linkLocal 1) none
      (manageMulticastAddress (fun _ => true) (.posix IPAddress.twoLinks) true groupIPv6
        (.linkLocal 1)) := by
  have hsource : (InterfaceSource.posix IPAddress.twoLinks).Documented := by
    simp only [InterfaceSource.Documented]
    decide
  have hentry : (IPAddress.linkLocal 1, 1)
      ∈ (InterfaceSource.posix IPAddress.twoLinks).entries ipv6 := List.mem_cons_self
  have hsame : IPAddress.SameAddress (.linkLocal 1) (.linkLocal 1) := ⟨Or.inr (by decide), rfl, rfl⟩
  refine (multicast_namesArguments_iff (fun _ => true) hsource true groupIPv6 groupIPv6
    (.linkLocal 1)).1.mpr ⟨fun h => absurd h (by decide), fun _ => Or.inr ⟨1, ?_⟩⟩
  exact ⟨firstIndex_cons_same hsame 1 _, .linkLocal 1, hentry, hsame, fun _ _ => rfl⟩

/-- The same address, for a group of the other family, asks for any interface. -/
theorem not_multicast_namesArguments_mixed :
    manageMulticastAddress (fun _ => true) (.posix IPAddress.twoLinks) true groupIPv4
          (.linkLocal 1)
        = (true, [⟨.ipAddMembership, .ipMreq groupIPv4.sinAddr (.replicate 4 0)⟩])
      ∧ ¬NamesArguments (.posix IPAddress.twoLinks) groupIPv4 (.linkLocal 1) none
        (manageMulticastAddress (fun _ => true) (.posix IPAddress.twoLinks) true groupIPv4
          (.linkLocal 1)) := by
  have hcall : manageMulticastAddress (fun _ => true) (.posix IPAddress.twoLinks) true groupIPv4
      (.linkLocal 1)
        = (true, [⟨.ipAddMembership, .ipMreq groupIPv4.sinAddr (.replicate 4 0)⟩]) := by decide
  refine ⟨hcall, fun h => ?_⟩
  have hplace : ¬Expressible groupIPv4 (.linkLocal 1) none := by
    rw [Expressible]
    decide
  exact absurd (hcall.symm.trans (h.refused hplace)) (by decide)

end SMBB
