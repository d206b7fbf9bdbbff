import SMBB.Construction.Parse
import SMBB.Framework.PartialMaps

/-!
# Which interface an address belongs to

`Parse` with an empty address and `GetInterfaceIndex` walk the same list, one to store the address
of every interface and the other to find the interface of an address.  The second walk stops at
the first entry with the same family and the same address bytes.  Link-local IPv6 addresses are
unique on their link only, and what tells two of them apart, `sin6_scope_id`, is not compared.

`identified_iff` says for which stored addresses the two walks name the same interface.
-/

namespace SMBB

/-- The index of the interface that an entry belongs to. -/
def Interfaces.index (interfaces : Interfaces) (it : Ifaddr) : ℤ :=
  (interfaces.ifNametoindex it.name).toInt

namespace IPAddress

/-! ## The walk of `GetInterfaceIndex` -/

lemma interfaceIndexLoop_of_nonneg (interfaces : Interfaces) (a : IPAddress) (l : List Ifaddr)
    {result : ℤ} (h : 0 ≤ result) : interfaceIndexLoop interfaces a l result = result := by
  cases l with
  | nil => rfl
  | cons it rest => rw [interfaceIndexLoop, if_neg (not_lt.mpr h)]

/-- With positive indices the walk ends at the first entry that carries the address. -/
lemma interfaceIndexLoop_eq (interfaces : Interfaces) (a : IPAddress) {l : List Ifaddr}
    (hindex : ∀ it ∈ l, 0 < interfaces.index it) :
    interfaceIndexLoop interfaces a l (-1)
      = ((l.find? fun it => a.carriedBy it).map interfaces.index).getD (-1) := by
  induction l with
  | nil => rfl
  | cons it rest ih =>
    rw [List.forall_mem_cons] at hindex
    rw [interfaceIndexLoop, if_pos (by decide), List.find?_cons]
    cases hcarried : a.carriedBy it with
    | true =>
      rw [if_pos rfl]
      exact interfaceIndexLoop_of_nonneg interfaces a rest (le_of_lt hindex.1)
    | false =>
      rw [if_neg Bool.false_ne_true]
      exact ih hindex.2

/-! ## Values with the same host address -/

/-- The values agree in their family and in the address bytes that it has. -/
structure SameHost (r addr : IPAddress) : Prop where
  getFamily : r.getFamily = addr.getFamily
  sinAddr : addr.getFamily = ipv4 → r.sinAddr = addr.sinAddr
  sin6Addr : addr.getFamily = ipv6 → r.sin6Addr = addr.sin6Addr

lemma SameHost.isAny {r addr : IPAddress} (h : SameHost r addr) : r.isAny = addr.isAny := by
  rw [IPAddress.isAny, IPAddress.isAny, h.getFamily]
  by_cases h4 : addr.getFamily = ipv4
  · rw [if_pos h4, if_pos h4, h.sinAddr h4]
  · by_cases h6 : addr.getFamily = ipv6
    · rw [if_neg h4, if_neg h4, if_pos h6, if_pos h6, h.sin6Addr h6]
    · rw [if_neg h4, if_neg h4, if_neg h6, if_neg h6]

lemma SameHost.carriedBy {r addr : IPAddress} (h : SameHost r addr) (it : Ifaddr) :
    r.carriedBy it = addr.carriedBy it := by
  rw [IPAddress.carriedBy, IPAddress.carriedBy, h.getFamily]
  cases it.addr with
  | none => rfl
  | some other =>
    by_cases h4 : addr.getFamily = ipv4
    · simp [h4, ipv6_ne_ipv4.symm, h.sinAddr h4]
    · by_cases h6 : addr.getFamily = ipv6
      · simp [h6, ipv6_ne_ipv4, h.sin6Addr h6]
      · simp [h4, h6]

lemma carriedBy_self {it : Ifaddr} {addr : IPAddress} (haddr : it.addr = some addr)
    (hinet : addr.IsInet) : addr.carriedBy it = true := by
  rw [carriedBy, haddr]
  rcases hinet with h4 | h6
  · simp [h4]
  · simp [h6]

/-! ## What `Parse` stores for an interface -/

/-- The entries that `Parse` stores: of the wanted family, and not loopback. -/
def eligible (family : ℕ) (it : Ifaddr) : Bool :=
  match it.addr with
  | none => false
  | some addr =>
    (family = familyUnspecified || family = addr.getFamily) && addr.IsInet && !addr.isLoopback

lemma isSome_interfaceEntry (family port : ℕ) (it : Ifaddr) :
    (interfaceEntry family port it).isSome = eligible family it := by
  rw [interfaceEntry, eligible, Bool.eq_iff_iff]
  cases it.addr with
  | none => exact Iff.rfl
  | some addr =>
    by_cases h4 : addr.getFamily = ipv4
    · simp [h4, IsInet, isLoopback, ipv6_ne_ipv4.symm]
    · by_cases h6 : addr.getFamily = ipv6
      · simp [h6, IsInet, isLoopback, ipv6_ne_ipv4]
      · simp [h4, h6, IsInet]

lemma isInet_of_eligible {family : ℕ} {it : Ifaddr} {addr : IPAddress}
    (h : eligible family it = true) (haddr : it.addr = some addr) : addr.IsInet := by
  rw [eligible, haddr, Bool.and_eq_true, Bool.and_eq_true] at h
  exact of_decide_eq_true h.1.2

/-- What is stored for an entry has its host address. -/
lemma sameHost_of_interfaceEntry {family port : ℕ} {it : Ifaddr} {addr : IPAddress}
    {a : Vector UInt8 12 → IPAddress} (haddr : it.addr = some addr)
    (h : interfaceEntry family port it = some a) (storage : Vector UInt8 12) :
    SameHost (a storage) addr := by
  rw [interfaceEntry, haddr] at h
  dsimp only at h
  split at h
  · rename_i hif
    obtain rfl := Option.some.inj h
    constructor
    · rw [getFamily_withPort, getFamily_ofSockaddrIn, hif.2.1]
    · intro _
      rw [sinAddr_withPort, sinAddr_ofSockaddrIn, sockaddrIn]
    · intro h6
      exact absurd (h6.symm.trans hif.2.1) ipv6_ne_ipv4
  · split at h
    · rename_i hif
      obtain rfl := Option.some.inj h
      constructor
      · rw [getFamily_withPort, getFamily_ofSockaddrIn6, hif.2.1]
      · intro h4
        exact absurd (hif.2.1.symm.trans h4) ipv6_ne_ipv4
      · intro _
        rw [sin6Addr_withPort, sin6Addr_ofSockaddrIn6, sockaddrIn6]
    · exact Option.absurd_none h

/-- `Parse` of the empty address stores from the list of interfaces. -/
lemma parse_interfaces {interfaces : Interfaces} (getaddrinfo : Getaddrinfo)
    (storage : ℕ → Vector UInt8 12) (results : ℕ → IPAddress) (resultsSize : ℤ)
    (service : Option (List Char)) (bindable : Bool) (family : ℕ) {addresses : List Ifaddr}
    (h : interfaces.getifaddrs = some addresses) :
    ∃ port, (parse interfaces getaddrinfo storage results resultsSize (some []) service bindable
        family).1
      = (storeLoop (interfaceEntry family port) storage resultsSize addresses 0 results).1 := by
  rw [parse, if_pos rfl, h]
  exact ⟨_, rfl⟩

/-! ## The two walks -/

/-- `GetInterfaceIndex` gives the index of the interface of the entry, unless the address is the
any address. -/
def Identified (interfaces : Interfaces) (r : IPAddress) (it : Ifaddr) : Prop :=
  r.isAny = false → r.getInterfaceIndex interfaces = interfaces.index it

/-- The walk for a value with the host address of an entry ends there or before. -/
lemma getInterfaceIndex_eq {interfaces : Interfaces} {r addr : IPAddress} {it : Ifaddr}
    {earlier later : List Ifaddr} (hlist : interfaces.getifaddrs = some (earlier ++ it :: later))
    (hindex : ∀ e ∈ earlier ++ it :: later, 0 < interfaces.index e)
    (haddr : it.addr = some addr) (hinet : addr.IsInet) (hhost : SameHost r addr)
    (hany : r.isAny = false) :
    r.getInterfaceIndex interfaces
      = interfaces.index ((earlier.find? fun e => addr.carriedBy e).getD it) := by
  have hfamily : r.getFamily ≠ familyUnspecified := by
    rw [hhost.getFamily]
    rcases hinet with h4 | h6
    · rw [h4]
      decide
    · rw [h6]
      decide
  have hempty : ¬(r.getFamily = familyUnspecified ∨ r.isAny = true) :=
    not_or.mpr ⟨hfamily, Bool.not_eq_true _ ▸ hany⟩
  rw [getInterfaceIndex, if_neg hempty, hlist]
  dsimp only
  rw [interfaceIndexLoop_eq interfaces r hindex, List.find?_append]
  simp only [hhost.carriedBy]
  cases earlier.find? fun e => addr.carriedBy e with
  | some e => rfl
  | none =>
    rw [List.find?_cons, carriedBy_self haddr hinet]
    rfl

/-- **The interface of a stored address is found** exactly when the first entry before it with the
same family and address bytes, if there is one, belongs to an interface of the same index. -/
theorem identified_iff {interfaces : Interfaces} (getaddrinfo : Getaddrinfo)
    (storage : ℕ → Vector UInt8 12) (results : ℕ → IPAddress) {resultsSize : ℤ}
    (service : Option (List Char)) (bindable : Bool) {family : ℕ} {earlier later : List Ifaddr}
    {it : Ifaddr} {addr : IPAddress}
    (hlist : interfaces.getifaddrs = some (earlier ++ it :: later))
    (hindex : ∀ e ∈ earlier ++ it :: later, 0 < interfaces.index e)
    (haddr : it.addr = some addr) (hit : eligible family it = true)
    (hroom : earlier.countP (eligible family) < resultsSize) :
    Identified interfaces ((parse interfaces getaddrinfo storage results resultsSize (some [])
        service bindable family).1 (earlier.countP (eligible family))) it
      ↔ addr.isAny = true
        ∨ ∀ e, earlier.find? (fun e => addr.carriedBy e) = some e →
            interfaces.index e = interfaces.index it := by
  obtain ⟨port, hparse⟩ := parse_interfaces getaddrinfo storage results resultsSize service
    bindable family hlist
  obtain ⟨a, ha⟩ := Option.isSome_iff_exists.mp ((isSome_interfaceEntry family port it).trans hit)
  have hcount : earlier.countP (eligible family)
      = 0 + earlier.countP fun e => (interfaceEntry family port e).isSome := by
    simp only [isSome_interfaceEntry, Nat.zero_add]
  rw [hparse, storeLoop_fst_stored ha hcount hroom]
  have hhost := sameHost_of_interfaceEntry haddr ha
    (storage (earlier.countP (eligible family)))
  rw [Identified, hhost.isAny]
  cases hany : addr.isAny with
  | true => exact iff_of_true (fun h => Bool.noConfusion h) (Or.inl rfl)
  | false =>
    rw [getInterfaceIndex_eq hlist hindex haddr (isInet_of_eligible hit haddr) hhost
      (hhost.isAny.trans hany), or_iff_right Bool.false_ne_true, forall_prop_of_true rfl]
    cases earlier.find? fun e => addr.carriedBy e with
    | none => exact iff_of_true rfl fun e h => Option.absurd_none h
    | some e => exact ⟨fun h e' he' => Option.some.inj he' ▸ h, fun h => h e rfl⟩

/-! ## Two links -/

/-- A link-local address on the link of a scope id. -/
def linkLocal (scopeId : UInt8) : IPAddress :=
  ofSockaddrIn6
    { port := .replicate 2 0
      flowinfo := .replicate 4 0
      addr := #v[0xfe, 0x80, 0, 0, 0, 0, 0, 0, 0, 0, 0, 0, 0, 0, 0, 1]
      scopeId := #v[scopeId, 0, 0, 0] }

/-- Two interfaces with the same link-local address. -/
def twoLinks : Interfaces where
  getifaddrs := some [⟨['a'], some (linkLocal 1)⟩, ⟨['b'], some (linkLocal 2)⟩]
  ifNametoindex name := if name = ['a'] then 1 else 2

/-- The address on the second link is said to belong to the first one. -/
theorem not_identified_twoLinks :
    ∃ r, (parse twoLinks (fun _ _ _ => none) (fun _ => .replicate 12 0)
          (fun _ => linkLocal 0) 2 (some []) none false ipv6).1 1 = r
      ∧ r = linkLocal 2 ∧ r.isAny = false
      ∧ r.getInterfaceIndex twoLinks = 1 ∧ ¬Identified twoLinks r ⟨['b'], some (linkLocal 2)⟩ := by
  refine ⟨_, rfl, by decide, by decide, by decide, fun h => ?_⟩
  exact absurd (h (by decide)) (by decide)

/-- The address on the first link is found. -/
theorem identified_twoLinks :
    Identified twoLinks ((parse twoLinks (fun _ _ _ => none) (fun _ => .replicate 12 0)
      (fun _ => linkLocal 0) 2 (some []) none false ipv6).1 0) ⟨['a'], some (linkLocal 1)⟩ := by
  have hlist : twoLinks.getifaddrs
      = some ([] ++ ⟨['a'], some (linkLocal 1)⟩ :: [⟨['b'], some (linkLocal 2)⟩]) := rfl
  have hroom : (([] : List Ifaddr).countP (eligible ipv6) : ℤ) < 2 := by decide
  exact (identified_iff (fun _ _ _ => none) (fun _ => .replicate 12 0) (fun _ => linkLocal 0)
    none false hlist (by decide) rfl (by decide) hroom).mpr
    (Or.inr fun e h => Option.absurd_none h)

end IPAddress
end SMBB
