import SMBB.Properties.InterfaceIndices
import SMBB.Framework.PartialMaps

/-!
# What `Parse` stores

Both walks of `Parse` store the entries that they are about in the order of the list, as far as
`results` reaches, and return their number.  An entry of `getaddrinfo` is stored as it is; one of
`getifaddrs` gets the port that the service was looked up for.

That lookup may fail.  The walk over `getifaddrs` goes on without a port then, where the other one
is not made at all.
-/

namespace SMBB
namespace IPAddress

/-! ## The lookup -/

/-- The call of `getaddrinfo` that `Parse` makes. -/
def serviceLookup (getaddrinfo : Getaddrinfo) (address service : Option (List Char))
    (bindable : Bool) (family : ℕ) : Option (List Addrinfo) :=
  let service := if address = none ∧ service = none then some [] else service
  getaddrinfo (if address = some [] then none else address) service
    { flags := (if bindable then aiPassive else 0) ||| aiV4mapped
      family := family
      socktype := parseSocktype service }

/-- The port of an entry with an IPv4 or IPv6 address. -/
def entryPort (it : Addrinfo) : Option ℕ :=
  if it.family = ipv4 ∨ it.family = ipv6 then it.addr.map IPAddress.port else none

/-- The first port of a list that is not zero, or zero. -/
def firstPort (result : List Addrinfo) : ℕ :=
  ((result.filterMap entryPort).find? (· != 0)).getD 0

/-- The port that a lookup is good for: none, if it fails. -/
def lookupPort (answer : Option (List Addrinfo)) : ℕ := (answer.map firstPort).getD 0

/-- The loop that finds the port finds the first one that is not zero. -/
lemma portLoop_zero (result : List Addrinfo) : portLoop result 0 = firstPort result := by
  have hstop (rest : List Addrinfo) {port : ℕ} (h : port ≠ 0) : portLoop rest port = port := by
    cases rest with
    | nil => rfl
    | cons it rest => rw [portLoop, if_pos h]
  induction result with
  | nil => rfl
  | cons it rest ih =>
    rw [portLoop, if_neg (not_not.mpr rfl), firstPort, List.filterMap_cons, entryPort]
    cases it.addr with
    | none =>
      simp only [Option.map_none, ite_self]
      exact ih
    | some addr =>
      by_cases hinet : it.family = ipv4 ∨ it.family = ipv6
      · have hport : portLoop rest addr.port
            = ((addr.port :: rest.filterMap entryPort).find? (· != 0)).getD 0 := by
          by_cases hzero : addr.port = 0
          · rw [hzero, ih]
            rfl
          · rw [hstop rest hzero]
            simp [hzero]
        simp only [if_pos hinet, Option.map_some]
        rw [← hport]
        by_cases h4 : it.family = ipv4
        · rw [if_pos h4]
        · rw [if_neg h4, if_pos (hinet.resolve_left h4)]
      · obtain ⟨h4, h6⟩ := not_or.mp hinet
        simp only [if_neg hinet, if_neg h4, if_neg h6]
        exact ih

lemma lookupPort_lt (answer : Option (List Addrinfo)) : lookupPort answer < 65536 := by
  have hentry {it : Addrinfo} {port : ℕ} (h : entryPort it = some port) : port < 65536 := by
    rw [entryPort, Option.ite_none_right_eq_some] at h
    obtain ⟨addr, -, rfl⟩ := Option.map_eq_some_iff.mp h.2
    exact addr.port_lt
  cases answer with
  | none => exact Nat.zero_lt_succ _
  | some result =>
    show ((result.filterMap entryPort).find? (· != 0)).getD 0 < 65536
    rcases h : (result.filterMap entryPort).find? (· != 0) with _ | port
    · exact Nat.zero_lt_succ _
    · obtain ⟨it, -, hport⟩ := List.mem_filterMap.mp (List.mem_of_find?_eq_some h)
      exact hentry hport

/-! ## The two walks -/

/-- The empty address: what the loop over `getifaddrs` does, if there is a list. -/
lemma parse_empty (interfaces : Interfaces) (getaddrinfo : Getaddrinfo)
    (storage : ℕ → Vector UInt8 12) (results : ℕ → IPAddress) (resultsSize : ℤ)
    (service : Option (List Char)) (bindable : Bool) (family : ℕ) :
    parse interfaces getaddrinfo storage results resultsSize (some []) service bindable family
      = interfaces.getifaddrs.elim (results, -1) fun addresses =>
          Prod.map id Nat.cast (storeLoop (interfaceEntry family (lookupPort
            (serviceLookup getaddrinfo (some []) service bindable family)))
            storage resultsSize addresses 0 results) := by
  unfold parse serviceLookup
  rw [if_pos rfl]
  dsimp only
  rw [if_pos rfl]
  generalize getaddrinfo none _ _ = answer
  cases answer with
  | none => cases interfaces.getifaddrs <;> rfl
  | some result =>
    dsimp only
    rw [portLoop_zero]
    cases interfaces.getifaddrs <;> rfl

/-- Every other address: what the loop over `getaddrinfo` does, if there is a list. -/
lemma parse_address (interfaces : Interfaces) (getaddrinfo : Getaddrinfo)
    (storage : ℕ → Vector UInt8 12) (results : ℕ → IPAddress) (resultsSize : ℤ)
    {address : Option (List Char)} (haddress : address ≠ some []) (service : Option (List Char))
    (bindable : Bool) (family : ℕ) :
    parse interfaces getaddrinfo storage results resultsSize address service bindable family
      = (serviceLookup getaddrinfo address service bindable family).elim (results, -1)
          fun result =>
            Prod.map id Nat.cast
              (storeLoop addrinfoEntry storage resultsSize result 0 results) := by
  unfold parse serviceLookup
  rw [if_neg haddress]
  dsimp only
  rw [if_neg haddress]
  generalize getaddrinfo address _ _ = answer
  cases answer <;> rfl

/-- What a walk over `list` leaves: the number of the eligible entries that there is room for, the
first of them in their order, and the rest of `results`. -/
structure StoresFirst {α : Type} (list : List α) (eligible : α → Bool)
    (stored : α → IPAddress → Prop) (results : ℕ → IPAddress) (resultsSize : ℤ)
    (outcome : (ℕ → IPAddress) × ℤ) : Prop where
  returned : outcome.2 = max 0 (min resultsSize (list.countP eligible))
  stored : ∀ j : ℕ, j < outcome.2 →
    ∃ it, (list.filter eligible)[j]? = some it ∧ stored it (outcome.1 j)
  untouched : ∀ j : ℕ, outcome.2 ≤ j → outcome.1 j = results j

/-- The loop that both walks share. -/
lemma storesFirst_storeLoop {α : Type} {entry : α → Option (Vector UInt8 12 → IPAddress)}
    {eligible : α → Bool} {stored : α → IPAddress → Prop}
    (heligible : ∀ it, (entry it).isSome = eligible it)
    (hstored : ∀ {it a}, entry it = some a → ∀ storage, stored it (a storage))
    (storage : ℕ → Vector UInt8 12) (resultsSize : ℤ) (list : List α) (results : ℕ → IPAddress) :
    StoresFirst list eligible stored results resultsSize
      (Prod.map id Nat.cast (storeLoop entry storage resultsSize list 0 results)) := by
  obtain rfl : (fun it => (entry it).isSome) = eligible := funext heligible
  constructor
  · rw [Prod.map_snd, storeLoop_snd, Nat.zero_add]
    rfl
  · intro j hj
    obtain ⟨it, a, hit, ha, hstore⟩ := storeLoop_fst_of_lt_snd list (Nat.zero_le j)
      (Int.ofNat_lt.mp hj)
    rw [Nat.sub_zero] at hit
    refine ⟨it, hit, ?_⟩
    rw [Prod.map_fst, id, hstore]
    exact hstored ha (storage j)
  · intro j hj
    exact storeLoop_fst_of_ge list (Int.ofNat_le.mp hj)

/-! ## Entries -/

/-- What is stored for an entry of `getifaddrs`: its host address, its scope id and its flow
information, with the port that was looked up. -/
structure StoredInterface (port : ℕ) (it : Ifaddr) (r : IPAddress) : Prop where
  sameHost : ∃ addr, it.addr = some addr ∧ SameHost r addr
    ∧ (addr.getFamily = ipv6 →
      r.sin6ScopeId = addr.sin6ScopeId ∧ r.sin6Flowinfo = addr.sin6Flowinfo)
  port : r.port = port

/-- What is stored for an entry of `getaddrinfo`: its `sockaddr_in` or its `sockaddr_in6`. -/
def StoredAddrinfo (it : Addrinfo) (r : IPAddress) : Prop :=
  ∃ addr, it.addr = some addr
    ∧ (it.family = ipv4 ∧ r.getFamily = ipv4 ∧ r.sockaddrIn = addr.sockaddrIn
      ∨ it.family = ipv6 ∧ r.getFamily = ipv6 ∧ r.sockaddrIn6 = addr.sockaddrIn6)

/-- The entries of `getaddrinfo` that are stored. -/
def eligibleAddrinfo (it : Addrinfo) : Bool :=
  it.addr.isSome && (it.family = ipv4 || it.family = ipv6)

lemma isSome_addrinfoEntry (it : Addrinfo) : (addrinfoEntry it).isSome = eligibleAddrinfo it := by
  rw [addrinfoEntry, eligibleAddrinfo]
  cases it.addr with
  | none => rfl
  | some addr =>
    by_cases h4 : it.family = ipv4
    · simp [h4]
    · by_cases h6 : it.family = ipv6
      · simp [h6, ipv6_ne_ipv4]
      · simp [h4, h6]

lemma storedAddrinfo_of_addrinfoEntry {it : Addrinfo} {a : Vector UInt8 12 → IPAddress}
    (h : addrinfoEntry it = some a) (storage : Vector UInt8 12) :
    StoredAddrinfo it (a storage) := by
  rw [addrinfoEntry] at h
  cases haddr : it.addr with
  | none =>
    rw [haddr] at h
    exact Option.absurd_none h
  | some addr =>
    rw [haddr] at h
    dsimp only at h
    refine ⟨addr, haddr, ?_⟩
    split at h
    · rename_i h4
      obtain rfl := Option.some.inj h
      exact Or.inl ⟨h4, getFamily_ofSockaddrIn _ _, sockaddrIn_ofSockaddrIn _ _⟩
    · split at h
      · rename_i h6
        obtain rfl := Option.some.inj h
        exact Or.inr ⟨h6, getFamily_ofSockaddrIn6 _, sockaddrIn6_ofSockaddrIn6 _⟩
      · exact Option.absurd_none h

lemma storedInterface_of_interfaceEntry {family port : ℕ} (hport : port < 65536) {it : Ifaddr}
    {a : Vector UInt8 12 → IPAddress} (h : interfaceEntry family port it = some a)
    (storage : Vector UInt8 12) : StoredInterface port it (a storage) := by
  rcases haddr : it.addr with _ | addr
  · rw [interfaceEntry, haddr] at h
    exact Option.absurd_none h
  · have hhost := sameHost_of_interfaceEntry haddr h storage
    rw [interfaceEntry, haddr] at h
    dsimp only at h
    split at h
    · rename_i hif
      obtain rfl := Option.some.inj h
      have hinet : (ofSockaddrIn addr.sockaddrIn storage).IsInet :=
        Or.inl (getFamily_ofSockaddrIn _ _)
      refine ⟨⟨addr, haddr, hhost, fun h6 => ?_⟩, port_withPort hinet hport⟩
      exact absurd (h6.symm.trans hif.2.1) ipv6_ne_ipv4
    · split at h
      · rename_i hif
        obtain rfl := Option.some.inj h
        have hinet : (ofSockaddrIn6 addr.sockaddrIn6).IsInet :=
          Or.inr (getFamily_ofSockaddrIn6 _)
        have hcopy := sockaddrIn6_ofSockaddrIn6 addr.sockaddrIn6
        refine ⟨⟨addr, haddr, hhost, fun _ => ?_⟩, port_withPort hinet hport⟩
        rw [sin6ScopeId_withPort, sin6Flowinfo_withPort]
        exact ⟨congrArg SockaddrIn6.scopeId hcopy, congrArg SockaddrIn6.flowinfo hcopy⟩
      · exact Option.absurd_none h

lemma storesFirst_empty {interfaces : Interfaces} (getaddrinfo : Getaddrinfo)
    (storage : ℕ → Vector UInt8 12) (results : ℕ → IPAddress) (resultsSize : ℤ)
    (service : Option (List Char)) (bindable : Bool) (family : ℕ) {addresses : List Ifaddr}
    (hlist : interfaces.getifaddrs = some addresses) :
    StoresFirst addresses (eligible family)
      (StoredInterface (lookupPort (serviceLookup getaddrinfo (some []) service bindable family)))
      results resultsSize
      (parse interfaces getaddrinfo storage results resultsSize (some []) service bindable
        family) := by
  rw [parse_empty, hlist, Option.elim_some]
  exact storesFirst_storeLoop (isSome_interfaceEntry family _)
    (storedInterface_of_interfaceEntry (lookupPort_lt _)) storage resultsSize addresses results

lemma storesFirst_address (interfaces : Interfaces) {getaddrinfo : Getaddrinfo}
    (storage : ℕ → Vector UInt8 12) (results : ℕ → IPAddress) (resultsSize : ℤ)
    {address service : Option (List Char)} {bindable : Bool} {family : ℕ} {result : List Addrinfo}
    (haddress : address ≠ some [])
    (hlookup : serviceLookup getaddrinfo address service bindable family = some result) :
    StoresFirst result eligibleAddrinfo StoredAddrinfo results resultsSize
      (parse interfaces getaddrinfo storage results resultsSize address service bindable
        family) := by
  rw [parse_address _ _ _ _ _ haddress, hlookup, Option.elim_some]
  exact storesFirst_storeLoop isSome_addrinfoEntry storedAddrinfo_of_addrinfoEntry storage
    resultsSize result results

/-- **`Parse` stores the first eligible entries that there is room for** and returns their number,
whichever list it walks, for every list and every `resultsSize`. -/
theorem parse_storesFirst (interfaces : Interfaces) (getaddrinfo : Getaddrinfo)
    (storage : ℕ → Vector UInt8 12) (results : ℕ → IPAddress) (resultsSize : ℤ)
    (address service : Option (List Char)) (bindable : Bool) (family : ℕ) :
    (address = some [] → ∀ addresses, interfaces.getifaddrs = some addresses →
        StoresFirst addresses (eligible family)
          (StoredInterface (lookupPort (serviceLookup getaddrinfo address service bindable family)))
          results resultsSize
          (parse interfaces getaddrinfo storage results resultsSize address service bindable
            family))
      ∧ (address ≠ some [] → ∀ result,
        serviceLookup getaddrinfo address service bindable family = some result →
          StoresFirst result eligibleAddrinfo StoredAddrinfo results resultsSize
            (parse interfaces getaddrinfo storage results resultsSize address service bindable
              family)) := by
  constructor
  · rintro rfl addresses hlist
    exact storesFirst_empty getaddrinfo storage results resultsSize service bindable family hlist
  · intro haddress result hlookup
    exact storesFirst_address interfaces storage results resultsSize haddress hlookup

/-- A `getaddrinfo` that knows one name. -/
def oneName : Getaddrinfo := fun node _ _ =>
  if node = some ['a'] then some [⟨1, none⟩, ⟨ipv6, some (linkLocal 3)⟩] else none

/-- Two interfaces with room for one address, and a name with room for more than it has. -/
theorem parse_storesFirst_twoLinks :
    StoresFirst [⟨['a'], some (linkLocal 1)⟩, ⟨['b'], some (linkLocal 2)⟩] (eligible ipv6)
        (StoredInterface (lookupPort (serviceLookup oneName (some []) none false ipv6)))
        (fun _ => linkLocal 0) 1
        (parse twoLinks oneName (fun _ => .replicate 12 0) (fun _ => linkLocal 0) 1 (some []) none
          false ipv6)
      ∧ StoresFirst [⟨1, none⟩, ⟨ipv6, some (linkLocal 3)⟩] eligibleAddrinfo StoredAddrinfo
        (fun _ => linkLocal 0) 2
        (parse twoLinks oneName (fun _ => .replicate 12 0) (fun _ => linkLocal 0) 2 (some ['a'])
          none false ipv6) :=
  ⟨(parse_storesFirst twoLinks oneName _ _ 1 (some []) none false ipv6).1 rfl _ rfl,
    (parse_storesFirst twoLinks oneName _ _ 2 (some ['a']) none false ipv6).2 (by decide) _ rfl⟩

/-! ## The service -/

/-- The lookup gives addresses, all with the port. -/
def ResolvesTo (answer : Option (List Addrinfo)) (port : ℕ) : Prop :=
  ∃ result, answer = some result ∧ result.filterMap entryPort ≠ []
    ∧ ∀ q ∈ result.filterMap entryPort, q = port

/-- A service that cannot be looked up fails the call, and one that can gives its port to every
address that is stored. -/
structure HeedsService (interfaces : Interfaces) (getaddrinfo : Getaddrinfo)
    (storage : ℕ → Vector UInt8 12) (results : ℕ → IPAddress) (resultsSize : ℤ)
    (address : Option (List Char)) (service : List Char) (bindable : Bool) (family : ℕ) :
    Prop where
  unresolved : serviceLookup getaddrinfo address (some service) bindable family = none →
    parse interfaces getaddrinfo storage results resultsSize address (some service) bindable family
      = (results, -1)
  resolved : ∀ port,
    ResolvesTo (serviceLookup getaddrinfo address (some service) bindable family) port →
      ∀ j : ℕ, j < (parse interfaces getaddrinfo storage results resultsSize address (some service)
          bindable family).2 →
        ((parse interfaces getaddrinfo storage results resultsSize address (some service) bindable
          family).1 j).port = port

lemma StoredAddrinfo.entryPort_eq {it : Addrinfo} {r : IPAddress} (h : StoredAddrinfo it r) :
    entryPort it = some r.port := by
  obtain ⟨addr, haddr, ⟨hfamily, -, hcopy⟩ | ⟨hfamily, -, hcopy⟩⟩ := h
  · have hport : r.sinPort = addr.sinPort := congrArg SockaddrIn.port hcopy
    rw [entryPort, if_pos (Or.inl hfamily), haddr, Option.map_some, port, port, hport]
  · have hport : r.sinPort = addr.sinPort := congrArg SockaddrIn6.port hcopy
    rw [entryPort, if_pos (Or.inr hfamily), haddr, Option.map_some, port, port, hport]

/-- A port that all entries have is found, also if it is zero. -/
lemma lookupPort_of_resolvesTo {answer : Option (List Addrinfo)} {port : ℕ}
    (h : ResolvesTo answer port) : lookupPort answer = port := by
  obtain ⟨result, rfl, hne, hall⟩ := h
  rw [lookupPort, Option.map_some, Option.getD_some, firstPort]
  rcases hfind : (result.filterMap entryPort).find? (· != 0) with _ | q
  · obtain ⟨q, hq⟩ := List.exists_mem_of_ne_nil _ hne
    have hzero := List.find?_eq_none.mp hfind q hq
    rw [bne_iff_ne, not_not] at hzero
    exact hzero.symm.trans (hall q hq)
  · exact hall q (List.mem_of_find?_eq_some hfind)

/-- **`Parse` heeds its service** unless it walks the interfaces without one: the address is empty,
the lookup failed and there is a list of interfaces. -/
theorem heedsService_iff (interfaces : Interfaces) (getaddrinfo : Getaddrinfo)
    (storage : ℕ → Vector UInt8 12) (results : ℕ → IPAddress) (resultsSize : ℤ)
    (address : Option (List Char)) (service : List Char) (bindable : Bool) (family : ℕ) :
    HeedsService interfaces getaddrinfo storage results resultsSize address service bindable family
      ↔ ¬(address = some []
        ∧ serviceLookup getaddrinfo address (some service) bindable family = none
        ∧ interfaces.getifaddrs.isSome = true) := by
  constructor
  · rintro h ⟨rfl, hlookup, hsome⟩
    obtain ⟨addresses, hlist⟩ := Option.isSome_iff_exists.mp hsome
    have hreturned := (storesFirst_empty getaddrinfo storage results resultsSize (some service)
      bindable family hlist).returned
    rw [h.unresolved hlookup] at hreturned
    omega
  · intro hwalk
    constructor
    · intro hlookup
      by_cases haddress : address = some []
      · subst haddress
        have hlist : interfaces.getifaddrs = none := by
          refine Option.not_isSome_iff_eq_none.mp fun hsome => hwalk ⟨rfl, hlookup, hsome⟩
        rw [parse_empty, hlist, Option.elim_none]
      · rw [parse_address _ _ _ _ _ haddress, hlookup, Option.elim_none]
    · intro port hport j hj
      by_cases haddress : address = some []
      · subst haddress
        rcases hlist : interfaces.getifaddrs with _ | addresses
        · rw [parse_empty, hlist, Option.elim_none] at hj
          omega
        · obtain ⟨it, -, hstored⟩ := (storesFirst_empty getaddrinfo storage results resultsSize
            (some service) bindable family hlist).stored j hj
          rw [hstored.port, lookupPort_of_resolvesTo hport]
      · obtain ⟨result, hlookup, -, hall⟩ := hport
        obtain ⟨it, hit, hstored⟩ := (storesFirst_address interfaces storage results resultsSize
          haddress hlookup).stored j hj
        have hmem := (List.mem_filter.mp (List.mem_of_getElem? hit)).1
        exact hall _ (List.mem_filterMap.mpr ⟨it, hmem, hstored.entryPort_eq⟩)

/-- A service that nobody knows, and an address that is stored all the same. -/
theorem not_heedsService_unknown :
    serviceLookup oneName (some []) (some ['x']) false familyUnspecified = none
      ∧ (parse twoLinks oneName (fun _ => .replicate 12 0) (fun _ => linkLocal 0) 1 (some [])
          (some ['x']) false familyUnspecified).2 = 1
      ∧ ¬HeedsService twoLinks oneName (fun _ => .replicate 12 0) (fun _ => linkLocal 0) 1
        (some []) ['x'] false familyUnspecified := by
  have hlookup : serviceLookup oneName (some []) (some ['x']) false familyUnspecified = none := rfl
  have hcount : (parse twoLinks oneName (fun _ => .replicate 12 0) (fun _ => linkLocal 0) 1
      (some []) (some ['x']) false familyUnspecified).2 = 1 := by decide
  refine ⟨hlookup, hcount, fun h => ?_⟩
  rw [h.unresolved hlookup] at hcount
  exact absurd hcount (by decide)

end IPAddress
end SMBB
