import SMBB.Construction.SocketNames
import SMBB.Properties.EqualAddresses
import SMBB.Properties.MultipleMessages

/-!
# What an address is for its socket

An `IPAddress` goes to the system as a pointer and `GetLength()` bytes, and is filled by the system
through a pointer and `sizeof(IPAddress)` bytes.  `interchangeable_iff` says what of its
twenty-eight bytes counts, once programs may pass it to the system as well: two addresses are
interchangeable exactly if they have the same family and the system reads the same in what
`GetLength()` lets it see.  The bytes behind an IPv4 address, `sin_zero`, and all of an address of
another family count for nothing, whatever is left in them by earlier contents, by assignments or
by the system; the flow information and the scope of an IPv6 address, which `operator==` passes
over, do count.

The programs have addresses, sockets and bytes in variables, and make every call of `IPSocket` that
has to do with an address, on any system.
-/

namespace SMBB

/-! ## Programs -/

/-- What a program has. -/
structure SocketProcess (κ : Type) where
  system : κ
  sockets : ℕ → IPSocket ℤ
  memory : Memory

/-- The steps of a program; `s` and `t` stand for variables that hold sockets, `x` for one that
holds an address. -/
inductive SocketInput
  | address (input : AddressInput ℕ)
  | write (place : ℕ) (value : UInt8)
  | read (place : ℕ)
  /-- `s = t`. -/
  | copy (s t : ℕ)
  | isValid (s : ℕ)
  | openFamily (s family protocol : ℕ)
  | openAddress (s x protocol : ℕ) (openAttempt : OpenAttempt)
  | bind (s x : ℕ)
  | listen (s : ℕ) (maxPendingConnections : ℤ)
  | connect (s x : ℕ)
  /-- `t = s.Accept(newAddress)`. -/
  | accept (t s : ℕ) (newAddress : Option ℕ)
  /-- `x = s.GetAddress()`. -/
  | getAddress (x s : ℕ)
  /-- `x = s.GetPeerAddress()`. -/
  | getPeerAddress (x s : ℕ)
  | sendData (s data length : ℕ)
  | sendTo (s data length x : ℕ)
  /-- `s.Send(Message(buffers, x))`. -/
  | send (s : ℕ) (buffers : List Buffer) (x : Option ℕ)
  | receiveData (s flags data length : ℕ)
  | receiveFrom (s flags data length x : ℕ)
  /-- `s.Receive(Message(buffers, x), flags)`. -/
  | receive (s flags : ℕ) (buffers : List Buffer) (x : Option ℕ)
  | close (s : ℕ)

/-- What it is told. -/
inductive SocketAnswer
  | done
  | address (answer : AddressAnswer)
  | byte (value : UInt8)
  | bool (value : Bool)
  | connected (result : ConnectResult)
  | message (result : MessageResult)
deriving DecidableEq

namespace SocketProcess

variable {κ : Type}

/-- The process as a call on messages finds it. -/
def host (p : SocketProcess κ) : Host κ := ⟨p.system, p.memory, []⟩

/-- The process after such a call. -/
def afterCall (p : SocketProcess κ) (host : Host κ) : SocketProcess κ :=
  { p with system := host.socket, memory := host.memory }

/-- An address is stored in a variable. -/
def setAddress (p : SocketProcess κ) (x : ℕ) (a : IPAddress) : SocketProcess κ :=
  { p with memory := { p.memory with addresses := Function.update p.memory.addresses x a } }

/-- A socket is stored in a variable. -/
def setSocket (p : SocketProcess κ) (k : κ) (s : ℕ) (socket : IPSocket ℤ) : SocketProcess κ :=
  { p with system := k, sockets := Function.update p.sockets s socket }

/-- A step, in which the system leaves `input.2` in `sin_zero` where it stores an address. -/
def respond (system : SocketSystem κ) (p : SocketProcess κ) (input : SocketInput × Vector UInt8 8) :
    Option (SocketProcess κ × SocketAnswer) :=
  match input.1 with
  | .address input =>
    (IPAddress.respond p.memory.addresses input).map fun answered =>
      ({ p with memory := { p.memory with addresses := answered.1 } }, .address answered.2)
  | .write place value =>
    some ({ p with memory :=
      { p.memory with bytes := Function.update p.memory.bytes place value } }, .done)
  | .read place => some (p, .byte (p.memory.bytes place))
  | .copy s t => some (p.setSocket p.system s (p.sockets t), .done)
  | .isValid s => some (p, .bool ((p.sockets s).isValid posixSockets))
  | .openFamily s family protocol =>
    let opened := (p.sockets s).openFamilyOn system p.system family protocol
    some (p.setSocket opened.1 s opened.2.1, .bool opened.2.2)
  | .openAddress s x protocol openAttempt =>
    let opened :=
      (p.sockets s).openOn system p.system (p.memory.addresses x) protocol openAttempt
    some (p.setSocket opened.1 s opened.2.1, .bool opened.2.2)
  | .bind s x =>
    let bound := (p.sockets s).bindOn system p.system (p.memory.addresses x)
    some ({ p with system := bound.1 }, .bool bound.2)
  | .listen s maxPendingConnections =>
    let listening := (p.sockets s).listenOn system p.system maxPendingConnections
    some ({ p with system := listening.1 }, .bool listening.2)
  | .connect s x =>
    let connected := (p.sockets s).connectOn system p.system (p.memory.addresses x)
    some ({ p with system := connected.1 }, .connected connected.2)
  | .accept t s newAddress =>
    let accepted :=
      (p.sockets s).acceptFrom system p.system newAddress input.2 p.memory.addresses
    some ({ p.setSocket accepted.1 t accepted.2.1 with
      memory := { p.memory with addresses := accepted.2.2 } }, .done)
  | .getAddress x s =>
    some (p.setAddress x ((p.sockets s).getAddress system p.system input.2), .done)
  | .getPeerAddress x s =>
    some (p.setAddress x ((p.sockets s).getPeerAddress system p.system input.2), .done)
  | .sendData s data length =>
    let sent := SMBB.sendData (system.kernel (p.sockets s).handle input.2) p.host data length
    some (p.afterCall sent.1, .message sent.2)
  | .sendTo s data length x =>
    let sent := SMBB.sendTo (system.kernel (p.sockets s).handle input.2) p.host data length x
    some (p.afterCall sent.1, .message sent.2)
  | .send s buffers x =>
    let sent := SMBB.send (system.kernel (p.sockets s).handle input.2) p.host
      (Message.construct buffers x)
    some (p.afterCall sent.1, .message sent.2.2)
  | .receiveData s flags data length =>
    let received :=
      SMBB.receiveData (system.kernel (p.sockets s).handle input.2) flags p.host data length
    some (p.afterCall received.1, .message received.2)
  | .receiveFrom s flags data length x =>
    let received :=
      SMBB.receiveFrom (system.kernel (p.sockets s).handle input.2) flags p.host data length x
    some (p.afterCall received.1, .message received.2)
  | .receive s flags buffers x =>
    let received := SMBB.receive (system.kernel (p.sockets s).handle input.2) flags p.host
      (Message.construct buffers x)
    some (p.afterCall received.1, .message received.2.2)
  | .close s =>
    let closed := (p.sockets s).closeOn system p.system
    some (p.setSocket closed.1 s closed.2, .done)

end SocketProcess

/-! ## What the system reads -/

namespace IPAddress

variable {a b : IPAddress}

/-- Bytes that are stored are there, as far as they go. -/
lemma get_storeName_take (a b : IPAddress) {n : ℕ} (i : Fin 28) (hi : i.val < n) :
    (storeName sizeofSockaddrIn6 (a.bytes.toList.take n) b).bytes.get i = a.bytes.get i := by
  have hlength : i.val < a.bytes.toList.length := by
    rw [Vector.length_toList]
    exact i.isLt
  have hall : ((a.bytes.toList.take n).take sizeofSockaddrIn6)[i.val]?
      = (a.bytes.toList.take n)[i.val]? := List.getElem?_take_of_lt i.isLt
  rw [get_storeName, hall, List.getElem?_take_of_lt hi, List.getElem?_eq_getElem hlength,
    Vector.getElem_toList]
  rfl

/-- Fields that lie where two addresses agree. -/
lemma slice_congr {n : ℕ} (h : ∀ i : Fin 28, i.val < n → a.bytes.get i = b.bytes.get i)
    {offset len : ℕ} (hlen : offset + len ≤ 28) (hn : offset + len ≤ n) :
    a.slice offset len hlen = b.slice offset len hlen := by
  apply Vector.ext
  intro i hi
  rw [getElem_slice _ _ hi, getElem_slice _ _ hi]
  exact h ⟨offset + i, by omega⟩ (by show offset + i < n; omega)

lemma getFamily_congr {n : ℕ} (h : ∀ i : Fin 28, i.val < n → a.bytes.get i = b.bytes.get i)
    (hn : 2 ≤ n) : a.getFamily = b.getFamily := by
  have h0 : a.bytes.get 0 = b.bytes.get 0 := h 0 (by show 0 < n; omega)
  have h1 : a.bytes.get 1 = b.bytes.get 1 := h 1 (by show 1 < n; omega)
  rw [getFamily, getFamily, h0, h1]

/-- What an address holds for the system. -/
def name (a : IPAddress) : Option SocketName :=
  if a.getFamily = ipv4 then some (.inet a.sinAddr a.sinPort)
  else if a.getFamily = ipv6 then
    some (.inet6 a.sin6Addr a.sinPort a.sin6Flowinfo a.sin6ScopeId)
  else none

lemma name_ipv4 (h : a.getFamily = ipv4) : a.name = some (.inet a.sinAddr a.sinPort) := if_pos h

lemma name_ipv6 (h : a.getFamily = ipv6) :
    a.name = some (.inet6 a.sin6Addr a.sinPort a.sin6Flowinfo a.sin6ScopeId) := by
  rw [name, h, if_neg ipv6_ne_ipv4, if_pos rfl]

lemma name_other (h4 : a.getFamily ≠ ipv4) (h6 : a.getFamily ≠ ipv6) : a.name = none := by
  rw [name, if_neg h4, if_neg h6]

lemma length_take (a : IPAddress) {n : ℕ} (hn : n ≤ 28) : (a.bytes.toList.take n).length = n := by
  rw [List.length_take, Vector.length_toList, Nat.min_eq_left hn]

/-- **`GetLength()` is enough**: the system reads all that the address holds for it. -/
lemma read_passed (a : IPAddress) : SocketName.read a.passed = a.name := by
  by_cases h4 : a.getFamily = ipv4
  · have hpassed : a.passed = a.bytes.toList.take sizeofSockaddrIn := by
      rw [passed, getLength, if_pos h4]
    have hagree := get_storeName_take (n := sizeofSockaddrIn) a (ofFamily familyUnspecified)
    have hfamily := (getFamily_congr hagree (by decide)).trans h4
    have haddr : _ = a.sinAddr := slice_congr hagree (by decide) (by decide)
    have hport : _ = a.sinPort := slice_congr hagree (by decide) (by decide)
    rw [hpassed, name_ipv4 h4, SocketName.read]
    simp only [if_pos hfamily, length_take a (n := sizeofSockaddrIn) (by decide), le_refl, if_true]
    rw [sinAddr, sinPort, haddr, hport]
  by_cases h6 : a.getFamily = ipv6
  · have hpassed : a.passed = a.bytes.toList.take sizeofSockaddrIn6 := by
      rw [passed, getLength, if_neg h4, if_pos h6]
    have hagree : storeName sizeofSockaddrIn6 (a.bytes.toList.take sizeofSockaddrIn6)
        (ofFamily familyUnspecified) = a :=
      eq_of_get fun i => get_storeName_take a _ i i.isLt
    rw [hpassed, name_ipv6 h6, SocketName.read]
    simp only [hagree, if_neg h4, if_pos h6, length_take a (n := sizeofSockaddrIn6) (by decide),
      le_refl, if_true]
  · have hpassed : a.passed = [] := by
      rw [passed, getLength, if_neg h4, if_neg h6, List.take_zero]
    rw [hpassed, name_other h4 h6]
    rfl

/-! ## Addresses that hold the same -/

/-- Two addresses hold the same for programs and for the system. -/
structure SameName (a b : IPAddress) : Prop where
  family : a.getFamily = b.getFamily
  name : a.name = b.name

namespace SameName

lemma refl (a : IPAddress) : a.SameName a := ⟨rfl, rfl⟩

/-- The three kinds of addresses that hold the same. -/
lemma cases (h : a.SameName b) :
    (a.getFamily = ipv4 ∧ b.getFamily = ipv4 ∧ a.sinAddr = b.sinAddr ∧ a.sinPort = b.sinPort)
      ∨ (a.getFamily = ipv6 ∧ b.getFamily = ipv6 ∧ a.sin6Addr = b.sin6Addr
        ∧ a.sinPort = b.sinPort ∧ a.sin6Flowinfo = b.sin6Flowinfo
        ∧ a.sin6ScopeId = b.sin6ScopeId)
      ∨ (a.getFamily = b.getFamily ∧ b.getFamily ≠ ipv4 ∧ b.getFamily ≠ ipv6) := by
  by_cases h4 : a.getFamily = ipv4
  · have h4' : b.getFamily = ipv4 := h.family.symm.trans h4
    have hname := h.name
    rw [name_ipv4 h4, name_ipv4 h4', Option.some.injEq, SocketName.inet.injEq] at hname
    exact Or.inl ⟨h4, h4', hname⟩
  by_cases h6 : a.getFamily = ipv6
  · have h6' : b.getFamily = ipv6 := h.family.symm.trans h6
    have hname := h.name
    rw [name_ipv6 h6, name_ipv6 h6', Option.some.injEq, SocketName.inet6.injEq] at hname
    exact Or.inr (Or.inl ⟨h6, h6', hname⟩)
  · exact Or.inr (Or.inr ⟨h.family, h.family ▸ h4, h.family ▸ h6⟩)

lemma of_ipv4 (ha : a.getFamily = ipv4) (hb : b.getFamily = ipv4) (haddr : a.sinAddr = b.sinAddr)
    (hport : a.sinPort = b.sinPort) : a.SameName b :=
  ⟨ha.trans hb.symm, by rw [name_ipv4 ha, name_ipv4 hb, haddr, hport]⟩

lemma of_ipv6 (ha : a.getFamily = ipv6) (hb : b.getFamily = ipv6)
    (haddr : a.sin6Addr = b.sin6Addr) (hport : a.sinPort = b.sinPort)
    (hflowinfo : a.sin6Flowinfo = b.sin6Flowinfo) (hscopeId : a.sin6ScopeId = b.sin6ScopeId) :
    a.SameName b :=
  ⟨ha.trans hb.symm, by rw [name_ipv6 ha, name_ipv6 hb, haddr, hport, hflowinfo, hscopeId]⟩

/-- They agree in what the class looks at. -/
lemma alike (h : a.SameName b) : a.Alike b := by
  rcases h.cases with ⟨ha, hb, haddr, hport⟩ | ⟨ha, hb, haddr, hport, -⟩ | ⟨hab, h4, h6⟩
  · exact ⟨h.family, fun _ => haddr, fun h6 => absurd (h6.symm.trans ha) ipv6_ne_ipv4,
      fun _ => hport⟩
  · exact ⟨h.family, fun h4 => absurd (ha.symm.trans h4) ipv6_ne_ipv4, fun _ => haddr,
      fun _ => hport⟩
  · refine ⟨hab, fun h4' => absurd (hab.symm.trans h4') h4,
      fun h6' => absurd (hab.symm.trans h6') h6, fun ha => ?_⟩
    rw [IsInet, hab] at ha
    exact absurd ha (not_or_intro h4 h6)

lemma withPort (h : a.SameName b) (port : ℕ) : (a.withPort port).SameName (b.withPort port) := by
  have halike := h.alike.withPort port
  rcases h.cases with ⟨ha, hb, -⟩ | ⟨ha, hb, -, -, hflowinfo, hscopeId⟩ | ⟨hab, h4, h6⟩
  · have ha' : (a.withPort port).getFamily = ipv4 := (getFamily_withPort a port).trans ha
    exact of_ipv4 ha' ((getFamily_withPort b port).trans hb) (halike.sinAddr ha')
      (halike.sinPort (Or.inl ha'))
  · have ha' : (a.withPort port).getFamily = ipv6 := (getFamily_withPort a port).trans ha
    refine of_ipv6 ha' ((getFamily_withPort b port).trans hb) (halike.sin6Addr ha')
      (halike.sinPort (Or.inr ha')) ?_ ?_
    · rw [sin6Flowinfo_withPort, sin6Flowinfo_withPort, hflowinfo]
    · rw [sin6ScopeId_withPort, sin6ScopeId_withPort, hscopeId]
  · refine ⟨halike.family, ?_⟩
    rw [name_other, name_other]
    · rw [getFamily_withPort]
      exact h4
    · rw [getFamily_withPort]
      exact h6
    · rw [getFamily_withPort, hab]
      exact h4
    · rw [getFamily_withPort, hab]
      exact h6

end SameName

/-! ## What the system stores -/

/-- An IPv4 name that was stored, whatever was there. -/
lemma store_inet (zero : Vector UInt8 8) (addr : Vector UInt8 4) (port : Vector UInt8 2)
    (a : IPAddress) :
    (SocketSystem.store zero (some (.inet addr port)) a).getFamily = ipv4
      ∧ (SocketSystem.store zero (some (.inet addr port)) a).sinAddr = addr
      ∧ (SocketSystem.store zero (some (.inet addr port)) a).sinPort = port := by
  have hagree := get_storeName_take (n := sizeofSockaddrIn)
    (ofSockaddrIn ⟨port, addr, zero⟩ (Vector.replicate 12 0)) a
  have hstore : SocketSystem.store zero (some (.inet addr port)) a
      = storeName sizeofSockaddrIn6 ((ofSockaddrIn ⟨port, addr, zero⟩
        (Vector.replicate 12 0)).bytes.toList.take sizeofSockaddrIn) a := by
    rw [SocketSystem.store, Option.map_some, Option.getD_some, SocketName.bytes]
  rw [hstore]
  refine ⟨?_, ?_, ?_⟩
  · exact (getFamily_congr hagree (by decide)).trans (getFamily_ofSockaddrIn _ _)
  · exact (slice_congr hagree (by decide) (by decide)).trans (sinAddr_ofSockaddrIn _ _)
  · have hport := congrArg SockaddrIn.port
      (sockaddrIn_ofSockaddrIn ⟨port, addr, zero⟩ (Vector.replicate 12 0))
    exact (slice_congr hagree (by decide) (by decide)).trans hport

/-- An IPv6 name fills the whole address. -/
lemma store_inet6 (zero : Vector UInt8 8) (addr : Vector UInt8 16) (port : Vector UInt8 2)
    (flowinfo scopeId : Vector UInt8 4) (a : IPAddress) :
    SocketSystem.store zero (some (.inet6 addr port flowinfo scopeId)) a
      = ofSockaddrIn6 ⟨port, flowinfo, addr, scopeId⟩ := by
  have hall : ((ofSockaddrIn6 ⟨port, flowinfo, addr, scopeId⟩).bytes.toList.take sizeofSockaddrIn6)
      = (ofSockaddrIn6 ⟨port, flowinfo, addr, scopeId⟩).bytes.toList :=
    List.take_of_length_le (by rw [Vector.length_toList]; exact le_refl _)
  have hstore : SocketSystem.store zero (some (.inet6 addr port flowinfo scopeId)) a
      = storeName sizeofSockaddrIn6
        (ofSockaddrIn6 ⟨port, flowinfo, addr, scopeId⟩).bytes.toList a := by
    rw [SocketSystem.store, Option.map_some, Option.getD_some, SocketName.bytes]
  rw [hstore, ← hall]
  exact eq_of_get fun i => get_storeName_take _ a i i.isLt

/-- The system stores what it means, wherever it stores it and whatever it leaves behind. -/
lemma sameName_store (zero zero' : Vector UInt8 8) (name : Option SocketName)
    (h : a.SameName b) :
    (SocketSystem.store zero name a).SameName (SocketSystem.store zero' name b) := by
  rcases name with _ | ⟨addr, port⟩ | ⟨addr, port, flowinfo, scopeId⟩
  · have hnothing : ∀ c : IPAddress, storeName sizeofSockaddrIn6 [] c = c :=
      fun c => eq_of_get fun i => get_storeName _ _ c i
    show (storeName sizeofSockaddrIn6 [] a).SameName (storeName sizeofSockaddrIn6 [] b)
    rw [hnothing, hnothing]
    exact h
  · obtain ⟨hfamily, haddr, hport⟩ := store_inet zero addr port a
    obtain ⟨hfamily', haddr', hport'⟩ := store_inet zero' addr port b
    exact SameName.of_ipv4 hfamily hfamily' (haddr.trans haddr'.symm) (hport.trans hport'.symm)
  · rw [store_inet6, store_inet6]
    exact SameName.refl _

end IPAddress

/-! ## Calls on addresses that hold the same -/

namespace IPSocket

variable {κ : Type} (system : SocketSystem κ) (k : κ) (s : IPSocket ℤ) {a b : IPAddress}

lemma bindOn_eq (a : IPAddress) : s.bindOn system k a = system.bind k s.handle a.name := by
  rw [← IPAddress.read_passed]
  rfl

lemma connectOn_eq (a : IPAddress) :
    s.connectOn system k a
      = ((system.connect k s.handle a.name).1,
        connectResult posixSockets (system.connect k s.handle a.name).2) := by
  rw [← IPAddress.read_passed]
  rfl

/-- A call that is passed one of them is the same for the system. -/
lemma afterCall_congr (h : a.SameName b) (handle : ℤ) (ok : Bool) (answer : Option ℤ) :
    system.afterCall k (.bind handle a ok) = system.afterCall k (.bind handle b ok)
      ∧ system.afterCall k (.connect handle a answer)
        = system.afterCall k (.connect handle b answer) := by
  simp only [SocketSystem.afterCall, IPAddress.read_passed, h.name, and_self]

/-- `Open` looks at the family of the address, and hands it on. -/
lemma openOn_congr (h : a.SameName b) (protocol : ℕ) (openAttempt : OpenAttempt) :
    s.openOn system k a protocol openAttempt = s.openOn system k b protocol openAttempt := by
  have hread : SocketName.read a.passed = SocketName.read b.passed := by
    rw [IPAddress.read_passed, IPAddress.read_passed, h.name]
  -- the answers are the same then, and the addresses are left in the calls alone
  rw [openOn, openOn, h.family, hread]
  simp only [openAddress, openFamily, h.family]
  by_cases hopen : s.isValid posixSockets = true
  · simp only [hopen, if_true, if_false, Bool.false_eq_true]
  simp only [hopen, if_false, Bool.false_eq_true]
  by_cases hcreated : isValid posixSockets
      (⟨(system.socket k b.getFamily protocol).2⟩ : IPSocket ℤ) = true
  case neg => simp only [hcreated, if_false, Bool.false_eq_true]
  simp only [hcreated, if_true]
  cases openAttempt
  case openOnly => rfl
  case openAndBind =>
    simp only [bind, List.foldl_append, List.foldl_cons, List.foldl_nil]
    rw [(afterCall_congr system _ h _ _ none).1]
  case openBindAndListen =>
    rcases hbound : (system.bind (system.socket k b.getFamily protocol).1
        (system.socket k b.getFamily protocol).2 (SocketName.read b.passed)).2 with _ | _ <;>
      simp only [bind, listen, List.foldl_append, List.foldl_cons, List.foldl_nil, if_true,
        if_false, Bool.false_eq_true] <;>
      rw [(afterCall_congr system _ h _ _ none).1]
  case openAndConnect =>
    simp only [connect, List.foldl_append, List.foldl_cons, List.foldl_nil]
    rw [(afterCall_congr system _ h _ true _).2]
    rfl

end IPSocket

/-- Two memories with the same bytes, whose addresses hold the same. -/
structure Memory.Agree (m m' : Memory) : Prop where
  bytes : m.bytes = m'.bytes
  addresses : ∀ x, (m.addresses x).SameName (m'.addresses x)

/-- The addresses after `Accept`. -/
lemma Memory.Agree.acceptFrom {κ : Type} {m m' : Memory} (h : m.Agree m')
    (system : SocketSystem κ) (k : κ) (s : IPSocket ℤ) (newAddress : Option ℕ)
    (zero zero' : Vector UInt8 8) (y : ℕ) :
    ((s.acceptFrom system k newAddress zero m.addresses).2.2 y).SameName
      ((s.acceptFrom system k newAddress zero' m'.addresses).2.2 y) := by
  simp only [IPSocket.acceptFrom]
  by_cases hvalid : (s.accept (system.accept k s.handle).2.1).1.isValid posixSockets = true
  · simp only [hvalid, if_true]
    rcases newAddress with _ | x
    · exact h.addresses y
    · exact IPAddress.rel_update h.addresses x (IPAddress.sameName_store zero zero' _ (.refl _)) y
  · simp only [hvalid, if_false, Bool.false_eq_true]
    exact h.addresses y

section Messages

variable {κ : Type} (system : SocketSystem κ) (handle : ℤ) (zero zero' : Vector UInt8 8)

/-- The same state of the system, and memories that agree. -/
structure Host.Agree (host host' : Host κ) : Prop where
  socket : host.socket = host'.socket
  memory : host.memory.Agree host'.memory

variable {host host' : Host κ} (h : host.Agree host')

include h

lemma sendto_agree (data length : ℕ) (destination destination' : Option (List UInt8))
    (hdestination : destination.map SocketName.read = destination'.map SocketName.read) :
    (sendto (system.kernel handle zero) host data length destination).1.Agree
        (sendto (system.kernel handle zero') host' data length destination').1
      ∧ (sendto (system.kernel handle zero) host data length destination).2
        = (sendto (system.kernel handle zero') host' data length destination').2 := by
  have htransmit : (system.kernel handle zero).transmit host.socket
        ⟨destination, Memory.gather host.memory.bytes [⟨data, length⟩]⟩
      = (system.kernel handle zero').transmit host'.socket
        ⟨destination', Memory.gather host'.memory.bytes [⟨data, length⟩]⟩ := by
    simp only [SocketSystem.kernel, h.socket, h.memory.bytes, hdestination]
  rw [sendto, sendto, htransmit]
  rcases (system.kernel handle zero').transmit host'.socket _ with ⟨socket, _ | _⟩ <;>
    exact ⟨⟨rfl, h.memory⟩, rfl⟩

lemma sendData_agree (data length : ℕ) :
    (sendData (system.kernel handle zero) host data length).1.Agree
        (sendData (system.kernel handle zero') host' data length).1
      ∧ (sendData (system.kernel handle zero) host data length).2
        = (sendData (system.kernel handle zero') host' data length).2 := by
  obtain ⟨hhost, hresult⟩ := sendto_agree system handle zero zero' h data length none none rfl
  exact ⟨hhost, congrArg MessageResult.ofCall hresult⟩

lemma sendTo_agree (data length address : ℕ) :
    (sendTo (system.kernel handle zero) host data length address).1.Agree
        (sendTo (system.kernel handle zero') host' data length address).1
      ∧ (sendTo (system.kernel handle zero) host data length address).2
        = (sendTo (system.kernel handle zero') host' data length address).2 := by
  have hread : SocketName.read (host.memory.addresses address).passed
      = SocketName.read (host'.memory.addresses address).passed := by
    rw [IPAddress.read_passed, IPAddress.read_passed, (h.memory.addresses address).name]
  obtain ⟨hhost, hresult⟩ :=
    sendto_agree system handle zero zero' h data length (some _) (some _) (congrArg some hread)
  exact ⟨hhost, congrArg MessageResult.ofCall hresult⟩

/-- A message built with addresses that agree is for the same destination. -/
lemma target_agree (arg : PartArgs) :
    (arg.target host.memory).map SocketName.read
      = (arg.target host'.memory).map SocketName.read := by
  rcases arg with ⟨buffers, _ | x⟩
  · rfl
  have hlength : (host.memory.addresses x).getLength = (host'.memory.addresses x).getLength :=
    AddressAnswer.nat.inj ((h.memory.addresses x).alike.ask_eq .getLength)
  have hread : SocketName.read (host.memory.addresses x).passed
      = SocketName.read (host'.memory.addresses x).passed := by
    rw [IPAddress.read_passed, IPAddress.read_passed, (h.memory.addresses x).name]
  show (if (host.memory.addresses x).getLength = 0 then none
      else some (host.memory.addresses x).passed).map SocketName.read
    = (if (host'.memory.addresses x).getLength = 0 then none
      else some (host'.memory.addresses x).passed).map SocketName.read
  rw [hlength]
  by_cases hzero : (host'.memory.addresses x).getLength = 0
  · rw [if_pos hzero, if_pos hzero]
  · rw [if_neg hzero, if_neg hzero]
    exact congrArg some hread

lemma send_agree (arg : PartArgs) :
    (send (system.kernel handle zero) host (.construct arg.buffers arg.address)).1.Agree
        (send (system.kernel handle zero') host' (.construct arg.buffers arg.address)).1
      ∧ (send (system.kernel handle zero) host (.construct arg.buffers arg.address)).2.2
        = (send (system.kernel handle zero') host' (.construct arg.buffers arg.address)).2.2 := by
  have htransmit : (system.kernel handle zero).transmit host.socket
        ⟨destination host.memory (arg.sendHeader host.memory),
          Memory.gather host.memory.bytes arg.buffers⟩
      = (system.kernel handle zero').transmit host'.socket
        ⟨destination host'.memory (arg.sendHeader host'.memory),
          Memory.gather host'.memory.bytes arg.buffers⟩ := by
    simp only [SocketSystem.kernel, h.socket, h.memory.bytes, destination_sendHeader,
      target_agree h arg]
  rw [send_construct, send_construct]
  rcases hanswer : (system.kernel handle zero').transmit host'.socket
    ⟨destination host'.memory (arg.sendHeader host'.memory),
      Memory.gather host'.memory.bytes arg.buffers⟩ with ⟨socket, e | n⟩
  · rw [sendmsg_failed (htransmit.trans hanswer), sendmsg_failed hanswer]
    exact ⟨⟨rfl, h.memory⟩, rfl⟩
  · rw [sendmsg_ok (htransmit.trans hanswer), sendmsg_ok hanswer]
    exact ⟨⟨rfl, h.memory⟩, rfl⟩

/-! ### Receiving -/

lemma receiveData_agree (flags data length : ℕ) :
    (receiveData (system.kernel handle zero) flags host data length).1.Agree
        (receiveData (system.kernel handle zero') flags host' data length).1
      ∧ (receiveData (system.kernel handle zero) flags host data length).2
        = (receiveData (system.kernel handle zero') flags host' data length).2 := by
  simp only [receiveData, recv, SocketSystem.kernel, h.socket, h.memory.bytes]
  rcases system.deliver host'.socket handle flags length with ⟨socket, _ | ⟨sender, payload⟩⟩
  · exact ⟨⟨rfl, h.memory⟩, rfl⟩
  · exact ⟨⟨rfl, rfl, h.memory.addresses⟩, rfl⟩

lemma receiveFrom_agree (flags data length x : ℕ) :
    (receiveFrom (system.kernel handle zero) flags host data length x).1.Agree
        (receiveFrom (system.kernel handle zero') flags host' data length x).1
      ∧ (receiveFrom (system.kernel handle zero) flags host data length x).2
        = (receiveFrom (system.kernel handle zero') flags host' data length x).2 := by
  simp only [receiveFrom, recvfrom, SocketSystem.kernel, h.socket, h.memory.bytes]
  rcases system.deliver host'.socket handle flags length with ⟨socket, _ | ⟨sender, payload⟩⟩
  · exact ⟨⟨rfl, h.memory⟩, rfl⟩
  · refine ⟨⟨rfl, rfl, IPAddress.rel_update h.memory.addresses x ?_⟩, rfl⟩
    exact IPAddress.sameName_store zero zero' sender (h.memory.addresses x)

omit h in
lemma kernel_deliver {k socket : κ} {flags space : ℕ}
    {answer : Except ℤ (Option SocketName × List UInt8)}
    (hanswer : system.deliver k handle flags space = (socket, answer)) :
    (system.kernel handle zero).deliver k flags space
      = (socket, answer.map (SocketSystem.arrived zero)) := by
  simp only [SocketSystem.kernel, hanswer]

omit h in
lemma msgFlags_arrived (header : Message) (message : Option SocketName × List UInt8) :
    (receivedHeader header (SocketSystem.arrived zero message)).msgFlags
      = if capacity header.msgIov < message.2.length then msgTrunc else 0 := rfl

lemma receive_agree (flags : ℕ) (arg : PartArgs) :
    (receive (system.kernel handle zero) flags host (.construct arg.buffers arg.address)).1.Agree
        (receive (system.kernel handle zero') flags host' (.construct arg.buffers arg.address)).1
      ∧ (receive (system.kernel handle zero) flags host (.construct arg.buffers arg.address)).2.2
        = (receive (system.kernel handle zero') flags host'
          (.construct arg.buffers arg.address)).2.2 := by
  rw [receive_construct, receive_construct]
  rcases hanswer : system.deliver host.socket handle flags (capacity arg.receiveHeader.msgIov)
    with ⟨socket, e | ⟨sender, payload⟩⟩
  · have hanswer' := hanswer
    rw [h.socket] at hanswer'
    rw [recvmsg_error (kernel_deliver system handle zero hanswer),
      recvmsg_error (kernel_deliver system handle zero' hanswer')]
    exact ⟨⟨rfl, h.memory⟩, rfl⟩
  · have hanswer' := hanswer
    rw [h.socket] at hanswer'
    have hiov : arg.receiveHeader.msgIov = arg.buffers := rfl
    rw [recvmsg_ok hiov (kernel_deliver system handle zero hanswer),
      recvmsg_ok hiov (kernel_deliver system handle zero' hanswer')]
    refine ⟨⟨rfl, ?_, fun y => ?_⟩, ?_⟩
    · show Memory.scatter _ _ host.memory.bytes = Memory.scatter _ _ host'.memory.bytes
      rw [h.memory.bytes]
      rfl
    · show (storeSender arg.receiveHeader _ host.memory.addresses y).SameName
        (storeSender arg.receiveHeader _ host'.memory.addresses y)
      rw [storeSender_receiveHeader, storeSender_receiveHeader]
      by_cases hy : arg.address = some y
      · rw [if_pos hy, if_pos hy]
        exact IPAddress.sameName_store zero zero' sender (h.memory.addresses y)
      · rw [if_neg hy, if_neg hy]
        exact h.memory.addresses y
    · have hflags :
          (receivedHeader arg.receiveHeader (SocketSystem.arrived zero (sender, payload))).msgFlags
            = (receivedHeader arg.receiveHeader
              (SocketSystem.arrived zero' (sender, payload))).msgFlags := by
        rw [msgFlags_arrived, msgFlags_arrived]
      exact congrArg (fun received : ℕ => (⟨((payload.take (capacity arg.buffers)).length : ℕ),
        if received &&& msgTrunc ≠ 0 then msgSize else 0⟩ : MessageResult)) hflags

end Messages

/-! ## Programs cannot tell -/

namespace SocketProcess

variable {κ : Type}

/-- The same sockets and the same state of the system, and memories that agree. -/
structure Agree (p q : SocketProcess κ) : Prop where
  system : p.system = q.system
  sockets : p.sockets = q.sockets
  memory : p.memory.Agree q.memory

variable {p q : SocketProcess κ}

lemma setAddress_self (p : SocketProcess κ) (x : ℕ) (a : IPAddress) :
    (p.setAddress x a).memory.addresses x = a := by
  show Function.update p.memory.addresses x a x = a
  rw [Function.update_self]

lemma Agree.setAddress (h : p.Agree q) (x : ℕ) {a b : IPAddress} (hab : a.SameName b) :
    (p.setAddress x a).Agree (q.setAddress x b) :=
  ⟨h.system, h.sockets, h.memory.bytes, IPAddress.rel_update h.memory.addresses x hab⟩

lemma Agree.afterCall (h : p.Agree q) {host host' : Host κ} (hhost : host.Agree host') :
    (p.afterCall host).Agree (q.afterCall host') :=
  ⟨hhost.socket, h.sockets, hhost.memory⟩

/-- Steps that are answered the same and leave processes that agree. -/
lemma answered_alike {system : SocketSystem κ} {i j : SocketInput × Vector UInt8 8}
    {p' q' : SocketProcess κ} {o o' : SocketAnswer} (hp : respond system p i = some (p', o))
    (hq : respond system q j = some (q', o')) (ho : o = o') (hagree : p'.Agree q') :
    ∃ p' q' o, respond system p i = some (p', o) ∧ respond system q j = some (q', o)
      ∧ p'.Agree q' :=
  ⟨p', q', o, hp, ho ▸ hq, hagree⟩

/-- One step of two processes that agree. -/
lemma respond_agree (system : SocketSystem κ) (h : p.Agree q) (input : SocketInput)
    (zero zero' : Vector UInt8 8) :
    ∃ p' q' o, respond system p (input, zero) = some (p', o)
      ∧ respond system q (input, zero') = some (q', o) ∧ p'.Agree q' := by
  obtain ⟨k, sockets, m⟩ := p
  obtain ⟨k', sockets', m'⟩ := q
  obtain ⟨hk : k = k', hsockets : sockets = sockets', hm : m.Agree m'⟩ := h
  subst hk hsockets
  -- nothing but the addresses and `sin_zero` differs from here on
  have hagree : Agree (⟨k, sockets, m⟩ : SocketProcess κ) ⟨k, sockets, m'⟩ := ⟨rfl, rfl, hm⟩
  have hhost : Host.Agree (⟨k, m, []⟩ : Host κ) ⟨k, m', []⟩ := ⟨rfl, hm⟩
  cases input
  case address input =>
    obtain ⟨s, s', answer, hs, hs', hsame⟩ := IPAddress.respond_related IPAddress.SameName.refl
      (fun _ _ h => h.alike) (fun _ _ port h => h.withPort port) hm.addresses input
    exact answered_alike (congrArg (Option.map _) hs) (congrArg (Option.map _) hs') rfl
      ⟨rfl, rfl, hm.bytes, hsame⟩
  case write place value =>
    exact answered_alike rfl rfl rfl
      ⟨rfl, rfl, congrArg (Function.update · place value) hm.bytes, hm.addresses⟩
  case read place =>
    exact answered_alike rfl rfl (congrArg (fun bytes => SocketAnswer.byte (bytes place)) hm.bytes)
      hagree
  case copy s t => exact answered_alike rfl rfl rfl ⟨rfl, rfl, hm⟩
  case isValid s => exact answered_alike rfl rfl rfl hagree
  case openFamily s family protocol => exact answered_alike rfl rfl rfl ⟨rfl, rfl, hm⟩
  case openAddress s x protocol openAttempt =>
    have hopened :=
      (sockets s).openOn_congr system k (hm.addresses x) protocol openAttempt
    refine answered_alike rfl rfl (congrArg (fun opened => SocketAnswer.bool opened.2.2) hopened)
      ⟨congrArg Prod.fst hopened, ?_, hm⟩
    exact congrArg (fun opened => Function.update sockets s opened.2.1) hopened
  case bind s x =>
    have hbound : (sockets s).bindOn system k (m.addresses x)
        = (sockets s).bindOn system k (m'.addresses x) := by
      rw [IPSocket.bindOn_eq, IPSocket.bindOn_eq, (hm.addresses x).name]
    exact answered_alike rfl rfl (congrArg (fun bound => SocketAnswer.bool bound.2) hbound)
      ⟨congrArg Prod.fst hbound, rfl, hm⟩
  case listen s maxPendingConnections => exact answered_alike rfl rfl rfl ⟨rfl, rfl, hm⟩
  case connect s x =>
    have hconnected : (sockets s).connectOn system k (m.addresses x)
        = (sockets s).connectOn system k (m'.addresses x) := by
      rw [IPSocket.connectOn_eq, IPSocket.connectOn_eq, (hm.addresses x).name]
    exact answered_alike rfl rfl
      (congrArg (fun connected => SocketAnswer.connected connected.2) hconnected)
      ⟨congrArg Prod.fst hconnected, rfl, hm⟩
  case accept t s newAddress =>
    refine answered_alike rfl rfl rfl ⟨rfl, rfl, hm.bytes, ?_⟩
    exact hm.acceptFrom system k (sockets s) newAddress zero zero'
  case getAddress x s =>
    exact answered_alike rfl rfl rfl
      (hagree.setAddress x (IPAddress.sameName_store zero zero' _ (.refl _)))
  case getPeerAddress x s =>
    exact answered_alike rfl rfl rfl
      (hagree.setAddress x (IPAddress.sameName_store zero zero' _ (.refl _)))
  case sendData s data length =>
    obtain ⟨hafter, hresult⟩ :=
      sendData_agree system (sockets s).handle zero zero' hhost data length
    exact answered_alike rfl rfl (congrArg SocketAnswer.message hresult) (hagree.afterCall hafter)
  case sendTo s data length x =>
    obtain ⟨hafter, hresult⟩ :=
      sendTo_agree system (sockets s).handle zero zero' hhost data length x
    exact answered_alike rfl rfl (congrArg SocketAnswer.message hresult) (hagree.afterCall hafter)
  case send s buffers x =>
    obtain ⟨hafter, hresult⟩ :=
      send_agree system (sockets s).handle zero zero' hhost ⟨buffers, x⟩
    exact answered_alike rfl rfl (congrArg SocketAnswer.message hresult) (hagree.afterCall hafter)
  case receiveData s flags data length =>
    obtain ⟨hafter, hresult⟩ :=
      receiveData_agree system (sockets s).handle zero zero' hhost flags data length
    exact answered_alike rfl rfl (congrArg SocketAnswer.message hresult) (hagree.afterCall hafter)
  case receiveFrom s flags data length x =>
    obtain ⟨hafter, hresult⟩ :=
      receiveFrom_agree system (sockets s).handle zero zero' hhost flags data length x
    exact answered_alike rfl rfl (congrArg SocketAnswer.message hresult) (hagree.afterCall hafter)
  case receive s flags buffers x =>
    obtain ⟨hafter, hresult⟩ :=
      receive_agree system (sockets s).handle zero zero' hhost flags ⟨buffers, x⟩
    exact answered_alike rfl rfl (congrArg SocketAnswer.message hresult) (hagree.afterCall hafter)
  case close s => exact answered_alike rfl rfl rfl ⟨rfl, rfl, hm⟩

end SocketProcess

/-- A system in which only the given name can be bound. -/
def bindingSystem (name : Option SocketName) : SocketSystem Unit where
  socket k _ _ := (k, 3)
  bind k _ bound := (k, bound = name)
  listen k _ _ := (k, true)
  connect k _ _ := (k, none)
  accept k _ := (k, 4, none)
  getsockname _ _ := name
  getpeername _ _ := none
  transmit k _ _ payload := (k, .ok payload.length)
  deliver k _ _ _ := (k, .ok (none, []))
  close k _ := k

/-- No program can tell two addresses apart that one of its variables may hold at its start, on no
system and whatever the system leaves in `sin_zero`. -/
def IPAddress.Interchangeable (a b : IPAddress) : Prop :=
  ∀ (κ : Type) (system : SocketSystem κ) (p : SocketProcess κ) (x : ℕ)
    (inputs inputs' : List (SocketInput × Vector UInt8 8)),
    List.Forall₂ (fun i j => i.1 = j.1) inputs inputs' →
      Machines.answers (SocketProcess.respond system) (p.setAddress x a) inputs
        = Machines.answers (SocketProcess.respond system) (p.setAddress x b) inputs'

/-- **What an address is for its socket**, for any two values: no program can tell them apart on
any system exactly if they have the same family, and the system reads the same in what it is
given of them. -/
theorem IPAddress.interchangeable_iff (a b : IPAddress) :
    a.Interchangeable b
      ↔ a.getFamily = b.getFamily ∧ SocketName.read a.passed = SocketName.read b.passed := by
  constructor
  · intro h
    let p : SocketProcess Unit := ⟨(), fun _ => ⟨3⟩, ⟨fun _ => 0, fun _ => a⟩⟩
    have hzero (c : IPAddress) : (p.setAddress 0 c).memory.addresses 0 = c :=
      p.setAddress_self 0 c
    have hone (input : SocketInput) : List.Forall₂ (fun i j : SocketInput × Vector UInt8 8 =>
        i.1 = j.1) [(input, Vector.replicate 8 0)] [(input, Vector.replicate 8 0)] :=
      .cons rfl .nil
    constructor
    · have hanswer : some [SocketAnswer.address (.nat
            ((p.setAddress 0 a).memory.addresses 0).getFamily)]
          = some [SocketAnswer.address (.nat ((p.setAddress 0 b).memory.addresses 0).getFamily)] :=
        h Unit (bindingSystem none) p 0 _ _ (hone (.address (.query 0 .getFamily)))
      rw [hzero, hzero] at hanswer
      exact AddressAnswer.nat.inj
        (SocketAnswer.address.inj (List.cons.inj (Option.some.inj hanswer)).1)
    · have hanswer : some [SocketAnswer.bool ((p.sockets 0).bindOn (bindingSystem a.name) ()
            ((p.setAddress 0 a).memory.addresses 0)).2]
          = some [SocketAnswer.bool ((p.sockets 0).bindOn (bindingSystem a.name) ()
            ((p.setAddress 0 b).memory.addresses 0)).2] :=
        h Unit (bindingSystem a.name) p 0 _ _ (hone (.bind 0 0))
      rw [hzero, hzero, IPSocket.bindOn_eq, IPSocket.bindOn_eq] at hanswer
      have hbound : decide (a.name = a.name) = decide (b.name = a.name) :=
        SocketAnswer.bool.inj (List.cons.inj (Option.some.inj hanswer)).1
      rw [decide_eq_true rfl] at hbound
      rw [read_passed, read_passed]
      exact (of_decide_eq_true hbound.symm).symm
  · rintro ⟨hfamily, hread⟩ κ system p x inputs inputs' hinputs
    rw [read_passed, read_passed] at hread
    refine Machines.answers_eq (R := SocketProcess.Agree) (C := fun _ _ => True)
      (fun p q i j hpq hij _ => ?_) ?_ hinputs (Machines.meets_of_forall (fun _ _ _ => trivial) _)
    · obtain ⟨input, zero⟩ := i
      obtain ⟨input', zero'⟩ := j
      obtain rfl : input = input' := hij
      exact SocketProcess.respond_agree system hpq input zero zero'
    · exact ⟨rfl, rfl, rfl, rel_update (fun _ => SameName.refl _) x ⟨hfamily, hread⟩⟩

end SMBB
