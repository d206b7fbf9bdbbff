import SMBB.Construction.AddressConstructors
import SMBB.Construction.Hash
import SMBB.Construction.Interfaces
import SMBB.Construction.ToURI
import SMBB.Framework.Machines

/-!
# What `operator==` says

`operator==` compares less than all that an `IPAddress` holds: the scope and the flow of an IPv6
address, the bytes behind an IPv4 one, and all of an address of another family are passed over.
`indistinguishable_iff` says that the rest of the class passes them over as well: no program made
of its constructors, assignments, comparisons and queries can tell equal addresses apart, and it
can tell unequal ones apart unless both have the same family, one that is not supported.

A program here keeps addresses in variables and asks for anything but the native address, which is
for the system.
-/

namespace SMBB

/-! ## Programs -/

/-- What a program can ask of an address. -/
inductive AddressQuery
  | getFamily
  | getLength
  | getPort
  | hash (w : ℕ) (charSigned includePort : Bool)
  | isAny
  | isLoopback
  | isMulticast
  | isValid
  | toURI (includePort : Bool)
  | getInterfaceIndex (interfaces : Interfaces)

/-- What it is told. -/
inductive AddressAnswer
  | done
  | nat (value : ℕ)
  | int (value : ℤ)
  | bool (value : Bool)
  | text (value : Option (List Char))
deriving DecidableEq

/-- The steps of a program with variables `ι`. -/
inductive AddressInput (ι : Type)
  /-- `x = IPAddress(family)`. -/
  | construct (x : ι) (family : ℕ)
  /-- `x = IPAddress::Loopback(family)`. -/
  | loopback (x : ι) (family : ℕ)
  /-- `x = y`. -/
  | assign (x y : ι)
  /-- `x = IPAddress(y, port)`. -/
  | withPort (x y : ι) (port : ℕ)
  /-- `x == y`. -/
  | equals (x y : ι)
  | query (x : ι) (query : AddressQuery)

namespace IPAddress

/-- The answer to a query. -/
def ask (a : IPAddress) : AddressQuery → AddressAnswer
  | .getFamily => .nat a.getFamily
  | .getLength => .nat a.getLength
  | .getPort => .int a.getPort
  | .hash w charSigned includePort => .nat (a.hash w charSigned includePort).toNat
  | .isAny => .bool a.isAny
  | .isLoopback => .bool a.isLoopback
  | .isMulticast => .bool a.isMulticast
  | .isValid => .bool a.isValid
  | .toURI includePort => .text (a.toURI includePort)
  | .getInterfaceIndex interfaces => .int (a.getInterfaceIndex interfaces)

/-- A step. -/
def respond {ι : Type} [DecidableEq ι] (store : ι → IPAddress) :
    AddressInput ι → Option ((ι → IPAddress) × AddressAnswer)
  | .construct x family => some (Function.update store x (.ofFamily family), .done)
  | .loopback x family => some (Function.update store x (.loopback family), .done)
  | .assign x y => some (Function.update store x (store y), .done)
  | .withPort x y port => some (Function.update store x ((store y).withPort port), .done)
  | .equals x y => some (store, .bool ((store x).operatorEq (store y)))
  | .query x query => some (store, (store x).ask query)

/-! ## What the class looks at -/

lemma sinPort_withPort {a : IPAddress} (ha : a.IsInet) (port : ℕ) :
    (a.withPort port).sinPort = htons port := by
  rcases ha with h4 | h6
  · rw [withPort, if_pos h4, sinPort_setPort]
  · rw [withPort, h6, if_neg ipv6_ne_ipv4, if_pos rfl, sinPort_setPort]

/-- Two addresses agree in what the class looks at. -/
structure Alike (a b : IPAddress) : Prop where
  family : a.getFamily = b.getFamily
  sinAddr : a.getFamily = ipv4 → a.sinAddr = b.sinAddr
  sin6Addr : a.getFamily = ipv6 → a.sin6Addr = b.sin6Addr
  sinPort : a.IsInet → a.sinPort = b.sinPort

namespace Alike

variable {a b c d : IPAddress}

lemma refl (a : IPAddress) : a.Alike a := ⟨rfl, fun _ => rfl, fun _ => rfl, fun _ => rfl⟩

/-- The three kinds of addresses that agree. -/
lemma cases (h : a.Alike b) :
    (a.getFamily = ipv4 ∧ b.getFamily = ipv4 ∧ a.sinAddr = b.sinAddr ∧ a.sinPort = b.sinPort)
      ∨ (a.getFamily = ipv6 ∧ b.getFamily = ipv6 ∧ a.sin6Addr = b.sin6Addr
        ∧ a.sinPort = b.sinPort)
      ∨ (a.getFamily = b.getFamily ∧ b.getFamily ≠ ipv4 ∧ b.getFamily ≠ ipv6) := by
  by_cases h4 : a.getFamily = ipv4
  · exact Or.inl ⟨h4, h.family.symm.trans h4, h.sinAddr h4, h.sinPort (Or.inl h4)⟩
  by_cases h6 : a.getFamily = ipv6
  · exact Or.inr (Or.inl ⟨h6, h.family.symm.trans h6, h.sin6Addr h6, h.sinPort (Or.inr h6)⟩)
  · exact Or.inr (Or.inr ⟨h.family, h.family ▸ h4, h.family ▸ h6⟩)

/-- A function that branches on the family and reads the fields of its branch. -/
lemma branch {β : Type} (h : a.Alike b) (f4 : Vector UInt8 4 → Vector UInt8 2 → β)
    (f6 : Vector UInt8 16 → Vector UInt8 2 → β) (g : β) :
    (if a.getFamily = ipv4 then f4 a.sinAddr a.sinPort
      else if a.getFamily = ipv6 then f6 a.sin6Addr a.sinPort else g)
      = if b.getFamily = ipv4 then f4 b.sinAddr b.sinPort
        else if b.getFamily = ipv6 then f6 b.sin6Addr b.sinPort else g := by
  rcases h.cases with ⟨ha, hb, haddr, hport⟩ | ⟨ha, hb, haddr, hport⟩ | ⟨hab, h4, h6⟩
  · rw [if_pos ha, if_pos hb, haddr, hport]
  · rw [ha, hb, if_neg ipv6_ne_ipv4, if_pos rfl, if_pos rfl, haddr, hport]
    exact (if_neg ipv6_ne_ipv4).symm
  · rw [hab, if_neg h4, if_neg h6, if_neg h4, if_neg h6]

/-! ### Queries -/

lemma isAny_eq (h : a.Alike b) : a.isAny = b.isAny :=
  h.branch (fun addr _ => decide (addr = Vector.replicate 4 0))
    (fun addr _ => decide (addr = Vector.replicate 16 0)) false

/-- An entry of the list of interfaces carries both or neither. -/
lemma carriedBy_eq (h : a.Alike b) (it : Ifaddr) : a.carriedBy it = b.carriedBy it := by
  rw [carriedBy, carriedBy]
  rcases it.addr with _ | addr
  · rfl
  rcases h.cases with ⟨ha, hb, haddr, -⟩ | ⟨ha, hb, haddr, -⟩ | ⟨hab, h4, h6⟩
  · simp only [ha, hb, haddr, ipv6_ne_ipv4.symm, decide_false, Bool.false_and]
  · simp only [ha, hb, haddr, ipv6_ne_ipv4, decide_false, Bool.false_and]
  · simp only [hab, h4, h6, decide_false, Bool.false_and]

lemma getInterfaceIndex_eq (h : a.Alike b) (interfaces : Interfaces) :
    a.getInterfaceIndex interfaces = b.getInterfaceIndex interfaces := by
  have hloop : ∀ (l : List Ifaddr) (result : ℤ),
      interfaceIndexLoop interfaces a l result = interfaceIndexLoop interfaces b l result := by
    intro l
    induction l with
    | nil => exact fun _ => rfl
    | cons it rest ih =>
      intro result
      rw [interfaceIndexLoop, interfaceIndexLoop, h.carriedBy_eq, ih]
  rw [getInterfaceIndex, getInterfaceIndex, h.family, h.isAny_eq]
  simp only [hloop]

lemma hash_eq (h : a.Alike b) (w : ℕ) (charSigned includePort : Bool) :
    a.hash w charSigned includePort = b.hash w charSigned includePort := by
  rw [hash, hash]
  rcases h.cases with ⟨ha, hb, haddr, hport⟩ | ⟨ha, hb, haddr, hport⟩ | ⟨hab, h4, h6⟩
  · simp only [ha, hb, haddr, storedPort, hport, if_true]
  · simp only [ha, hb, haddr, storedPort, hport, ipv6_ne_ipv4, if_false, if_true]
  · simp only [hab, h4, h6, if_false]

lemma toURI_eq (h : a.Alike b) (includePort : Bool) : a.toURI includePort = b.toURI includePort :=
  h.branch
    (fun addr p => some ((if includePort then putPort (ntohs p) (ipv4Host addr ++ [':'])
      else ipv4Host addr) ++ [CString.nul]))
    (fun addr p => some ((if includePort then putPort (ntohs p) (ipv6Host addr ++ [':'])
      else ipv6Host addr) ++ [CString.nul]))
    none

/-- They answer every query alike. -/
lemma ask_eq (h : a.Alike b) (query : AddressQuery) : a.ask query = b.ask query := by
  cases query
  case getFamily => exact congrArg AddressAnswer.nat h.family
  case getLength =>
    exact congrArg AddressAnswer.nat
      (h.branch (fun _ _ => sizeofSockaddrIn) (fun _ _ => sizeofSockaddrIn6) 0)
  case getPort =>
    exact congrArg AddressAnswer.int
      (h.branch (fun _ p => toShort (ntohs p)) (fun _ p => toShort (ntohs p)) 0)
  case hash w charSigned includePort =>
    exact congrArg (fun hash => AddressAnswer.nat hash.toNat) (h.hash_eq w charSigned includePort)
  case isAny => exact congrArg AddressAnswer.bool h.isAny_eq
  case isLoopback =>
    exact congrArg AddressAnswer.bool
      (h.branch (fun addr _ => decide (addr = loopbackIP))
        (fun addr _ => decide (addr = loopbackIPv6)) false)
  case isMulticast =>
    exact congrArg AddressAnswer.bool
      (h.branch (fun addr _ => decide ((addr.toList.headD 0).toNat &&& 0xF0 = 0xE0))
        (fun addr _ => decide ((addr.toList.headD 0).toNat &&& 0xFF = 0xFF)) false)
  case isValid =>
    exact congrArg (fun family => AddressAnswer.bool (family ≠ familyUnspecified)) h.family
  case toURI includePort => exact congrArg AddressAnswer.text (h.toURI_eq includePort)
  case getInterfaceIndex interfaces =>
    exact congrArg AddressAnswer.int (h.getInterfaceIndex_eq interfaces)

/-! ### Constructors and comparison -/

lemma withPort (h : a.Alike b) (port : ℕ) : (a.withPort port).Alike (b.withPort port) where
  family := by rw [getFamily_withPort, getFamily_withPort, h.family]
  sinAddr := by
    rw [getFamily_withPort, sinAddr_withPort, sinAddr_withPort]
    exact h.sinAddr
  sin6Addr := by
    rw [getFamily_withPort, sin6Addr_withPort, sin6Addr_withPort]
    exact h.sin6Addr
  sinPort := by
    rw [IsInet, getFamily_withPort]
    intro ha
    have hb : b.IsInet := by
      rw [IsInet, ← h.family]
      exact ha
    rw [sinPort_withPort ha, sinPort_withPort hb]

/-- They compare alike. -/
lemma operatorEq_eq (h : a.Alike b) (h' : c.Alike d) : a.operatorEq c = b.operatorEq d := by
  rw [operatorEq, operatorEq, ← h.family, ← h'.family]
  by_cases hfamily : a.getFamily = c.getFamily
  · rw [if_pos hfamily, if_pos hfamily]
    by_cases h4 : a.getFamily = ipv4
    · have h4' : c.getFamily = ipv4 := hfamily.symm.trans h4
      rw [if_pos h4, if_pos h4, h.sinAddr h4, h'.sinAddr h4', h.sinPort (Or.inl h4),
        h'.sinPort (Or.inl h4')]
    rw [if_neg h4, if_neg h4]
    by_cases h6 : a.getFamily = ipv6
    · have h6' : c.getFamily = ipv6 := hfamily.symm.trans h6
      rw [if_pos h6, if_pos h6, h.sin6Addr h6, h'.sin6Addr h6', h.sinPort (Or.inr h6),
        h'.sinPort (Or.inr h6')]
    · rw [if_neg h6, if_neg h6]
  · rw [if_neg hfamily, if_neg hfamily]

/-- An address of a supported family is equal to those that agree with it. -/
lemma operatorEq_true (h : a.Alike b) (ha : a.IsInet) : a.operatorEq b = true := by
  rw [operatorEq, if_pos h.family, h.sinPort ha]
  rcases ha with h4 | h6
  · rw [if_pos h4, h.sinAddr h4, decide_eq_true rfl, decide_eq_true rfl]
    rfl
  · rw [h6, if_neg ipv6_ne_ipv4, if_pos rfl, h.sin6Addr h6, decide_eq_true rfl,
      decide_eq_true rfl]
    rfl

end Alike

/-- Equal addresses agree. -/
lemma alike_of_operatorEq {a b : IPAddress} (h : a.operatorEq b = true) : a.Alike b := by
  rw [operatorEq] at h
  by_cases hfamily : a.getFamily = b.getFamily
  case neg =>
    rw [if_neg hfamily] at h
    exact absurd h Bool.false_ne_true
  rw [if_pos hfamily] at h
  by_cases h4 : a.getFamily = ipv4
  · rw [if_pos h4, Bool.and_eq_true, decide_eq_true_iff, decide_eq_true_iff] at h
    exact ⟨hfamily, fun _ => h.1, fun h6 => absurd (h6.symm.trans h4) ipv6_ne_ipv4, fun _ => h.2⟩
  rw [if_neg h4] at h
  by_cases h6 : a.getFamily = ipv6
  · rw [if_pos h6, Bool.and_eq_true, decide_eq_true_iff, decide_eq_true_iff] at h
    exact ⟨hfamily, fun h4' => absurd h4' h4, fun _ => h.1, fun _ => h.2⟩
  · rw [if_neg h6] at h
    exact absurd h Bool.false_ne_true

/-! ## Programs cannot tell -/

/-- A program cannot tell two addresses apart that one of its variables may hold at its start. -/
def Indistinguishable (a b : IPAddress) : Prop :=
  ∀ (store : ℕ → IPAddress) (x : ℕ) (inputs : List (AddressInput ℕ)),
    Machines.answers respond (Function.update store x a) inputs
      = Machines.answers respond (Function.update store x b) inputs

/-- Related addresses are stored in stores that are related in every variable. -/
lemma rel_update {ι : Type} [DecidableEq ι] {R : IPAddress → IPAddress → Prop}
    {store store' : ι → IPAddress} (h : ∀ y, R (store y) (store' y)) (x : ι) {a b : IPAddress}
    (hab : R a b) (y : ι) : R (Function.update store x a y) (Function.update store' x b y) := by
  by_cases hy : y = x
  · rw [hy, Function.update_self, Function.update_self]
    exact hab
  · rw [Function.update_of_ne hy, Function.update_of_ne hy]
    exact h y

/-- A step keeps every relation between addresses that agree which assignments and changes of the
port keep, and is answered the same. -/
lemma respond_related {ι : Type} [DecidableEq ι] {R : IPAddress → IPAddress → Prop}
    (hrefl : ∀ a, R a a) (halike : ∀ a b, R a b → a.Alike b)
    (hport : ∀ a b port, R a b → R (a.withPort port) (b.withPort port))
    {store store' : ι → IPAddress} (h : ∀ y, R (store y) (store' y)) (input : AddressInput ι) :
    ∃ s s' answer, respond store input = some (s, answer)
      ∧ respond store' input = some (s', answer) ∧ ∀ y, R (s y) (s' y) := by
  cases input
  case construct x family => exact ⟨_, _, _, rfl, rfl, rel_update h x (hrefl _)⟩
  case loopback x family => exact ⟨_, _, _, rfl, rfl, rel_update h x (hrefl _)⟩
  case assign x y => exact ⟨_, _, _, rfl, rfl, rel_update h x (h y)⟩
  case withPort x y port => exact ⟨_, _, _, rfl, rfl, rel_update h x (hport _ _ port (h y))⟩
  case equals x y =>
    refine ⟨_, _, _, rfl, ?_, h⟩
    rw [respond, ← (halike _ _ (h x)).operatorEq_eq (halike _ _ (h y))]
  case query x query =>
    refine ⟨_, _, _, rfl, ?_, h⟩
    rw [respond, ← (halike _ _ (h x)).ask_eq query]

/-- **What `operator==` says**, for any two values: no program can tell them apart exactly if they
are equal, or if they have the same family and it is not a supported one. -/
theorem indistinguishable_iff (a b : IPAddress) :
    Indistinguishable a b
      ↔ a.operatorEq b = true ∨ (a.getFamily = b.getFamily ∧ ¬a.IsInet) := by
  constructor
  · intro h
    have hfamily : a.getFamily = b.getFamily := by
      have hanswer : some [AddressAnswer.nat (Function.update (fun _ : ℕ => a) 0 a 0).getFamily]
          = some [AddressAnswer.nat (Function.update (fun _ : ℕ => a) 0 b 0).getFamily] :=
        h (fun _ => a) 0 [.query 0 .getFamily]
      rw [Function.update_self, Function.update_self] at hanswer
      exact AddressAnswer.nat.inj (List.cons.inj (Option.some.inj hanswer)).1
    by_cases ha : a.IsInet
    · refine Or.inl ?_
      have hanswer : some [AddressAnswer.bool
            ((Function.update (fun _ : ℕ => b) 0 a 0).operatorEq b)]
          = some [AddressAnswer.bool ((Function.update (fun _ : ℕ => b) 0 b 0).operatorEq b)] :=
        h (fun _ => b) 0 [.equals 0 1]
      have hself : b.operatorEq b = true := by
        refine (Alike.refl b).operatorEq_true ?_
        rw [IsInet, ← hfamily]
        exact ha
      rw [Function.update_self, Function.update_self, hself] at hanswer
      exact AddressAnswer.bool.inj (List.cons.inj (Option.some.inj hanswer)).1
    · exact Or.inr ⟨hfamily, ha⟩
  · intro h store x inputs
    have halike : a.Alike b := by
      rcases h with heq | ⟨hfamily, hinet⟩
      · exact alike_of_operatorEq heq
      · exact ⟨hfamily, fun h4 => absurd (Or.inl h4) hinet, fun h6 => absurd (Or.inr h6) hinet,
          fun ha => absurd ha hinet⟩
    refine Machines.answers_eq (R := fun s t : ℕ → IPAddress => ∀ y, (s y).Alike (t y))
      (Q := Eq) (C := fun _ _ => True) (fun s t i j hst hij _ => ?_)
      (rel_update (fun y => Alike.refl (store y)) x halike)
      (List.forall₂_same.mpr fun _ _ => rfl) (Machines.meets_of_forall (fun _ _ _ => trivial) _)
    subst hij
    exact respond_related Alike.refl (fun _ _ h => h) (fun _ _ port h => h.withPort port) hst i

end IPAddress

end SMBB
