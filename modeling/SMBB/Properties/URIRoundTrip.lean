import SMBB.Properties.URIShape

/-!
# Reading back what `ToURI` writes

`uriText_eq` puts the text together: a host that depends on the address bytes only, and the
port suffix.  Two results follow.

**Decoding.**  `ipv6_authority_decodes_iff` says when the standard decoder recovers an IPv6
address and its port from the text: always, except where the first run of two or more zero
groups has groups in front of it and reaches the last group.  There the text names too few
groups and no gap, and the decoder refuses it (`one_then_zeros_refused`).

**Injectivity.**  Refused or not, the text still determines the address: a text with fewer than
eight groups and no gap can only come from such a tail.  `refill` puts the tail back, and
`uriText_eq_iff` concludes that two endpoints are printed alike only if they are the same.
-/

namespace SMBB
namespace IPAddress

open GroupText AddressText

/-! ## The text as host and port suffix -/

/-- The host part of the text. -/
def hostText (a : IPAddress) : List Char :=
  if a.getFamily = ipv4 then octetCodec.writeGroups a.sinAddr.toList
  else '[' :: ((dropTail (compress (0, 0) (groups a.sin6Addr))).write hextetCodec ++ [']'])

/-- The port `ToURI` is asked to print. -/
def printedPort (a : IPAddress) (includePort : Bool) : Option ℕ :=
  if includePort then some a.port else none

lemma printedPort_lt (a : IPAddress) (includePort : Bool) :
    ∀ n ∈ a.printedPort includePort, n < 65536 := by
  intro n hn
  cases includePort with
  | false => cases hn
  | true =>
      obtain rfl : a.port = n := Option.some.inj hn
      exact a.port_lt

/-- The terminator does not occur in a host. -/
lemma nul_not_mem_hostText (a : IPAddress) : CString.nul ∉ a.hostText := by
  unfold hostText
  split
  · exact not_mem_octets (by decide) (by decide) _
  · have hshape := not_mem_hextets (c := CString.nul) (by decide) (by decide)
      (dropTail (compress (0, 0) (groups a.sin6Addr)))
    simp only [List.mem_cons, List.mem_append, List.not_mem_nil, or_false, not_or]
    exact ⟨by decide, hshape, by decide⟩

/-- What is written for a supported address: its host, its port suffix and the terminator. -/
lemma toURI_eq {a : IPAddress} (ha : a.IsInet) (includePort : Bool) :
    a.toURI includePort
      = some (a.hostText ++ writePortSuffix (a.printedPort includePort) ++ [CString.nul]) := by
  have hport : ∀ host : List Char,
      (if includePort then putPort a.port (host ++ [':']) else host)
        = host ++ writePortSuffix (a.printedPort includePort) := by
    intro host
    cases includePort with
    | false => simp [printedPort, writePortSuffix]
    | true => simp [printedPort, writePortSuffix, putPort_eq a.port_lt]
  unfold toURI hostText
  rcases ha with h | h
  · simp only [h, if_true, ipv4Host_eq, hport]
  · simp only [h, ipv6_ne_ipv4, if_true, if_false, ipv6Host_eq, hport]

/-- The terminator does not occur in the text. -/
lemma nul_not_mem_text (a : IPAddress) (includePort : Bool) :
    CString.nul ∉ a.hostText ++ writePortSuffix (a.printedPort includePort) := by
  rw [List.mem_append, not_or]
  exact ⟨a.nul_not_mem_hostText, not_mem_writePortSuffix (by decide) (by decide) _⟩

/-- **The text of a supported address is its host and its port suffix.** -/
theorem uriText_eq {a : IPAddress} (ha : a.IsInet) (includePort : Bool) :
    a.uriText includePort
      = some (a.hostText ++ writePortSuffix (a.printedPort includePort)) := by
  rw [uriText, toURI_eq ha, Option.map_some,
    CString.text_append_nul (a.nul_not_mem_text includePort)]

/-! ## Decoding -/

/-- **The text of an IPv4 endpoint is four decimal octets and, if asked for, the decimal port,**
and the strict decoder recovers them. -/
theorem ipv4_authority_decodes {a : IPAddress} (h : a.getFamily = ipv4) (includePort : Bool) :
    a.uriText includePort
        = some (['.'].intercalate (a.sinAddr.toList.map fun o => Nat.toDigits 10 o.toNat)
          ++ if includePort then ':' :: Nat.toDigits 10 a.port else [])
      ∧ (a.uriText includePort).bind readIPv4Authority
        = some (a.sinAddr.toList, if includePort then some a.port else none) := by
  have htext : a.uriText includePort
      = some (octetCodec.writeGroups a.sinAddr.toList
        ++ writePortSuffix (a.printedPort includePort)) := by
    rw [uriText_eq (Or.inl h), hostText, if_pos h]
  constructor
  · rw [htext]
    cases includePort <;> rfl
  · rw [htext, Option.bind_some, readIPv4Authority_write (Vector.length_toList)
      (a.printedPort_lt includePort)]
    rfl

/-- The endpoint `127.0.0.1:80`. -/
theorem ipv4_authority_decodes_loopback :
    ∃ a : IPAddress, a.sinAddr = loopbackIP ∧ a.port = 80
      ∧ a.uriText true = some ['1', '2', '7', '.', '0', '.', '0', '.', '1', ':', '8', '0']
      ∧ (a.uriText true).bind readIPv4Authority = some (a.sinAddr.toList, some 80) := by
  refine ⟨ofSockaddrIn ⟨#v[0, 80], loopbackIP, .replicate 8 0⟩ (.replicate 12 0), by decide,
    by decide, ?_⟩
  exact ipv4_authority_decodes (by decide) true

/-- The first run of two or more zero groups has groups in front of it and reaches the end. -/
def EndsInFirstZeroRun (a : IPAddress) : Prop :=
  ∃ l n, l ≠ [] ∧ 2 ≤ n ∧ NoRun (0, 0) l ∧
    groups a.sin6Addr = l ++ List.replicate n (0, 0)

lemma length_groups (addr : Vector UInt8 16) : (groups addr).length = 8 := List.length_ofFn

/-- The bytes of the groups are the bytes of the address. -/
lemma flatMap_groups (addr : Vector UInt8 16) :
    ((groups addr).flatMap fun g => [g.1, g.2]) = addr.toList := by
  have hpairs : addr.toList
      = (List.ofFn fun i : Fin 8 => List.ofFn fun j : Fin 2 =>
          addr.get ⟨2 * i + j, by omega⟩).flatten := by
    rw [toList_eq_ofFn]
    exact List.ofFn_mul' (m := 2) (n := 8) addr.get
  rw [hpairs, groups, List.flatMap_def, List.map_ofFn]
  rfl

/-- The address ends in its first run exactly when the compressed shape loses its tail. -/
lemma endsInFirstZeroRun_iff (a : IPAddress) :
    a.EndsInFirstZeroRun
      ↔ ∃ g l, compress (0, 0) (groups a.sin6Addr) = .gap (g :: l) [] := by
  constructor
  · rintro ⟨l, n, hl, hn, hrun, hgroups⟩
    obtain ⟨g, l, rfl⟩ := List.exists_cons_of_ne_nil hl
    have hcompress := compress_eq_gap (r := []) hrun hn (by simp)
    rw [List.append_nil, ← hgroups] at hcompress
    exact ⟨g, l, hcompress⟩
  · rintro ⟨g, l, h⟩
    obtain ⟨n, hn, hrun, -, hgroups⟩ := run_of_compress_eq_gap h
    exact ⟨g :: l, n, by simp, hn, hrun, by simpa using hgroups⟩

lemma dropTail_of_not_tail {s : Shape (UInt8 × UInt8)} (h : ¬∃ g l, s = .gap (g :: l) []) :
    dropTail s = s := by
  match s with
  | .full gs => rfl
  | .gap [] r => rfl
  | .gap (g :: l) [] => exact absurd ⟨g, l, rfl⟩ h
  | .gap (g :: l) (g' :: r) => rfl

/-- The shape that is printed expands to the groups exactly when no tail was dropped. -/
lemma expand_dropTail_iff (a : IPAddress) :
    (dropTail (compress (0, 0) (groups a.sin6Addr))).expand (0, 0) 8
        = some (groups a.sin6Addr)
      ↔ ¬a.EndsInFirstZeroRun := by
  have hexpand := expand_compress (0, 0) (groups a.sin6Addr)
  rw [length_groups] at hexpand
  rw [endsInFirstZeroRun_iff]
  constructor
  · rintro h ⟨g, l, htail⟩
    obtain ⟨n, hn, -, -, hgroups⟩ := run_of_compress_eq_gap htail
    have hlen := congrArg List.length hgroups
    rw [length_groups] at hlen
    simp only [List.length_append, List.length_replicate, List.length_nil] at hlen
    rw [htail, dropTail, Shape.expand, if_neg (by omega)] at h
    cases h
  · intro h
    rw [dropTail_of_not_tail h, hexpand]

/-- Where the tail was dropped the printed shape does not expand at all. -/
lemma readIPv6Authority_hostText {a : IPAddress} (h : a.getFamily = ipv6) (includePort : Bool) :
    (a.uriText includePort).bind readIPv6Authority
      = ((dropTail (compress (0, 0) (groups a.sin6Addr))).expand (0, 0) 8).map fun gs =>
          (gs.flatMap fun g => [g.1, g.2], a.printedPort includePort) := by
  have hclose : ']' ∉ (dropTail (compress (0, 0) (groups a.sin6Addr))).write hextetCodec :=
    not_mem_hextets (by decide) (by decide) _
  rw [uriText_eq (Or.inr h), Option.bind_some, hostText, h, if_neg ipv6_ne_ipv4, List.cons_append,
    List.append_assoc, List.singleton_append, readIPv6Authority_bracket hclose, readIPv6_write,
    readPortSuffix_write (a.printedPort_lt includePort)]
  cases (dropTail (compress (0, 0) (groups a.sin6Addr))).expand (0, 0) 8 <;> rfl

/-- **The standard decoder recovers an IPv6 endpoint from its text**, unless the first run of
zero groups stands at the end of the address behind other groups. -/
theorem ipv6_authority_decodes_iff {a : IPAddress} (h : a.getFamily = ipv6)
    (includePort : Bool) :
    (a.uriText includePort).bind readIPv6Authority
        = some (a.sin6Addr.toList, if includePort then some a.port else none)
      ↔ ¬a.EndsInFirstZeroRun := by
  rw [readIPv6Authority_hostText h, ← expand_dropTail_iff, ← flatMap_groups]
  show _ = some (_, a.printedPort includePort) ↔ _
  constructor
  · intro hsome
    obtain ⟨gs, hgs, hpair⟩ := Option.map_eq_some_iff.mp hsome
    rw [hgs, flatMap_pair_injective (Prod.mk.inj hpair).1]
  · intro hsome
    rw [hsome, Option.map_some]

/-- The loopback endpoint `[::1]:80`. -/
def loopback80 : IPAddress :=
  ofSockaddrIn6 ⟨#v[0, 80], #v[0, 0, 0, 0], #v[0, 0, 0, 0, 0, 0, 0, 0, 0, 0, 0, 0, 0, 0, 0, 1],
    #v[0, 0, 0, 0]⟩

theorem ipv6_authority_decodes_loopback :
    (loopback80.uriText true).bind readIPv6Authority
        = some (loopback80.sin6Addr.toList, some loopback80.port)
      ↔ ¬loopback80.EndsInFirstZeroRun :=
  ipv6_authority_decodes_iff (by decide) true

/-- The endpoint `[1::]:80`, whose only nonzero group is the first. -/
def oneThenZeros : IPAddress :=
  ofSockaddrIn6 ⟨#v[0, 80], #v[0, 0, 0, 0], #v[0, 1, 0, 0, 0, 0, 0, 0, 0, 0, 0, 0, 0, 0, 0, 0],
    #v[0, 0, 0, 0]⟩

/-- `1::` is printed as `[1]`, which is no IPv6 address. -/
theorem one_then_zeros_refused :
    oneThenZeros.getFamily = ipv6 ∧ oneThenZeros.uriText false = some ['[', '1', ']']
      ∧ (oneThenZeros.uriText false).bind readIPv6Authority
        ≠ some (oneThenZeros.sin6Addr.toList, none) := by
  refine ⟨by decide, by decide, by decide⟩

/-! ## Injectivity -/

/-- The `n` groups a printed shape stands for: where groups are missing, zeros fill the gap, or
the end if there is no gap. -/
def refill (n : ℕ) : Shape (UInt8 × UInt8) → List (UInt8 × UInt8)
  | .full gs => gs ++ List.replicate (n - gs.length) (0, 0)
  | .gap l r => l ++ List.replicate (n - (l.length + r.length)) (0, 0) ++ r

lemma refill_of_expand {n : ℕ} {s : Shape (UInt8 × UInt8)} {gs : List (UInt8 × UInt8)}
    (h : s.expand (0, 0) n = some gs) : refill n (dropTail s) = gs := by
  match s with
  | .full gs' =>
      obtain ⟨hlen, hgs⟩ := Option.ite_none_right_eq_some.mp h
      rw [← Option.some.inj hgs]
      simp [dropTail, refill, hlen]
  | .gap [] r =>
      obtain ⟨-, hgs⟩ := Option.ite_none_right_eq_some.mp h
      exact Option.some.inj hgs
  | .gap (g :: l) [] =>
      obtain ⟨-, hgs⟩ := Option.ite_none_right_eq_some.mp h
      rw [← Option.some.inj hgs]
      simp [dropTail, refill]
  | .gap (g :: l) (g' :: r) =>
      obtain ⟨-, hgs⟩ := Option.ite_none_right_eq_some.mp h
      exact Option.some.inj hgs

/-- The printed shape of an address determines its groups, with or without its tail. -/
lemma refill_dropTail_compress (addr : Vector UInt8 16) :
    refill 8 (dropTail (compress (0, 0) (groups addr))) = groups addr := by
  have hexpand := expand_compress (0, 0) (groups addr)
  rw [length_groups] at hexpand
  exact refill_of_expand hexpand

lemma sin6Addr_eq_of_shape {a b : Vector UInt8 16}
    (h : (dropTail (compress (0, 0) (groups a))).write hextetCodec
      = (dropTail (compress (0, 0) (groups b))).write hextetCodec) : a = b := by
  have hgroups : groups a = groups b := by
    rw [← refill_dropTail_compress a, ← refill_dropTail_compress b,
      Shape.write_injective hextetCodec h]
  apply Vector.toList_inj.mp
  rw [← flatMap_groups a, ← flatMap_groups b, hgroups]

lemma sinAddr_eq_of_groups {a b : Vector UInt8 4}
    (h : octetCodec.writeGroups a.toList = octetCodec.writeGroups b.toList) : a = b := by
  have hread := octetCodec.readGroups_writeGroups a.toList
  rw [h, octetCodec.readGroups_writeGroups] at hread
  exact Vector.toList_inj.mp (Option.some.inj hread).symm

lemma hostText_ipv4 {a : IPAddress} (h : a.getFamily = ipv4) :
    a.hostText = octetCodec.writeGroups a.sinAddr.toList := if_pos h

lemma hostText_ipv6 {a : IPAddress} (h : a.getFamily = ipv6) :
    a.hostText
      = '[' :: ((dropTail (compress (0, 0) (groups a.sin6Addr))).write hextetCodec ++ [']']) := by
  rw [hostText, h, if_neg ipv6_ne_ipv4]

/-- No text of an IPv4 endpoint opens with a bracket. -/
lemma ipv4_text_ne_bracket {a : IPAddress} (h : a.getFamily = ipv4) (p : Option ℕ)
    (cs : List Char) : a.hostText ++ writePortSuffix p ≠ '[' :: cs := by
  intro htext
  have hmem : '[' ∈ a.hostText ++ writePortSuffix p := by
    rw [htext]
    exact List.mem_cons_self
  rw [hostText_ipv4 h] at hmem
  rcases List.mem_append.mp hmem with hmem | hmem
  · exact not_mem_octets (by decide) (by decide) _ hmem
  · exact not_mem_writePortSuffix (by decide) (by decide) _ hmem

/-- **The text determines the endpoint.**  The cases are the two families of each side; mixed
families differ in their first character. -/
theorem text_injective {a b : IPAddress} (ha : a.IsInet) (hb : b.IsInet) {p q : Option ℕ}
    (hp : ∀ n ∈ p, n < 65536) (hq : ∀ n ∈ q, n < 65536)
    (h : a.hostText ++ writePortSuffix p = b.hostText ++ writePortSuffix q) :
    (a.getFamily = b.getFamily ∧ a.addressBytes = b.addressBytes) ∧ p = q := by
  rcases ha with ha | ha <;> rcases hb with hb | hb
  · have hcolon : ∀ gs, ':' ∉ octetCodec.writeGroups gs :=
      not_mem_octets (by decide) (by decide)
    rw [hostText_ipv4 ha, hostText_ipv4 hb] at h
    have hhost := congrArg (List.takeWhile (· ≠ ':')) h
    rw [takeWhile_append_writePortSuffix (hcolon _),
      takeWhile_append_writePortSuffix (hcolon _)] at hhost
    rw [hhost] at h
    refine ⟨⟨ha.trans hb.symm, ?_⟩,
      writePortSuffix_injective hp hq (List.append_cancel_left h)⟩
    rw [addressBytes_ipv4 ha, addressBytes_ipv4 hb, sinAddr_eq_of_groups hhost]
  · rw [hostText_ipv6 hb, List.cons_append] at h
    exact absurd h (ipv4_text_ne_bracket ha p _)
  · rw [hostText_ipv6 ha, List.cons_append] at h
    exact absurd h.symm (ipv4_text_ne_bracket hb q _)
  · have hclose : ∀ s : Shape (UInt8 × UInt8), ']' ∉ s.write hextetCodec :=
      not_mem_hextets (by decide) (by decide)
    rw [hostText_ipv6 ha, hostText_ipv6 hb, List.cons_append, List.cons_append,
      List.append_assoc, List.append_assoc, List.singleton_append, List.singleton_append] at h
    have htail := (List.cons.inj h).2
    have hhost := congrArg (List.takeWhile (· ≠ ']')) htail
    rw [(takeWhile_append_cons (hclose _) _).1, (takeWhile_append_cons (hclose _) _).1] at hhost
    rw [hhost] at htail
    refine ⟨⟨ha.trans hb.symm, ?_⟩,
      writePortSuffix_injective hp hq (List.cons.inj (List.append_cancel_left htail)).2⟩
    rw [addressBytes_ipv6 ha, addressBytes_ipv6 hb, sin6Addr_eq_of_shape hhost]

/-- Conversely the text is a function of family, address bytes and port. -/
lemma hostText_congr {a b : IPAddress} (ha : a.IsInet)
    (h : a.getFamily = b.getFamily ∧ a.addressBytes = b.addressBytes) :
    a.hostText = b.hostText := by
  obtain ⟨hfamily, hbytes⟩ := h
  rcases ha with ha | ha
  · have hb : b.getFamily = ipv4 := hfamily ▸ ha
    rw [addressBytes_ipv4 ha, addressBytes_ipv4 hb] at hbytes
    rw [hostText_ipv4 ha, hostText_ipv4 hb, hbytes]
  · have hb : b.getFamily = ipv6 := hfamily ▸ ha
    rw [addressBytes_ipv6 ha, addressBytes_ipv6 hb] at hbytes
    rw [hostText_ipv6 ha, hostText_ipv6 hb, Vector.toList_inj.mp hbytes]

/-- **Two endpoints are printed alike exactly when they are equal**, and without their ports
exactly when family and address bytes agree. -/
theorem uriText_eq_iff {a b : IPAddress} (ha : a.IsInet) (hb : b.IsInet) :
    (a.uriText true = b.uriText true ↔ a.operatorEq b = true)
      ∧ (a.uriText false = b.uriText false
        ↔ a.getFamily = b.getFamily ∧ a.addressBytes = b.addressBytes) := by
  have htext : ∀ includePort, a.uriText includePort = b.uriText includePort
      ↔ (a.getFamily = b.getFamily ∧ a.addressBytes = b.addressBytes)
        ∧ a.printedPort includePort = b.printedPort includePort := by
    intro includePort
    rw [uriText_eq ha, uriText_eq hb, Option.some.injEq]
    constructor
    · exact text_injective ha hb (a.printedPort_lt includePort) (b.printedPort_lt includePort)
    · rintro ⟨hhost, hport⟩
      rw [hostText_congr ha hhost, hport]
  refine ⟨?_, ?_⟩
  · rw [htext, operatorEq_iff ha]
    simp [printedPort]
  · rw [htext]
    simp [printedPort]

theorem uriText_eq_iff_loopback :
    (loopback80.uriText true = oneThenZeros.uriText true
        ↔ loopback80.operatorEq oneThenZeros = true)
      ∧ (loopback80.uriText false = oneThenZeros.uriText false
        ↔ loopback80.getFamily = oneThenZeros.getFamily
          ∧ loopback80.addressBytes = oneThenZeros.addressBytes) :=
  uriText_eq_iff (by decide) (by decide)

end IPAddress
end SMBB
