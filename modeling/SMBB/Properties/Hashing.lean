import SMBB.Construction.Hash

/-!
# What `Hash` computes

The hash of an address is meant to be FNV-1a over the address bytes and the port.  The branch for
IPv6 widens the bytes as `char`, so where `char` has a sign the bytes of 128 or more matter.
Without them the number is right, and an odd number of them always shows
(`hash_eq_fnv1a_of_highBytes`).  An even number may cancel out, as it does for `2001:da80::1`.

Whatever the signs, `hash_apart` says that addresses are told apart: the ports of one host have
different hashes, and so have two hosts that differ in one byte.
-/

namespace SMBB
namespace IPAddress

open Fnv (absorb absorbUnsigned absorbSigned)

lemma odd_multiplier : Odd multiplier := by decide

/-! ## Bytes -/

section Bytes

variable {w : ℕ}

lemma foldl_hashByte_false (hash : BitVec w) (bytes : List UInt8) :
    bytes.foldl (hashByte false) hash
      = (bytes.map UInt8.toBitVec).foldl (absorbUnsigned multiplier) hash := by
  rw [List.foldl_map]
  rfl

lemma foldl_hashByte_true (hash : BitVec w) (bytes : List UInt8) :
    bytes.foldl (hashByte true) hash
      = (bytes.map UInt8.toBitVec).foldl (absorbSigned multiplier) hash := by
  rw [List.foldl_map]
  rfl

/-- No byte is lost when it is widened. -/
lemma widen_injective (hw : 8 ≤ w) (signed : Bool) : Function.Injective (widen w signed) := by
  obtain ⟨n, rfl⟩ := Nat.exists_eq_add_of_le' hw
  intro b b' h
  cases signed with
  | false =>
    rw [widen, widen, if_neg Bool.false_ne_true, if_neg Bool.false_ne_true, Fnv.setWidth_byte,
      Fnv.setWidth_byte, Fnv.append_byte_inj] at h
    exact UInt8.toBitVec_inj.mp h.2
  | true =>
    rw [widen, widen, if_pos rfl, if_pos rfl, Fnv.signExtend_byte, Fnv.signExtend_byte,
      Fnv.append_byte_inj] at h
    exact UInt8.toBitVec_inj.mp h.2

lemma foldl_hashByte_inj (signed : Bool) (bytes : List UInt8) {hash hash' : BitVec w} :
    bytes.foldl (hashByte signed) hash = bytes.foldl (hashByte signed) hash' ↔ hash = hash' :=
  Fnv.foldl_absorb_inj odd_multiplier (widen w signed) bytes

lemma hashByte_inj (hw : 8 ≤ w) (signed : Bool) {hash : BitVec w} {b b' : UInt8} :
    hashByte signed hash b = hashByte signed hash b' ↔ b = b' :=
  (Fnv.absorb_right_inj odd_multiplier).trans (widen_injective hw signed).eq_iff

end Bytes

/-! ## The hash as the address bytes and the port -/

/-- The bytes of the port that are taken in. -/
def portBytes (a : IPAddress) (includePort : Bool) : List UInt8 :=
  if includePort then [lowByte a.storedPort, highByte a.storedPort] else []

/-- Whether the bytes of the address are widened with their signs. -/
def signed (charSigned : Bool) (a : IPAddress) : Bool := charSigned && a.getFamily ≠ ipv4

lemma hash_eq (w : ℕ) (charSigned : Bool) {a : IPAddress} (ha : a.IsInet) (includePort : Bool) :
    hash w charSigned a includePort
      = (a.portBytes includePort).foldl (hashByte false)
          (a.addressBytes.foldl (hashByte (signed charSigned a)) (BitVec.ofNat w hashOffset)) := by
  rcases ha with h4 | h6
  · rw [hash, if_pos h4, addressBytes_ipv4 h4, signed]
    cases includePort <;> simp [h4, portBytes, hashPort]
  · rw [hash, h6, if_neg ipv6_ne_ipv4, if_pos rfl, addressBytes_ipv6 h6, signed]
    cases includePort <;> simp [h6, ipv6_ne_ipv4, portBytes, hashPort]

/-- FNV-1a over the address bytes and, with the port, its low and its high byte. -/
def fnv1a (w : ℕ) (a : IPAddress) (includePort : Bool) : ℕ :=
  Fnv.fold w 16777619 0x811c9dc5
    ((a.addressBytes ++ if includePort then
      [UInt8.ofNat a.storedPort.toNat, UInt8.ofNat (a.storedPort.toNat / 256)]
      else []).map UInt8.toNat)

/-- Without signs the hash is FNV-1a. -/
lemma toNat_hash_false {w : ℕ} (hw : 8 ≤ w) {a : IPAddress} (ha : a.IsInet)
    (includePort : Bool) : (hash w false a includePort).toNat = a.fnv1a w includePort := by
  have hport : a.portBytes includePort = if includePort then
      [UInt8.ofNat a.storedPort.toNat, UInt8.ofNat (a.storedPort.toNat / 256)] else [] := by
    rw [portBytes, lowByte, highByte, BitVec.toNat_ushiftRight, Nat.shiftRight_eq_div_pow]
  rw [hash_eq w false ha, signed, Bool.false_and, ← List.foldl_append, foldl_hashByte_false,
    Fnv.toNat_foldl_absorbUnsigned hw, fnv1a, hport, List.map_map]
  rfl

/-- The number of address bytes of 128 or more. -/
def highBytes (a : IPAddress) : ℕ := a.addressBytes.countP fun b => 128 ≤ b.toNat

lemma highBytes_eq (a : IPAddress) :
    a.highBytes = (a.addressBytes.map UInt8.toBitVec).countP BitVec.msb := by
  rw [highBytes, List.countP_map]
  refine List.countP_congr fun b _ => ?_
  rw [Function.comp_apply, BitVec.msb_eq_decide]
  rfl

lemma foldl_hashByte_true_of_highBytes {w : ℕ} {a : IPAddress} (h : a.highBytes = 0)
    (hash : BitVec w) :
    a.addressBytes.foldl (hashByte true) hash = a.addressBytes.foldl (hashByte false) hash := by
  rw [highBytes_eq, List.countP_eq_zero] at h
  rw [foldl_hashByte_true, foldl_hashByte_false]
  exact Fnv.foldl_absorbSigned_of_forall (fun b hb => Bool.not_eq_true _ ▸ h b hb) hash

/-- Without bytes of 128 or more the sign of `char` does not matter, and for IPv4 it never does. -/
lemma hash_true_eq {w : ℕ} {a : IPAddress} (ha : a.IsInet)
    (h : a.getFamily = ipv4 ∨ a.highBytes = 0) (includePort : Bool) :
    hash w true a includePort = hash w false a includePort := by
  rw [hash_eq w true ha, hash_eq w false ha, foldl_hashByte_inj]
  rcases h with h4 | hlow
  · rw [signed, signed, decide_eq_false (not_not.mpr h4), Bool.and_false, Bool.and_false]
  · rcases hsigned : signed true a with _ | _
    · rfl
    · exact foldl_hashByte_true_of_highBytes hlow _

lemma hash_true_ne {w : ℕ} (hw : 8 < w) {a : IPAddress} (h6 : a.getFamily = ipv6)
    (hodd : Odd a.highBytes) (includePort : Bool) :
    hash w true a includePort ≠ hash w false a includePort := by
  obtain ⟨n, rfl⟩ : ∃ n, w = n + 8 := Nat.exists_eq_add_of_le' hw.le
  have hsigned : ∀ charSigned, signed charSigned a = charSigned := by
    intro charSigned
    rw [signed, h6, decide_eq_true ipv6_ne_ipv4, Bool.and_true]
  rw [hash_eq _ true (Or.inr h6), hash_eq _ false (Or.inr h6), hsigned, hsigned, ne_eq,
    foldl_hashByte_inj, foldl_hashByte_true, foldl_hashByte_false]
  exact Fnv.foldl_absorbSigned_ne (by omega) odd_multiplier (highBytes_eq a ▸ hodd) _

/-- **`Hash` is FNV-1a, and the same whether or not `char` has a sign,** where `char` has none, for
the addresses of IPv4, and for those of IPv6 that have no byte of 128 or more.  It is neither where
`char` has a sign and the address is one of IPv6 with an odd number of such bytes. -/
theorem hash_eq_fnv1a_of_highBytes {w : ℕ} (hw : 8 < w) {a : IPAddress} (ha : a.IsInet)
    (includePort : Bool) :
    (∀ charSigned, charSigned = false ∨ a.getFamily = ipv4 ∨ a.highBytes = 0 →
        (hash w charSigned a includePort).toNat = a.fnv1a w includePort)
      ∧ (a.getFamily = ipv4 ∨ a.highBytes = 0 →
        hash w true a includePort = hash w false a includePort)
      ∧ (a.getFamily = ipv6 ∧ Odd a.highBytes →
        (hash w true a includePort).toNat ≠ a.fnv1a w includePort
          ∧ hash w true a includePort ≠ hash w false a includePort) := by
  rw [← toNat_hash_false hw.le ha]
  refine ⟨?_, fun h => hash_true_eq ha h includePort, ?_⟩
  · rintro charSigned (rfl | h)
    · rfl
    · cases charSigned with
      | false => rfl
      | true => rw [hash_true_eq ha h]
  · rintro ⟨h6, hodd⟩
    have hne := hash_true_ne hw h6 hodd includePort
    exact ⟨fun heq => hne (BitVec.eq_of_toNat_eq heq), hne⟩

/-- The address `2001:da80::1`. -/
def twoHighBytes : IPAddress :=
  ofSockaddrIn6 ⟨.replicate 2 0, .replicate 4 0,
    .ofFn fun i => [0x20, 0x01, 0xda, 0x80].getD i.val (if i.val = 15 then 1 else 0),
    .replicate 4 0⟩

/-- Its two bytes of 128 or more cancel out. -/
example : twoHighBytes.highBytes = 2
    ∧ hash 64 true twoHighBytes true = hash 64 false twoHighBytes true
    ∧ hash 32 true twoHighBytes true = hash 32 false twoHighBytes true := by decide

/-- The address `::ff`. -/
def lastByteAddress : IPAddress :=
  ofSockaddrIn6 ⟨.replicate 2 0, .replicate 4 0, (Vector.replicate 15 0).push 0xff, .replicate 4 0⟩

/-- The last byte of `::ff` is widened to a number that is no byte. -/
theorem not_hash_eq_fnv1a :
    (hash 64 true lastByteAddress false).toNat ≠ lastByteAddress.fnv1a 64 false
      ∧ hash 64 true lastByteAddress false ≠ hash 64 false lastByteAddress false := by
  decide

/-- The address `::1`. -/
def ipv6Loopback : IPAddress :=
  ofSockaddrIn6 ⟨.replicate 2 0, .replicate 4 0, loopbackIPv6, .replicate 4 0⟩

/-- The hash of `::1` is FNV-1a. -/
theorem hash_eq_fnv1a_loopback :
    (hash 64 true ipv6Loopback true).toNat = ipv6Loopback.fnv1a 64 true :=
  (hash_eq_fnv1a_of_highBytes (by decide) (a := ipv6Loopback) (by decide) true).1 true
    (Or.inr (Or.inr (by decide)))

/-! ## Addresses are told apart -/

/-- The lists differ in exactly one place. -/
def DifferInOne (l l' : List UInt8) : Prop :=
  ∃ before b b' after, l = before ++ b :: after ∧ l' = before ++ b' :: after ∧ b ≠ b'

/-- The ports of a host have different hashes. -/
lemma foldl_portBytes_inj {w : ℕ} (hw : 32 ≤ w) (a b : IPAddress) (hash : BitVec w) :
    (a.portBytes true).foldl (hashByte false) hash = (b.portBytes true).foldl (hashByte false) hash
      ↔ a.port = b.port := by
  obtain ⟨n, rfl⟩ : ∃ n, w = n + 8 := Nat.exists_eq_add_of_le' (by omega)
  have hroom : 255 * multiplier < 2 ^ (n + 8) :=
    lt_of_lt_of_le (by decide) (Nat.pow_le_pow_right (by decide) hw)
  have hport : a.port = b.port
      ↔ a.sinPort.get 0 = b.sinPort.get 0 ∧ a.sinPort.get 1 = b.sinPort.get 1 := by
    constructor
    · intro h
      rw [ntohs_injective h]
      exact ⟨rfl, rfl⟩
    · rintro ⟨h0, h1⟩
      rw [port_eq, port_eq, h0, h1]
  rw [portBytes, portBytes, lowByte_storedPort, lowByte_storedPort, highByte_storedPort,
    highByte_storedPort, hport, ← UInt8.toBitVec_inj, ← UInt8.toBitVec_inj]
  exact Fnv.absorbUnsigned_absorbUnsigned_inj odd_multiplier (by decide) hroom

/-- **Two addresses of one family with the same host have the same hash, and with their ports only
if they are the same;** two hosts that differ in one byte have different hashes. -/
theorem hash_apart {w : ℕ} (hw : 32 ≤ w) (charSigned : Bool) {a b : IPAddress} (ha : a.IsInet)
    (hfamily : a.getFamily = b.getFamily) :
    (a.addressBytes = b.addressBytes →
        hash w charSigned a false = hash w charSigned b false
          ∧ (hash w charSigned a true = hash w charSigned b true ↔ a.operatorEq b = true))
      ∧ (a.port = b.port → DifferInOne a.addressBytes b.addressBytes →
        ∀ includePort, hash w charSigned a includePort ≠ hash w charSigned b includePort) := by
  have hb : b.IsInet := by
    rw [IsInet, ← hfamily]
    exact ha
  have hsigned : signed charSigned a = signed charSigned b := by rw [signed, signed, hfamily]
  constructor
  · intro hbytes
    constructor
    · rw [hash_eq w charSigned ha, hash_eq w charSigned hb, hbytes, hsigned]
      rfl
    · rw [hash_eq w charSigned ha, hash_eq w charSigned hb, hbytes, hsigned,
        foldl_portBytes_inj hw, operatorEq_iff ha, and_iff_right ⟨hfamily, hbytes⟩]
  · rintro hport ⟨before, c, c', after, hleft, hright, hne⟩ includePort heq
    have hbytes : a.portBytes includePort = b.portBytes includePort := by
      rw [portBytes, portBytes, lowByte_storedPort, lowByte_storedPort, highByte_storedPort,
        highByte_storedPort, ntohs_injective hport]
    rw [hash_eq w charSigned ha, hash_eq w charSigned hb, hbytes, foldl_hashByte_inj, hleft, hright,
      hsigned, List.foldl_append, List.foldl_append, List.foldl_cons, List.foldl_cons,
      foldl_hashByte_inj, hashByte_inj (by omega)] at heq
    exact hne heq

/-- The addresses `::ff` and `::1` have different hashes. -/
theorem hash_apart_lastByte :
    hash 64 true lastByteAddress true ≠ hash 64 true ipv6Loopback true
      ∧ hash 64 true lastByteAddress false ≠ hash 64 true ipv6Loopback false := by
  have hport : lastByteAddress.port = ipv6Loopback.port := by decide
  have hbytes : DifferInOne lastByteAddress.addressBytes ipv6Loopback.addressBytes :=
    ⟨List.replicate 15 0, 0xff, 1, [], by decide, by decide, by decide⟩
  have hapart := hash_apart (w := 64) (by decide) true (a := lastByteAddress) (b := ipv6Loopback)
    (by decide) (by decide)
  exact ⟨hapart.2 hport hbytes true, hapart.2 hport hbytes false⟩

end IPAddress
end SMBB
