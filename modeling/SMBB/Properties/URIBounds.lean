import SMBB.Construction.URIMemory
import SMBB.Framework.Runs
import SMBB.Properties.URIRoundTrip
import SMBB.Framework.PartialMaps

/-!
# What `ToURI` reads and writes

**Length.**  Each write of the list model is counted where it is made.  In the IPv6 loop the
invariant `Room` says how far the pointer can be when a round begins: five characters for each
group so far, one less for the first, which has no separator in front of it; and while a run of
zeros is being skipped, four less than that, which is room enough for the doubled separator.

**Memory.**  The model in memory follows the list model: `Pointer.Wrote` relates the two buffers,
`Follows` the two states of the loop, and the latter also says that every index read so far is one
of the sixteen.  So the writes of a call are the bytes of `toURI`, one after the other.
-/

namespace SMBB
namespace IPAddress

open AddressText Writes

/-! ## Length -/

lemma length_getDigit (div : ℕ) (s : DigitState) :
    (getDigit div s).buffer.length ≤ s.buffer.length + 1 := by
  unfold getDigit
  dsimp only
  split
  · rw [List.length_append, List.length_singleton]
  · exact Nat.le_succ _

lemma length_putOctet (num : ℕ) (buffer : List Char) :
    (putOctet num buffer).length ≤ buffer.length + 3 := by
  have h100 := length_getDigit 100 ⟨num, buffer, 0⟩
  have h10 := length_getDigit 10 (getDigit 100 ⟨num, buffer, 0⟩)
  rw [putOctet, List.length_append, List.length_singleton]
  dsimp only at h100
  omega

lemma length_putPort (port : ℕ) (buffer : List Char) :
    (putPort port buffer).length ≤ buffer.length + 5 := by
  have h10000 := length_getDigit 10000 ⟨port, buffer, 0⟩
  have h1000 := length_getDigit 1000 (getDigit 10000 ⟨port, buffer, 0⟩)
  have h100 := length_getDigit 100 (getDigit 1000 (getDigit 10000 ⟨port, buffer, 0⟩))
  have h10 := length_getDigit 10 (getDigit 100 (getDigit 1000 (getDigit 10000 ⟨port, buffer, 0⟩)))
  rw [putPort, List.length_append, List.length_singleton]
  dsimp only at h10000
  omega

lemma length_octetStep (value : ℕ) (buffer : List Char) (i : ℕ) :
    (octetStep value buffer i).length ≤ buffer.length + (if i = 0 then 3 else 4) := by
  have hoctet := length_putOctet ((value >>> (8 * (3 - i))) % 256)
    (if i ≠ 0 then buffer ++ ['.'] else buffer)
  rw [octetStep]
  by_cases hi : i = 0
  · rw [if_neg (not_not.mpr hi)] at hoctet
    rwa [if_pos hi, if_neg (not_not.mpr hi)]
  · rw [if_pos hi, List.length_append, List.length_singleton] at hoctet
    rwa [if_neg hi, if_pos hi]

lemma length_ipv4Host (addr : Vector UInt8 4) : (ipv4Host addr).length ≤ 15 := by
  have h0 := length_octetStep (ntohl addr) [] 0
  have h1 := fun buffer => length_octetStep (ntohl addr) buffer 1
  have h2 := fun buffer => length_octetStep (ntohl addr) buffer 2
  have h3 := fun buffer => length_octetStep (ntohl addr) buffer 3
  calc (ipv4Host addr).length
      ≤ ([0, 1, 2].foldl (octetStep (ntohl addr)) []).length + 4 := h3 _
    _ ≤ ([0, 1].foldl (octetStep (ntohl addr)) []).length + 4 + 4 :=
      Nat.add_le_add_right (h2 _) 4
    _ ≤ ([0].foldl (octetStep (ntohl addr)) []).length + 4 + 4 + 4 :=
      Nat.add_le_add_right (h1 _) 8
    _ ≤ 15 := Nat.add_le_add_right h0 12

lemma length_hextet (a b : UInt8) : (hextet a b).length ≤ 4 := by
  have hone : ∀ (c : Prop) [Decidable c] (x : Char), (if c then [x] else []).length ≤ 1 := by
    intro c _ x
    split
    · exact Nat.le_refl 1
    · exact Nat.zero_le 1
  have h1 := hone (highNibble a ≠ 0) (hex (highNibble a))
  have h2 := hone (a ≠ 0) (hex (lowNibble a))
  have h3 := hone (a ≠ 0 ∨ highNibble b ≠ 0) (hex (highNibble b))
  simp only [hextet, List.length_append, List.length_singleton]
  omega

/-- How far the buffer may be filled before the round of the group at `i`. -/
def Room (i : ℕ) (s : GroupState) : Prop :=
  s.buffer.length + (if s.inZeros then 4 else 0) ≤ 5 * i + if i = 0 then 1 else 0

lemma Room.groupStep {addr : Vector UInt8 16} {s : GroupState} {i : Fin 8} (h : Room i s) :
    Room (i + 1) (groupStep addr s i) := by
  have hhextet := length_hextet (group addr i i.isLt).1 (group addr i i.isLt).2
  have hgap : (if s.inZeros then [':'] else []).length = if s.inZeros then 1 else 0 := by
    split <;> rfl
  have hsep : (if i ≠ 0 then [':'] else []).length = if i.val = 0 then 0 else 1 := by
    have hi : i = 0 ↔ i.val = 0 := Fin.ext_iff
    by_cases hzero : i.val = 0
    · rw [if_neg (not_not.mpr (hi.mpr hzero)), if_pos hzero]
      rfl
    · rw [if_pos (mt hi.mp hzero), if_neg hzero]
      rfl
  unfold Room at *
  unfold IPAddress.groupStep
  dsimp only
  rw [if_neg (Nat.succ_ne_zero i)]
  split
  · -- the group is skipped
    rw [if_pos rfl]
    dsimp only
    split at h <;> split at h <;> omega
  · -- the group is written, and the end of a run before it
    dsimp only
    rw [List.length_append, List.length_append, List.length_append, hgap, hsep,
      if_neg Bool.false_ne_true]
    generalize (hextet _ _).length = n at hhextet ⊢
    by_cases hzeros : s.inZeros = true <;> by_cases hzero : i.val = 0 <;>
      simp only [hzeros, hzero, if_true, if_false, Bool.false_eq_true] at h ⊢ <;> omega

/-- At most eight groups of four characters, seven separators and two brackets. -/
lemma length_ipv6Host (addr : Vector UInt8 16) : (ipv6Host addr).length ≤ 41 := by
  have hroom : Room 8 ((List.finRange 8).foldl (groupStep addr) ⟨['['], false, false⟩) :=
    Runs.foldl_finRange (P := Room) (fun _ _ h => h.groupStep) (Nat.le_refl 1)
  rw [Room, if_neg (by decide : 8 ≠ 0)] at hroom
  unfold ipv6Host
  dsimp only
  rw [List.length_append, List.length_singleton]
  split
  · rename_i hone
    rw [List.length_append, hone]
    decide
  · omega

/-! ## Memory -/

section Memory

variable {start : ℕ} {p : Pointer Char} {xs : List Char}

/-- The variables of the digit macro in the two models. -/
structure DigitPointer.Follows (start : ℕ) (s : DigitState) (t : DigitPointer) : Prop where
  value : t.value = s.value
  shown : t.shown = s.shown
  buffer : t.buffer.Wrote start s.buffer

lemma DigitPointer.Follows.getDigit {s : DigitState} {t : DigitPointer} (h : t.Follows start s)
    (div : ℕ) : (getDigitAt div t).Follows start (getDigit div s) where
  value := congrArg (· % div) h.value
  shown := by
    simp only [getDigitAt, IPAddress.getDigit, h.value, h.shown]
  buffer := by
    simp only [getDigitAt, IPAddress.getDigit, h.value, h.shown]
    split
    · exact h.buffer.put _
    · exact h.buffer

lemma DigitPointer.Follows.finish {s : DigitState} {t : DigitPointer} (h : t.Follows start s) :
    (t.buffer.put (digit t.value)).Wrote start (s.buffer ++ [digit s.value]) := by
  rw [h.value]
  exact h.buffer.put _

lemma wrote_putOctetAt (h : p.Wrote start xs) (num : ℕ) :
    (putOctetAt num p).Wrote start (putOctet num xs) := by
  have hstart : DigitPointer.Follows start ⟨num, xs, 0⟩ ⟨num, p, 0⟩ := ⟨rfl, rfl, h⟩
  exact ((hstart.getDigit 100).getDigit 10).finish

lemma wrote_putPortAt (h : p.Wrote start xs) (port : ℕ) :
    (putPortAt port p).Wrote start (putPort port xs) := by
  have hstart : DigitPointer.Follows start ⟨port, xs, 0⟩ ⟨port, p, 0⟩ := ⟨rfl, rfl, h⟩
  exact ((((hstart.getDigit 10000).getDigit 1000).getDigit 100).getDigit 10).finish

lemma wrote_octetStepAt (h : p.Wrote start xs) (value i : ℕ) :
    (octetStepAt value p i).Wrote start (octetStep value xs i) := by
  refine wrote_putOctetAt ?_ _
  split
  · exact h.put '.'
  · exact h

lemma wrote_ipv4HostAt (addr : Vector UInt8 4) :
    (ipv4HostAt addr (Pointer.fresh start)).Wrote start (ipv4Host addr) :=
  List.foldl_rel (r := fun (p : Pointer Char) xs => p.Wrote start xs) (Pointer.wrote_fresh start)
    fun i _ _ _ h => wrote_octetStepAt h _ i

lemma wrote_hextetAt (h : p.Wrote start xs) (a b : UInt8) :
    (hextetAt a b p).Wrote start (xs ++ hextet a b) := by
  have hzero : ∀ n : Fin 16, n = 0 ↔ n.val = 0 := fun n => Fin.ext_iff
  simp only [hextet, ne_eq, hzero, ← List.append_assoc]
  exact (((h.putIf _ _).putIf _ _).putIf _ _).put _

variable {addr : Vector UInt8 16} {byte : ℕ → UInt8}

/-- Memory that holds an address. -/
def HoldsAddress (addr : Vector UInt8 16) (byte : ℕ → UInt8) : Prop :=
  ∀ (j : ℕ) (hj : j < 16), byte j = addr.get ⟨j, hj⟩

lemma holdsAddress_byteAt (a : IPAddress) (behind : ℕ → UInt8) :
    HoldsAddress a.sin6Addr (a.byteAt behind) := by
  intro j hj
  have hget : a.sin6Addr.get ⟨j, hj⟩ = a.bytes.get ⟨8 + j, by omega⟩ :=
    Vector.getElem_ofFn (f := fun i : Fin 16 => a.bytes.get ⟨8 + i, by omega⟩) hj
  rw [byteAt, dif_pos (by omega), hget]

/-- The loop over the groups in the two models; what has been read is part of the address. -/
structure GroupPointer.Follows (start : ℕ) (s : GroupState) (t : GroupPointer) : Prop where
  buffer : t.buffer.Wrote start s.buffer
  foundZeros : t.foundZeros = s.foundZeros
  inZeros : t.inZeros = s.inZeros
  reads : ∀ j ∈ t.reads, j < 16

/-- The test of the next group looks two bytes ahead, but not from the last group. -/
lemma nextGroupZeroAt_spec (hbyte : HoldsAddress addr byte) (i : ℕ) :
    (nextGroupZeroAt byte i).1 = nextGroupZero addr i
      ∧ ∀ j ∈ (nextGroupZeroAt byte i).2, j < 16 := by
  unfold nextGroupZeroAt nextGroupZero
  by_cases hi : i < 7
  · rw [if_pos hi, dif_pos hi, ← hbyte (2 * i + 2) (by omega), ← hbyte (2 * i + 3) (by omega)]
    split
    · rename_i hzero
      rw [hzero, Bool.true_and]
      refine ⟨rfl, fun j hj => ?_⟩
      rcases List.mem_pair.mp hj with rfl | rfl <;> omega
    · rename_i hzero
      rw [Bool.eq_false_iff.mpr hzero, Bool.false_and]
      refine ⟨rfl, fun j hj => ?_⟩
      obtain rfl := List.mem_singleton.mp hj
      omega
  · rw [if_neg hi, dif_neg hi]
    exact ⟨rfl, List.forall_mem_nil _⟩

/-- The condition of a round is that of the list model. -/
lemma skipsGroupAt_spec (hbyte : HoldsAddress addr byte) {s : GroupState} {t : GroupPointer}
    (h : t.Follows start s) (i : Fin 8) :
    (skipsGroupAt byte t i).1
        = ((group addr i i.isLt).1 == 0 && (group addr i i.isLt).2 == 0 && !s.foundZeros
          && (s.inZeros || nextGroupZero addr i))
      ∧ ∀ j ∈ (skipsGroupAt byte t i).2, j < 16 := by
  obtain ⟨hnext, hreads⟩ := nextGroupZeroAt_spec hbyte i
  have hi := i.isLt
  unfold skipsGroupAt group
  rw [h.foundZeros, h.inZeros, ← hbyte (2 * i) (by omega), ← hbyte (2 * i + 1) (by omega), ← hnext]
  split
  · rename_i hzero
    rw [hzero, Bool.true_and]
    split
    · rename_i hzeros
      rw [hzeros, Bool.true_or]
      exact ⟨rfl, List.forall_mem_nil _⟩
    · rename_i hzeros
      rw [Bool.eq_false_iff.mpr hzeros, Bool.false_or]
      exact ⟨rfl, hreads⟩
  · rename_i hzero
    rw [Bool.eq_false_iff.mpr hzero, Bool.false_and]
    exact ⟨rfl, List.forall_mem_nil _⟩

lemma GroupPointer.Follows.groupStep (hbyte : HoldsAddress addr byte) {s : GroupState}
    {t : GroupPointer} (h : t.Follows start s) (i : Fin 8) :
    (groupStepAt byte t i).Follows start (groupStep addr s i) := by
  obtain ⟨hskips, hahead⟩ := skipsGroupAt_spec hbyte h i
  have hi := i.isLt
  have hreads : ∀ j ∈ t.reads ++ ([2 * i.val, 2 * i.val + 1] ++ (skipsGroupAt byte t i).2),
      j < 16 := by
    simp only [List.forall_mem_append, List.forall_mem_cons]
    exact ⟨h.reads, ⟨by omega, by omega, List.forall_mem_nil _⟩, hahead⟩
  unfold groupStepAt IPAddress.groupStep
  dsimp only
  rw [hskips]
  split
  · exact ⟨h.buffer, h.foundZeros, rfl, hreads⟩
  · refine ⟨?_, ?_, rfl, hreads⟩
    · have hzero : i = 0 ↔ i.val = 0 := Fin.ext_iff
      have hwrote := wrote_hextetAt ((h.buffer.putIf (s.inZeros = true) ':').putIf (i.val ≠ 0) ':')
        (byte (2 * i)) (byte (2 * i + 1))
      rw [h.inZeros]
      simp only [group, ne_eq, hzero, ← hbyte (2 * i) (by omega), ← hbyte (2 * i + 1) (by omega)]
      exact hwrote
    · show (t.foundZeros || t.inZeros) = (s.foundZeros || s.inZeros)
      rw [h.foundZeros, h.inZeros]

/-- The IPv6 branch in the two models. -/
lemma wrote_ipv6HostAt (start : ℕ) (hbyte : HoldsAddress addr byte) :
    (ipv6HostAt byte start (Pointer.fresh start)).1.Wrote start (ipv6Host addr)
      ∧ ∀ j ∈ (ipv6HostAt byte start (Pointer.fresh start)).2, j < 16 := by
  have hrange : List.range 8 = (List.finRange 8).map Fin.val := by decide
  have hloop : ((List.range 8).foldl (groupStepAt byte)
        ⟨(Pointer.fresh start).put '[', false, false, []⟩).Follows start
      ((List.finRange 8).foldl (groupStep addr) ⟨['['], false, false⟩) := by
    rw [hrange, List.foldl_map]
    refine List.foldl_rel (r := fun (t : GroupPointer) s => t.Follows start s) ?_
      fun i _ _ _ h => h.groupStep hbyte i
    exact ⟨(Pointer.wrote_fresh start).put '[', rfl, rfl, List.forall_mem_nil _⟩
  unfold ipv6HostAt ipv6Host
  dsimp only
  refine ⟨?_, hloop.reads⟩
  simp only [hloop.buffer.address, Nat.add_left_cancel_iff]
  split
  · have hzero := (hloop.buffer.put ':').put ':'
    rw [List.append_assoc] at hzero
    exact hzero.put ']'
  · exact hloop.buffer.put ']'

/-- **A call of `ToURI` in memory writes the bytes of the list model**, one after the other from
`buffer` on, or nothing where that has no result.  Of `sin6_addr` it reads nothing but its sixteen
bytes. -/
lemma toURIAt_spec (a : IPAddress) (behind : ℕ → UInt8) (buffer : ℕ) (includePort : Bool) :
    (∀ j ∈ (a.toURIAt behind buffer includePort).reads, j < 16)
      ∧ match a.toURI includePort with
        | some written => (a.toURIAt behind buffer includePort).result = some buffer
          ∧ (a.toURIAt behind buffer includePort).writes = consecutive buffer written
        | none => (a.toURIAt behind buffer includePort).result = none
          ∧ (a.toURIAt behind buffer includePort).writes = [] := by
  have hfinish : ∀ (p : Pointer Char) (host : List Char), p.Wrote buffer host →
      ((if includePort then putPortAt a.port (p.put ':') else p).store CString.nul).writes
        = consecutive buffer ((if includePort then putPort a.port (host ++ [':']) else host)
          ++ [CString.nul]) := by
    intro p host h
    cases includePort with
    | false => exact h.writes_store _
    | true => exact (wrote_putPortAt (h.put ':') a.port).writes_store _
  unfold toURIAt toURI
  dsimp only
  split
  · exact ⟨List.forall_mem_nil _, rfl, hfinish _ _ (wrote_ipv4HostAt a.sinAddr)⟩
  · split
    · obtain ⟨hwrote, hreads⟩ := wrote_ipv6HostAt buffer (holdsAddress_byteAt a behind)
      exact ⟨hreads, rfl, hfinish _ _ hwrote⟩
    · exact ⟨List.forall_mem_nil _, rfl, rfl⟩

end Memory

/-! ## The bounds -/

/-- The length of what is written, the terminator included. -/
lemma length_toURI {a : IPAddress} {includePort : Bool} {written : List Char}
    (h : a.toURI includePort = some written) :
    written.length ≤ 48 ∧ (a.getFamily = ipv4 → written.length ≤ 22) := by
  have hfinish : ∀ host : List Char,
      ((if includePort then putPort a.port (host ++ [':']) else host) ++ [CString.nul]).length
        ≤ host.length + 7 := by
    intro host
    have hport := length_putPort a.port (host ++ [':'])
    rw [List.length_append, List.length_singleton] at hport
    rw [List.length_append, List.length_singleton]
    split <;> omega
  unfold toURI at h
  dsimp only at h
  split at h
  · have hhost := length_ipv4Host a.sinAddr
    have hlength := hfinish (ipv4Host a.sinAddr)
    rw [Option.some.inj h] at hlength
    omega
  · rename_i hfamily
    split at h
    · have hhost := length_ipv6Host a.sin6Addr
      have hlength := hfinish (ipv6Host a.sin6Addr)
      rw [Option.some.inj h] at hlength
      exact ⟨by omega, fun h4 => absurd h4 hfamily⟩
    · exact Option.absurd_none h

/-- **`ToURI` stays inside of what it is given.**  It reads the sixteen bytes of the address only.
For an address of either family it writes a text and its terminator from the start of the buffer
on, at most 48 bytes, or 22 for an IPv4 address; for any other it returns `NULL` and writes
nothing. -/
theorem toURI_inBounds (a : IPAddress) (behind : ℕ → UInt8) (buffer : ℕ) (includePort : Bool) :
    (∀ j ∈ (a.toURIAt behind buffer includePort).reads, j < 16)
      ∧ (a.IsInet →
        (a.toURIAt behind buffer includePort).result = some buffer
          ∧ Within buffer sizeofString (a.toURIAt behind buffer includePort).writes
          ∧ ∃ text, CString.nul ∉ text
            ∧ (a.toURIAt behind buffer includePort).writes
              = consecutive buffer (text ++ [CString.nul])
            ∧ (text ++ [CString.nul]).length ≤ 48
            ∧ (a.getFamily = ipv4 → (text ++ [CString.nul]).length ≤ 22))
      ∧ (¬a.IsInet →
        (a.toURIAt behind buffer includePort).result = none
          ∧ (a.toURIAt behind buffer includePort).writes = []) := by
  obtain ⟨hreads, hwrites⟩ := a.toURIAt_spec behind buffer includePort
  refine ⟨hreads, fun ha => ?_, fun ha => ?_⟩
  · have htext := toURI_eq ha includePort
    obtain ⟨hlength, hlength4⟩ := length_toURI htext
    rw [htext] at hwrites
    refine ⟨hwrites.1, ?_, _, a.nul_not_mem_text includePort, hwrites.2, hlength, hlength4⟩
    rw [hwrites.2]
    exact within_consecutive (hlength.trans (by decide))
  · have hnone : a.toURI includePort = none := by
      unfold toURI
      dsimp only
      rw [if_neg fun h => ha (.inl h), if_neg fun h => ha (.inr h)]
    rwa [hnone] at hwrites

/-- `[ffff:ffff:ffff:ffff:ffff:ffff:ffff:ffff]:65535`, which takes all 48 bytes. -/
theorem toURI_inBounds_longest :
    ∃ a : IPAddress, a.sin6Addr = .replicate 16 255
      ∧ (a.toURIAt (fun _ => 0) 1000 true).writes.length = 48
      ∧ Within 1000 sizeofString (a.toURIAt (fun _ => 0) 1000 true).writes := by
  refine ⟨ofSockaddrIn6 ⟨.replicate 2 255, .replicate 4 0, .replicate 16 255, .replicate 4 0⟩,
    by decide, by decide, ?_⟩
  exact ((toURI_inBounds _ _ 1000 true).2.1 (by decide)).2.1

end IPAddress
end SMBB
