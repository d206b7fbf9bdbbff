import Mathlib.Tactic.IntervalCases
import SMBB.Framework.AddressText
import SMBB.Construction.ToURI

/-!
# The shape of the text `ToURI` writes

The writing loops of `Construction/ToURI.lean`, read back as text formats.

The digit macro writes the numeral of its value: `putPort_eq` and `putOctet_eq`, from the step
lemma `Leading.getDigit`, whose invariant `Leading` says what has been written when the places
above `10 ^ k` are done.  A group of an IPv6 address is the hexadecimal numeral of its two bytes
(`hextet_eq`).

`ipv4Host_eq` and `ipv6Host_eq` give the two hosts as separated groups.  For IPv6 the loop is
first read as a recursion over the list of groups (`foldl_groupStep`), then followed through
its three phases: before a run of zeros, inside it, and after it.  What comes out is the
compressed shape of the groups with one exception, `dropTail`: a gap at the end of a nonempty
list of groups is not written at all.
-/

namespace SMBB
namespace IPAddress

open GroupText AddressText

/-! ## Digits -/

lemma digit_eq {d : ℕ} (hd : d < 10) : digit d = Nat.digitChar d := by
  interval_cases d <;> rfl

/-- What the digit macro has done to the value `n` when the places above `10 ^ k` are
written: the leading zeros are suppressed and everything else is there. -/
structure Leading (buffer : List Char) (n k : ℕ) (s : DigitState) : Prop where
  value : s.value = n % 10 ^ k
  shown : s.shown = 0 ↔ n / 10 ^ k = 0
  buffer : s.buffer = buffer ++ if n / 10 ^ k = 0 then [] else Nat.toDigits 10 (n / 10 ^ k)

lemma Leading.start {n k : ℕ} (hn : n < 10 ^ k) (buffer : List Char) :
    Leading buffer n k ⟨n, buffer, 0⟩ := by
  have hdiv : n / 10 ^ k = 0 := Nat.div_eq_of_lt hn
  refine ⟨(Nat.mod_eq_of_lt hn).symm, ?_, ?_⟩
  · simp [hdiv]
  · simp [hdiv]

/-- One digit: the invariant moves one place down. -/
lemma Leading.getDigit {buffer : List Char} {n k : ℕ} {s : DigitState}
    (h : Leading buffer n (k + 1) s) : Leading buffer n k (getDigit (10 ^ k) s) := by
  obtain ⟨hvalue, hshown, hbuffer⟩ := h
  have hpow : 10 ^ (k + 1) = 10 ^ k * 10 := pow_succ 10 k
  have hd : s.value / 10 ^ k = n / 10 ^ k % 10 := by
    rw [hvalue, hpow, Nat.mod_mul_right_div_self]
  have hv : s.value % 10 ^ k = n % 10 ^ k := by
    rw [hvalue, hpow, Nat.mod_mul_right_mod]
  have hq : n / 10 ^ (k + 1) = n / 10 ^ k / 10 := by rw [hpow, Nat.div_div_eq_div_mul]
  rw [hq] at hshown hbuffer
  generalize hqk : n / 10 ^ k = q at hd hshown hbuffer
  have hor : s.shown ||| q % 10 = 0 ↔ q = 0 := by
    rw [Nat.or_eq_zero_iff, hshown]
    omega
  refine ⟨hv, ?_, ?_⟩
  · show s.shown ||| s.value / 10 ^ k = 0 ↔ n / 10 ^ k = 0
    rw [hd, hqk, hor]
  · show (if s.shown ||| s.value / 10 ^ k ≠ 0 then s.buffer ++ [digit (s.value / 10 ^ k)]
        else s.buffer) = buffer ++ if n / 10 ^ k = 0 then [] else Nat.toDigits 10 (n / 10 ^ k)
    rw [hd, hqk, digit_eq (Nat.mod_lt q (by decide))]
    by_cases hz : q = 0
    · rw [if_neg (not_not.mpr (hor.mpr hz)), hbuffer, if_pos (by omega), if_pos hz]
    rw [if_pos (fun h0 => hz (hor.mp h0)), hbuffer, if_neg hz]
    by_cases hsmall : q < 10
    · rw [if_pos (by omega), List.append_nil, Nat.mod_eq_of_lt hsmall,
        Nat.toDigits_of_lt_base hsmall]
    · rw [if_neg (by omega), List.append_assoc,
        Nat.toDigits_of_base_le (by decide : 1 < 10) (by omega : 10 ≤ q)]

/-- The last digit is written without a test. -/
lemma Leading.finish {buffer : List Char} {n : ℕ} {s : DigitState} (h : Leading buffer n 1 s) :
    s.buffer ++ [digit s.value] = buffer ++ Nat.toDigits 10 n := by
  rw [h.value, h.buffer, pow_one, digit_eq (Nat.mod_lt n (by decide)), List.append_assoc]
  by_cases hn : n < 10
  · rw [if_pos (by omega), List.nil_append, Nat.mod_eq_of_lt hn, Nat.toDigits_of_lt_base hn]
  · rw [if_neg (by omega), Nat.toDigits_of_base_le (by decide : 1 < 10) (by omega : 10 ≤ n)]

lemma putOctet_eq {num : ℕ} (h : num < 1000) (buffer : List Char) :
    putOctet num buffer = buffer ++ Nat.toDigits 10 num := by
  have hstart : Leading buffer num 3 ⟨num, buffer, 0⟩ := Leading.start (by omega) buffer
  exact hstart.getDigit.getDigit.finish

lemma putPort_eq {port : ℕ} (h : port < 65536) (buffer : List Char) :
    putPort port buffer = buffer ++ Nat.toDigits 10 port := by
  have hstart : Leading buffer port 5 ⟨port, buffer, 0⟩ := Leading.start (by omega) buffer
  exact hstart.getDigit.getDigit.getDigit.getDigit.finish

lemma hex_eq (n : Fin 16) : hex n = Nat.digitChar n := by
  revert n
  decide

/-- A group is written as the hexadecimal numeral of its value.  The cases are the four
numbers of digits, most digits first. -/
lemma hextet_eq (a b : UInt8) : hextet a b = Nat.toDigits 16 (groupValue (a, b)) := by
  have ha := a.toNat_lt
  have hb := b.toNat_lt
  have hza : a = 0 ↔ a.toNat = 0 := UInt8.toNat_inj.symm
  have hhi : ∀ c : UInt8, highNibble c = 0 ↔ c.toNat / 16 = 0 := fun c => by
    rw [Fin.ext_iff]
    rfl
  have hbase : (1 : ℕ) < 16 := by decide
  simp only [hextet, ne_eq, hza, hhi]
  simp only [hex_eq, highNibble, lowNibble, groupValue]
  clear hza hhi
  generalize a.toNat = m at *
  generalize b.toNat = n at *
  obtain ⟨v, hv⟩ : ∃ v, 256 * m + n = v := ⟨_, rfl⟩
  have h0 : v % 16 = n % 16 := by omega
  have h1 : v / 16 % 16 = n / 16 := by omega
  have h2 : v / 16 / 16 % 16 = m % 16 := by omega
  have h3 : v / 16 / 16 / 16 = m / 16 := by omega
  rw [hv]
  by_cases hm16 : 16 ≤ m
  · rw [Nat.toDigits_of_base_le hbase (by omega), Nat.toDigits_of_base_le hbase (by omega),
      Nat.toDigits_of_base_le hbase (by omega), Nat.toDigits_of_lt_base (by omega),
      if_pos (by omega), if_pos (by omega), if_pos (by omega), h0, h1, h2, h3]
  by_cases hm : m = 0
  · by_cases hn16 : 16 ≤ n
    · have hlast : v / 16 = n / 16 := by omega
      rw [Nat.toDigits_of_base_le hbase (by omega), Nat.toDigits_of_lt_base (by omega),
        if_neg (by omega), if_neg (by omega), if_pos (by omega), h0, hlast]
      rfl
    · have hlast : v = n % 16 := by omega
      rw [Nat.toDigits_of_lt_base (by omega), if_neg (by omega), if_neg (by omega),
        if_neg (by omega), ← hlast]
      rfl
  · have hlast : v / 16 / 16 = m % 16 := by omega
    rw [Nat.toDigits_of_base_le hbase (by omega), Nat.toDigits_of_base_le hbase (by omega),
      Nat.toDigits_of_lt_base (by omega), if_neg (by omega), if_pos (by omega),
      if_pos (by omega), h0, h1, hlast]
    rfl

/-! ## The IPv4 host -/

/-- The octet the loop cuts out of `ntohl` at round `i` is the byte at `i`. -/
lemma ntohl_octet (addr : Vector UInt8 4) (i : Fin 4) :
    (ntohl addr >>> (8 * (3 - i.val))) % 256 = (addr.get i).toNat := by
  have h0 := (addr.get 0).toNat_lt
  have h1 := (addr.get 1).toNat_lt
  have h2 := (addr.get 2).toNat_lt
  have h3 := (addr.get 3).toNat_lt
  rw [ntohl, Nat.shiftRight_eq_div_pow]
  match i with
  | 0 => simp only [Fin.val_zero]; omega
  | 1 => simp only [Fin.val_one]; omega
  | 2 => simp only [Fin.val_two]; omega
  | 3 => show _ / 2 ^ (8 * (3 - 3)) % 256 = _; omega

lemma octetStep_eq (addr : Vector UInt8 4) (buffer : List Char) (i : Fin 4) :
    octetStep (ntohl addr) buffer i
      = (if i.val ≠ 0 then buffer ++ ['.'] else buffer)
        ++ Nat.toDigits 10 (addr.get i).toNat := by
  have hlt := (addr.get i).toNat_lt
  rw [octetStep, ntohl_octet, putOctet_eq (by omega)]

/-- **The IPv4 host is the dotted text of its octets.** -/
theorem ipv4Host_eq (addr : Vector UInt8 4) :
    ipv4Host addr = octetCodec.writeGroups addr.toList := by
  have hlist : addr.toList = [addr.get 0, addr.get 1, addr.get 2, addr.get 3] :=
    toList_eq_ofFn addr
  have h0 := octetStep_eq addr [] 0
  have h1 := fun b => octetStep_eq addr b 1
  have h2 := fun b => octetStep_eq addr b 2
  have h3 := fun b => octetStep_eq addr b 3
  have hrun : ipv4Host addr = octetStep (ntohl addr) (octetStep (ntohl addr)
      (octetStep (ntohl addr) (octetStep (ntohl addr) [] (0 : Fin 4)) (1 : Fin 4)) (2 : Fin 4))
      (3 : Fin 4) := rfl
  rw [hrun, h3, h2, h1, h0, hlist, octetCodec.writeGroups_cons]
  simp [octetCodec]

/-! ## The IPv6 loop as a recursion over groups -/

/-- One round of the loop, told whether it is the first and what the next group is. -/
def roundOn (first : Bool) (g : UInt8 × UInt8) (next : Option (UInt8 × UInt8))
    (s : GroupState) : GroupState :=
  if g = (0, 0) ∧ s.foundZeros = false ∧ (s.inZeros = true ∨ next = some (0, 0)) then
    { s with inZeros := true }
  else
    { buffer := s.buffer ++ (if s.inZeros then [':'] else [])
        ++ (if first then [] else [':']) ++ hextetCodec.write g
      foundZeros := s.foundZeros || s.inZeros
      inZeros := false }

/-- The loop over a list of groups. -/
def loopOn (first : Bool) : List (UInt8 × UInt8) → GroupState → GroupState
  | [], s => s
  | g :: gs, s => loopOn false gs (roundOn first g gs.head? s)

lemma group_lt (i : Fin 8) : i.val < 8 := i.isLt

/-- The eight groups of an address. -/
def groups (addr : Vector UInt8 16) : List (UInt8 × UInt8) :=
  List.ofFn fun i : Fin 8 => group addr i (group_lt i)

/-- The group after `i`, if there is one. -/
def groupAfter (addr : Vector UInt8 16) (i : ℕ) : Option (UInt8 × UInt8) :=
  if h : i < 7 then some (group addr (i + 1) (by omega)) else none

lemma nextGroupZero_iff (addr : Vector UInt8 16) (i : ℕ) :
    nextGroupZero addr i = true ↔ groupAfter addr i = some (0, 0) := by
  unfold nextGroupZero groupAfter
  by_cases h : i < 7
  · rw [dif_pos h, dif_pos h]
    simp [group, Nat.mul_add]
  · simp [h]

lemma groupStep_eq (addr : Vector UInt8 16) (s : GroupState) (i : Fin 8) :
    groupStep addr s i = roundOn (i = 0) (group addr i i.isLt) (groupAfter addr i) s := by
  have hcond : ((group addr i i.isLt).1 == 0 && (group addr i i.isLt).2 == 0 && !s.foundZeros
        && (s.inZeros || nextGroupZero addr i)) = true
      ↔ group addr i i.isLt = (0, 0) ∧ s.foundZeros = false
        ∧ (s.inZeros = true ∨ groupAfter addr i = some (0, 0)) := by
    rw [← nextGroupZero_iff]
    simp [Prod.ext_iff, and_assoc]
  unfold groupStep roundOn
  simp only [hcond]
  split
  · rfl
  · simp [hextet_eq, hextetCodec]

/-- The loop of the source is the recursion over the eight groups. -/
lemma foldl_groupStep (addr : Vector UInt8 16) (s : GroupState) :
    (List.finRange 8).foldl (groupStep addr) s = loopOn true (groups addr) s := by
  have hrange : List.finRange 8 = [0, 1, 2, 3, 4, 5, 6, 7] := by decide
  rw [hrange]
  simp only [List.foldl_cons, List.foldl_nil, groupStep_eq]
  rfl

/-! ## The three phases of the loop -/

/-- The groups `gs` as the loop writes them: a separator in front of each but a first. -/
def separated (first : Bool) (gs : List (UInt8 × UInt8)) : List Char :=
  if first then hextetCodec.writeGroups gs
  else gs.flatMap fun g => ':' :: hextetCodec.write g

lemma separated_cons (first : Bool) (g : UInt8 × UInt8) (gs : List (UInt8 × UInt8)) :
    separated first (g :: gs)
      = (if first then [] else [':']) ++ hextetCodec.write g ++ separated false gs := by
  cases first with
  | false => simp [separated]
  | true => simp [separated, hextetCodec.writeGroups_cons]

/-- After a run of zeros every group is written. -/
lemma loopOn_found (gs : List (UInt8 × UInt8)) (first : Bool) (buffer : List Char) :
    (loopOn first gs ⟨buffer, true, false⟩).buffer = buffer ++ separated first gs := by
  induction gs generalizing first buffer with
  | nil => cases first <;> simp [loopOn, separated]
  | cons g gs ih =>
      have hround : roundOn first g gs.head? ⟨buffer, true, false⟩
          = ⟨buffer ++ (if first then [] else [':']) ++ hextetCodec.write g, true, false⟩ := by
        simp [roundOn]
      rw [loopOn, hround, ih, separated_cons]
      simp

/-- What follows a run of zeros: the gap and the groups, or nothing at the end. -/
def afterRun : List (UInt8 × UInt8) → List Char
  | [] => []
  | g :: gs => ':' :: ':' :: hextetCodec.writeGroups (g :: gs)

/-- Inside a run the zeros are skipped, and the gap is written with the next group. -/
lemma loopOn_inZeros (gs : List (UInt8 × UInt8)) (buffer : List Char) :
    (loopOn false gs ⟨buffer, false, true⟩).buffer
      = buffer ++ afterRun (gs.dropWhile (· = (0, 0))) := by
  induction gs with
  | nil => simp [loopOn, afterRun]
  | cons g gs ih =>
      by_cases hg : g = (0, 0)
      · have hround : roundOn false g gs.head? ⟨buffer, false, true⟩ = ⟨buffer, false, true⟩ := by
          simp [roundOn, hg]
        rw [loopOn, hround, ih, List.dropWhile_cons_of_pos (by simpa using hg)]
      · have hround : roundOn false g gs.head? ⟨buffer, false, true⟩
            = ⟨buffer ++ [':'] ++ [':'] ++ hextetCodec.write g, true, false⟩ := by
          simp [roundOn, hg]
        rw [loopOn, hround, loopOn_found, List.dropWhile_cons_of_neg (by simpa using hg),
          afterRun, hextetCodec.writeGroups_cons]
        simp [separated]

/-- What the loop writes for a compressed shape. -/
def loopText (first : Bool) : Shape (UInt8 × UInt8) → List Char
  | .full gs => separated first gs
  | .gap l r => separated first l ++ afterRun r

/-- **The loop writes the compressed shape of its groups**, but for a gap at the end. -/
theorem loopOn_buffer (gs : List (UInt8 × UInt8)) (first : Bool) (buffer : List Char) :
    (loopOn first gs ⟨buffer, false, false⟩).buffer
      = buffer ++ loopText first (compress (0, 0) gs) := by
  induction gs generalizing first buffer with
  | nil => cases first <;> simp [loopOn, compress, loopText, separated]
  | cons g gs ih =>
      by_cases hrun : g = (0, 0) ∧ gs.head? = some (0, 0)
      · obtain ⟨rfl, hhead⟩ := hrun
        have hround : roundOn first (0, 0) gs.head? ⟨buffer, false, false⟩
            = ⟨buffer, false, true⟩ := by
          simp [roundOn, hhead]
        have hempty : separated first [] = [] := by cases first <;> rfl
        rw [loopOn, hround, loopOn_inZeros, compress_run _ hhead, loopText, hempty,
          List.nil_append]
      · have hround : roundOn first g gs.head? ⟨buffer, false, false⟩
            = ⟨buffer ++ (if first then [] else [':']) ++ hextetCodec.write g, false, false⟩ := by
          unfold roundOn
          rw [if_neg (by simpa using hrun)]
          simp
        rw [loopOn, hround, ih, compress_cons _ hrun]
        cases compress (0, 0) gs with
        | full l => simp [Shape.cons, loopText, separated_cons]
        | gap l r => simp [Shape.cons, loopText, separated_cons]

/-! ## The IPv6 host -/

/-- The shape whose text stands between the brackets: a gap with groups in front of it and
none behind it loses its mark. -/
def dropTail : Shape (UInt8 × UInt8) → Shape (UInt8 × UInt8)
  | .gap (g :: l) [] => .full (g :: l)
  | s => s

/-- **The IPv6 host is the bracketed text of the compressed shape, its tail dropped.** -/
theorem ipv6Host_eq (addr : Vector UInt8 16) :
    ipv6Host addr
      = '[' :: ((dropTail (compress (0, 0) (groups addr))).write hextetCodec ++ [']']) := by
  have hloop : ((List.finRange 8).foldl (groupStep addr) ⟨['['], false, false⟩).buffer
      = '[' :: loopText true (compress (0, 0) (groups addr)) := by
    rw [foldl_groupStep, loopOn_buffer]
    rfl
  have hlen := expand_compress (0, 0) (groups addr)
  unfold ipv6Host
  simp only [hloop]
  cases hs : compress (0, 0) (groups addr) with
  | full gs =>
      cases gs with
      | nil =>
          -- eight groups do not compress to none
          rw [hs] at hlen
          simp [Shape.expand, groups] at hlen
      | cons g gs =>
          have hne := hextetCodec.writeGroups_cons_ne_nil g gs
          simp [loopText, separated, dropTail, Shape.write, hne]
  | gap l r =>
      cases l with
      | nil =>
          cases r with
          | nil => simp [loopText, separated, afterRun, dropTail, Shape.write]
          | cons h r => simp [loopText, separated, afterRun, dropTail, Shape.write]
      | cons g l =>
          have hne := hextetCodec.writeGroups_cons_ne_nil g l
          cases r with
          | nil => simp [loopText, separated, afterRun, dropTail, Shape.write, hne]
          | cons h r => simp [loopText, separated, afterRun, dropTail, Shape.write]

end IPAddress
end SMBB
