import Mathlib.Data.List.TakeWhile
import SMBB.Framework.Numerals
import SMBB.Framework.GroupText

/-!
# The standard text of network addresses

The reading rules of the two address forms and of the authority they stand in, as a decoder.

A short address is four decimal octets joined by dots; leading zeros are refused.  A long
address is eight hexadecimal groups of one to four digits joined by colons, where at most one
doubled colon stands for all the missing zero groups, and for at least one.  An authority is a
short address, or a long one in brackets, with an optional colon and decimal port after it.

The two codecs are instances of `GroupText.FieldCodec`, so what they write is what they read.
-/

namespace AddressText

open Numeral GroupText

/-! ## Octets -/

/-- One decimal octet. -/
def octetCodec : FieldCodec UInt8 '.' where
  write g := Nat.toDigits 10 g.toNat
  read cs := (readNumeral 10 cs).bind fun v => if v < 256 then some (UInt8.ofNat v) else none
  read_write g := by
    rw [readNumeral_toDigits (by decide) (by decide), Option.bind_some, if_pos g.toNat_lt,
      UInt8.ofNat_toNat]
  write_ne_nil _ := Nat.toDigits_ne_nil
  sep_not_mem g := not_mem_toDigits (by decide) (by decide) g.toNat rfl

lemma not_mem_octets {c : Char} (hc : digitValue c = none) (hdot : c ≠ '.') (gs : List UInt8) :
    c ∉ octetCodec.writeGroups gs := by
  intro h
  rcases Shape.eq_sep_or_mem_of_mem_write (s := .full gs) h with hsep | ⟨g, hg⟩
  · exact hdot hsep
  · exact not_mem_toDigits (by decide) (by decide) _ hc hg

/-- The four octets of a short address. -/
def readIPv4 (cs : List Char) : Option (List UInt8) :=
  (octetCodec.readGroups cs).bind fun gs => if gs.length = 4 then some gs else none

/-! ## Hextets -/

/-- The number two bytes stand for in network order. -/
def groupValue (g : UInt8 × UInt8) : ℕ := 256 * g.1.toNat + g.2.toNat

/-- The two bytes of a number below `2 ^ 16`, in network order. -/
def groupOfValue (v : ℕ) : UInt8 × UInt8 := (UInt8.ofNat (v / 256), UInt8.ofNat (v % 256))

lemma groupValue_lt (g : UInt8 × UInt8) : groupValue g < 16 ^ 4 := by
  have h1 := g.1.toNat_lt
  have h2 := g.2.toNat_lt
  simp only [groupValue]
  omega

@[simp] lemma groupOfValue_groupValue (g : UInt8 × UInt8) : groupOfValue (groupValue g) = g := by
  obtain ⟨a, b⟩ := g
  have hb := b.toNat_lt
  have hdiv : (256 * a.toNat + b.toNat) / 256 = a.toNat := by omega
  have hmod : (256 * a.toNat + b.toNat) % 256 = b.toNat := by omega
  simp [groupOfValue, groupValue, hdiv, hmod]

/-- One group of one to four hexadecimal digits. -/
def hextetCodec : FieldCodec (UInt8 × UInt8) ':' where
  write g := Nat.toDigits 16 (groupValue g)
  read cs := if cs.length ≤ 4 then (readDigits 16 cs).map groupOfValue else none
  read_write g := by
    have hlen : (Nat.toDigits 16 (groupValue g)).length ≤ 4 :=
      (Nat.length_toDigits_le_iff (by decide) (by decide)).mpr (groupValue_lt g)
    rw [if_pos hlen, readDigits_toDigits (by decide) (by decide), Option.map_some,
      groupOfValue_groupValue]
  write_ne_nil _ := Nat.toDigits_ne_nil
  sep_not_mem g := not_mem_toDigits (by decide) (by decide) (groupValue g) rfl

lemma not_mem_hextets {c : Char} (hc : digitValue c = none) (hcolon : c ≠ ':')
    (s : Shape (UInt8 × UInt8)) : c ∉ s.write hextetCodec := by
  intro h
  rcases Shape.eq_sep_or_mem_of_mem_write h with hsep | ⟨g, hg⟩
  · exact hcolon hsep
  · exact not_mem_toDigits (by decide) (by decide) _ hc hg

/-- The sixteen bytes of a long address. -/
def readIPv6 (cs : List Char) : Option (List UInt8) :=
  ((Shape.read hextetCodec cs).bind (Shape.expand (0, 0) 8)).map
    fun gs => gs.flatMap fun g => [g.1, g.2]

lemma readIPv6_write (s : Shape (UInt8 × UInt8)) :
    readIPv6 (s.write hextetCodec)
      = (s.expand (0, 0) 8).map fun gs => gs.flatMap fun g => [g.1, g.2] := by
  rw [readIPv6, Shape.read_write, Option.bind_some]

/-- The bytes of a list of groups determine it. -/
lemma flatMap_pair_injective {gs hs : List (UInt8 × UInt8)}
    (h : gs.flatMap (fun g => [g.1, g.2]) = hs.flatMap (fun g => [g.1, g.2])) : gs = hs := by
  induction gs generalizing hs with
  | nil =>
      cases hs with
      | nil => rfl
      | cons g hs => simp at h
  | cons g gs ih =>
      cases hs with
      | nil => simp at h
      | cons g' hs =>
          simp only [List.flatMap_cons, List.cons_append, List.nil_append, List.cons.injEq] at h
          obtain ⟨h1, h2, htail⟩ := h
          rw [Prod.ext h1 h2, ih htail]

/-! ## Ports and authorities -/

/-- What may follow a host: nothing, or a colon and a port. -/
def readPortSuffix : List Char → Option (Option ℕ)
  | [] => some none
  | ':' :: cs => (readNumeral 10 cs).bind fun p => if p < 65536 then some (some p) else none
  | _ => none

/-- The text that follows a host. -/
def writePortSuffix : Option ℕ → List Char
  | none => []
  | some p => ':' :: Nat.toDigits 10 p

lemma readPortSuffix_write {p : Option ℕ} (hp : ∀ n ∈ p, n < 65536) :
    readPortSuffix (writePortSuffix p) = some p := by
  cases p with
  | none => rfl
  | some n =>
      rw [writePortSuffix, readPortSuffix, readNumeral_toDigits (by decide) (by decide),
        Option.bind_some, if_pos (hp n rfl)]

lemma not_mem_writePortSuffix {c : Char} (hc : digitValue c = none) (hcolon : c ≠ ':')
    (p : Option ℕ) : c ∉ writePortSuffix p := by
  cases p with
  | none => simp [writePortSuffix]
  | some n =>
      have hn := not_mem_toDigits (by decide : 1 < 10) (by decide) n hc
      simp [writePortSuffix, hcolon, hn]

lemma writePortSuffix_injective {p q : Option ℕ} (hp : ∀ n ∈ p, n < 65536)
    (hq : ∀ n ∈ q, n < 65536) (h : writePortSuffix p = writePortSuffix q) : p = q := by
  have hread := readPortSuffix_write hp
  rw [h, readPortSuffix_write hq] at hread
  exact (Option.some.inj hread).symm

/-- An authority whose host is a long address in brackets. -/
def readIPv6Authority : List Char → Option (List UInt8 × Option ℕ)
  | '[' :: cs =>
      match cs.dropWhile (· ≠ ']') with
      | [] => none
      | _ :: rest =>
          (readIPv6 (cs.takeWhile (· ≠ ']'))).bind fun host =>
            (readPortSuffix rest).map fun port => (host, port)
  | _ => none

/-- An authority whose host is a short address. -/
def readIPv4Authority (cs : List Char) : Option (List UInt8 × Option ℕ) :=
  (readIPv4 (cs.takeWhile (· ≠ ':'))).bind fun host =>
    (readPortSuffix (cs.dropWhile (· ≠ ':'))).map fun port => (host, port)

lemma takeWhile_append_cons {cs : List Char} {c : Char} (h : c ∉ cs) (ds : List Char) :
    (cs ++ c :: ds).takeWhile (· ≠ c) = cs ∧ (cs ++ c :: ds).dropWhile (· ≠ c) = c :: ds := by
  have hcs : ∀ d ∈ cs, (decide (d ≠ c)) = true := by
    intro d hd
    simpa using fun hdc : d = c => h (hdc ▸ hd)
  constructor
  · rw [List.takeWhile_append_of_pos hcs]
    simp
  · rw [List.dropWhile_append_of_pos hcs]
    simp

/-- A host without a colon is cut off in front of the port suffix. -/
lemma takeWhile_append_writePortSuffix {host : List Char} (h : ':' ∉ host) (p : Option ℕ) :
    (host ++ writePortSuffix p).takeWhile (· ≠ ':') = host := by
  cases p with
  | none =>
      rw [writePortSuffix, List.append_nil, List.takeWhile_eq_self_iff]
      intro c hc
      simpa using fun hcolon : c = ':' => h (hcolon ▸ hc)
  | some n => exact (takeWhile_append_cons h _).1

lemma dropWhile_append_writePortSuffix {host : List Char} (h : ':' ∉ host) (p : Option ℕ) :
    (host ++ writePortSuffix p).dropWhile (· ≠ ':') = writePortSuffix p := by
  have happend := List.takeWhile_append_dropWhile (p := (· ≠ ':')) (l := host ++ writePortSuffix p)
  rw [takeWhile_append_writePortSuffix h] at happend
  exact List.append_cancel_left happend

/-- A short address and its port are read back. -/
lemma readIPv4Authority_write {gs : List UInt8} (hlen : gs.length = 4) {p : Option ℕ}
    (hp : ∀ n ∈ p, n < 65536) :
    readIPv4Authority (octetCodec.writeGroups gs ++ writePortSuffix p) = some (gs, p) := by
  have hcolon : ':' ∉ octetCodec.writeGroups gs := not_mem_octets (by decide) (by decide) gs
  rw [readIPv4Authority, takeWhile_append_writePortSuffix hcolon,
    dropWhile_append_writePortSuffix hcolon, readIPv4, octetCodec.readGroups_writeGroups,
    Option.bind_some, if_pos hlen, Option.bind_some, readPortSuffix_write hp]
  rfl

lemma readIPv6Authority_bracket {host : List Char} (h : ']' ∉ host) (rest : List Char) :
    readIPv6Authority ('[' :: (host ++ ']' :: rest))
      = (readIPv6 host).bind fun addr => (readPortSuffix rest).map fun port => (addr, port) := by
  obtain ⟨htake, hdrop⟩ := takeWhile_append_cons h rest
  simp only [readIPv6Authority, htake, hdrop]

end AddressText
