import Mathlib.Tactic.Lemma
import Mathlib.Tactic.IntervalCases
import Mathlib.Data.Nat.Digits.Defs

/-!
# Reading numerals

`Nat.toDigits b n` writes `n` in base `b`, most significant digit first and without leading
zeros.  This file supplies the reader and the round trip, for every base up to sixteen.

`readDigits` is the tolerant reader: one digit or more, leading zeros allowed, both cases of
the hexadecimal letters.  `readNumeral` is the strict one: it refuses a leading zero in front
of another digit, so it accepts exactly one text for each number.

The results the file exists for are `readDigits_toDigits` and `readNumeral_toDigits`.  Both
rest on `readOnto_toDigits`, where the accumulator of the reader starts at zero, and on
`toDigits_head_zero`: a numeral that opens with the character `0` is the numeral of zero.
-/

namespace Numeral

/-! ## One digit -/

/-- The value of a digit character, in decimal or in either case of hexadecimal. -/
def digitValue (c : Char) : Option ℕ :=
  if 48 ≤ c.toNat ∧ c.toNat ≤ 57 then some (c.toNat - 48)
  else if 97 ≤ c.toNat ∧ c.toNat ≤ 102 then some (c.toNat - 87)
  else if 65 ≤ c.toNat ∧ c.toNat ≤ 70 then some (c.toNat - 55)
  else none

/-- The value of `c` as a digit of base `b`. -/
def digitIn (b : ℕ) (c : Char) : Option ℕ := (digitValue c).filter (· < b)

lemma digitValue_digitChar {d : ℕ} (hd : d < 16) : digitValue (Nat.digitChar d) = some d := by
  interval_cases d <;> rfl

@[simp] lemma digitIn_digitChar {b d : ℕ} (hb : b ≤ 16) (hd : d < b) :
    digitIn b (Nat.digitChar d) = some d := by
  simp [digitIn, digitValue_digitChar (lt_of_lt_of_le hd hb), hd]

/-! ## Digit strings -/

/-- Reads the digits of `cs` onto the value `acc` of the digits already read. -/
def readOnto (b acc : ℕ) : List Char → Option ℕ
  | [] => some acc
  | c :: cs => (digitIn b c).bind fun d => readOnto b (b * acc + d) cs

/-- The tolerant reader: one digit or more. -/
def readDigits (b : ℕ) (cs : List Char) : Option ℕ :=
  if cs = [] then none else readOnto b 0 cs

/-- The strict reader: no leading zero in front of another digit. -/
def readNumeral (b : ℕ) : List Char → Option ℕ
  | '0' :: _ :: _ => none
  | cs => readDigits b cs

lemma readOnto_append (b acc : ℕ) (cs ds : List Char) :
    readOnto b acc (cs ++ ds) = (readOnto b acc cs).bind fun n => readOnto b n ds := by
  induction cs generalizing acc with
  | nil => rfl
  | cons c cs ih =>
      cases hc : digitIn b c with
      | none => simp [readOnto, hc]
      | some d => simp [readOnto, hc, ih]

/-- **The round trip of the digits.**  The induction is on the number, through its quotient
by the base: the last digit is read onto the value of all the digits before it. -/
lemma readOnto_toDigits {b : ℕ} (hb : 1 < b) (hb' : b ≤ 16) (n : ℕ) :
    readOnto b 0 (Nat.toDigits b n) = some n := by
  induction n using Nat.strong_induction_on with
  | _ n ih =>
      by_cases hn : n < b
      · rw [Nat.toDigits_of_lt_base hn]
        simp [readOnto, digitIn_digitChar hb' hn]
      · have hbn : b ≤ n := not_lt.mp hn
        have hlt : n / b < n := Nat.div_lt_self (by omega) hb
        have hmod : n % b < b := Nat.mod_lt n (by omega)
        rw [Nat.toDigits_of_base_le hb hbn, readOnto_append, ih _ hlt]
        simp [readOnto, digitIn_digitChar hb' hmod, Nat.div_add_mod]

theorem readDigits_toDigits {b : ℕ} (hb : 1 < b) (hb' : b ≤ 16) (n : ℕ) :
    readDigits b (Nat.toDigits b n) = some n := by
  rw [readDigits, if_neg Nat.toDigits_ne_nil, readOnto_toDigits hb hb']

/-- A numeral that opens with the character `0` is the numeral of zero. -/
lemma toDigits_head_zero {b : ℕ} (hb : 1 < b) (n : ℕ) {cs : List Char}
    (h : Nat.toDigits b n = '0' :: cs) : n = 0 := by
  induction n using Nat.strong_induction_on generalizing cs with
  | _ n ih =>
      by_cases hn : n < b
      · rw [Nat.toDigits_of_lt_base hn] at h
        simpa using (List.cons.inj h).1
      · have hbn : b ≤ n := not_lt.mp hn
        have hlt : n / b < n := Nat.div_lt_self (by omega) hb
        have hpos : 0 < n / b := Nat.div_pos hbn (by omega)
        rw [Nat.toDigits_of_base_le hb hbn] at h
        cases hq : Nat.toDigits b (n / b) with
        | nil => exact absurd hq Nat.toDigits_ne_nil
        | cons c ds =>
            rw [hq, List.cons_append] at h
            obtain ⟨rfl, -⟩ := List.cons.inj h
            exact absurd (ih _ hlt hq) (by omega)

theorem readNumeral_toDigits {b : ℕ} (hb : 1 < b) (hb' : b ≤ 16) (n : ℕ) :
    readNumeral b (Nat.toDigits b n) = some n := by
  have h := readDigits_toDigits hb hb' n
  unfold readNumeral
  split
  · next c cs hcs =>
    have hn : n = 0 := toDigits_head_zero hb n hcs
    rw [hn, Nat.toDigits_zero] at hcs
    simp at hcs
  · exact h

/-! ## The characters of a numeral -/

/-- A numeral is written with digit characters only. -/
lemma exists_digit_of_mem_toDigits {b : ℕ} (hb : 1 < b) (n : ℕ) {c : Char}
    (h : c ∈ Nat.toDigits b n) : ∃ d < b, c = Nat.digitChar d := by
  induction n using Nat.strong_induction_on with
  | _ n ih =>
      by_cases hn : n < b
      · rw [Nat.toDigits_of_lt_base hn, List.mem_singleton] at h
        exact ⟨n, hn, h⟩
      · have hbn : b ≤ n := not_lt.mp hn
        rw [Nat.toDigits_of_base_le hb hbn, List.mem_append, List.mem_singleton] at h
        rcases h with h | h
        · exact ih _ (Nat.div_lt_self (by omega) hb) h
        · exact ⟨n % b, Nat.mod_lt n (by omega), h⟩

/-- A character that is no hexadecimal digit does not occur in a numeral. -/
lemma not_mem_toDigits {b : ℕ} (hb : 1 < b) (hb' : b ≤ 16) (n : ℕ) {c : Char}
    (hc : digitValue c = none) : c ∉ Nat.toDigits b n := by
  intro h
  obtain ⟨d, hd, rfl⟩ := exists_digit_of_mem_toDigits hb n h
  rw [digitValue_digitChar (by omega)] at hc
  cases hc

end Numeral
