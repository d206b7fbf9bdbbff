import Mathlib.Tactic.Lemma
import Mathlib.Data.List.TakeWhile
import Mathlib.Data.Nat.Notation

/-!
# C strings and the buffers that hold them

A `CString` is a list of characters without a `NUL`; the terminator is added where it is stored.
`store` writes characters into a buffer of fixed size and asks for a proof that they fit, so a
function that stores without checking its bound cannot be written.  `text_store_nul` is the round
trip: a string stored with its terminator is the text the buffer holds.
-/

/-- The terminating character. -/
def CString.nul : Char := Char.ofNat 0

/-- A string argument: the characters in front of its terminator. -/
structure CString where
  chars : List Char
  nul_free : CString.nul ∉ chars

namespace CString

/-- The C string at the start of a buffer. -/
def text (buffer : List Char) : List Char := buffer.takeWhile (· ≠ nul)

lemma text_append_nul {chars : List Char} (h : nul ∉ chars) (rest : List Char) :
    text (chars ++ nul :: rest) = chars := by
  have hall : ∀ c ∈ chars, decide (c ≠ nul) = true := fun c hc =>
    decide_eq_true fun hnul => h (hnul ▸ hc)
  rw [text, List.takeWhile_append_of_pos hall, List.takeWhile_cons_of_neg (by simp),
    List.append_nil]

/-- The text of a buffer is empty exactly when its first character is the terminator. -/
lemma text_eq_nil_iff {c : Char} {rest : List Char} : text (c :: rest) = [] ↔ c = nul := by
  by_cases h : c = nul
  · simp [text, h]
  · simp [text, h]

/-- The text ends in front of the terminator. -/
lemma length_text_lt {buffer : List Char} (h : nul ∈ buffer) :
    (text buffer).length < buffer.length := by
  obtain ⟨chars, rest, rfl, hchars⟩ := List.eq_append_cons_of_mem h
  rw [text_append_nul hchars, List.length_append, List.length_cons]
  omega

variable {n : ℕ}

/-- Writes characters over the start of a buffer they fit into. -/
def store (buffer : Vector Char n) (chars : List Char) (_fits : chars.length ≤ n) :
    Vector Char n :=
  Vector.ofFn fun i => (chars[i.val]?).getD (buffer.get i)

/-- A stored list is the front of the buffer. -/
lemma toList_store (buffer : Vector Char n) (chars : List Char) (fits : chars.length ≤ n) :
    (store buffer chars fits).toList = chars ++ buffer.toList.drop chars.length := by
  apply List.ext_getElem
  · simp [fits]
  · intro i hi hi'
    rw [Vector.length_toList] at hi
    rw [Vector.getElem_toList]
    simp only [store, Vector.getElem_ofFn]
    by_cases h : i < chars.length
    · rw [List.getElem_append_left h, List.getElem?_eq_getElem h, Option.getD_some]
    · rw [List.getElem_append_right (Nat.le_of_not_lt h),
        List.getElem?_eq_none (Nat.le_of_not_lt h), Option.getD_none, List.getElem_drop]
      simp only [Nat.add_sub_cancel' (Nat.le_of_not_lt h)]
      rfl

/-- **Round trip**: the text of a buffer after a string has been stored with its terminator. -/
lemma text_store_nul (buffer : Vector Char n) {chars : List Char} (hnul : nul ∉ chars)
    (fits : (chars ++ [nul]).length ≤ n) :
    text (store buffer (chars ++ [nul]) fits).toList = chars := by
  rw [toList_store, List.append_assoc, List.singleton_append, text_append_nul hnul]

end CString
