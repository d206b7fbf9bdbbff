import SMBB.Construction.Messages

/-!
# What buffers hold

`Memory.scatter` fills the buffers of one message and `Memory.gather` reads buffers.  Reading the
buffers that were filled gives the payload, as far as there was room, and behind it what they held
before (`gather_scatter`); buffers apart from them hold what they did (`gather_scatter_of_apart`),
and so does every other byte (`scatter_of_not_holds`).

The buffers of one message must be apart for this: a later one would be filled over an earlier one
otherwise.
-/

namespace SMBB

/-- A byte is one of the buffer. -/
def Buffer.Holds (b : Buffer) (q : ℕ) : Prop := b.data ≤ q ∧ q < b.data + b.length

/-- Two buffers have no byte in common. -/
def Buffer.Apart (b b' : Buffer) : Prop := ∀ q, b.Holds q → ¬b'.Holds q

lemma Buffer.apart_iff (b b' : Buffer) :
    b.Apart b' ↔ b.length = 0 ∨ b'.length = 0 ∨ b.data + b.length ≤ b'.data
      ∨ b'.data + b'.length ≤ b.data := by
  constructor
  · intro h
    by_contra hnot
    refine h (max b.data b'.data) ?_ ?_ <;> simp only [Buffer.Holds] <;> omega
  · rintro h q ⟨hle, hlt⟩ ⟨hle', hlt'⟩
    omega

instance (b b' : Buffer) : Decidable (b.Apart b') := decidable_of_iff' _ (b.apart_iff b')

namespace Memory

variable {bytes : ℕ → UInt8} {b : Buffer} {buffers : List Buffer} {data payload : List UInt8}

/-- The bytes of one buffer. -/
def region (bytes : ℕ → UInt8) (b : Buffer) : List UInt8 :=
  (List.range b.length).map fun i => bytes (b.data + i)

lemma gather_cons (bytes : ℕ → UInt8) (b : Buffer) (buffers : List Buffer) :
    gather bytes (b :: buffers) = region bytes b ++ gather bytes buffers := rfl

@[simp] lemma length_region (bytes : ℕ → UInt8) (b : Buffer) :
    (region bytes b).length = b.length := by
  rw [region, List.length_map, List.length_range]

lemma getElem?_region (bytes : ℕ → UInt8) (b : Buffer) {i : ℕ} (hi : i < b.length) :
    (region bytes b)[i]? = some (bytes (b.data + i)) := by
  rw [region, List.getElem?_map, List.getElem?_range hi, Option.map_some]

/-- Regions of which all bytes are the same. -/
lemma region_congr {bytes' : ℕ → UInt8} (h : ∀ q, b.Holds q → bytes q = bytes' q) :
    region bytes b = region bytes' b := by
  refine List.map_congr_left fun i hi => h _ ?_
  have hlt := List.mem_range.mp hi
  constructor <;> omega

lemma gather_congr {bytes' : ℕ → UInt8}
    (h : ∀ b ∈ buffers, ∀ q, b.Holds q → bytes q = bytes' q) :
    gather bytes buffers = gather bytes' buffers := by
  induction buffers with
  | nil => rfl
  | cons b buffers ih =>
    obtain ⟨hb, hrest⟩ := List.forall_mem_cons.mp h
    rw [gather_cons, gather_cons, region_congr hb, ih hrest]

/-- A write changes no byte that is not one of the buffer. -/
lemma write_of_not_holds {q : ℕ} (hdata : data.length ≤ b.length) (hq : ¬b.Holds q) :
    write b.data data bytes q = bytes q := by
  unfold write
  split
  · next hle =>
    have hnone : data[q - b.data]? = none := by
      rw [List.getElem?_eq_none_iff]
      by_contra hlt
      exact hq ⟨hle, by omega⟩
    rw [hnone, Option.getD_none]
  · rfl

/-- The bytes of a buffer that was written from its start. -/
lemma region_write (hdata : data.length ≤ b.length) :
    region (write b.data data bytes) b = data ++ (region bytes b).drop data.length := by
  apply List.ext_getElem?
  intro i
  by_cases hi : i < b.length
  · have hwrite : write b.data data bytes (b.data + i) = (data[i]?).getD (bytes (b.data + i)) := by
      rw [write, if_pos (Nat.le_add_right _ _), Nat.add_sub_cancel_left]
    rw [getElem?_region _ _ hi, hwrite]
    by_cases hdata' : i < data.length
    · rw [List.getElem?_append_left hdata', List.getElem?_eq_getElem hdata', Option.getD_some]
    · have hle : data.length ≤ i := Nat.le_of_not_lt hdata'
      rw [List.getElem?_append_right hle, List.getElem?_drop, Nat.add_sub_cancel' hle,
        getElem?_region _ _ hi, List.getElem?_eq_none hle, Option.getD_none]
  · have hle : b.length ≤ i := Nat.le_of_not_lt hi
    rw [List.getElem?_eq_none (by rwa [length_region]), List.getElem?_eq_none]
    rw [List.length_append, List.length_drop, length_region]
    omega

/-- Filling buffers changes no byte that is not one of theirs. -/
lemma scatter_of_not_holds {q : ℕ} (h : ∀ b ∈ buffers, ¬b.Holds q) :
    scatter buffers payload bytes q = bytes q := by
  induction buffers generalizing payload bytes with
  | nil => rfl
  | cons b buffers ih =>
    obtain ⟨hb, hrest⟩ := List.forall_mem_cons.mp h
    rw [scatter, ih hrest, write_of_not_holds (List.length_take_le _ _) hb]

/-- Buffers apart from those that are filled. -/
lemma gather_scatter_of_apart {buffers' : List Buffer}
    (h : ∀ b' ∈ buffers', ∀ b ∈ buffers, b'.Apart b) :
    gather (scatter buffers payload bytes) buffers' = gather bytes buffers' :=
  gather_congr fun b' hb' q hq => scatter_of_not_holds fun b hb => h b' hb' b hb q hq

/-- **The buffers that were filled.** -/
lemma gather_scatter (h : buffers.Pairwise Buffer.Apart) :
    gather (scatter buffers payload bytes) buffers
      = payload.take (capacity buffers) ++ (gather bytes buffers).drop payload.length := by
  induction buffers generalizing payload bytes with
  | nil => simp [gather, capacity]
  | cons b buffers ih =>
    obtain ⟨hb, hrest⟩ := List.pairwise_cons.mp h
    have hhead : region (scatter (b :: buffers) payload bytes) b
        = payload.take b.length ++ (region bytes b).drop (payload.take b.length).length := by
      have hkept : region (scatter (b :: buffers) payload bytes) b
          = region (write b.data (payload.take b.length) bytes) b :=
        region_congr fun q hq => scatter_of_not_holds fun b' hb' => hb b' hb' q hq
      rw [hkept, region_write (List.length_take_le _ _)]
    have htail : gather (write b.data (payload.take b.length) bytes) buffers
        = gather bytes buffers :=
      gather_congr fun b' hb' q hq =>
        write_of_not_holds (List.length_take_le _ _) fun hq' => hb b' hb' q hq' hq
    have hcapacity : capacity (b :: buffers) = b.length + capacity buffers := List.sum_cons
    rw [gather_cons, hhead, scatter, ih hrest, htail, gather_cons, hcapacity, List.take_add,
      List.drop_append, length_region, List.length_drop]
    by_cases hfits : payload.length ≤ b.length
    · rw [List.drop_eq_nil_of_le hfits, List.take_of_length_le hfits]
      simp
    · have hlong : b.length ≤ payload.length := Nat.le_of_not_le hfits
      rw [List.length_take_of_le hlong, List.drop_eq_nil_of_le (length_region _ _).le,
        List.drop_eq_nil_of_le ((length_region _ _).trans_le hlong)]
      simp

/-- The part of the payload for which there is no room has no effect. -/
lemma scatter_take (buffers : List Buffer) (payload : List UInt8) (bytes : ℕ → UInt8) :
    scatter buffers (payload.take (capacity buffers)) bytes = scatter buffers payload bytes := by
  induction buffers generalizing payload bytes with
  | nil => rfl
  | cons b buffers ih =>
    have hcapacity : capacity (b :: buffers) = b.length + capacity buffers := List.sum_cons
    have htake : (payload.take (b.length + capacity buffers)).take b.length
        = payload.take b.length := by
      rw [List.take_take, Nat.min_eq_left (Nat.le_add_right _ _)]
    have hdrop : (payload.take (b.length + capacity buffers)).drop b.length
        = (payload.drop b.length).take (capacity buffers) := by
      rw [List.drop_take, Nat.add_sub_cancel_left]
    rw [scatter, scatter, hcapacity, htake, hdrop, ih]

/-! ## Several messages -/

/-- Every message fills its buffers, one after the other. -/
def deposit (messages : List (Incoming × List Buffer)) (bytes : ℕ → UInt8) : ℕ → UInt8 :=
  messages.foldl (fun bytes m => scatter m.2 m.1.payload bytes) bytes

/-- What the buffers hold that a message came into, or none; `bytes` are those before. -/
def held (bytes : ℕ → UInt8) (buffers : List Buffer) : Option Incoming → List UInt8
  | none => gather bytes buffers
  | some incoming =>
    incoming.payload.take (capacity buffers) ++ (gather bytes buffers).drop incoming.payload.length

lemma deposit_cons (incoming : Incoming) (buffers : List Buffer)
    (messages : List (Incoming × List Buffer)) (bytes : ℕ → UInt8) :
    deposit ((incoming, buffers) :: messages) bytes
      = deposit messages (scatter buffers incoming.payload bytes) := rfl

lemma held_congr {bytes' : ℕ → UInt8} (h : gather bytes buffers = gather bytes' buffers)
    (message : Option Incoming) : held bytes buffers message = held bytes' buffers message := by
  cases message with
  | none => exact h
  | some incoming => rw [held, held, h]

lemma deposit_of_not_holds {messages : List (Incoming × List Buffer)} {q : ℕ}
    (h : ∀ m ∈ messages, ∀ b ∈ m.2, ¬b.Holds q) : deposit messages bytes q = bytes q := by
  induction messages generalizing bytes with
  | nil => rfl
  | cons m messages ih =>
    obtain ⟨hm, hrest⟩ := List.forall_mem_cons.mp h
    exact (ih hrest).trans (scatter_of_not_holds hm)

/-- **The buffers of all messages.**  Those of the first ones were filled, those of the others
were not. -/
lemma gather_deposit (messages : List Incoming) {spaces : List (List Buffer)}
    (h : spaces.flatten.Pairwise Buffer.Apart) {i : ℕ} {buffers : List Buffer}
    (hi : spaces[i]? = some buffers) :
    gather (deposit (messages.zip spaces) bytes) buffers = held bytes buffers messages[i]? := by
  induction messages generalizing spaces i bytes with
  | nil => rfl
  | cons incoming messages ih =>
    rcases spaces with _ | ⟨space, spaces⟩
    · exact Option.absurd_none hi
    · rw [List.flatten_cons, List.pairwise_append] at h
      obtain ⟨hspace, hspaces, hacross⟩ := h
      rw [List.zip_cons_cons, deposit_cons]
      cases i with
      | zero =>
        obtain rfl : space = buffers := Option.some.inj hi
        rw [List.getElem?_cons_zero, held, ← gather_scatter hspace]
        refine gather_congr fun b hb q hq => deposit_of_not_holds fun m hm b' hb' => ?_
        have hmem : b' ∈ spaces.flatten :=
          List.mem_flatten.mpr ⟨m.2, (List.of_mem_zip hm).2, hb'⟩
        exact hacross b hb b' hmem q hq
      | succ i =>
        rw [List.getElem?_cons_succ] at hi ⊢
        have hmem : buffers ∈ spaces := List.mem_of_getElem? hi
        rw [ih hspaces hi]
        refine held_congr (gather_scatter_of_apart fun b' hb' b hb q hq' hq => ?_) _
        exact hacross b hb b' (List.mem_flatten.mpr ⟨buffers, hmem, hb'⟩) q hq hq'

end Memory

end SMBB
