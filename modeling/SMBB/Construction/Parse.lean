import SMBB.Construction.Interfaces
import Mathlib.Logic.Function.Basic

/-!
# `Parse`, POSIX build

`Parse` has two ways to its addresses.  The empty address stands for the interfaces of the host:
their list comes from `getifaddrs`, and `getaddrinfo` is only asked for the port.  Every other
address goes to `getaddrinfo`, whose list is stored as it is.  What `getaddrinfo` answers comes
from outside, as the list of interfaces does.

`results` is a function on all indices, so that a store beyond `resultsSize` would show.
-/

namespace SMBB

/-- `UDP`, which is `SOCK_DGRAM`. -/
def udp : ℕ := 2

/-- `PROTOCOL_UNSPECIFIED`. -/
def protocolUnspecified : ℕ := 0

/-- `AI_PASSIVE`. -/
def aiPassive : ℕ := 0x1

/-- `AI_V4MAPPED`. -/
def aiV4mapped : ℕ := 0x8

/-- The fields of an `addrinfo` that `Parse` asks with. -/
structure AddrinfoHints where
  flags : ℕ
  family : ℕ
  socktype : ℕ

/-- The fields of an `addrinfo` that `Parse` reads. -/
structure Addrinfo where
  family : ℕ
  addr : Option IPAddress

/-- `getaddrinfo`: the list for a node and a service, or `none` where it fails. -/
abbrev Getaddrinfo :=
  Option (List Char) → Option (List Char) → AddrinfoHints → Option (List Addrinfo)

namespace IPAddress

/-- `info.ai_socktype`: no service, an empty one and a number stand for a port. -/
def parseSocktype : Option (List Char) → ℕ
  | none => udp
  | some [] => udp
  | some (c :: _) => if '0' ≤ c ∧ c ≤ '9' then udp else protocolUnspecified

/-- The loop that finds the port: entries are looked at while it is zero. -/
def portLoop : List Addrinfo → ℕ → ℕ
  | [], port => port
  | it :: rest, port =>
    if port ≠ 0 then port
    else
      match it.addr with
      | none => portLoop rest port
      | some addr =>
        if it.family = ipv4 then portLoop rest addr.port
        else if it.family = ipv6 then portLoop rest addr.port
        else portLoop rest port

/-- What is stored for an entry of `getifaddrs`, if anything: a function of what the storage behind
a `sockaddr_in` holds. -/
def interfaceEntry (family port : ℕ) (it : Ifaddr) : Option (Vector UInt8 12 → IPAddress) :=
  match it.addr with
  | none => none
  | some addr =>
    if (family = familyUnspecified ∨ family = ipv4) ∧ addr.getFamily = ipv4
        ∧ addr.sinAddr ≠ loopbackIP then
      some fun storage => (ofSockaddrIn addr.sockaddrIn storage).withPort port
    else if (family = familyUnspecified ∨ family = ipv6) ∧ addr.getFamily = ipv6
        ∧ addr.sin6Addr ≠ loopbackIPv6 then
      some fun _ => (ofSockaddrIn6 addr.sockaddrIn6).withPort port
    else none

/-- What is stored for an entry of `getaddrinfo`, if anything. -/
def addrinfoEntry (it : Addrinfo) : Option (Vector UInt8 12 → IPAddress) :=
  match it.addr with
  | none => none
  | some addr =>
    if it.family = ipv4 then some fun storage => ofSockaddrIn addr.sockaddrIn storage
    else if it.family = ipv6 then some fun _ => ofSockaddrIn6 addr.sockaddrIn6
    else none

section Store

variable {α : Type} (entry : α → Option (Vector UInt8 12 → IPAddress))
  (storage : ℕ → Vector UInt8 12) (resultsSize : ℤ)

/-- The loop that stores the addresses of a list, from `results[i]` on. -/
def storeLoop : List α → ℕ → (ℕ → IPAddress) → (ℕ → IPAddress) × ℕ
  | [], i, results => (results, i)
  | it :: rest, i, results =>
    if i < resultsSize then
      match entry it with
      | some a => storeLoop rest (i + 1) (Function.update results i (a (storage i)))
      | none => storeLoop rest i results
    else (results, i)

end Store

/-- `Parse(results, resultsSize, address, service, bindable, family)`.  `storage` is what the
objects that `results` is assigned from hold behind a `sockaddr_in`. -/
def parse (interfaces : Interfaces) (getaddrinfo : Getaddrinfo) (storage : ℕ → Vector UInt8 12)
    (results : ℕ → IPAddress) (resultsSize : ℤ) (address service : Option (List Char))
    (bindable : Bool) (family : ℕ) : (ℕ → IPAddress) × ℤ :=
  let service := if address = none ∧ service = none then some [] else service
  let info : AddrinfoHints :=
    { flags := (if bindable then aiPassive else 0) ||| aiV4mapped
      family := family
      socktype := parseSocktype service }
  if address = some [] then
    let port :=
      match getaddrinfo none service info with
      | some result => portLoop result 0
      | none => 0
    match interfaces.getifaddrs with
    | some addresses =>
      let (results, i) :=
        storeLoop (interfaceEntry family port) storage resultsSize addresses 0 results
      (results, i)
    | none => (results, -1)
  else
    match getaddrinfo address service info with
    | some result =>
      let (results, i) := storeLoop addrinfoEntry storage resultsSize result 0 results
      (results, i)
    | none => (results, -1)

section Store

variable {α : Type} {entry : α → Option (Vector UInt8 12 → IPAddress)}
  {storage : ℕ → Vector UInt8 12} {resultsSize : ℤ} {it : α} {rest earlier : List α} {i : ℕ}
  {results : ℕ → IPAddress}

lemma storeLoop_cons_some {a : Vector UInt8 12 → IPAddress} (hroom : i < resultsSize)
    (h : entry it = some a) :
    storeLoop entry storage resultsSize (it :: rest) i results
      = storeLoop entry storage resultsSize rest (i + 1)
          (Function.update results i (a (storage i))) := by
  rw [storeLoop, if_pos hroom, h]

lemma storeLoop_cons_none (hroom : i < resultsSize) (h : entry it = none) :
    storeLoop entry storage resultsSize (it :: rest) i results
      = storeLoop entry storage resultsSize rest i results := by
  rw [storeLoop, if_pos hroom, h]

/-- What is behind the loop stays as it is. -/
lemma storeLoop_fst_of_lt (l : List α) {j : ℕ} (hj : j < i) :
    (storeLoop entry storage resultsSize l i results).1 j = results j := by
  induction l generalizing i results with
  | nil => rfl
  | cons it rest ih =>
    by_cases hroom : i < resultsSize
    · cases h : entry it with
      | none => rw [storeLoop_cons_none hroom h, ih hj]
      | some a =>
        rw [storeLoop_cons_some hroom h, ih (Nat.lt_succ_of_lt hj),
          Function.update_of_ne (Nat.ne_of_lt hj)]
    · rw [storeLoop, if_neg hroom]

/-- An entry is stored behind those of the list before it that are stored, if there is room. -/
lemma storeLoop_fst_stored {a : Vector UInt8 12 → IPAddress} (h : entry it = some a) {j : ℕ}
    (hj : j = i + earlier.countP fun e => (entry e).isSome) (hroom : j < resultsSize) :
    (storeLoop entry storage resultsSize (earlier ++ it :: rest) i results).1 j
      = a (storage j) := by
  induction earlier generalizing i results with
  | nil =>
    obtain rfl : j = i := hj
    rw [List.nil_append, storeLoop_cons_some hroom h, storeLoop_fst_of_lt _ (Nat.lt_succ_self j),
      Function.update_self]
  | cons e earlier ih =>
    have hi : (i : ℤ) < resultsSize := by omega
    rw [List.countP_cons] at hj
    cases he : entry e with
    | none =>
      rw [List.cons_append, storeLoop_cons_none hi he]
      exact ih (by simpa [he] using hj)
    | some b =>
      rw [List.cons_append, storeLoop_cons_some hi he]
      refine ih ?_
      rw [he, if_pos Option.isSome_some] at hj
      omega

/-- The counter ends at the number of entries that are stored, or where there is no more room. -/
lemma storeLoop_snd (l : List α) :
    ((storeLoop entry storage resultsSize l i results).2 : ℤ)
      = max (i : ℤ) (min resultsSize (i + l.countP fun it => (entry it).isSome : ℕ)) := by
  induction l generalizing i results with
  | nil =>
    rw [List.countP_nil, storeLoop]
    omega
  | cons it rest ih =>
    rw [List.countP_cons]
    by_cases hroom : i < resultsSize
    · cases h : entry it with
      | none =>
        rw [storeLoop_cons_none hroom h, ih, Option.isSome_none, if_neg Bool.false_ne_true,
          Nat.add_zero]
      | some a =>
        rw [storeLoop_cons_some hroom h, ih, Option.isSome_some, if_pos rfl]
        omega
    · rw [storeLoop, if_neg hroom]
      omega

lemma le_storeLoop_snd (l : List α) :
    i ≤ (storeLoop entry storage resultsSize l i results).2 := by
  have h : ((storeLoop entry storage resultsSize l i results).2 : ℤ) = _ := storeLoop_snd l
  omega

/-- From the counter on, nothing is stored. -/
lemma storeLoop_fst_of_ge (l : List α) {j : ℕ}
    (hj : (storeLoop entry storage resultsSize l i results).2 ≤ j) :
    (storeLoop entry storage resultsSize l i results).1 j = results j := by
  induction l generalizing i results with
  | nil => rfl
  | cons it rest ih =>
    by_cases hroom : i < resultsSize
    · cases h : entry it with
      | none =>
        rw [storeLoop_cons_none hroom h] at hj ⊢
        exact ih hj
      | some a =>
        rw [storeLoop_cons_some hroom h] at hj ⊢
        have hne : j ≠ i := (Nat.lt_of_succ_le ((le_storeLoop_snd rest).trans hj)).ne'
        rw [ih hj, Function.update_of_ne hne]
    · rw [storeLoop, if_neg hroom]

/-- Below the counter, the entries that are stored stand in their order. -/
lemma storeLoop_fst_of_lt_snd (l : List α) {j : ℕ} (hij : i ≤ j)
    (hj : j < (storeLoop entry storage resultsSize l i results).2) :
    ∃ it a, (l.filter fun it => (entry it).isSome)[j - i]? = some it ∧ entry it = some a
      ∧ (storeLoop entry storage resultsSize l i results).1 j = a (storage j) := by
  induction l generalizing i results with
  | nil => exact absurd hj (not_lt.mpr hij)
  | cons it rest ih =>
    by_cases hroom : i < resultsSize
    · cases h : entry it with
      | none =>
        rw [storeLoop_cons_none hroom h] at hj ⊢
        rw [List.filter_cons_of_neg (by rw [h]; exact Bool.false_ne_true)]
        exact ih hij hj
      | some a =>
        rw [storeLoop_cons_some hroom h] at hj ⊢
        rw [List.filter_cons_of_pos (by rw [h]; rfl)]
        obtain rfl | hlt := hij.eq_or_lt
        · refine ⟨it, a, ?_, h, ?_⟩
          · rw [Nat.sub_self]
            rfl
          · rw [storeLoop_fst_of_lt rest (Nat.lt_succ_self i), Function.update_self]
        · have hindex : j - i = j - (i + 1) + 1 := by omega
          rw [hindex, List.getElem?_cons_succ]
          exact ih hlt hj
    · rw [storeLoop, if_neg hroom] at hj
      exact absurd hj (not_lt.mpr hij)

end Store

end IPAddress

end SMBB
