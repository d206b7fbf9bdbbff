import SMBB.Properties.MultipleMessages

/-!
# Datagrams that do not fit

A datagram that is longer than the buffer is cut off, and `MessageResult` has `HasSizeError` to say
so.  Only `recvmsg` reports it, through `msg_flags`; the overloads of `Receive` over `recv` and
`recvfrom` see a call that succeeded.
-/

namespace SMBB

variable {σ : Type*}

/-- A message over one buffer. -/
def singleMessage (data length : ℕ) (address : Option ℕ) : Message :=
  Message.construct [⟨data, length⟩] address

lemma capacity_singleMessage (data length : ℕ) (address : Option ℕ) :
    capacity (singleMessage data length address).msgIov = length :=
  List.sum_singleton

lemma not_hasSizeError (n : ℤ) : ¬(⟨n, 0⟩ : MessageResult).hasSizeError = true := by
  simp [MessageResult.hasSizeError, msgSize]

section Overloads

variable {kernel : Kernel σ} {flags : ℕ} {host : Host σ} {data length : ℕ} {from' : ℕ}
  {address : Option ℕ} {socket : σ}

/-- The bytes that are left in a buffer. -/
def storedLength (length : ℕ) (answer : Except ℤ Incoming) : Except ℤ ℕ :=
  answer.map fun incoming => (incoming.payload.take length).length

lemma receiveData_result (kernel : Kernel σ) (flags : ℕ) (host : Host σ) (data length : ℕ) :
    (receiveData kernel flags host data length).2
      = .ofCall (storedLength length (kernel.deliver host.socket flags length).2) := by
  rw [receiveData, recv]
  rcases kernel.deliver host.socket flags length with ⟨socket, e | incoming⟩
  · rfl
  · rfl

lemma receiveFrom_result (kernel : Kernel σ) (flags : ℕ) (host : Host σ)
    (data length from' : ℕ) :
    (receiveFrom kernel flags host data length from').2
      = .ofCall (storedLength length (kernel.deliver host.socket flags length).2) := by
  rw [receiveFrom, recvfrom]
  rcases kernel.deliver host.socket flags length with ⟨socket, e | incoming⟩
  · rfl
  · rfl

lemma receive_ok {incoming : Incoming}
    (h : kernel.deliver host.socket flags length = (socket, .ok incoming)) :
    (receive kernel flags host (singleMessage data length address)).2.2
      = ⟨(incoming.payload.take length).length,
          if length < incoming.payload.length then msgSize else 0⟩ := by
  rw [receive, recvmsg]
  simp only [capacity_singleMessage, h, receivedHeader]
  by_cases hfits : length < incoming.payload.length
  · have hflag : msgTrunc &&& msgTrunc ≠ 0 := by decide
    rw [if_pos hfits, if_pos hfits, if_pos hflag]
  · rw [if_neg hfits, if_neg hfits, Nat.zero_and, if_neg (not_not.mpr rfl)]

lemma receive_error {e : ℤ}
    (h : kernel.deliver host.socket flags length = (socket, .error e)) :
    (receive kernel flags host (singleMessage data length address)).2.2 = ⟨-1, e⟩ := by
  rw [receive, recvmsg]
  simp only [capacity_singleMessage, h]

end Overloads

/-- The three overloads of `Receive` return the same, and for a datagram all three have a size
error exactly when it does not fit. -/
structure OverloadsAgree (kernel : Kernel σ) (flags : ℕ) (host : Host σ) (data length from' : ℕ)
    (address : Option ℕ) : Prop where
  data_eq_from : (receiveData kernel flags host data length).2
    = (receiveFrom kernel flags host data length from').2
  from_eq_message : (receiveFrom kernel flags host data length from').2
    = (receive kernel flags host (singleMessage data length address)).2.2
  sizeError_iff : ∀ incoming, (kernel.deliver host.socket flags length).2 = .ok incoming →
    ∀ result ∈ [(receiveData kernel flags host data length).2,
      (receiveFrom kernel flags host data length from').2,
      (receive kernel flags host (singleMessage data length address)).2.2],
      result.hasSizeError = true ↔ length < incoming.payload.length

/-- **The overloads of `Receive` agree, and all report a datagram that was cut off,** exactly when
none arrives that is longer than the buffer. -/
theorem overloadsAgree_iff (kernel : Kernel σ) (flags : ℕ) (host : Host σ)
    (data length from' : ℕ) (address : Option ℕ) :
    OverloadsAgree kernel flags host data length from' address
      ↔ ∀ incoming, (kernel.deliver host.socket flags length).2 = .ok incoming →
          incoming.payload.length ≤ length := by
  have hsame : (receiveData kernel flags host data length).2
      = (receiveFrom kernel flags host data length from').2 := by
    rw [receiveData_result, receiveFrom_result]
  rcases h : kernel.deliver host.socket flags length with ⟨socket, e | incoming⟩
  · -- a failure is the same in all three
    refine iff_of_true ⟨hsame, ?_, fun incoming h' => ?_⟩ fun incoming h' => ?_
    · rw [receiveFrom_result, receive_error h, h]
      rfl
    · rw [h] at h'
      cases h'
    · cases h'
  · have hfrom : (receiveFrom kernel flags host data length from').2
        = ⟨(incoming.payload.take length).length, 0⟩ := by
      rw [receiveFrom_result, h]
      rfl
    constructor
    · intro hagree incoming' h'
      obtain rfl := Except.ok.inj h'
      by_contra hlong
      have herror := congrArg MessageResult.error hagree.from_eq_message
      rw [hfrom, receive_ok h, if_pos (not_le.mp hlong)] at herror
      exact absurd (show (0 : ℤ) = msgSize from herror) (by decide)
    · intro hfits
      have hshort : ¬length < incoming.payload.length := not_lt.mpr (hfits incoming rfl)
      have hmessage : (receive kernel flags host (singleMessage data length address)).2.2
          = ⟨(incoming.payload.take length).length, 0⟩ := by
        rw [receive_ok h, if_neg hshort]
      refine ⟨hsame, hfrom.trans hmessage.symm, fun incoming' h' result hresult => ?_⟩
      rw [h] at h'
      obtain rfl := Except.ok.inj h'
      rw [hsame, hfrom, hmessage] at hresult
      obtain rfl : result = ⟨(incoming.payload.take length).length, 0⟩ := by
        simpa using hresult
      exact iff_of_false (not_hasSizeError _) hshort

/-- Three bytes arrive, and there is room for two. -/
theorem not_overloadsAgree_short :
    ∃ host : Host (List Incoming), host.socket = [⟨[], [1, 2, 3]⟩]
      ∧ (receiveData datagramQueue 0 host 0 2).2 = ⟨2, 0⟩
      ∧ (receive datagramQueue 0 host (singleMessage 0 2 none)).2.2 = ⟨2, msgSize⟩
      ∧ ¬OverloadsAgree datagramQueue 0 host 0 2 0 none := by
  refine ⟨{ waitingHost with socket := [⟨[], [1, 2, 3]⟩] }, rfl, by decide, by decide,
    fun h => ?_⟩
  exact absurd (h.data_eq_from.trans h.from_eq_message) (by decide)

end SMBB
