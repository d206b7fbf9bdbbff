import SMBB.Properties.Buffers
import SMBB.Properties.Transfers

/-!
# Transfers that receive

However often `ReceiveMultiple` has to be called for an array of parts, for whatever numbers of
parts, and wherever the calls fail: every message that the kernel has delivered is in the buffers
of the next part, as far as it fits there, and nothing else in the memory has changed but the
addresses that the parts name (`receiveMultiple_inOrder`).  The results of the parts are the sizes
of what is in their buffers.

The buffers must be apart from each other.  What becomes of the memory is told without this first
(`Memory.deposit`), then what the buffers hold.
-/

namespace SMBB

open Batch

variable {σ : Type*}

/-- An operation fills the buffers of its header with a message that was delivered, or it is
refused, and the ledger tells which. -/
structure Receives
    (op : Host (σ × Ledger) → Message → Host (σ × Ledger) × Message × MessageResult) : Prop where
  header : ∀ host header, (op host header).2.1.args = header.args
  addresses : ∀ host header p, header.msgName ≠ some p →
    (op host header).1.memory.addresses p = host.memory.addresses p
  delivered : ∀ host header, (op host header).2.2.failed = false → ∃ incoming,
    (op host header).1.socket.2 = host.socket.2.deliver incoming
      ∧ (op host header).1.memory.bytes
        = Memory.scatter header.msgIov incoming.payload host.memory.bytes
      ∧ (op host header).2.2.result
        = (incoming.payload.take (capacity header.msgIov)).length
  refused : ∀ host header, (op host header).2.2.failed = true →
    (op host header).1.socket.2 = host.socket.2.refuse
      ∧ (op host header).1.memory.bytes = host.memory.bytes

/-- The messages that were delivered are in the buffers of the parts that are finished. -/
structure Deposited (args : List PartArgs) (memory : Memory) (t : Transfer (σ × Ledger)) :
    Prop where
  delivered : t.state.socket.2.delivered.length = t.finished.length
  parts : (t.finished ++ t.left).map (fun part => part.message.args) = args
  bytes : t.state.memory.bytes
    = Memory.deposit (t.state.socket.2.delivered.zip (args.map PartArgs.buffers)) memory.bytes
  addresses : ∀ p, (∀ arg ∈ args, arg.address ≠ some p) →
    t.state.memory.addresses p = memory.addresses p
  sizes : t.finished.map MultiMessagePart.result
    = (t.state.socket.2.delivered.zip args).map fun d =>
        ((d.1.payload.take (capacity d.2.buffers)).length : ℤ)

namespace Deposited

variable {args : List PartArgs} {memory : Memory} {t : Transfer (σ × Ledger)}

lemma start (socket : σ) (memory : Memory) (args : List PartArgs) :
    Deposited args memory (Transfer.start (socket, .empty) memory args) := by
  refine ⟨rfl, ?_, rfl, fun _ _ => rfl, rfl⟩
  have hargs : (constructed args).map (fun part => part.message.args) = args := by
    rw [constructed, List.map_map]
    exact List.map_id' args
  exact hargs

lemma contents (h : Deposited args memory t)
    (hapart : (args.flatMap PartArgs.buffers).Pairwise Buffer.Apart) {i : ℕ} {arg : PartArgs}
    (hi : args[i]? = some arg) :
    Memory.gather t.state.memory.bytes arg.buffers
      = Memory.held memory.bytes arg.buffers t.state.socket.2.delivered[i]? := by
  rw [h.bytes]
  refine Memory.gather_deposit _ ?_ ?_
  · rwa [← List.flatMap_def]
  · rw [List.getElem?_map, hi]
    rfl

lemma outside (h : Deposited args memory t) {q : ℕ}
    (hq : ∀ arg ∈ args, ∀ b ∈ arg.buffers, ¬b.Holds q) :
    t.state.memory.bytes q = memory.bytes q := by
  rw [h.bytes]
  refine Memory.deposit_of_not_holds fun m hm b hb => ?_
  obtain ⟨arg, harg, hbuffers⟩ := List.mem_map.mp (List.of_mem_zip hm).2
  exact hq arg harg b (hbuffers ▸ hb)

end Deposited

/-- One more message goes into the space behind those that are in use. -/
lemma zip_concat {α β : Type*} {messages : List α} {used : List β}
    (hlength : messages.length = used.length) (message : α) (space : β) (rest : List β) :
    (messages ++ [message]).zip (used ++ space :: rest)
      = messages.zip (used ++ space :: rest) ++ [(message, space)] := by
  have hbefore : messages.zip (used ++ space :: rest) = messages.zip used := by
    have h : (messages ++ []).zip (used ++ space :: rest)
        = messages.zip used ++ ([] : List α).zip (space :: rest) := List.zip_append hlength
    rwa [List.append_nil, List.zip_nil_left, List.append_nil] at h
  rw [List.zip_append hlength, hbefore]
  rfl

namespace Receives

variable {op : Host (σ × Ledger) → Message → Host (σ × Ledger) × Message × MessageResult}
  {host host' : Host (σ × Ledger)} {part part' : MultiMessagePart}

lemma loopCall_header (h : Receives op) (host : Host (σ × Ledger)) (part : MultiMessagePart) :
    (loopCall op host part).2.1.message.args = part.message.args := by
  rw [← h.header host part.message, loopCall_eq]
  split <;> rfl

lemma loopCall_addresses (h : Receives op) (host : Host (σ × Ledger)) {part : MultiMessagePart}
    {p : ℕ} (hp : part.message.args.address ≠ some p) :
    (loopCall op host part).1.memory.addresses p = host.memory.addresses p := by
  rw [loopCall_host]
  exact h.addresses host part.message p hp

lemma loopCall_delivered (h : Receives op)
    (hcall : loopCall op host part = (host', part', none)) :
    ∃ incoming, host'.socket.2 = host.socket.2.deliver incoming
      ∧ host'.memory.bytes
        = Memory.scatter part.message.msgIov incoming.payload host.memory.bytes
      ∧ part'.result = (incoming.payload.take (capacity part.message.msgIov)).length := by
  have hdelivered := h.delivered host part.message
  by_cases hfailed : (op host part.message).2.2.failed = true
  · rw [loopCall_eq, if_pos hfailed] at hcall
    exact Option.absurd_none (congrArg (fun r => r.2.2) hcall).symm
  · rw [loopCall_eq, if_neg hfailed, Prod.mk.injEq, Prod.mk.injEq] at hcall
    obtain ⟨rfl, rfl, -⟩ := hcall
    exact hdelivered (Bool.eq_false_iff.mpr hfailed)

lemma loopCall_refused (h : Receives op) {e : ℤ}
    (hcall : loopCall op host part = (host', part', some e)) :
    host'.socket.2 = host.socket.2.refuse ∧ host'.memory.bytes = host.memory.bytes := by
  have hrefused := h.refused host part.message
  by_cases hfailed : (op host part.message).2.2.failed = true
  · rw [loopCall_eq, if_pos hfailed, Prod.mk.injEq] at hcall
    obtain ⟨rfl, -⟩ := hcall
    exact hrefused hfailed
  · rw [loopCall_eq, if_neg hfailed] at hcall
    exact Option.absurd_none (congrArg (fun r => r.2.2) hcall)

/-- An attempt puts one more message into the next part. -/
lemma attempt_deposited (h : Receives op) {args : List PartArgs} {memory : Memory}
    {t : Transfer (σ × Ledger)} (ht : Deposited args memory t) :
    Deposited args memory (Progress.attempt (loopCall op) t) := by
  rcases t with ⟨host, finished, _ | ⟨part, left⟩⟩
  · exact ht
  · have hheader := h.loopCall_header host part
    have hparts : finished.map (fun part => part.message.args)
        ++ part.message.args :: left.map (fun part => part.message.args) = args := by
      rw [← ht.parts, List.map_append, List.map_cons]
    have haddresses : ∀ p, (∀ arg ∈ args, arg.address ≠ some p) →
        (loopCall op host part).1.memory.addresses p = memory.addresses p := by
      intro p hp
      have hpart : part.message.args ∈ args := by
        rw [← hparts]
        exact List.mem_append_right _ List.mem_cons_self
      exact (h.loopCall_addresses host (hp _ hpart)).trans (ht.addresses p hp)
    rcases hcall : loopCall op host part with ⟨host', part', _ | e⟩
    · rw [hcall] at hheader haddresses
      obtain ⟨incoming, hsocket, hbytes, hresult⟩ := h.loopCall_delivered hcall
      have hlength : host.socket.2.delivered.length
          = (finished.map fun part => part.message.args).length :=
        ht.delivered.trans (List.length_map _).symm
      have hzip : (host.socket.2.delivered ++ [incoming]).zip args
          = host.socket.2.delivered.zip args ++ [(incoming, part.message.args)] := by
        rw [← hparts]
        exact zip_concat hlength _ _ _
      have hspaces : (host.socket.2.delivered ++ [incoming]).zip (args.map PartArgs.buffers)
          = host.socket.2.delivered.zip (args.map PartArgs.buffers)
            ++ [(incoming, part.message.msgIov)] := by
        rw [List.zip_map_right, hzip, List.map_append, ← List.zip_map_right]
        rfl
      rw [Progress.attempt_ok hcall]
      refine ⟨?_, ?_, ?_, haddresses, ?_⟩
      · rw [hsocket, List.length_append, ← ht.delivered]
        exact List.length_append
      · rw [← hparts, ← hheader, List.append_assoc, List.map_append]
        rfl
      · rw [hsocket, hbytes, ht.bytes]
        change _ = Memory.deposit
          ((host.socket.2.delivered ++ [incoming]).zip (args.map PartArgs.buffers)) memory.bytes
        rw [hspaces, Memory.deposit, Memory.deposit, List.foldl_append]
        rfl
      · rw [hsocket, List.map_append, ht.sizes]
        change _ = ((host.socket.2.delivered ++ [incoming]).zip args).map _
        rw [hzip, List.map_append, List.map_cons, hresult]
        rfl
    · rw [hcall] at hheader haddresses
      obtain ⟨hsocket, hbytes⟩ := h.loopCall_refused hcall
      rw [Progress.attempt_failed hcall]
      refine ⟨?_, ?_, ?_, haddresses, ?_⟩
      · rw [hsocket]
        exact ht.delivered
      · rw [← hparts, ← hheader, List.map_append]
        rfl
      · rw [hsocket, hbytes]
        exact ht.bytes
      · rw [hsocket]
        exact ht.sizes

end Receives

/-! ## The implementations -/

/-- A sender is stored over the address of its header. -/
lemma storeSender_of_ne {header : Message} {p : ℕ} (sender : List UInt8)
    (addresses : ℕ → IPAddress) (hp : header.msgName ≠ some p) :
    storeSender header sender addresses p = addresses p := by
  rw [storeSender]
  rcases hq : header.msgName with _ | q
  · rfl
  · exact Function.update_of_ne (fun h => hp (hq.trans (congrArg some h.symm))) _ _

/-- `recvmsg` fills the buffers of its header. -/
lemma receives_recvmsg (kernel : Kernel σ) (flags : ℕ) :
    Receives (resultCall (recvmsg kernel.recorded flags)) := by
  constructor <;> intro host header <;>
    rcases h : kernel.deliver host.socket.1 flags (capacity header.msgIov)
      with ⟨socket, e | incoming⟩
  · simp [resultCall, recvmsg, Kernel.recorded, h]
  · simp [resultCall, recvmsg, Kernel.recorded, h, receivedHeader, Message.args]
  · simp [resultCall, recvmsg, Kernel.recorded, h]
  · intro p hp
    have hstored := storeSender_of_ne incoming.sender host.memory.addresses hp
    simpa [resultCall, recvmsg, Kernel.recorded, h] using hstored
  · simp [resultCall, recvmsg, Kernel.recorded, h, MessageResult.ofCall, MessageResult.failed]
  · intro _
    refine ⟨incoming, ?_⟩
    simp [resultCall, recvmsg, Kernel.recorded, h, MessageResult.ofCall, Memory.scatter_take]
  · simp [resultCall, recvmsg, Kernel.recorded, h]
  · simp [resultCall, recvmsg, Kernel.recorded, h, MessageResult.ofCall, MessageResult.failed]

/-- The header as `Receive` completes it. -/
def Message.receiving (header : Message) : Message :=
  { header with msgNamelen := if header.msgName.isSome then IPAddress.sizeofSockaddrIn6 else 0 }

/-- `Receive` is `recvmsg` on the completed header, apart from the error that it returns. -/
lemma receive_eq (kernel : Kernel σ) (flags : ℕ) (host : Host σ) (header : Message) :
    (receive kernel flags host header).1
        = (resultCall (recvmsg kernel flags) host header.receiving).1
      ∧ (receive kernel flags host header).2.1
        = (resultCall (recvmsg kernel flags) host header.receiving).2.1
      ∧ (receive kernel flags host header).2.2.result
        = (resultCall (recvmsg kernel flags) host header.receiving).2.2.result := by
  rw [receive, resultCall, Message.receiving]
  rcases recvmsg kernel flags host
    { header with msgNamelen := if header.msgName.isSome then IPAddress.sizeofSockaddrIn6 else 0 }
    with ⟨host', message, e | n⟩
  · exact ⟨rfl, rfl, rfl⟩
  · exact ⟨rfl, rfl, rfl⟩

/-- So does `Receive`. -/
lemma receives_receive (kernel : Kernel σ) (flags : ℕ) :
    Receives (receive kernel.recorded flags) := by
  have h := receives_recvmsg kernel flags
  constructor <;> intro host header <;>
    obtain ⟨hhost, hmessage, hresult⟩ := receive_eq kernel.recorded flags host header
  · rw [hmessage]
    exact h.header host header.receiving
  · rw [hhost]
    exact h.addresses host header.receiving
  · rw [MessageResult.failed, hhost, hresult]
    exact h.delivered host header.receiving
  · rw [MessageResult.failed, hhost, hresult]
    exact h.refused host header.receiving

namespace Windows

/-- A datagram socket: of a message that is stored, as many bytes are counted as there is room
for, and if the call fails it is for the size of the message.  Without a message it fails for
another reason. -/
structure Kernel.Datagrams (kernel : Kernel σ) : Prop where
  stored : ∀ socket flags space incoming,
    (kernel.recvFrom socket flags space).2.2 = some incoming →
      (kernel.recvFrom socket flags space).2.1.bytes.toInt = (incoming.payload.take space).length
        ∧ ((kernel.recvFrom socket flags space).2.1.failed = true →
          (kernel.recvFrom socket flags space).2.1.lastError = wsaMsgSize)
  nothing : ∀ socket flags space, (kernel.recvFrom socket flags space).2.2 = none →
    (kernel.recvFrom socket flags space).2.1.failed = true
      ∧ (kernel.recvFrom socket flags space).2.1.lastError ≠ wsaMsgSize

section Receive

variable {kernel : Kernel σ} {flags : ℕ} {host : Host (σ × Ledger)} {header : Message}
  {socket : σ} {result : WSAResult}

/-- `Receive` on Windows, if a message is stored. -/
lemma receive_stored (hkernel : kernel.Datagrams) {incoming : Incoming}
    (h : kernel.recvFrom host.socket.1 flags (capacity header.msgIov)
      = (socket, result, some incoming)) :
    (receive kernel.recorded flags host header).1.socket.2 = host.socket.2.deliver incoming
      ∧ (receive kernel.recorded flags host header).1.memory.bytes
        = Memory.scatter header.msgIov incoming.payload host.memory.bytes
      ∧ (receive kernel.recorded flags host header).2.2.result
        = (incoming.payload.take (capacity header.msgIov)).length := by
  have hstored := hkernel.stored host.socket.1 flags (capacity header.msgIov) incoming
  rw [h] at hstored
  obtain ⟨hbytes, hsize⟩ := hstored rfl
  rw [← hbytes]
  rcases header with ⟨_ | p, namelen, buffers, messageFlags⟩ <;>
    cases hfailed : result.failed <;>
    simp_all [receive, Kernel.recorded, storeIncoming]

/-- And if not. -/
lemma receive_nothing (hkernel : kernel.Datagrams)
    (h : kernel.recvFrom host.socket.1 flags (capacity header.msgIov) = (socket, result, none)) :
    (receive kernel.recorded flags host header).1.socket.2 = host.socket.2.refuse
      ∧ (receive kernel.recorded flags host header).1.memory.bytes = host.memory.bytes
      ∧ (receive kernel.recorded flags host header).2.2.result = -1 := by
  have hnothing := hkernel.nothing host.socket.1 flags (capacity header.msgIov)
  rw [h] at hnothing
  obtain ⟨hfailed, herror⟩ := hnothing rfl
  rcases header with ⟨_ | p, namelen, buffers, messageFlags⟩ <;>
    simp_all [receive, Kernel.recorded]

/-- `Receive` on Windows stores no address but that of its header. -/
lemma receive_addresses (kernel : Kernel σ) (flags : ℕ) (host : Host (σ × Ledger))
    (header : Message) (p : ℕ) (hp : header.msgName ≠ some p) :
    (receive kernel.recorded flags host header).1.memory.addresses p
      = host.memory.addresses p := by
  rw [receive]
  rcases kernel.recorded.recvFrom host.socket flags _ with ⟨socket, result, _ | incoming⟩
  · rfl
  · refine storeSender_of_ne incoming.sender host.memory.addresses ?_
    split
    · exact hp
    · exact hp

end Receive

/-- `Receive` on Windows fills the buffers of its header. -/
lemma receives_receive {kernel : Kernel σ} (hkernel : kernel.Datagrams) (flags : ℕ) :
    Receives (receive kernel.recorded flags) := by
  constructor
  · rintro host ⟨_ | p, namelen, buffers, messageFlags⟩ <;> rfl
  · exact receive_addresses kernel flags
  all_goals
    intro host header
    rcases h : kernel.recvFrom host.socket.1 flags (capacity header.msgIov)
      with ⟨socket, result, _ | incoming⟩
  · rw [MessageResult.failed, (receive_nothing hkernel h).2.2]
    exact fun hok => absurd hok (by decide)
  · exact fun _ => ⟨incoming, receive_stored hkernel h⟩
  · obtain ⟨hledger, hmemory, -⟩ := receive_nothing hkernel h
    exact fun _ => ⟨hledger, hmemory⟩
  · rw [MessageResult.failed, (receive_stored hkernel h).2.2]
    exact fun hlost => absurd (of_decide_eq_true hlost) (Int.natCast_nonneg _).not_gt

end Windows

end SMBB
