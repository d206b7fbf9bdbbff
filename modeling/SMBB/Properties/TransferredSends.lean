import SMBB.Properties.Transfers

/-!
# Transfers that send

However often `SendMultiple` has to be called for an array of messages, for whatever numbers of
parts, and wherever the calls fail: the kernel has accepted the messages of those parts that were
counted, each of them once and in the order of the array (`sendMultiple_inOrder`).  No message is
lost where a call stops and none is sent again where the next one goes on.

The implementations differ in what a message is.  A native call hands over the headers as they
are; the emulating loops name the destinations.
-/

namespace SMBB

open Batch

variable {σ ρ : Type*}

/-- An operation sends the message that its header stands for, or it is refused, and the ledger
tells which.  `request` is the part of the header that the message depends on. -/
structure Sends
    (op : Host (σ × Ledger) → Message → Host (σ × Ledger) × Message × MessageResult)
    (request : Message → ρ) (outgoing : Memory → ρ → Outgoing) : Prop where
  memory : ∀ host header, (op host header).1.memory = host.memory
  header : ∀ host header, request (op host header).2.1 = request header
  accepted : ∀ host header, (op host header).2.2.failed = false →
    (op host header).1.socket.2
      = host.socket.2.accept (outgoing host.memory (request header)) (op host header).2.2.result
  refused : ∀ host header, (op host header).2.2.failed = true →
    (op host header).1.socket.2 = host.socket.2.refuse

/-- The messages of the parts that are finished were accepted. -/
def SentSoFar (request : Message → ρ) (outgoing : Memory → ρ → Outgoing) (memory : Memory)
    (args : List PartArgs) (t : Transfer (σ × Ledger)) : Prop :=
  LoggedSoFar (fun host => host.memory = memory) (fun host => host.socket.2.accepted)
    (fun part => (outgoing memory (request part.message), part.result))
    (fun part => request part.message) []
    ((constructed args).map fun part => request part.message) t

namespace SentSoFar

variable {request : Message → ρ} {outgoing : Memory → ρ → Outgoing} {memory : Memory}
  {args : List PartArgs} {t : Transfer (σ × Ledger)}

lemma start (request : Message → ρ) (outgoing : Memory → ρ → Outgoing) (socket : σ)
    (memory : Memory) (args : List PartArgs) :
    SentSoFar request outgoing memory args (Transfer.start (socket, .empty) memory args) :=
  LoggedSoFar.start (p := Transfer.start (socket, Ledger.empty) memory args) rfl rfl

lemma sizes (ht : SentSoFar request outgoing memory args t) :
    t.state.socket.2.accepted.map Prod.snd = t.finished.map MultiMessagePart.result := by
  rw [ht.log, List.nil_append, List.map_map]
  rfl

lemma accepted (ht : SentSoFar request outgoing memory args t) :
    t.state.socket.2.accepted.map Prod.fst
      = ((constructed args).map fun part => outgoing memory (request part.message)).take
          t.finished.length := by
  have hmap : _ = ((constructed args).map fun part => request part.message).map
      (outgoing memory) := congrArg (List.map (outgoing memory)) ht.requests
  rw [List.map_map, List.map_map] at hmap
  have hmessages : (constructed args).map (fun part => outgoing memory (request part.message))
      = (t.finished ++ t.left).map fun part => outgoing memory (request part.message) := hmap.symm
  rw [hmessages, List.map_append, List.take_left' (List.length_map _), ht.log, List.nil_append,
    List.map_map]
  rfl

end SentSoFar

namespace Sends

variable {op : Host (σ × Ledger) → Message → Host (σ × Ledger) × Message × MessageResult}
  {request : Message → ρ} {outgoing : Memory → ρ → Outgoing} {host host' : Host (σ × Ledger)}
  {part part' : MultiMessagePart}

lemma loopCall_memory (h : Sends op request outgoing) (host : Host (σ × Ledger))
    (part : MultiMessagePart) : (loopCall op host part).1.memory = host.memory := by
  rw [loopCall_host]
  exact h.memory host part.message

lemma loopCall_header (h : Sends op request outgoing) (host : Host (σ × Ledger))
    (part : MultiMessagePart) :
    request (loopCall op host part).2.1.message = request part.message := by
  rw [← h.header host part.message, loopCall]
  rcases op host part.message with ⟨host', message, result⟩
  dsimp only
  split <;> rfl

lemma loopCall_accepted (h : Sends op request outgoing)
    (hcall : loopCall op host part = (host', part', none)) :
    host'.socket.2
      = host.socket.2.accept (outgoing host.memory (request part.message)) part'.result := by
  have haccepted := h.accepted host part.message
  by_cases hfailed : (op host part.message).2.2.failed = true
  · rw [loopCall_eq, if_pos hfailed] at hcall
    exact Option.absurd_none (congrArg (fun r => r.2.2) hcall).symm
  · rw [loopCall_eq, if_neg hfailed, Prod.mk.injEq, Prod.mk.injEq] at hcall
    obtain ⟨rfl, rfl, -⟩ := hcall
    exact haccepted (Bool.eq_false_iff.mpr hfailed)

lemma loopCall_refused (h : Sends op request outgoing) {e : ℤ}
    (hcall : loopCall op host part = (host', part', some e)) :
    host'.socket.2 = host.socket.2.refuse := by
  have hrefused := h.refused host part.message
  by_cases hfailed : (op host part.message).2.2.failed = true
  · rw [loopCall_eq, if_pos hfailed, Prod.mk.injEq] at hcall
    obtain ⟨rfl, -⟩ := hcall
    exact hrefused hfailed
  · rw [loopCall_eq, if_neg hfailed] at hcall
    exact Option.absurd_none (congrArg (fun r => r.2.2) hcall)

/-- The rounds over such an operation log what they send. -/
lemma logged (h : Sends op request outgoing) (memory : Memory) :
    Logged (loopCall op) (fun host => host.memory = memory)
      (fun host => host.socket.2.accepted)
      (fun part => (outgoing memory (request part.message), part.result))
      (fun part => request part.message) where
  keeps hmemory := (h.loopCall_memory _ _).trans hmemory
  ok := by
    rintro host part host' part' rfl hcall
    have hheader := h.loopCall_header host part
    rw [hcall] at hheader
    rw [h.loopCall_accepted hcall, hheader]
    rfl
  failed := by
    rintro host part host' part' e - hcall
    rw [h.loopCall_refused hcall]
    rfl
  request _ := h.loopCall_header _ _

end Sends

/-! ## The implementations -/

/-- What the header of a native call stands for. -/
def outgoingHeader (memory : Memory) (header : Message) : Outgoing :=
  ⟨destination memory header, Memory.gather memory.bytes header.msgIov⟩

/-- What a part stands for. -/
def PartArgs.outgoing (memory : Memory) (arg : PartArgs) : Outgoing :=
  ⟨arg.target memory, arg.payload memory⟩

/-- A header without the length of its name, which `Send` sets before it hands the header over. -/
def Message.withoutNamelen (header : Message) : Message := { header with msgNamelen := 0 }

lemma Message.args_withoutNamelen (header : Message) : header.withoutNamelen.args = header.args :=
  rfl

/-- The header as `Send` completes it. -/
def Message.completed (memory : Memory) (header : Message) : Message :=
  { header with
    msgNamelen := (header.msgName.map fun p => (memory.addresses p).getLength).getD 0 }

/-- A completed header stands for what the part does. -/
lemma outgoing_completed (memory : Memory) (header : Message) :
    outgoingHeader memory (header.completed memory) = header.args.outgoing memory := by
  rcases header with ⟨_ | p, namelen, buffers, flags⟩
  · rfl
  · by_cases h : (memory.addresses p).getLength = 0
    · simp [Message.args, PartArgs.outgoing, PartArgs.target, PartArgs.payload, outgoingHeader,
        destination, Message.completed, h]
    · simp [Message.args, PartArgs.outgoing, PartArgs.target, PartArgs.payload, outgoingHeader,
        destination, Message.completed, h]

/-- `sendmsg` sends the message of its header. -/
lemma sends_sendmsg (kernel : Kernel σ) :
    Sends (resultCall (sendmsg kernel.recorded)) id outgoingHeader := by
  constructor <;> intro host header <;>
    rcases h : kernel.transmit host.socket.1 (outgoingHeader host.memory header)
      with ⟨socket, e | n⟩ <;>
    rw [outgoingHeader] at h <;>
    simp [resultCall, sendmsg, Kernel.recorded, h, MessageResult.ofCall, MessageResult.failed,
      outgoingHeader]

/-- `Send` is `sendmsg` on the completed header. -/
lemma send_eq (kernel : Kernel σ) (host : Host σ) (header : Message) :
    send kernel host header = resultCall (sendmsg kernel) host (header.completed host.memory) := rfl

/-- `Send` sends the message of the part. -/
lemma sends_send (kernel : Kernel σ) :
    Sends (send kernel.recorded) Message.withoutNamelen
      fun memory header => header.args.outgoing memory := by
  have h := sends_sendmsg kernel
  constructor <;> intro host header <;> rw [send_eq]
  · exact h.memory host _
  · have hheader := congrArg Message.withoutNamelen
      (h.header host (header.completed host.memory))
    exact hheader
  · intro hfailed
    rw [Message.args_withoutNamelen, ← outgoing_completed]
    exact h.accepted host _ hfailed
  · exact h.refused host _

namespace Windows

/-- The kernel counts fewer than `2 ^ 31` bytes for each message it accepts. -/
def Kernel.CountsFit (kernel : Kernel σ) : Prop :=
  ∀ socket message, (kernel.sendTo socket message).2.failed = false →
    0 ≤ (kernel.sendTo socket message).2.bytes.toInt

/-- What the kernel answers to the message of a part. -/
def sendResult (kernel : Kernel σ) (host : Host (σ × Ledger)) (header : Message) : WSAResult :=
  (kernel.sendTo host.socket.1 (header.args.outgoing host.memory)).2

/-- `Send` on Windows, by this answer. -/
lemma send_recorded (kernel : Kernel σ) (host : Host (σ × Ledger)) (header : Message) :
    (send kernel.recorded host header).1.socket.2
        = (if (sendResult kernel host header).failed = true then host.socket.2.refuse
          else host.socket.2.accept (header.args.outgoing host.memory)
            (sendResult kernel host header).bytes.toInt)
      ∧ (send kernel.recorded host header).2.2.result
        = if (sendResult kernel host header).failed = true then -1
          else (sendResult kernel host header).bytes.toInt := by
  rw [sendResult, ← outgoing_completed]
  exact ⟨rfl, rfl⟩

/-- `Send` on Windows sends the message of the part.  A larger count would be negative as a
`ResultLength`. -/
lemma sends_send {kernel : Kernel σ} (hcounts : kernel.CountsFit) :
    Sends (send kernel.recorded) Message.withoutNamelen
      fun memory header => header.args.outgoing memory := by
  constructor <;> intro host header
  · rfl
  · rfl
  all_goals
    obtain ⟨hledger, hlength⟩ := send_recorded kernel host header
    have hfit := hcounts host.socket.1 (header.args.outgoing host.memory)
    rw [← sendResult] at hfit
    rw [MessageResult.failed, hledger, hlength]
    cases hresult : (sendResult kernel host header).failed with
    | false => simp [hfit hresult, Message.args_withoutNamelen]
    | true => simp

end Windows

end SMBB
