import SMBB.Properties.TransferredReceives
import SMBB.Properties.TransferredSends

/-!
# Two ends of a connection

One process transfers messages with `SendMultiple` and another one transfers them into its parts
with `ReceiveMultiple`, over a connection that keeps the messages and their order.  The calls of
the two processes come in any order and are for any numbers of parts; a call that those of the
other process come in between of is a row of calls for one part each (`Progress.goOn_succ_ok`).
Any call of the system may fail.

At every moment, the parts that the receiver has finished hold the payloads of as many messages,
the first ones of the sender, and the messages of the parts that only the sender has finished are
on their way (`exchange_inOrder`).
-/

namespace SMBB

open Batch

/-! ## The connection -/

/-- The messages that are on their way, and the number of calls so far. -/
structure Channel where
  inFlight : List Incoming
  calls : ℕ

/-- `MSG_PEEK`. -/
def msgPeek : ℕ := 0x2

namespace Channel

/-- Nothing has been sent. -/
def empty : Channel := ⟨[], 0⟩

/-- The kernel on both ends, for a sender with the socket address `source`.  The `i`-th call fails
with `fate i`, if that is an error, and receiving also if no message is there (`EAGAIN`). -/
def kernel (fate : ℕ → Option ℤ) (source : List UInt8) : Kernel Channel where
  transmit c message :=
    match fate c.calls with
    | none => (⟨c.inFlight ++ [⟨source, message.payload⟩], c.calls + 1⟩,
        .ok message.payload.length)
    | some e => (⟨c.inFlight, c.calls + 1⟩, .error e)
  deliver c flags _ :=
    match fate c.calls, c.inFlight with
    | none, incoming :: rest =>
      (⟨if flags &&& msgPeek = 0 then rest else incoming :: rest, c.calls + 1⟩, .ok incoming)
    | none, [] => (⟨[], c.calls + 1⟩, .error 11)
    | some e, inFlight => (⟨inFlight, c.calls + 1⟩, .error e)

/-- What was accepted is what was delivered and what is on its way. -/
def Lawful (source : List UInt8) (s : Channel × Ledger) : Prop :=
  s.2.delivered ++ s.1.inFlight = s.2.accepted.map fun a => ⟨source, a.1.payload⟩

variable {fate : ℕ → Option ℤ} {source : List UInt8} {s : Channel × Ledger}

lemma lawful_transmit (h : Lawful source s) (message : Outgoing) :
    Lawful source ((kernel fate source).recorded.transmit s message).1 := by
  rcases s with ⟨⟨inFlight, calls⟩, ledger⟩
  rcases hfate : fate calls with _ | e
  · simp only [Lawful, Kernel.recorded, kernel, hfate, Ledger.accept, List.map_append] at h ⊢
    rw [← h, List.append_assoc]
    rfl
  · simpa only [Lawful, Kernel.recorded, kernel, hfate, Ledger.refuse] using h

lemma lawful_deliver {flags : ℕ} (hflags : flags &&& msgPeek = 0) (h : Lawful source s)
    (space : ℕ) : Lawful source ((kernel fate source).recorded.deliver s flags space).1 := by
  rcases s with ⟨⟨inFlight, calls⟩, ledger⟩
  rcases hfate : fate calls with _ | e
  · rcases inFlight with _ | ⟨incoming, rest⟩
    · simpa only [Lawful, Kernel.recorded, kernel, hfate, Ledger.refuse] using h
    · simp only [Lawful, Kernel.recorded, kernel, hfate, Ledger.deliver, if_pos hflags] at h ⊢
      rw [← h, List.append_assoc]
      rfl
  · simpa only [Lawful, Kernel.recorded, kernel, hfate, Ledger.refuse] using h

end Channel

/-! ## The two processes -/

/-- A process but for its socket. -/
structure Party where
  memory : Memory
  sent : List Outgoing
  finished : List MultiMessagePart
  left : List MultiMessagePart

/-- The transfer of a process. -/
def Party.transfer {σ : Type*} (party : Party) (socket : σ) : Transfer σ :=
  ⟨⟨socket, party.memory, party.sent⟩, party.finished, party.left⟩

/-- The process of a transfer. -/
def Transfer.party {σ : Type*} (t : Transfer σ) : Party :=
  ⟨t.state.memory, t.state.sent, t.finished, t.left⟩

/-- The connection and its two ends. -/
structure Exchange where
  channel : Channel × Ledger
  sender : Party
  receiver : Party

/-- A call of one of the two processes. -/
inductive Move
  | send (n : ℕ)
  | receive (n : ℕ)

namespace Exchange

/-- Before the first call. -/
def start (memory memory' : Memory) (sends receives : List PartArgs) : Exchange where
  channel := (.empty, .empty)
  sender := ⟨memory, [], [], constructed sends⟩
  receiver := ⟨memory', [], [], constructed receives⟩

/-- The sender has come so far. -/
def sentUpTo (x : Exchange) (t : Transfer (Channel × Ledger)) : Exchange :=
  { x with channel := t.state.socket, sender := t.party }

/-- The receiver has come so far. -/
def receivedUpTo (x : Exchange) (t : Transfer (Channel × Ledger)) : Exchange :=
  { x with channel := t.state.socket, receiver := t.party }

/-- One call. -/
def move (sendCall receiveCall : ArrayCall (Channel × Ledger)) (x : Exchange) : Move → Exchange
  | .send n => x.sentUpTo ((x.sender.transfer x.channel).again sendCall n)
  | .receive n => x.receivedUpTo ((x.receiver.transfer x.channel).again receiveCall n)

end Exchange

/-! ## What the calls do to the connection -/

section Calls

variable {fate : ℕ → Option ℤ} {source : List UInt8}

lemma lawful_sendmsg {host : Host (Channel × Ledger)} (h : Channel.Lawful source host.socket)
    (header : Message) :
    Channel.Lawful source
      (resultCall (sendmsg (Channel.kernel fate source).recorded) host header).1.socket := by
  have hsocket : (resultCall (sendmsg (Channel.kernel fate source).recorded) host header).1.socket
      = ((Channel.kernel fate source).recorded.transmit host.socket
        (outgoingHeader host.memory header)).1 := by
    rw [resultCall, sendmsg, outgoingHeader]
    rcases (Channel.kernel fate source).recorded.transmit host.socket
      ⟨destination host.memory header, Memory.gather host.memory.bytes header.msgIov⟩
      with ⟨socket, e | n⟩ <;> rfl
  rw [hsocket]
  exact Channel.lawful_transmit h _

lemma lawful_recvmsg {flags : ℕ} (hflags : flags &&& msgPeek = 0)
    {host : Host (Channel × Ledger)} (h : Channel.Lawful source host.socket) (header : Message) :
    Channel.Lawful source
      (resultCall (recvmsg (Channel.kernel fate source).recorded flags) host header).1.socket := by
  have hsocket : (resultCall (recvmsg (Channel.kernel fate source).recorded flags) host
      header).1.socket
      = ((Channel.kernel fate source).recorded.deliver host.socket flags
        (capacity header.msgIov)).1 := by
    rw [resultCall, recvmsg]
    rcases (Channel.kernel fate source).recorded.deliver host.socket flags
      (capacity header.msgIov) with ⟨socket, e | incoming⟩ <;> rfl
  rw [hsocket]
  exact Channel.lawful_deliver hflags h _

end Calls

/-- An operation on a lawful connection leaves a lawful one. -/
def KeepsLaw (source : List UInt8)
    (op : Host (Channel × Ledger) → Message →
      Host (Channel × Ledger) × Message × MessageResult) : Prop :=
  ∀ host header, Channel.Lawful source host.socket →
    Channel.Lawful source (op host header).1.socket

/-! ## Every moment -/

/-- The connection is lawful, the sender has sent the messages of the parts that it has finished,
and what was delivered is in the parts that the receiver has finished. -/
structure Exchange.Kept {ρ : Type*} (source : List UInt8) (request : Message → ρ)
    (outgoing : Memory → ρ → Outgoing) (memory memory' : Memory) (sends receives : List PartArgs)
    (x : Exchange) : Prop where
  lawful : Channel.Lawful source x.channel
  sent : SentSoFar request outgoing memory sends (x.sender.transfer x.channel)
  received : Deposited receives memory' (x.receiver.transfer x.channel)

section Parties

variable {party : Party} {s s' : Channel × Ledger}

/-- What the sender has sent is told by the messages that were accepted. -/
lemma SentSoFar.congr {ρ : Type*} {request : Message → ρ} {outgoing : Memory → ρ → Outgoing}
    {memory : Memory} {args : List PartArgs}
    (h : SentSoFar request outgoing memory args (party.transfer s))
    (hs : s'.2.accepted = s.2.accepted) :
    SentSoFar request outgoing memory args (party.transfer s') :=
  ⟨h.state, hs.trans h.log, h.requests⟩

/-- What the receiver has received is told by those that were delivered. -/
lemma Deposited.congr {args : List PartArgs} {memory : Memory}
    (h : Deposited args memory (party.transfer s)) (hs : s'.2.delivered = s.2.delivered) :
    Deposited args memory (party.transfer s') := by
  obtain ⟨hdelivered, hparts, hbytes, haddresses, hsizes⟩ := h
  refine ⟨?_, hparts, ?_, haddresses, ?_⟩
  · exact (congrArg List.length hs).trans hdelivered
  · change _ = Memory.deposit (s'.2.delivered.zip (args.map PartArgs.buffers)) memory.bytes
    rw [hs]
    exact hbytes
  · change _ = (s'.2.delivered.zip args).map _
    rw [hs]
    exact hsizes

/-- Sending delivers nothing. -/
lemma Sends.delivered {ρ : Type*} {request : Message → ρ} {outgoing : Memory → ρ → Outgoing}
    {op : Host (Channel × Ledger) → Message → Host (Channel × Ledger) × Message × MessageResult}
    (h : Sends op request outgoing) (host : Host (Channel × Ledger)) (header : Message) :
    (op host header).1.socket.2.delivered = host.socket.2.delivered := by
  cases hfailed : (op host header).2.2.failed with
  | false =>
    rw [h.accepted host header hfailed]
    rfl
  | true =>
    rw [h.refused host header hfailed]
    rfl

/-- Receiving accepts nothing. -/
lemma Receives.accepted
    {op : Host (Channel × Ledger) → Message → Host (Channel × Ledger) × Message × MessageResult}
    (h : Receives op) (host : Host (Channel × Ledger)) (header : Message) :
    (op host header).1.socket.2.accepted = host.socket.2.accepted := by
  cases hfailed : (op host header).2.2.failed with
  | false =>
    obtain ⟨incoming, hsocket, -, -⟩ := h.delivered host header hfailed
    rw [hsocket]
    rfl
  | true =>
    rw [(h.refused host header hfailed).1]
    rfl

end Parties

namespace Exchange.Kept

variable {ρ : Type*} {source : List UInt8} {request : Message → ρ}
  {outgoing : Memory → ρ → Outgoing} {memory memory' : Memory} {sends receives : List PartArgs}
  {x : Exchange} {sendOp receiveOp : Host (Channel × Ledger) → Message →
    Host (Channel × Ledger) × Message × MessageResult}

lemma start (source : List UInt8) (request : Message → ρ) (outgoing : Memory → ρ → Outgoing)
    (memory memory' : Memory) (sends receives : List PartArgs) :
    Kept source request outgoing memory memory' sends receives
      (Exchange.start memory memory' sends receives) where
  lawful := rfl
  sent := SentSoFar.start request outgoing Channel.empty memory sends
  received := Deposited.start Channel.empty memory' receives

/-- A call of the sender. -/
lemma sentUpTo (hsends : Sends sendOp request outgoing) (hlaw : KeepsLaw source sendOp)
    (h : Kept source request outgoing memory memory' sends receives x) (n : ℕ) :
    Kept source request outgoing memory memory' sends receives
      (x.sentUpTo ((x.sender.transfer x.channel).goOn (loopCall sendOp) n)) := by
  have hop : ∀ host part, Channel.Lawful source host.socket
      ∧ host.socket.2.delivered = x.channel.2.delivered →
      Channel.Lawful source (loopCall sendOp host part).1.socket
      ∧ (loopCall sendOp host part).1.socket.2.delivered = x.channel.2.delivered := by
    rintro host part ⟨hlawful, hdelivered⟩
    rw [loopCall_host]
    exact ⟨hlaw host _ hlawful, (hsends.delivered host _).trans hdelivered⟩
  obtain ⟨⟨hlawful, hdelivered⟩, hsent⟩ := Progress.goOn_invariant
    (I := fun t => (Channel.Lawful source t.state.socket
      ∧ t.state.socket.2.delivered = x.channel.2.delivered)
      ∧ SentSoFar request outgoing memory sends t)
    (fun t ht => ⟨Progress.attempt_state hop ht.1, (hsends.logged memory).attempt ht.2⟩) n
    ⟨⟨h.lawful, rfl⟩, h.sent⟩
  exact ⟨hlawful, hsent, h.received.congr hdelivered⟩

/-- A call of the receiver. -/
lemma receivedUpTo (hreceives : Receives receiveOp) (hlaw : KeepsLaw source receiveOp)
    (h : Kept source request outgoing memory memory' sends receives x) (n : ℕ) :
    Kept source request outgoing memory memory' sends receives
      (x.receivedUpTo ((x.receiver.transfer x.channel).goOn (loopCall receiveOp) n)) := by
  have hop : ∀ host part, Channel.Lawful source host.socket
      ∧ host.socket.2.accepted = x.channel.2.accepted →
      Channel.Lawful source (loopCall receiveOp host part).1.socket
      ∧ (loopCall receiveOp host part).1.socket.2.accepted = x.channel.2.accepted := by
    rintro host part ⟨hlawful, haccepted⟩
    rw [loopCall_host]
    exact ⟨hlaw host _ hlawful, (hreceives.accepted host _).trans haccepted⟩
  obtain ⟨⟨hlawful, haccepted⟩, hreceived⟩ := Progress.goOn_invariant
    (I := fun t => (Channel.Lawful source t.state.socket
      ∧ t.state.socket.2.accepted = x.channel.2.accepted)
      ∧ Deposited receives memory' t)
    (fun t ht => ⟨Progress.attempt_state hop ht.1, hreceives.attempt_deposited ht.2⟩) n
    ⟨⟨h.lawful, rfl⟩, h.received⟩
  exact ⟨hlawful, h.sent.congr haccepted, hreceived⟩

/-- Any number of calls, in any order. -/
lemma foldl_move {sendCall receiveCall : ArrayCall (Channel × Ledger)}
    (hsends : Sends sendOp request outgoing) (hreceives : Receives receiveOp)
    (hsendLaw : KeepsLaw source sendOp) (hreceiveLaw : KeepsLaw source receiveOp)
    (hsendCall : Transfer.again sendCall = Progress.goOn (loopCall sendOp))
    (hreceiveCall : Transfer.again receiveCall = Progress.goOn (loopCall receiveOp))
    (moves : List Move) (h : Kept source request outgoing memory memory' sends receives x) :
    Kept source request outgoing memory memory' sends receives
      (moves.foldl (move sendCall receiveCall) x) := by
  induction moves generalizing x with
  | nil => exact h
  | cons m moves ih =>
    refine ih ?_
    cases m with
    | send n =>
      rw [move, hsendCall]
      exact h.sentUpTo hsends hsendLaw n
    | receive n =>
      rw [move, hreceiveCall]
      exact h.receivedUpTo hreceives hreceiveLaw n

end Exchange.Kept

/-- What a part of the sender is for the receiver. -/
def PartArgs.incoming (source : List UInt8) (memory : Memory) (arg : PartArgs) : Incoming :=
  ⟨source, arg.payload memory⟩

/-- The two transfers at one moment.  `memory` is that of the sender, and `memory'` that of the
receiver before the first call. -/
structure ExchangedInOrder (source : List UInt8) (memory memory' : Memory)
    (sends receives : List PartArgs) (x : Exchange) : Prop where
  ahead : x.receiver.finished.length ≤ x.sender.finished.length
  inFlight : x.channel.1.inFlight
    = ((sends.map (·.incoming source memory)).take x.sender.finished.length).drop
        x.receiver.finished.length
  contents : ∀ (i : ℕ) (arg : PartArgs), receives[i]? = some arg →
    Memory.gather x.receiver.memory.bytes arg.buffers
      = Memory.held memory'.bytes arg.buffers
        ((sends.map (·.incoming source memory)).take x.receiver.finished.length)[i]?
  sizes : x.receiver.finished.map MultiMessagePart.result
    = (((sends.map (·.incoming source memory)).take x.receiver.finished.length).zip
        receives).map fun d => ((d.1.payload.take (capacity d.2.buffers)).length : ℤ)
  outside : ∀ q, (∀ arg ∈ receives, ∀ b ∈ arg.buffers, ¬b.Holds q) →
    x.receiver.memory.bytes q = memory'.bytes q
  addresses : ∀ p, (∀ arg ∈ receives, arg.address ≠ some p) →
    x.receiver.memory.addresses p = memory'.addresses p
  sender : x.sender.memory = memory

/-- What is kept says it. -/
lemma Exchange.Kept.exchangedInOrder {ρ : Type*} {source : List UInt8} {request : Message → ρ}
    {outgoing : Memory → ρ → Outgoing} {memory memory' : Memory} {sends receives : List PartArgs}
    {x : Exchange} (h : x.Kept source request outgoing memory memory' sends receives)
    (hpayload : ∀ arg : PartArgs,
      (outgoing memory
          (request (MultiMessagePart.construct arg.buffers arg.address).message)).payload
        = arg.payload memory)
    (hapart : (receives.flatMap PartArgs.buffers).Pairwise Buffer.Apart) :
    ExchangedInOrder source memory memory' sends receives x := by
  have haccepted : x.channel.2.accepted.map (fun a => (⟨source, a.1.payload⟩ : Incoming))
      = (sends.map (·.incoming source memory)).take x.sender.finished.length := by
    have hfst : x.channel.2.accepted.map Prod.fst = _ := h.sent.accepted
    have hmap := congrArg (List.map fun o : Outgoing => (⟨source, o.payload⟩ : Incoming)) hfst
    rw [List.map_map, List.map_take, constructed, List.map_map, List.map_map] at hmap
    refine hmap.trans (congrArg (List.take _) (List.map_congr_left fun arg _ => ?_))
    exact congrArg (Incoming.mk source) (hpayload arg)
  have hlaw : x.channel.2.delivered ++ x.channel.1.inFlight = _ := h.lawful.trans haccepted
  have hlength : x.channel.2.delivered.length = x.receiver.finished.length := h.received.delivered
  have hahead : x.receiver.finished.length ≤ x.sender.finished.length := by
    have hle := congrArg List.length hlaw
    rw [List.length_append, hlength, List.length_take] at hle
    omega
  have hdelivered : x.channel.2.delivered
      = (sends.map (·.incoming source memory)).take x.receiver.finished.length := by
    have htake : (x.channel.2.delivered ++ x.channel.1.inFlight).take
        x.receiver.finished.length = x.channel.2.delivered := List.take_left' hlength
    rw [← htake, hlaw, List.take_take, Nat.min_eq_left hahead]
  refine ⟨hahead, ?_, ?_, ?_, fun q => h.received.outside, h.received.addresses, h.sent.state⟩
  · rw [← hlaw, List.drop_left' hlength]
  · intro i arg hi
    rw [← hdelivered]
    exact h.received.contents hapart hi
  · rw [← hdelivered]
    exact h.received.sizes

/-! ## The implementations -/

section Implementations

variable {fate : ℕ → Option ℤ} {source : List UInt8}

lemma keepsLaw_send : KeepsLaw source (send (Channel.kernel fate source).recorded) := by
  intro host header h
  rw [send_eq]
  exact lawful_sendmsg h _

lemma keepsLaw_receive {flags : ℕ} (hflags : flags &&& msgPeek = 0) :
    KeepsLaw source (receive (Channel.kernel fate source).recorded flags) := by
  intro host header h
  rw [(receive_eq _ _ _ _).1]
  exact lawful_recvmsg hflags h _

end Implementations

/-- **Nothing is lost, doubled or overtaken between the two ends**: for every connection and
failures of its calls, all four pairs of implementations, every memory of the two processes, every
two arrays of parts, the buffers of the receiver being apart, and every sequence of calls of the
two. -/
theorem exchange_inOrder (fate : ℕ → Option ℤ) (source : List UInt8) (flags : ℕ)
    (hflags : flags &&& msgPeek = 0) (nativeSend nativeReceive : Bool) (memory memory' : Memory)
    (sends receives : List PartArgs)
    (hapart : (receives.flatMap PartArgs.buffers).Pairwise Buffer.Apart) (moves : List Move) :
    ExchangedInOrder source memory memory' sends receives
      (moves.foldl
        (Exchange.move (sendMultiple nativeSend (Channel.kernel fate source).recorded)
          (receiveMultiple nativeReceive (Channel.kernel fate source).recorded flags))
        (Exchange.start memory memory' sends receives)) := by
  have hnative := Exchange.Kept.start source id outgoingHeader memory memory' sends receives
  have hloop := Exchange.Kept.start source Message.withoutNamelen
    (fun memory header => header.args.outgoing memory) memory memory' sends receives
  have hrecvmsg : KeepsLaw source
      (resultCall (recvmsg (Channel.kernel fate source).recorded flags)) :=
    fun _ header h => lawful_recvmsg hflags h header
  cases nativeSend with
  | true =>
    have hlaw : KeepsLaw source (resultCall (sendmsg (Channel.kernel fate source).recorded)) :=
      fun _ header h => lawful_sendmsg h header
    cases nativeReceive with
    | true =>
      exact (hnative.foldl_move (sends_sendmsg _) (receives_recvmsg _ flags) hlaw hrecvmsg
        (Transfer.again_mmsg _) (Transfer.again_mmsg _) moves).exchangedInOrder (fun _ => rfl)
        hapart
    | false =>
      exact (hnative.foldl_move (sends_sendmsg _) (receives_receive _ flags) hlaw
        (keepsLaw_receive hflags) (Transfer.again_mmsg _) (Transfer.again_loop _)
        moves).exchangedInOrder (fun _ => rfl) hapart
  | false =>
    cases nativeReceive with
    | true =>
      exact (hloop.foldl_move (sends_send _) (receives_recvmsg _ flags) keepsLaw_send hrecvmsg
        (Transfer.again_loop _) (Transfer.again_mmsg _) moves).exchangedInOrder (fun _ => rfl)
        hapart
    | false =>
      exact (hloop.foldl_move (sends_send _) (receives_receive _ flags) keepsLaw_send
        (keepsLaw_receive hflags) (Transfer.again_loop _) (Transfer.again_loop _)
        moves).exchangedInOrder (fun _ => rfl) hapart

/-- Two messages of which the second is refused once; the receiver calls in between. -/
theorem exchange_inOrder_oneRefused :
    ExchangedInOrder [127, 0, 0, 1] waitingHost.memory waitingHost.memory
      [⟨[⟨0, 1⟩], none⟩, ⟨[⟨4, 1⟩, ⟨6, 1⟩], none⟩] [⟨[⟨0, 2⟩], none⟩, ⟨[⟨2, 2⟩], none⟩]
      ([.send 2, .receive 2, .send 1, .receive 1].foldl
        (Exchange.move
          (sendMultiple false (Channel.kernel (fun i => if i = 1 then some 11 else none)
            [127, 0, 0, 1]).recorded)
          (receiveMultiple true (Channel.kernel (fun i => if i = 1 then some 11 else none)
            [127, 0, 0, 1]).recorded 0))
        (Exchange.start waitingHost.memory waitingHost.memory
          [⟨[⟨0, 1⟩], none⟩, ⟨[⟨4, 1⟩, ⟨6, 1⟩], none⟩] [⟨[⟨0, 2⟩], none⟩, ⟨[⟨2, 2⟩], none⟩])) :=
  exchange_inOrder (fun i => if i = 1 then some 11 else none) [127, 0, 0, 1] 0 (by decide) false
    true waitingHost.memory waitingHost.memory [⟨[⟨0, 1⟩], none⟩, ⟨[⟨4, 1⟩, ⟨6, 1⟩], none⟩]
    [⟨[⟨0, 2⟩], none⟩, ⟨[⟨2, 2⟩], none⟩] (by decide) [.send 2, .receive 2, .send 1, .receive 1]

end SMBB
