import SMBB.Construction.Messages

/-!
# The native and the emulated array calls

`SendMultiple` and `ReceiveMultiple` have two implementations each, and a program does not see
which one the loader chose.  Both are batches: the native one of `sendmsg` or `recvmsg` on the
headers as the constructor left them, the emulating loop of `Send` or `Receive`
(`multipleLoop_eq`).  They part in one field.  The constructor leaves `msg_namelen` zero; `Send`
and `Receive` set it before each call, and nothing sets it for the native call.

**Sending.**  Natively every part goes out without its destination.
`sendMultiple_agree_iff` is the exact condition for this to stay unseen: the socket must refuse
the first addressed part that is reached, with its destination and without.

**Receiving.**  The counts and the payload bytes always agree.  Natively no sender is stored, so
the sender addresses agree only where the memory already holds them
(`receiveMultiple_agree_iff`).
-/

namespace SMBB

variable {σ : Type*}

/-- The arguments of one `MultiMessagePart`. -/
structure PartArgs where
  buffers : List Buffer
  address : Option ℕ

/-- An array of parts as its constructors leave it. -/
def constructed (args : List PartArgs) : List MultiMessagePart :=
  args.map fun arg => MultiMessagePart.construct arg.buffers arg.address

/-! ## The loop is a batch -/

/-- One round of the emulating loop as a call of a batch. -/
def loopCall (op : Host σ → Message → Host σ × Message × MessageResult) (host : Host σ)
    (part : MultiMessagePart) : Host σ × MultiMessagePart × Option ℤ :=
  match op host part.message with
  | (host, message, result) =>
    if result.failed then (host, { part with message }, some result.error)
    else (host, ⟨message, result.result⟩, none)

lemma partCall_host (call : Host σ → Message → Host σ × Message × Except ℤ ℕ) (host : Host σ)
    (part : MultiMessagePart) : (partCall call host part).1 = (call host part.message).1 := by
  unfold partCall
  rcases call host part.message with ⟨host', message, e | n⟩ <;> rfl

lemma loopCall_ok {op : Host σ → Message → Host σ × Message × MessageResult}
    {host host' : Host σ} {part : MultiMessagePart} {message : Message} {n : ℕ} {e : ℤ}
    (h : op host part.message = (host', message, ⟨n, e⟩)) :
    loopCall op host part = (host', ⟨message, n⟩, none) := by
  have hn : ¬(⟨n, e⟩ : MessageResult).failed = true := by simp [MessageResult.failed]
  rw [loopCall, h]
  exact if_neg hn

/-- Any negative result is a failure to the loop. -/
lemma loopCall_negative {op : Host σ → Message → Host σ × Message × MessageResult}
    {host host' : Host σ} {part : MultiMessagePart} {message : Message} {result : MessageResult}
    (h : op host part.message = (host', message, result)) (hnegative : result.result < 0) :
    loopCall op host part = (host', { part with message }, some result.error) := by
  rw [loopCall, h]
  exact if_pos (decide_eq_true hnegative)

lemma loopCall_failed {op : Host σ → Message → Host σ × Message × MessageResult}
    {host host' : Host σ} {part : MultiMessagePart} {message : Message} {e : ℤ}
    (h : op host part.message = (host', message, ⟨-1, e⟩)) :
    loopCall op host part = (host', { part with message }, some e) := by
  have hnegative : (-1 : ℤ) < 0 := by decide
  exact loopCall_negative h hnegative

lemma loopCall_host (op : Host σ → Message → Host σ × Message × MessageResult) (host : Host σ)
    (part : MultiMessagePart) : (loopCall op host part).1 = (op host part.message).1 := by
  unfold loopCall
  rcases op host part.message with ⟨host', message, result⟩
  by_cases h : result.failed = true
  · exact congrArg Prod.fst (if_pos h)
  · exact congrArg Prod.fst (if_neg h)

/-- What the loop returns when it starts at index `i`. -/
def loopResult {τ α : Type*} (i : ℕ) (o : Batch.Outcome τ α ℤ) : MessageResult :=
  match o.failure with
  | none => ⟨(i + o.done : ℕ), 0⟩
  | some e => ⟨if i + o.done = 0 then -1 else (i + o.done : ℕ), e⟩

lemma loopResult_after {τ α : Type*} (i : ℕ) (x : α) (o : Batch.Outcome τ α ℤ) :
    loopResult i (o.after x) = loopResult (i + 1) o := by
  have h : i + (o.done + 1) = i + 1 + o.done := by omega
  simp only [loopResult, Batch.Outcome.after_failure, Batch.Outcome.after_done, h]

/-- The emulating loop is the batch of its rounds. -/
lemma multipleLoop_eq (op : Host σ → Message → Host σ × Message × MessageResult) (i : ℕ)
    (host : Host σ) (parts : List MultiMessagePart) :
    multipleLoop op i host parts
      = ((Batch.run (loopCall op) host parts).state, (Batch.run (loopCall op) host parts).items,
          loopResult i (Batch.run (loopCall op) host parts)) := by
  induction parts generalizing i host with
  | nil => rfl
  | cons part parts ih =>
    rcases h : op host part.message with ⟨host', message, result⟩
    by_cases hf : result.failed = true
    · have hcall : loopCall op host part
          = (host', { part with message }, some result.error) := by
        rw [loopCall, h]
        exact if_pos hf
      rw [Batch.run_cons_failed hcall, multipleLoop, h]
      exact if_pos hf
    · have hcall : loopCall op host part = (host', ⟨message, result.result⟩, none) := by
        rw [loopCall, h]
        exact if_neg hf
      rw [Batch.run_cons_ok hcall, loopResult_after, multipleLoop, h]
      simp only [hf, ih]
      rfl

lemma loopResult_zero_result {τ α : Type*} (o : Batch.Outcome τ α ℤ) :
    (loopResult 0 o).result = o.count := by
  unfold loopResult Batch.Outcome.count
  cases o.failure with
  | none => simp
  | some e => simp

/-! ## Sending -/

/-- The destination a part was built with. -/
def PartArgs.target (memory : Memory) (arg : PartArgs) : Option (List UInt8) :=
  arg.address.bind fun p =>
    if (memory.addresses p).getLength = 0 then none
    else some ((memory.addresses p).bytes.toList.take (memory.addresses p).getLength)

/-- The bytes of a part. -/
def PartArgs.payload (memory : Memory) (arg : PartArgs) : List UInt8 :=
  Memory.gather memory.bytes arg.buffers

/-- The socket has accepted a message. -/
def Host.accepted (host : Host σ) (socket : σ) (message : Outgoing) : Host σ :=
  { host with socket, sent := host.sent ++ [message] }

/-- The socket has refused a message. -/
def Host.refused (host : Host σ) (socket : σ) : Host σ := { host with socket }

section Sending

variable {kernel : Kernel σ} {host : Host σ} {arg : PartArgs} {socket : σ}

/-- A message that the socket accepts. -/
lemma sendmsg_ok {header : Message} {n : ℕ}
    (h : kernel.transmit host.socket
      ⟨destination host.memory header, Memory.gather host.memory.bytes header.msgIov⟩
        = (socket, .ok n)) :
    sendmsg kernel host header
      = (host.accepted socket
          ⟨destination host.memory header, Memory.gather host.memory.bytes header.msgIov⟩,
        header, .ok n) := by
  rw [sendmsg]
  simp only [h]
  rfl

/-- A message that the socket refuses. -/
lemma sendmsg_failed {header : Message} {e : ℤ}
    (h : kernel.transmit host.socket
      ⟨destination host.memory header, Memory.gather host.memory.bytes header.msgIov⟩
        = (socket, .error e)) :
    sendmsg kernel host header = (host.refused socket, header, .error e) := by
  rw [sendmsg]
  simp only [h]
  rfl

/-- The header `Send` passes on. -/
def PartArgs.sendHeader (memory : Memory) (arg : PartArgs) : Message :=
  { Message.construct arg.buffers arg.address with
    msgNamelen := (arg.address.map fun p => (memory.addresses p).getLength).getD 0 }

lemma destination_sendHeader (memory : Memory) :
    destination memory (arg.sendHeader memory) = arg.target memory := by
  rcases arg with ⟨buffers, _ | p⟩
  · rfl
  · by_cases h : (memory.addresses p).getLength = 0
    · simp [destination, PartArgs.sendHeader, PartArgs.target, h]
    · simp [destination, PartArgs.sendHeader, PartArgs.target, Message.construct, h]

/-- `Send` hands `sendmsg` the header with its length of the destination. -/
lemma send_construct :
    send kernel host (Message.construct arg.buffers arg.address)
      = ((sendmsg kernel host (arg.sendHeader host.memory)).1,
        (sendmsg kernel host (arg.sendHeader host.memory)).2.1,
        .ofCall (sendmsg kernel host (arg.sendHeader host.memory)).2.2) := rfl

/-- The call natively made for a part, by what the socket says to its payload alone. -/
lemma nativeCall_cases :
    (∀ n, kernel.transmit host.socket ⟨none, arg.payload host.memory⟩ = (socket, .ok n) →
      ∃ part, partCall (sendmsg kernel) host (.construct arg.buffers arg.address)
        = (host.accepted socket ⟨none, arg.payload host.memory⟩, part, none)) ∧
    (∀ e, kernel.transmit host.socket ⟨none, arg.payload host.memory⟩ = (socket, .error e) →
      ∃ part, partCall (sendmsg kernel) host (.construct arg.buffers arg.address)
        = (host.refused socket, part, some e)) := by
  rw [partCall]
  constructor
  · intro n h
    have hcall : sendmsg kernel host (MultiMessagePart.construct arg.buffers arg.address).message
        = _ := sendmsg_ok h
    rw [hcall]
    exact ⟨_, rfl⟩
  · intro e h
    have hcall : sendmsg kernel host (MultiMessagePart.construct arg.buffers arg.address).message
        = _ := sendmsg_failed h
    rw [hcall]
    exact ⟨_, rfl⟩

/-- The call the loop makes for a part, by what the socket says to its message. -/
lemma emulatedCall_cases :
    (∀ n, kernel.transmit host.socket ⟨arg.target host.memory, arg.payload host.memory⟩
        = (socket, .ok n) →
      ∃ part, loopCall (send kernel) host (.construct arg.buffers arg.address)
        = (host.accepted socket ⟨arg.target host.memory, arg.payload host.memory⟩, part, none)) ∧
    (∀ e, kernel.transmit host.socket ⟨arg.target host.memory, arg.payload host.memory⟩
        = (socket, .error e) →
      ∃ part, loopCall (send kernel) host (.construct arg.buffers arg.address)
        = (host.refused socket, part, some e)) := by
  have hsend : send kernel host (Message.construct arg.buffers arg.address) = _ := send_construct
  rw [← destination_sendHeader host.memory]
  constructor
  · intro n h
    rw [sendmsg_ok h] at hsend
    exact ⟨_, loopCall_ok hsend⟩
  · intro e h
    rw [sendmsg_failed h] at hsend
    exact ⟨_, loopCall_failed hsend⟩

/-- No call takes a message back. -/
lemma sent_sendmsg (header : Message) : host.sent <+: (sendmsg kernel host header).1.sent := by
  unfold sendmsg
  rcases h : kernel.transmit host.socket
    ⟨destination host.memory header, Memory.gather host.memory.bytes header.msgIov⟩
    with ⟨socket, e | n⟩
  · simp only [h]
    exact List.prefix_refl _
  · simp only [h]
    exact List.prefix_append _ _

lemma sent_native (kernel : Kernel σ) (host : Host σ) (parts : List MultiMessagePart) :
    host.sent <+: (Batch.run (partCall (sendmsg kernel)) host parts).state.sent := by
  refine Batch.state_invariant (P := fun h : Host σ => host.sent <+: h.sent)
    (fun h part _ hsent => ?_) (List.prefix_refl _)
  rw [partCall_host]
  exact hsent.trans (sent_sendmsg part.message)

lemma sent_emulated (kernel : Kernel σ) (host : Host σ) (parts : List MultiMessagePart) :
    host.sent <+: (Batch.run (loopCall (send kernel)) host parts).state.sent := by
  refine Batch.state_invariant (P := fun h : Host σ => host.sent <+: h.sent)
    (fun h part _ hsent => ?_) (List.prefix_refl _)
  rw [loopCall_host]
  exact hsent.trans (sent_sendmsg _)

end Sending

/-- The socket refuses the message. -/
def Kernel.Refuses (kernel : Kernel σ) (socket : σ) (message : Outgoing) : Prop :=
  ∃ e, (kernel.transmit socket message).2 = .error e

/-- Nothing shows that the native call drops the destinations: among the parts that are reached,
there is none with a destination, or the socket refuses the first such part with its destination
and without. -/
def DestinationsUnseen (kernel : Kernel σ) (memory : Memory) : σ → List PartArgs → Prop
  | _, [] => True
  | socket, arg :: args =>
    match arg.target memory with
    | none =>
      match kernel.transmit socket ⟨none, arg.payload memory⟩ with
      | (socket, .ok _) => DestinationsUnseen kernel memory socket args
      | (_, .error _) => True
    | some dest =>
      kernel.Refuses socket ⟨none, arg.payload memory⟩
        ∧ kernel.Refuses socket ⟨some dest, arg.payload memory⟩

/-- The two implementations send the same messages and make as many successful calls. -/
def SentAlike (kernel : Kernel σ) (host : Host σ) (args : List PartArgs) : Prop :=
  (Batch.run (partCall (sendmsg kernel)) host (constructed args)).state.sent
      = (Batch.run (loopCall (send kernel)) host (constructed args)).state.sent
    ∧ (Batch.run (partCall (sendmsg kernel)) host (constructed args)).done
      = (Batch.run (loopCall (send kernel)) host (constructed args)).done

section Sending

variable {kernel : Kernel σ} {host : Host σ} {arg : PartArgs} {args : List PartArgs}

/-- A part without a destination is the same call both ways. -/
lemma sentAlike_cons_unaddressed (htarget : arg.target host.memory = none) :
    SentAlike kernel host (arg :: args)
      ↔ match kernel.transmit host.socket ⟨none, arg.payload host.memory⟩ with
        | (socket, .ok _) =>
          SentAlike kernel (host.accepted socket ⟨none, arg.payload host.memory⟩) args
        | (_, .error _) => True := by
  unfold SentAlike
  rcases h : kernel.transmit host.socket ⟨none, arg.payload host.memory⟩ with ⟨socket, e | n⟩
  · obtain ⟨native, hnative⟩ := nativeCall_cases.2 e h
    rw [← htarget] at h
    obtain ⟨emulated, hemulated⟩ := emulatedCall_cases.2 e h
    rw [constructed, List.map_cons, Batch.run_cons_failed hnative,
      Batch.run_cons_failed hemulated]
    exact iff_of_true ⟨rfl, rfl⟩ trivial
  · obtain ⟨native, hnative⟩ := nativeCall_cases.1 n h
    rw [← htarget] at h
    obtain ⟨emulated, hemulated⟩ := emulatedCall_cases.1 n h
    rw [htarget] at hemulated
    rw [constructed, List.map_cons, Batch.run_cons_ok hnative, Batch.run_cons_ok hemulated]
    exact and_congr Iff.rfl Nat.succ_inj

/-- Once a message is in the log without its destination, the logs differ for good. -/
lemma logs_ne_of_accepted {dest : List UInt8} {payload : List UInt8} {socket socket' : σ}
    (parts parts' : List MultiMessagePart) :
    (Batch.run (partCall (sendmsg kernel)) (host.accepted socket ⟨none, payload⟩)
        parts).state.sent
      ≠ (Batch.run (loopCall (send kernel)) (host.accepted socket' ⟨some dest, payload⟩)
        parts').state.sent := by
  intro hsame
  have hleft := sent_native kernel (host.accepted socket ⟨none, payload⟩) parts
  have hright := sent_emulated kernel (host.accepted socket' ⟨some dest, payload⟩) parts'
  -- both logs begin with what was sent before and this message
  have hlogs : host.sent ++ [⟨none, payload⟩] = host.sent ++ [⟨some dest, payload⟩] := by
    refine (List.prefix_of_prefix_length_le hleft (hsame ▸ hright) ?_).eq_of_length ?_
    · simp [Host.accepted]
    · simp [Host.accepted]
  simp at hlogs

/-- A part with a destination shows, unless the socket refuses it both ways. -/
lemma sentAlike_cons_addressed {dest : List UInt8} (htarget : arg.target host.memory = some dest) :
    SentAlike kernel host (arg :: args)
      ↔ kernel.Refuses host.socket ⟨none, arg.payload host.memory⟩
        ∧ kernel.Refuses host.socket ⟨some dest, arg.payload host.memory⟩ := by
  unfold SentAlike Kernel.Refuses
  rcases h : kernel.transmit host.socket ⟨none, arg.payload host.memory⟩ with ⟨socket, e | n⟩ <;>
    rcases h' : kernel.transmit host.socket ⟨some dest, arg.payload host.memory⟩
      with ⟨socket', e' | n'⟩ <;> rw [← htarget] at h'
  · -- both refuse
    obtain ⟨native, hnative⟩ := nativeCall_cases.2 e h
    obtain ⟨emulated, hemulated⟩ := emulatedCall_cases.2 e' h'
    rw [constructed, List.map_cons, Batch.run_cons_failed hnative,
      Batch.run_cons_failed hemulated]
    exact iff_of_true ⟨rfl, rfl⟩ ⟨⟨e, rfl⟩, ⟨e', rfl⟩⟩
  · -- only the loop gets through
    obtain ⟨native, hnative⟩ := nativeCall_cases.2 e h
    obtain ⟨emulated, hemulated⟩ := emulatedCall_cases.1 n' h'
    rw [constructed, List.map_cons, Batch.run_cons_failed hnative, Batch.run_cons_ok hemulated]
    refine iff_of_false (fun hsame => Nat.succ_ne_zero _ hsame.2.symm) ?_
    rintro ⟨-, e', ⟨⟩⟩
  · -- only the native call gets through
    obtain ⟨native, hnative⟩ := nativeCall_cases.1 n h
    obtain ⟨emulated, hemulated⟩ := emulatedCall_cases.2 e' h'
    rw [constructed, List.map_cons, Batch.run_cons_ok hnative, Batch.run_cons_failed hemulated]
    refine iff_of_false (fun hsame => Nat.succ_ne_zero _ hsame.2) ?_
    rintro ⟨⟨e, ⟨⟩⟩, -⟩
  · -- both accept, and the two logs differ in this message
    obtain ⟨native, hnative⟩ := nativeCall_cases.1 n h
    obtain ⟨emulated, hemulated⟩ := emulatedCall_cases.1 n' h'
    rw [constructed, List.map_cons, Batch.run_cons_ok hnative, Batch.run_cons_ok hemulated]
    rw [htarget]
    refine iff_of_false (fun hsame => logs_ne_of_accepted _ _ hsame.1) ?_
    rintro ⟨⟨e, ⟨⟩⟩, -⟩

lemma sentAlike_iff (kernel : Kernel σ) (host : Host σ) (args : List PartArgs) :
    SentAlike kernel host args ↔ DestinationsUnseen kernel host.memory host.socket args := by
  induction args generalizing host with
  | nil => exact iff_of_true ⟨rfl, rfl⟩ trivial
  | cons arg args ih =>
    rw [DestinationsUnseen]
    rcases htarget : arg.target host.memory with _ | dest
    · rw [sentAlike_cons_unaddressed htarget]
      rcases kernel.transmit host.socket ⟨none, arg.payload host.memory⟩ with ⟨socket, e | n⟩
      · exact Iff.rfl
      · exact ih (host.accepted socket ⟨none, arg.payload host.memory⟩)
    · exact sentAlike_cons_addressed htarget

lemma sendMultiple_native_result (kernel : Kernel σ) (host : Host σ)
    (parts : List MultiMessagePart) :
    (sendMultiple true kernel host parts).2.2.result
      = (Batch.run (partCall (sendmsg kernel)) host parts).count := rfl

lemma sendMultiple_emulated (kernel : Kernel σ) (host : Host σ) (parts : List MultiMessagePart) :
    sendMultiple false kernel host parts
      = ((Batch.run (loopCall (send kernel)) host parts).state,
          (Batch.run (loopCall (send kernel)) host parts).items,
          loopResult 0 (Batch.run (loopCall (send kernel)) host parts)) :=
  multipleLoop_eq (send kernel) 0 host parts

/-- **The native and the emulated `SendMultiple` send the same messages and return the same
result** exactly when nothing shows that the native one drops the destinations. -/
theorem sendMultiple_agree_iff (kernel : Kernel σ) (host : Host σ) (args : List PartArgs) :
    (sendMultiple true kernel host (constructed args)).1.sent
          = (sendMultiple false kernel host (constructed args)).1.sent
        ∧ (sendMultiple true kernel host (constructed args)).2.2.result
          = (sendMultiple false kernel host (constructed args)).2.2.result
      ↔ DestinationsUnseen kernel host.memory host.socket args := by
  rw [← sentAlike_iff, sendMultiple_native_result, sendMultiple_emulated, loopResult_zero_result,
    Batch.count_eq_iff rfl]
  exact Iff.rfl

/-- An array without destinations is sent alike by every socket. -/
lemma destinationsUnseen_of_unaddressed (kernel : Kernel σ) (memory : Memory) (socket : σ)
    {args : List PartArgs} (h : ∀ arg ∈ args, arg.target memory = none) :
    DestinationsUnseen kernel memory socket args := by
  induction args generalizing socket with
  | nil => trivial
  | cons arg args ih =>
    rw [DestinationsUnseen, h arg List.mem_cons_self]
    rcases kernel.transmit socket ⟨none, arg.payload memory⟩ with ⟨socket', e | n⟩
    · trivial
    · exact ih socket' fun arg' harg' => h arg' (List.mem_cons_of_mem arg harg')

end Sending

/-- A datagram socket that is not connected and has nothing to read: it refuses a message without
a destination (`EDESTADDRREQ`). -/
def unconnected : Kernel Unit where
  transmit _ message := ((), match message.destination with
    | none => .error 89
    | some _ => .ok message.payload.length)
  deliver _ _ _ := ((), .error 11)

/-- A process whose addresses are all `127.0.0.1:53`, with one such socket. -/
def unconnectedHost : Host Unit where
  socket := ()
  memory :=
    { bytes := fun _ => 0
      addresses := fun _ => .ofSockaddrIn ⟨#v[0, 53], #v[127, 0, 0, 1], .replicate 8 0⟩
        (.replicate 12 0) }
  sent := []

/-- One addressed part on an unconnected socket: the native call fails, the loop sends it. -/
theorem sendMultiple_unconnected :
    (sendMultiple true unconnected unconnectedHost (constructed [⟨[⟨0, 2⟩], some 0⟩])).2.2.result
        = -1
      ∧ (sendMultiple false unconnected unconnectedHost
          (constructed [⟨[⟨0, 2⟩], some 0⟩])).2.2.result = 1 := by
  constructor <;> rfl

/-! ## Receiving -/

/-- The senders of the messages that are received into the object at `q`, in order. -/
def sendersAt (kernel : Kernel σ) (flags : ℕ) (q : ℕ) : σ → List PartArgs → List (List UInt8)
  | _, [] => []
  | socket, arg :: args =>
    match kernel.deliver socket flags (capacity arg.buffers) with
    | (socket, .ok incoming) =>
      if arg.address = some q then incoming.sender :: sendersAt kernel flags q socket args
      else sendersAt kernel flags q socket args
    | (_, .error _) => []

/-- Each byte of the object that some sender reaches is already the one the last such sender puts
there. -/
def AlreadyHolds (a : IPAddress) (senders : List (List UInt8)) : Prop :=
  ∀ i : Fin 28, ∀ b ∈ (senders.filterMap (·[i.val]?)).getLast?, a.bytes.get i = b

instance (a : IPAddress) (senders : List (List UInt8)) : Decidable (AlreadyHolds a senders) :=
  inferInstanceAs (Decidable (∀ i : Fin 28, ∀ b ∈ (senders.filterMap (·[i.val]?)).getLast?,
    a.bytes.get i = b))

lemma get_storeName (namelen : ℕ) (sender : List UInt8) (a : IPAddress) (i : Fin 28) :
    (storeName namelen sender a).bytes.get i
      = ((sender.take namelen)[i.val]?).getD (a.bytes.get i) := by
  show (Vector.ofFn fun i : Fin 28 =>
    ((sender.take namelen)[i.val]?).getD (a.bytes.get i))[i.val] = _
  rw [Vector.getElem_ofFn]

lemma storeName_zero (sender : List UInt8) (a : IPAddress) : storeName 0 sender a = a :=
  IPAddress.eq_of_get (get_storeName 0 sender a)

/-- The byte that is left after a sequence of senders is the last one stored there. -/
lemma get_foldl_storeName (senders : List (List UInt8)) (a : IPAddress) (i : Fin 28) :
    (senders.foldl (fun a sender => storeName IPAddress.sizeofSockaddrIn6 sender a) a).bytes.get i
      = ((senders.filterMap (·[i.val]?)).getLast?).getD (a.bytes.get i) := by
  induction senders generalizing a with
  | nil => rfl
  | cons sender senders ih =>
    have htake : (sender.take IPAddress.sizeofSockaddrIn6)[i.val]? = sender[i.val]? :=
      List.getElem?_take_of_lt i.isLt
    rw [List.foldl_cons, ih, get_storeName, htake]
    rcases h : sender[i.val]? with _ | b
    · rw [List.filterMap_cons_none (f := fun x : List UInt8 => x[i.val]?) h]
      rfl
    · rw [List.filterMap_cons_some (f := fun x : List UInt8 => x[i.val]?) h, List.getLast?_cons]
      rfl

/-- Storing the senders changes nothing exactly when the object already holds them. -/
lemma foldl_storeName_eq_iff (senders : List (List UInt8)) (a : IPAddress) :
    a = senders.foldl (fun a sender => storeName IPAddress.sizeofSockaddrIn6 sender a) a
      ↔ AlreadyHolds a senders := by
  unfold AlreadyHolds
  constructor
  · intro h i b hb
    rw [h, get_foldl_storeName, Option.mem_def.mp hb]
    rfl
  · intro h
    refine IPAddress.eq_of_get fun i => ?_
    rw [get_foldl_storeName]
    rcases hlast : (senders.filterMap (·[i.val]?)).getLast? with _ | b
    · rfl
    · exact h i b hlast

/-- The header `Receive` passes on. -/
def PartArgs.receiveHeader (arg : PartArgs) : Message :=
  { Message.construct arg.buffers arg.address with
    msgNamelen := if arg.address.isSome then IPAddress.sizeofSockaddrIn6 else 0 }

/-- The socket has delivered a message into the buffers of a part; `addresses` are the addresses
then. -/
def Host.received (host : Host σ) (socket : σ) (arg : PartArgs) (incoming : Incoming)
    (addresses : ℕ → IPAddress) : Host σ :=
  let stored := incoming.payload.take (capacity arg.buffers)
  { host with
    socket
    memory := ⟨Memory.scatter arg.buffers stored host.memory.bytes, addresses⟩ }

section Receiving

variable {kernel : Kernel σ} {flags : ℕ} {host : Host σ} {arg : PartArgs} {socket : σ}

/-- The native call stores no sender. -/
lemma storeSender_construct (arg : PartArgs) (sender : List UInt8) (addresses : ℕ → IPAddress) :
    storeSender (Message.construct arg.buffers arg.address) sender addresses = addresses := by
  rcases arg with ⟨buffers, _ | p⟩
  · rfl
  · show Function.update addresses p (storeName 0 sender (addresses p)) = addresses
    rw [storeName_zero, Function.update_eq_self]

lemma storeSender_receiveHeader (arg : PartArgs) (sender : List UInt8)
    (addresses : ℕ → IPAddress) (q : ℕ) :
    storeSender arg.receiveHeader sender addresses q
      = if arg.address = some q then
          storeName IPAddress.sizeofSockaddrIn6 sender (addresses q)
        else addresses q := by
  rcases arg with ⟨buffers, _ | p⟩
  · rfl
  · show Function.update addresses p (storeName IPAddress.sizeofSockaddrIn6 sender (addresses p)) q
      = _
    rw [Function.update_apply]
    by_cases h : q = p
    · simp [h]
    · simp [h, Ne.symm h]

lemma recvmsg_error {header : Message} {e : ℤ}
    (h : kernel.deliver host.socket flags (capacity header.msgIov) = (socket, .error e)) :
    recvmsg kernel flags host header = (host.refused socket, header, .error e) := by
  rw [recvmsg, h]
  rfl

lemma recvmsg_ok {header : Message} {incoming : Incoming} (hiov : header.msgIov = arg.buffers)
    (h : kernel.deliver host.socket flags (capacity header.msgIov) = (socket, .ok incoming)) :
    recvmsg kernel flags host header
      = (host.received socket arg incoming
          (storeSender header incoming.sender host.memory.addresses),
        receivedHeader header incoming,
        .ok (incoming.payload.take (capacity arg.buffers)).length) := by
  rw [recvmsg, h, hiov]
  rfl

lemma receive_construct (arg : PartArgs) :
    receive kernel flags host (Message.construct arg.buffers arg.address)
      = match recvmsg kernel flags host arg.receiveHeader with
        | (host, message, .ok n) =>
          (host, message, ⟨n, if message.msgFlags &&& msgTrunc ≠ 0 then msgSize else 0⟩)
        | (host, message, .error e) => (host, message, ⟨-1, e⟩) := rfl

/-- The call natively made for a part, by what the socket delivers. -/
lemma nativeReceive_cases :
    (∀ incoming, kernel.deliver host.socket flags (capacity arg.buffers)
        = (socket, .ok incoming) →
      ∃ part, partCall (recvmsg kernel flags) host (.construct arg.buffers arg.address)
        = (host.received socket arg incoming host.memory.addresses, part, none)) ∧
    (∀ e, kernel.deliver host.socket flags (capacity arg.buffers) = (socket, .error e) →
      ∃ part, partCall (recvmsg kernel flags) host (.construct arg.buffers arg.address)
        = (host.refused socket, part, some e)) := by
  simp only [partCall, MultiMessagePart.construct]
  constructor
  · intro incoming h
    rw [recvmsg_ok rfl h, storeSender_construct]
    exact ⟨_, rfl⟩
  · intro e h
    rw [recvmsg_error h]
    exact ⟨_, rfl⟩

/-- The call the loop makes for a part, by what the socket delivers. -/
lemma emulatedReceive_cases :
    (∀ incoming, kernel.deliver host.socket flags (capacity arg.buffers)
        = (socket, .ok incoming) →
      ∃ part, loopCall (receive kernel flags) host (.construct arg.buffers arg.address)
        = (host.received socket arg incoming
            (storeSender arg.receiveHeader incoming.sender host.memory.addresses), part, none)) ∧
    (∀ e, kernel.deliver host.socket flags (capacity arg.buffers) = (socket, .error e) →
      ∃ part, loopCall (receive kernel flags) host (.construct arg.buffers arg.address)
        = (host.refused socket, part, some e)) := by
  have hreceive : receive kernel flags host (Message.construct arg.buffers arg.address) = _ :=
    receive_construct arg
  have hiov : arg.receiveHeader.msgIov = arg.buffers := rfl
  constructor
  · intro incoming h
    rw [recvmsg_ok hiov h] at hreceive
    exact ⟨_, loopCall_ok hreceive⟩
  · intro e h
    rw [← hiov] at h
    rw [recvmsg_error h] at hreceive
    exact ⟨_, loopCall_failed hreceive⟩

/-- Up to the addresses, the two implementations run in step. -/
lemma receive_in_step (kernel : Kernel σ) (flags : ℕ) (host : Host σ) (args : List PartArgs) :
    ((Batch.run (partCall (recvmsg kernel flags)) host (constructed args)).state.memory.bytes
        = (Batch.run (loopCall (receive kernel flags)) host
            (constructed args)).state.memory.bytes)
      ∧ (Batch.run (partCall (recvmsg kernel flags)) host (constructed args)).done
        = (Batch.run (loopCall (receive kernel flags)) host (constructed args)).done := by
  have hstep : ∀ s t : Host σ, ∀ part ∈ constructed args,
      (s.socket = t.socket ∧ s.memory.bytes = t.memory.bytes) →
        ((partCall (recvmsg kernel flags) s part).1.socket
            = (loopCall (receive kernel flags) t part).1.socket
          ∧ (partCall (recvmsg kernel flags) s part).1.memory.bytes
            = (loopCall (receive kernel flags) t part).1.memory.bytes)
        ∧ (partCall (recvmsg kernel flags) s part).2.2
          = (loopCall (receive kernel flags) t part).2.2 := by
    rintro s t part hpart ⟨hsocket, hbytes⟩
    obtain ⟨arg, -, rfl⟩ := List.mem_map.mp hpart
    rcases h : kernel.deliver s.socket flags (capacity arg.buffers) with ⟨socket, e | incoming⟩
    · obtain ⟨native, hnative⟩ := nativeReceive_cases.2 e h
      obtain ⟨emulated, hemulated⟩ := emulatedReceive_cases.2 e (hsocket ▸ h)
      rw [hnative, hemulated]
      exact ⟨⟨rfl, hbytes⟩, rfl⟩
    · obtain ⟨native, hnative⟩ := nativeReceive_cases.1 incoming h
      obtain ⟨emulated, hemulated⟩ := emulatedReceive_cases.1 incoming (hsocket ▸ h)
      rw [hnative, hemulated]
      exact ⟨⟨rfl, congrArg (Memory.scatter arg.buffers _) hbytes⟩, rfl⟩
  obtain ⟨⟨-, hbytes⟩, hdone⟩ := Batch.run_rel
    (R := fun s t : Host σ => s.socket = t.socket ∧ s.memory.bytes = t.memory.bytes) hstep
    (⟨rfl, rfl⟩ : host.socket = host.socket ∧ host.memory.bytes = host.memory.bytes)
  exact ⟨hbytes, hdone⟩

/-- Natively the addresses stay as they were. -/
lemma addresses_native (args : List PartArgs) :
    (Batch.run (partCall (recvmsg kernel flags)) host (constructed args)).state.memory.addresses
      = host.memory.addresses := by
  refine Batch.state_invariant
    (P := fun h : Host σ => h.memory.addresses = host.memory.addresses)
    (fun h part hpart haddr => ?_) rfl
  obtain ⟨arg, -, rfl⟩ := List.mem_map.mp hpart
  rcases hd : kernel.deliver h.socket flags (capacity arg.buffers) with ⟨socket, e | incoming⟩
  · obtain ⟨native, hnative⟩ := nativeReceive_cases.2 e hd
    rw [hnative]
    exact haddr
  · obtain ⟨native, hnative⟩ := nativeReceive_cases.1 incoming hd
    rw [hnative]
    exact haddr

/-- The loop stores the senders, one over the other. -/
lemma addresses_emulated (args : List PartArgs) (q : ℕ) :
    (Batch.run (loopCall (receive kernel flags)) host (constructed args)).state.memory.addresses q
      = (sendersAt kernel flags q host.socket args).foldl
          (fun a sender => storeName IPAddress.sizeofSockaddrIn6 sender a)
          (host.memory.addresses q) := by
  induction args generalizing host with
  | nil => rfl
  | cons arg args ih =>
    rw [sendersAt]
    rcases h : kernel.deliver host.socket flags (capacity arg.buffers) with ⟨socket, e | incoming⟩
    · obtain ⟨emulated, hemulated⟩ := emulatedReceive_cases.2 e h
      rw [constructed, List.map_cons, Batch.run_cons_failed hemulated]
      rfl
    · obtain ⟨emulated, hemulated⟩ := emulatedReceive_cases.1 incoming h
      rw [constructed, List.map_cons, Batch.run_cons_ok hemulated, Batch.Outcome.after_state]
      have hrest := @ih (host.received socket arg incoming
        (storeSender arg.receiveHeader incoming.sender host.memory.addresses))
      rw [constructed] at hrest
      rw [hrest]
      simp only [Host.received]
      rw [storeSender_receiveHeader]
      by_cases hq : arg.address = some q
      · simp only [if_pos hq, List.foldl_cons]
      · simp only [if_neg hq]

lemma receiveMultiple_emulated (kernel : Kernel σ) (flags : ℕ) (host : Host σ)
    (parts : List MultiMessagePart) :
    receiveMultiple false kernel flags host parts
      = ((Batch.run (loopCall (receive kernel flags)) host parts).state,
          (Batch.run (loopCall (receive kernel flags)) host parts).items,
          loopResult 0 (Batch.run (loopCall (receive kernel flags)) host parts)) :=
  multipleLoop_eq (receive kernel flags) 0 host parts

/-- **The native and the emulated `ReceiveMultiple` agree** in the count and the payload bytes
always, and in the sender addresses exactly where these are in memory already. -/
theorem receiveMultiple_agree_iff (kernel : Kernel σ) (flags : ℕ) (host : Host σ)
    (args : List PartArgs) :
    (let native := receiveMultiple true kernel flags host (constructed args)
     let emulated := receiveMultiple false kernel flags host (constructed args)
     native.2.2.result = emulated.2.2.result
      ∧ native.1.memory.bytes = emulated.1.memory.bytes
      ∧ ∀ arg ∈ args, ∀ q, arg.address = some q →
          native.1.memory.addresses q = emulated.1.memory.addresses q)
      ↔ ∀ arg ∈ args, ∀ q, arg.address = some q →
          AlreadyHolds (host.memory.addresses q)
            (sendersAt kernel flags q host.socket args) := by
  obtain ⟨hbytes, hdone⟩ := receive_in_step kernel flags host args
  have hresult : (receiveMultiple true kernel flags host (constructed args)).2.2.result
      = (receiveMultiple false kernel flags host (constructed args)).2.2.result := by
    rw [receiveMultiple_emulated, loopResult_zero_result]
    exact (Batch.count_eq_iff rfl).mpr hdone
  have hnames : ∀ q,
      (receiveMultiple true kernel flags host (constructed args)).1.memory.addresses q
        = (receiveMultiple false kernel flags host (constructed args)).1.memory.addresses q
      ↔ AlreadyHolds (host.memory.addresses q) (sendersAt kernel flags q host.socket args) := by
    intro q
    rw [← foldl_storeName_eq_iff, ← addresses_emulated, receiveMultiple_emulated]
    exact iff_of_eq (congrArg (· q = _) (addresses_native args))
  rw [receiveMultiple_emulated] at hresult hnames ⊢
  constructor
  · rintro ⟨-, -, hsame⟩ arg harg q hq
    exact (hnames q).mp (hsame arg harg q hq)
  · intro hholds
    exact ⟨hresult, hbytes, fun arg harg q hq => (hnames q).mpr (hholds arg harg q hq)⟩

end Receiving

/-- A datagram socket with a queue of incoming messages; an empty queue is `EAGAIN`. -/
def datagramQueue : Kernel (List Incoming) where
  transmit queue message := (queue, .ok message.payload.length)
  deliver queue _ _ :=
    match queue with
    | [] => ([], .error 11)
    | incoming :: queue => (queue, .ok incoming)

/-- One datagram from `127.0.0.1:53` is waiting; every `IPAddress` is a default one. -/
def waitingHost : Host (List Incoming) where
  socket := [⟨[2, 0, 0, 53, 127, 0, 0, 1, 0, 0, 0, 0, 0, 0, 0, 0], [7]⟩]
  memory := ⟨fun _ => 0, fun _ => ⟨.replicate 28 0⟩⟩
  sent := []

/-- Natively the sender of the datagram is not stored. -/
theorem receiveMultiple_waiting :
    (receiveMultiple true datagramQueue 0 waitingHost
        (constructed [⟨[⟨0, 4⟩], some 0⟩])).1.memory.addresses 0
      ≠ (receiveMultiple false datagramQueue 0 waitingHost
        (constructed [⟨[⟨0, 4⟩], some 0⟩])).1.memory.addresses 0 := by
  decide

end SMBB
