import SMBB.Construction.MessagesWindows
import SMBB.Framework.Resumption
import SMBB.Properties.MultipleMessages

/-!
# Transfers

`SendMultiple` and `ReceiveMultiple` may return before they are through, and return the number of
messages they are done with.  A program that has more messages than one call takes, or whose call
stops at a failure, goes on behind the messages that were counted: a transfer.  Its calls may be
for any number of messages.

A call of either implementation is a batch, so a transfer is a batch that is taken up again
(`again_mmsg`, `again_loop`).

What becomes of the messages is told by the kernel: `Kernel.recorded` keeps a ledger beside the
socket and is otherwise the kernel it is made from.
-/

namespace SMBB

variable {σ : Type*}

/-! ## The ledger -/

/-- The messages that were accepted, with the sizes that were answered, the messages that were
delivered, and the number of calls that were refused. -/
structure Ledger where
  accepted : List (Outgoing × ℤ)
  delivered : List Incoming
  refused : ℕ

/-- Nothing has happened yet. -/
def Ledger.empty : Ledger := ⟨[], [], 0⟩

/-- A message was accepted. -/
def Ledger.accept (ledger : Ledger) (message : Outgoing) (size : ℤ) : Ledger :=
  { ledger with accepted := ledger.accepted ++ [(message, size)] }

/-- A message was delivered. -/
def Ledger.deliver (ledger : Ledger) (incoming : Incoming) : Ledger :=
  { ledger with delivered := ledger.delivered ++ [incoming] }

/-- A call was refused. -/
def Ledger.refuse (ledger : Ledger) : Ledger := { ledger with refused := ledger.refused + 1 }

/-- A kernel that keeps a ledger. -/
def Kernel.recorded (kernel : Kernel σ) : Kernel (σ × Ledger) where
  transmit s message :=
    match kernel.transmit s.1 message with
    | (socket, .ok n) => ((socket, s.2.accept message n), .ok n)
    | (socket, .error e) => ((socket, s.2.refuse), .error e)
  deliver s flags space :=
    match kernel.deliver s.1 flags space with
    | (socket, .ok incoming) => ((socket, s.2.deliver incoming), .ok incoming)
    | (socket, .error e) => ((socket, s.2.refuse), .error e)

/-- The same on Windows. -/
def Windows.Kernel.recorded (kernel : Windows.Kernel σ) : Windows.Kernel (σ × Ledger) where
  sendTo s message :=
    match kernel.sendTo s.1 message with
    | (socket, result) =>
      ((socket, if result.failed then s.2.refuse else s.2.accept message result.bytes.toInt),
        result)
  recvFrom s flags space :=
    match kernel.recvFrom s.1 flags space with
    | (socket, result, stored) =>
      ((socket, (stored.map s.2.deliver).getD s.2.refuse), result, stored)

/-! ## Rounds -/

/-- The buffers and the address that a header was built with. -/
def Message.args (header : Message) : PartArgs := ⟨header.msgIov, header.msgName⟩

/-- A call on a header, with what `MessageResult` makes of its answer. -/
def resultCall (call : Host σ → Message → Host σ × Message × Except ℤ ℕ) (host : Host σ)
    (header : Message) : Host σ × Message × MessageResult :=
  match call host header with
  | (host, message, result) => (host, message, .ofCall result)

/-- A native batch is one of rounds. -/
lemma partCall_eq_loopCall (call : Host σ → Message → Host σ × Message × Except ℤ ℕ) :
    partCall call = loopCall (resultCall call) := by
  funext host part
  rcases h : call host part.message with ⟨host', message, e | n⟩
  · have hresult : resultCall call host part.message = (host', message, ⟨-1, e⟩) := by
      rw [resultCall, h]
      rfl
    rw [loopCall_failed hresult, partCall, h]
  · have hresult : resultCall call host part.message = (host', message, ⟨n, 0⟩) := by
      rw [resultCall, h]
      rfl
    rw [loopCall_ok hresult, partCall, h]

/-- A round of the emulating loop. -/
lemma loopCall_eq (op : Host σ → Message → Host σ × Message × MessageResult) (host : Host σ)
    (part : MultiMessagePart) :
    loopCall op host part
      = if (op host part.message).2.2.failed = true then
          ((op host part.message).1, ⟨(op host part.message).2.1, part.result⟩,
            some (op host part.message).2.2.error)
        else
          ((op host part.message).1,
            ⟨(op host part.message).2.1, (op host part.message).2.2.result⟩, none) := rfl

/-! ## Calls that go on behind the last one -/

/-- `SendMultiple` or `ReceiveMultiple` on one socket. -/
abbrev ArrayCall (σ : Type*) :=
  Host σ → List MultiMessagePart → Host σ × List MultiMessagePart × MessageResult

/-- The process and its parts, those before the others that a call has counted. -/
abbrev Transfer (σ : Type*) := Batch.Progress (Host σ) MultiMessagePart

namespace Transfer

/-- Before the first call. -/
def start (socket : σ) (memory : Memory) (args : List PartArgs) : Transfer σ :=
  ⟨⟨socket, memory, []⟩, [], constructed args⟩

/-- One more call, for at most `n` of the parts that are left. -/
def again (call : ArrayCall σ) (t : Transfer σ) (n : ℕ) : Transfer σ :=
  let (host, parts, result) := call t.state (t.left.take n)
  ⟨host, t.finished ++ parts.take result.result.toNat,
    parts.drop result.result.toNat ++ t.left.drop n⟩

/-- Calls for `ns` parts each, one after the other. -/
def calls (call : ArrayCall σ) (t : Transfer σ) (ns : List ℕ) : Transfer σ :=
  ns.foldl (again call) t

/-- The number that a batch returns counts what it has done, `-1` being nothing. -/
lemma toNat_count {τ α ε : Type*} (o : Batch.Outcome τ α ε) : o.count.toNat = o.done := by
  unfold Batch.Outcome.count
  split
  · next h =>
    obtain ⟨-, hdone⟩ := Bool.and_eq_true_iff.mp h
    rw [of_decide_eq_true hdone]
    rfl
  · exact Int.toNat_natCast _

/-- A native call goes on with a batch of rounds. -/
lemma again_mmsg (call : Host σ → Message → Host σ × Message × Except ℤ ℕ) :
    again (mmsg call) = Batch.Progress.goOn (loopCall (resultCall call)) := by
  funext t n
  simp only [again, mmsg, Batch.Progress.goOn, toNat_count, partCall_eq_loopCall]

/-- So does an emulated one. -/
lemma again_loop (op : Host σ → Message → Host σ × Message × MessageResult) :
    again (multipleLoop op 0) = Batch.Progress.goOn (loopCall op) := by
  funext t n
  simp only [again, multipleLoop_eq, Batch.Progress.goOn, loopResult_zero_result, toNat_count]

end Transfer

end SMBB
