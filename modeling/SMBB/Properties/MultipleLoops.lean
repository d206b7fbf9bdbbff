import SMBB.Construction.MessagesWindows
import SMBB.Properties.MultipleMessages

/-!
# The emulating loops

Without a native function, `SendMultiple` and `ReceiveMultiple` make one call for each part, in
order, and stop at the first that fails: that call is the last one, its error is the one that is
returned, and the parts before it are the ones that count.  A kernel that answers from a script
and logs what it is called for is enough to say so for every sequence of answers.

The loop is the same in both builds; what counts as the success of a call and what as its failure
is told for each.  On Windows a size is counted in a `DWORD` and returned as an `int`, and the loop
takes a size of `2 ^ 31` bytes or more for a failure: there it does as it should exactly when no
call that is reached has such a success (`SizesFit`).
-/

namespace SMBB

open Batch

/-- A call of the operating system, with what it is given. -/
inductive MessageCall
  | transmit (message : Outgoing)
  | deliver (flags space : ℕ)
deriving DecidableEq

/-- A kernel that answers the `i`-th call with the `i`-th entry of a script, and logs it. -/
def Kernel.scripted (sends : ℕ → Except ℤ ℕ) (arrivals : ℕ → Except ℤ Incoming) :
    Kernel (List MessageCall) where
  transmit calls message := (calls ++ [.transmit message], sends calls.length)
  deliver calls flags space := (calls ++ [.deliver flags space], arrivals calls.length)

/-- The same on Windows. -/
def Windows.Kernel.scripted (sends : ℕ → Windows.WSAResult)
    (arrivals : ℕ → Windows.WSAResult × Option Incoming) :
    Windows.Kernel (List MessageCall) where
  sendTo calls message := (calls ++ [.transmit message], sends calls.length)
  recvFrom calls flags space := (calls ++ [.deliver flags space], arrivals calls.length)

/-- A process on a socket that has not been called yet. -/
def Host.fresh (memory : Memory) : Host (List MessageCall) := ⟨[], memory, []⟩

/-- `parts` are the parts that are handed over and `succeeds i part n` and `fails i e` say how the
`i`-th call ends.  What is returned is about the prefix of the parts up to the first failure. -/
structure StopsAtFailure (parts : List MultiMessagePart) (request : MultiMessagePart → MessageCall)
    (succeeds : ℕ → MultiMessagePart → ℕ → Prop) (fails : ℕ → ℤ → Prop)
    (outcome : Host (List MessageCall) × List MultiMessagePart × MessageResult) : Prop where
  failed : ∀ (k : ℕ) (sizes : ℕ → ℕ) (e : ℤ), k < parts.length →
    (∀ i part, i < k → parts[i]? = some part → succeeds i part (sizes i)) → fails k e →
      outcome.1.socket = (parts.take (k + 1)).map request
        ∧ outcome.2.2 = ⟨if k = 0 then -1 else k, e⟩
        ∧ outcome.2.1.map MultiMessagePart.result
          = (List.range k).map (fun i => (sizes i : ℤ))
            ++ (parts.drop k).map MultiMessagePart.result
  succeeded : ∀ sizes : ℕ → ℕ,
    (∀ i part, parts[i]? = some part → succeeds i part (sizes i)) →
      outcome.1.socket = parts.map request
        ∧ outcome.2.2 = ⟨parts.length, 0⟩
        ∧ outcome.2.1.map MultiMessagePart.result
          = (List.range parts.length).map (fun i => (sizes i : ℤ))

/-! ## Rounds -/

/-- A round of the loop is a call with an answer if its operation makes that call, returns the
size of its success and a negative result with the error of its failure. -/
lemma answered_loopCall
    {op : Host (List MessageCall) → Message → Host (List MessageCall) × Message × MessageResult}
    {P : Host (List MessageCall) → Prop} {request : MultiMessagePart → MessageCall}
    {succeeds : ℕ → MultiMessagePart → ℕ → Prop} {fails : ℕ → ℤ → Prop}
    (hkeeps : ∀ host message, P host → P (op host message).1)
    (hlogs : ∀ host part, P host →
      (op host part.message).1.socket = host.socket ++ [request part])
    (hsucceeds : ∀ host part n, succeeds host.socket.length part n →
      (op host part.message).2.2.result = n)
    (hfails : ∀ host message e, fails host.socket.length e →
      (op host message).2.2.result < 0 ∧ (op host message).2.2.error = e) :
    Answered (loopCall op) P Host.socket request MultiMessagePart.result
      (fun i part v => ∃ n : ℕ, v = n ∧ succeeds i part n) fails where
  keeps hP := by
    rw [loopCall_host]
    exact hkeeps _ _ hP
  logs hP := by
    rw [loopCall_host]
    exact hlogs _ _ hP
  ok := by
    rintro host part v - ⟨n, rfl, hn⟩
    have hresult := hsucceeds host part n hn
    rcases h : op host part.message with ⟨host', message, ⟨result, error⟩⟩
    rw [h] at hresult
    obtain rfl : result = n := hresult
    rw [loopCall_ok h]
    exact ⟨rfl, rfl⟩
  failed := by
    intro host part e _ he
    obtain ⟨hnegative, herror⟩ := hfails host part.message e he
    rcases h : op host part.message with ⟨host', message, result⟩
    rw [h] at hnegative herror
    obtain rfl : result.error = e := herror
    rw [loopCall_negative h hnegative]
    exact ⟨rfl, rfl⟩

/-- The loop over such an operation. -/
lemma stopsAtFailure_multipleLoop
    {op : Host (List MessageCall) → Message → Host (List MessageCall) × Message × MessageResult}
    {memory : Memory} {request : MultiMessagePart → MessageCall}
    {P : Host (List MessageCall) → Prop}
    {succeeds : ℕ → MultiMessagePart → ℕ → Prop} {fails : ℕ → ℤ → Prop}
    (hround : Answered (loopCall op) P Host.socket request MultiMessagePart.result
      (fun i part v => ∃ n : ℕ, v = n ∧ succeeds i part n) fails)
    (hfresh : P (Host.fresh memory)) (parts : List MultiMessagePart) :
    StopsAtFailure parts request succeeds fails
      (multipleLoop op 0 (Host.fresh memory) parts) := by
  rw [multipleLoop_eq]
  have hstart : (Host.fresh memory).socket.length = 0 := rfl
  constructor
  · intro k sizes e hk hsuccess hfails
    have hearlier : ∀ i part, (parts.take k)[i]? = some part →
        ∃ n : ℕ, (sizes i : ℤ) = n ∧ succeeds ((Host.fresh memory).socket.length + i) part n := by
      intro i part hpart
      rw [List.getElem?_take, Option.ite_none_right_eq_some] at hpart
      rw [hstart, Nat.zero_add]
      exact ⟨sizes i, rfl, hsuccess i part hpart.1 hpart.2⟩
    have hlength : (parts.take k).length = k := List.length_take_of_le hk.le
    have hlast : fails ((Host.fresh memory).socket.length + (parts.take k).length) e := by
      rwa [hstart, Nat.zero_add, hlength]
    have hsplit : parts.take k ++ parts[k] :: parts.drop (k + 1) = parts := by
      rw [← List.drop_eq_getElem_cons hk, List.take_append_drop]
    obtain ⟨hlog, hsizes, hdone, hfailure⟩ := hround.run_failed parts[k]
      (parts.drop (k + 1)) hfresh hearlier hlast
    rw [hsplit] at hlog hsizes hdone hfailure
    rw [List.take_append_getElem hk] at hlog
    rw [hlength, ← List.drop_eq_getElem_cons hk] at hsizes
    rw [hlength] at hdone
    refine ⟨hlog, ?_, hsizes⟩
    rw [loopResult, hfailure, hdone, Nat.zero_add]
  · intro sizes hsuccess
    have hall : ∀ i part, parts[i]? = some part →
        ∃ n : ℕ, (sizes i : ℤ) = n ∧ succeeds ((Host.fresh memory).socket.length + i) part n := by
      intro i part hpart
      rw [hstart, Nat.zero_add]
      exact ⟨sizes i, rfl, hsuccess i part hpart⟩
    obtain ⟨-, hlog, hsizes, hnone⟩ := hround.run_ok hfresh hall
    have hdone := (done_eq_length_iff (loopCall op) (Host.fresh memory) parts).mpr hnone
    refine ⟨hlog, ?_, hsizes⟩
    rw [loopResult, hnone, hdone, Nat.zero_add]

/-! ## Sending -/

/-- The call for a part that is sent. -/
def sendRequest (memory : Memory) (part : MultiMessagePart) : MessageCall :=
  let namelen := (part.message.msgName.map fun p => (memory.addresses p).getLength).getD 0
  .transmit ⟨destination memory { part.message with msgNamelen := namelen },
    Memory.gather memory.bytes part.message.msgIov⟩

section Sending

variable {sends : ℕ → Except ℤ ℕ} {arrivals : ℕ → Except ℤ Incoming}

lemma send_scripted (host : Host (List MessageCall)) (part : MultiMessagePart) :
    (send (.scripted sends arrivals) host part.message).1.memory = host.memory
      ∧ (send (.scripted sends arrivals) host part.message).1.socket
        = host.socket ++ [sendRequest host.memory part]
      ∧ (send (.scripted sends arrivals) host part.message).2.2
        = .ofCall (sends host.socket.length) := by
  rcases h : sends host.socket.length with e | n
  · simp [send, sendmsg, Kernel.scripted, sendRequest, h]
  · simp [send, sendmsg, Kernel.scripted, sendRequest, h]

lemma stopsAtFailure_sendMultiple (memory : Memory) (parts : List MultiMessagePart) :
    StopsAtFailure parts (sendRequest memory) (fun i _ n => sends i = .ok n)
      (fun i e => sends i = .error e)
      (sendMultiple false (.scripted sends arrivals) (Host.fresh memory) parts) := by
  refine stopsAtFailure_multipleLoop (P := fun host => host.memory = memory)
    (answered_loopCall ?_ ?_ ?_ ?_) rfl parts
  · intro host message hmemory
    exact (send_scripted host ⟨message, 0⟩).1.trans hmemory
  · rintro host part rfl
    exact (send_scripted host part).2.1
  · intro host part n hn
    rw [(send_scripted host part).2.2, hn]
    rfl
  · intro host message e he
    have hresult : (send (.scripted sends arrivals) host message).2.2 = _ :=
      (send_scripted host ⟨message, 0⟩).2.2
    have hnegative : (-1 : ℤ) < 0 := by decide
    rw [hresult, he]
    exact ⟨hnegative, rfl⟩

end Sending

/-! ## Receiving -/

/-- The call for a part that is received into. -/
def receiveRequest (flags : ℕ) (part : MultiMessagePart) : MessageCall :=
  .deliver flags (capacity part.message.msgIov)

/-- A message has arrived, and `n` of its bytes are in the buffers of the part. -/
def Arrived (arrival : Except ℤ Incoming) (part : MultiMessagePart) (n : ℕ) : Prop :=
  ∃ incoming, arrival = .ok incoming
    ∧ (incoming.payload.take (capacity part.message.msgIov)).length = n

section Receiving

variable {sends : ℕ → Except ℤ ℕ} {arrivals : ℕ → Except ℤ Incoming} {flags : ℕ}

lemma receive_scripted_socket (host : Host (List MessageCall)) (part : MultiMessagePart) :
    (receive (.scripted sends arrivals) flags host part.message).1.socket
      = host.socket ++ [receiveRequest flags part] := by
  rcases h : arrivals host.socket.length with e | incoming
  · simp [receive, recvmsg, Kernel.scripted, receiveRequest, h]
  · simp [receive, recvmsg, Kernel.scripted, receiveRequest, h]

lemma receive_scripted_ok {host : Host (List MessageCall)} {part : MultiMessagePart} {n : ℕ}
    (h : Arrived (arrivals host.socket.length) part n) :
    (receive (.scripted sends arrivals) flags host part.message).2.2.result = n := by
  obtain ⟨incoming, hincoming, rfl⟩ := h
  simp [receive, recvmsg, Kernel.scripted, hincoming]

lemma receive_scripted_failed {host : Host (List MessageCall)} {message : Message} {e : ℤ}
    (h : arrivals host.socket.length = .error e) :
    (receive (.scripted sends arrivals) flags host message).2.2.result < 0
      ∧ (receive (.scripted sends arrivals) flags host message).2.2.error = e := by
  simp [receive, recvmsg, Kernel.scripted, h]

lemma stopsAtFailure_receiveMultiple (memory : Memory) (parts : List MultiMessagePart) :
    StopsAtFailure parts (receiveRequest flags) (fun i part n => Arrived (arrivals i) part n)
      (fun i e => arrivals i = .error e)
      (receiveMultiple false (.scripted sends arrivals) flags (Host.fresh memory) parts) :=
  stopsAtFailure_multipleLoop (P := fun _ => True)
    (answered_loopCall (fun _ _ _ => trivial) (fun host part _ => receive_scripted_socket host part)
      (fun _ _ _ => receive_scripted_ok) (fun _ _ _ => receive_scripted_failed))
    trivial parts

end Receiving

/-! ## Windows -/

namespace Windows

/-- The first size that an `int` cannot hold. -/
def intEnd : ℕ := 0x80000000

namespace WSAResult

/-- A message was sent. -/
def sent (result : WSAResult) : Bool := !result.failed

/-- A message has arrived.  If it has more bytes than the buffers, the call fails for this. -/
def received (result : WSAResult) : Bool := !result.failed || result.lastError = wsaMsgSize

/-- A size that an `int` holds is returned. -/
lemma toInt_of_lt {result : WSAResult} (h : result.bytes.toNat < intEnd) :
    result.bytes.toInt = result.bytes.toNat := by
  rw [intEnd] at h
  rw [BitVec.toInt_eq_toNat_cond, if_pos (by omega)]

/-- Any other is returned as a negative number. -/
lemma toInt_neg_of_le {result : WSAResult} (h : intEnd ≤ result.bytes.toNat) :
    result.bytes.toInt < 0 := by
  rw [intEnd] at h
  have hword := result.bytes.isLt
  rw [BitVec.toInt_eq_toNat_cond, if_neg (by omega)]
  omega

end WSAResult

/-- The calls are successes with these sizes, or failures with these errors. -/
def StopsAtScript (parts : List MultiMessagePart) (request : MultiMessagePart → MessageCall)
    (ok : ℕ → Bool) (size : ℕ → ℕ) (error : ℕ → ℤ)
    (outcome : Host (List MessageCall) × List MultiMessagePart × MessageResult) : Prop :=
  StopsAtFailure parts request (fun i _ n => ok i = true ∧ size i = n)
    (fun i e => ok i = false ∧ error i = e) outcome

/-- No call of the first `n` that comes before every failure has a size that an `int` cannot
hold. -/
def SizesFit (ok : ℕ → Bool) (size : ℕ → ℕ) (n : ℕ) : Prop :=
  ∀ i < n, (∀ j ≤ i, ok j = true) → size i < intEnd

section Script

variable {parts : List MultiMessagePart} {request : MultiMessagePart → MessageCall}
  {ok : ℕ → Bool} {size : ℕ → ℕ} {error error' : ℕ → ℤ}
  {outcome : Host (List MessageCall) × List MultiMessagePart × MessageResult}

/-- A loop that takes the sizes that do not fit for failures. -/
def StopsAtUnfit (parts : List MultiMessagePart) (request : MultiMessagePart → MessageCall)
    (ok : ℕ → Bool) (size : ℕ → ℕ) (error error' : ℕ → ℤ)
    (outcome : Host (List MessageCall) × List MultiMessagePart × MessageResult) : Prop :=
  StopsAtFailure parts request (fun i _ n => (ok i = true ∧ size i = n) ∧ n < intEnd)
    (fun i e => (ok i = false ∧ error i = e) ∨ (ok i = true ∧ intEnd ≤ size i ∧ error' i = e))
    outcome

/-- If the sizes fit, there is no difference. -/
lemma StopsAtUnfit.of_sizesFit (h : StopsAtUnfit parts request ok size error error' outcome)
    (hfit : SizesFit ok size parts.length) :
    StopsAtScript parts request ok size error outcome where
  failed k sizes e hk hsuccess hfailure := by
    refine h.failed k sizes e hk (fun i part hi hpart => ?_) (Or.inl hfailure)
    have hi' := hsuccess i part hi hpart
    refine ⟨hi', hi'.2 ▸ hfit i (hi.trans hk) fun j hj => ?_⟩
    exact (hsuccess j parts[j] (hj.trans_lt hi) (List.getElem?_eq_getElem _)).1
  succeeded sizes hsuccess := by
    refine h.succeeded sizes fun i part hpart => ?_
    have hi' := hsuccess i part hpart
    obtain ⟨hi, -⟩ := List.getElem?_eq_some_iff.mp hpart
    refine ⟨hi', hi'.2 ▸ hfit i hi fun j hj => ?_⟩
    exact (hsuccess j parts[j] (List.getElem?_eq_getElem (hj.trans_lt hi))).1

/-- A loop that does as the script says returns more than any number of calls that succeed. -/
lemma StopsAtScript.lt_result (h : StopsAtScript parts request ok size error outcome) {i : ℕ}
    (hi : i < parts.length) (hok : ∀ j ≤ i, ok j = true) : (i : ℤ) < outcome.2.2.result := by
  by_cases hfailure : ∃ k < parts.length, ok k = false
  · obtain ⟨hk, hfails⟩ := Nat.find_spec hfailure
    have hbefore : ∀ j < Nat.find hfailure, ok j = true := by
      intro j hj
      have hmin := Nat.find_min hfailure hj
      exact Bool.not_eq_false _ ▸ fun hfalse => hmin ⟨hj.trans hk, hfalse⟩
    have hlt : i < Nat.find hfailure := by
      refine Nat.lt_of_not_le fun hle => ?_
      exact Bool.false_ne_true (hfails.symm.trans (hok _ hle))
    have hresult := (h.failed _ size _ hk (fun j _ hj _ => ⟨hbefore j hj, rfl⟩) ⟨hfails, rfl⟩).2.1
    rw [hresult, if_neg (Nat.ne_zero_of_lt hlt)]
    exact Int.ofNat_lt.mpr hlt
  · have hall : ∀ j < parts.length, ok j = true := by
      intro j hj
      exact Bool.not_eq_false _ ▸ fun hfalse => hfailure ⟨j, hj, hfalse⟩
    have hresult := (h.succeeded size fun j part hpart =>
      ⟨hall j (List.getElem?_eq_some_iff.mp hpart).1, rfl⟩).2.1
    rw [hresult]
    exact Int.ofNat_lt.mpr hi

/-- It does as the script says exactly if the sizes fit. -/
lemma StopsAtUnfit.stopsAtScript_iff
    (h : StopsAtUnfit parts request ok size error error' outcome) :
    StopsAtScript parts request ok size error outcome ↔ SizesFit ok size parts.length := by
  refine ⟨fun hscript => ?_, h.of_sizesFit⟩
  by_contra hunfit
  have hfirst : ∃ i, i < parts.length ∧ (∀ j ≤ i, ok j = true) ∧ intEnd ≤ size i := by
    simpa [SizesFit] using hunfit
  obtain ⟨hi, hok, hlarge⟩ := Nat.find_spec hfirst
  have hbefore : ∀ j < Nat.find hfirst, size j < intEnd := by
    intro j hj
    refine Nat.lt_of_not_le fun hle => Nat.find_min hfirst hj ?_
    exact ⟨hj.trans hi, fun l hl => hok l (hl.trans hj.le), hle⟩
  -- the loop ends at the first size that does not fit
  have hresult := (h.failed _ size _ hi
    (fun j _ hj _ => ⟨⟨hok j hj.le, rfl⟩, hbefore j hj⟩)
    (Or.inr ⟨hok _ le_rfl, hlarge, rfl⟩)).2.1
  have hlt := hscript.lt_result hi hok
  rw [hresult] at hlt
  dsimp only at hlt
  split at hlt <;> omega

end Script

variable {sends : ℕ → WSAResult} {arrivals : ℕ → WSAResult × Option Incoming} {flags : ℕ}

lemma stopsAtUnfit_sendMultiple (memory : Memory) (parts : List MultiMessagePart) :
    StopsAtUnfit parts (sendRequest memory) (fun i => (sends i).sent)
      (fun i => (sends i).bytes.toNat) (fun i => (sends i).lastError)
      (fun i => (sends i).lastError)
      (sendMultiple (.scripted sends arrivals) (Host.fresh memory) parts) := by
  refine stopsAtFailure_multipleLoop (P := fun host => host.memory = memory)
    (answered_loopCall ?_ ?_ ?_ ?_) rfl parts
  · exact fun _ _ hmemory => hmemory
  · rintro host part rfl
    rfl
  · rintro host part n ⟨⟨hok, rfl⟩, hfits⟩
    have hsent : (sends host.socket.length).failed = false := by simpa [WSAResult.sent] using hok
    simp [send, Kernel.scripted, hsent, WSAResult.toInt_of_lt hfits]
  · rintro host message e (⟨hfailed, rfl⟩ | ⟨hok, hlarge, rfl⟩)
    · have hfailed : (sends host.socket.length).failed = true := by
        simpa [WSAResult.sent] using hfailed
      simp [send, Kernel.scripted, hfailed]
    · have hsent : (sends host.socket.length).failed = false := by simpa [WSAResult.sent] using hok
      simp [send, Kernel.scripted, hsent, WSAResult.toInt_neg_of_le hlarge]

lemma stopsAtUnfit_receiveMultiple (memory : Memory) (parts : List MultiMessagePart) :
    StopsAtUnfit parts (receiveRequest flags) (fun i => (arrivals i).1.received)
      (fun i => (arrivals i).1.bytes.toNat) (fun i => (arrivals i).1.lastError)
      (fun i => if (arrivals i).1.failed then (arrivals i).1.lastError else 0)
      (receiveMultiple (.scripted sends arrivals) flags (Host.fresh memory) parts) := by
  refine stopsAtFailure_multipleLoop (P := fun _ => True)
    (answered_loopCall (fun _ _ _ => trivial) ?_ ?_ ?_) trivial parts
  · intro host part _
    rcases part with ⟨⟨_ | p, namelen, buffers, messageFlags⟩, result⟩ <;> rfl
  · rintro host part n ⟨⟨hok, rfl⟩, hfits⟩
    have hvalue := WSAResult.toInt_of_lt hfits
    rcases hfailed : (arrivals host.socket.length).1.failed with _ | _
    · simp [receive, Kernel.scripted, hfailed, hvalue]
    · have herror : (arrivals host.socket.length).1.lastError = wsaMsgSize := by
        simpa [WSAResult.received, hfailed] using hok
      simp [receive, Kernel.scripted, hfailed, herror, hvalue]
  · rintro host message e (⟨hfailed, rfl⟩ | ⟨hok, hlarge, rfl⟩)
    · have hboth : (arrivals host.socket.length).1.failed = true
          ∧ (arrivals host.socket.length).1.lastError ≠ wsaMsgSize := by
        simpa [WSAResult.received] using hfailed
      simp [receive, Kernel.scripted, hboth.1, hboth.2]
    · have hvalue := WSAResult.toInt_neg_of_le hlarge
      rcases hfailed : (arrivals host.socket.length).1.failed with _ | _
      · simp [receive, Kernel.scripted, hfailed, hvalue]
      · have herror : (arrivals host.socket.length).1.lastError = wsaMsgSize := by
          simpa [WSAResult.received, hfailed] using hok
        simp [receive, Kernel.scripted, hfailed, herror, hvalue]

end Windows

/-- **The emulated array calls stop at the first failure**: in the POSIX build for every array,
every memory and every script of answers, and on Windows exactly when the sizes fit.  The calls
made, the value returned and the results in the parts are then those of the prefix up to it. -/
theorem multipleLoops_stopAtFailure_iff (parts : List MultiMessagePart) (memory : Memory)
    (flags : ℕ) (sends : ℕ → Except ℤ ℕ) (arrivals : ℕ → Except ℤ Incoming)
    (wsaSends : ℕ → Windows.WSAResult) (wsaArrivals : ℕ → Windows.WSAResult × Option Incoming) :
    StopsAtFailure parts (sendRequest memory) (fun i _ n => sends i = .ok n)
        (fun i e => sends i = .error e)
        (sendMultiple false (.scripted sends arrivals) (Host.fresh memory) parts)
      ∧ StopsAtFailure parts (receiveRequest flags) (fun i part n => Arrived (arrivals i) part n)
        (fun i e => arrivals i = .error e)
        (receiveMultiple false (.scripted sends arrivals) flags (Host.fresh memory) parts)
      ∧ (Windows.StopsAtScript parts (sendRequest memory) (fun i => (wsaSends i).sent)
          (fun i => (wsaSends i).bytes.toNat) (fun i => (wsaSends i).lastError)
          (Windows.sendMultiple (.scripted wsaSends wsaArrivals) (Host.fresh memory) parts)
        ↔ Windows.SizesFit (fun i => (wsaSends i).sent) (fun i => (wsaSends i).bytes.toNat)
          parts.length)
      ∧ (Windows.StopsAtScript parts (receiveRequest flags) (fun i => (wsaArrivals i).1.received)
          (fun i => (wsaArrivals i).1.bytes.toNat) (fun i => (wsaArrivals i).1.lastError)
          (Windows.receiveMultiple (.scripted wsaSends wsaArrivals) flags (Host.fresh memory)
            parts)
        ↔ Windows.SizesFit (fun i => (wsaArrivals i).1.received)
          (fun i => (wsaArrivals i).1.bytes.toNat) parts.length) :=
  ⟨stopsAtFailure_sendMultiple memory parts, stopsAtFailure_receiveMultiple memory parts,
    (Windows.stopsAtUnfit_sendMultiple memory parts).stopsAtScript_iff,
    (Windows.stopsAtUnfit_receiveMultiple memory parts).stopsAtScript_iff⟩

/-- One part, of `2 ^ 31` bytes. -/
def largePart : MultiMessagePart := .construct [⟨0, 0x80000000⟩] none

/-- The answer to a call that has sent it. -/
def Windows.sentLarge : Windows.WSAResult := ⟨false, 0, 0x80000000⟩

/-- The part is accepted, and is reported as a failure that has no error. -/
theorem not_stopsAtFailure_large :
    (Windows.sendMultiple
        (.scripted (fun _ => Windows.sentLarge) fun _ => (Windows.sentLarge, none))
        (Host.fresh waitingHost.memory) [largePart]).2.2 = ⟨-1, 0⟩
      ∧ ¬Windows.StopsAtScript [largePart] (sendRequest waitingHost.memory)
        (fun _ => Windows.sentLarge.sent) (fun _ => Windows.sentLarge.bytes.toNat)
        (fun _ => Windows.sentLarge.lastError)
        (Windows.sendMultiple
          (.scripted (fun _ => Windows.sentLarge) fun _ => (Windows.sentLarge, none))
          (Host.fresh waitingHost.memory) [largePart]) := by
  refine ⟨rfl, fun h => ?_⟩
  have hlt : (0 : ℤ) < -1 := h.lt_result Nat.one_pos fun _ _ => rfl
  exact absurd hlt (by decide)

end SMBB
