import SMBB.Construction.IPSocket

/-!
# What a failed `Open` leaves behind

`Open(family, protocol)` leaves a socket that it could not open closed.  The overload with an
address stores the handle first and may fail afterwards, in `bind`, `listen` or `connect`; it
returns false and keeps the handle, so that the next `Open` on the object is refused.
-/

namespace SMBB

open Ownership (follow)

variable {δ : Type} [DecidableEq δ] {p : SocketPlatform δ}

/-! ## Events -/

@[simp] lemma socketEvents_nil : socketEvents p [] = [] := rfl

lemma socketEvents_append (calls calls' : List (SocketCall δ)) :
    socketEvents p (calls ++ calls') = socketEvents p calls ++ socketEvents p calls' :=
  List.filterMap_append

/-- The event of a call that asks for a handle. -/
def handedOut (p : SocketPlatform δ) (answer : δ) : List (Ownership.Event δ) :=
  if answer = p.invalidHandle then [] else [.acquire answer]

lemma socketEvents_socket (family protocol : ℕ) (answer : δ) :
    socketEvents p [.socket family protocol answer] = handedOut p answer := by
  rw [handedOut]
  split
  · exact List.filterMap_cons_none (if_pos ‹_›)
  · exact List.filterMap_cons_some (if_neg ‹_›)

lemma release_not_mem_handedOut (d answer : δ) : .release d ∉ handedOut p answer := by
  rw [handedOut]
  split
  · exact List.not_mem_nil
  · intro h
    cases List.mem_singleton.mp h

lemma socketEvents_accept (handle answer : δ) :
    socketEvents p [.accept handle answer] = handedOut p answer := by
  rw [handedOut]
  split
  · exact List.filterMap_cons_none (if_pos ‹_›)
  · exact List.filterMap_cons_some (if_neg ‹_›)

namespace IPSocket

/-- The handle that an object holds. -/
def held (p : SocketPlatform δ) (s : IPSocket δ) : Option δ :=
  if s.handle = p.invalidHandle then none else some s.handle

variable {s : IPSocket δ}

lemma isValid_eq_true_iff : s.isValid p = true ↔ s.handle ≠ p.invalidHandle :=
  decide_eq_true_iff

lemma isValid_eq_false_iff : s.isValid p = false ↔ s.handle = p.invalidHandle := by
  rw [isValid, decide_eq_false_iff_not, not_not]

lemma held_of_invalid (h : s.handle = p.invalidHandle) : s.held p = none := if_pos h

lemma held_of_valid (h : s.handle ≠ p.invalidHandle) : s.held p = some s.handle := if_neg h

/-- A holder of nothing takes what is handed out. -/
lemma follow_handedOut (p : SocketPlatform δ) (answer : δ) :
    Runs.run follow none (handedOut p answer) = some (held p ⟨answer⟩) := by
  by_cases h : answer = p.invalidHandle
  · rw [handedOut, if_pos h, held_of_invalid h]
    rfl
  · rw [handedOut, if_neg h, held_of_valid h]
    rfl

/-! ## `Open(family, protocol)` -/

lemma openFamily_valid (h : s.isValid p = true) (family protocol : ℕ) (answer : δ) :
    s.openFamily p family protocol answer = ⟨s, false, []⟩ :=
  if_pos h

lemma openFamily_closed (h : s.isValid p = false) (family protocol : ℕ) (answer : δ) :
    s.openFamily p family protocol answer
      = ⟨⟨answer⟩, isValid p ⟨answer⟩, [.socket family protocol answer]⟩ := by
  rw [openFamily, if_neg (Bool.not_eq_true _ ▸ h)]

/-- The object takes at most the handle that it holds at the end. -/
lemma follow_openFamily (p : SocketPlatform δ) (s : IPSocket δ) (family protocol : ℕ)
    (answer : δ) :
    Runs.run follow (s.held p) (socketEvents p (s.openFamily p family protocol answer).calls)
      = some ((s.openFamily p family protocol answer).object.held p) := by
  cases hs : s.isValid p with
  | true =>
    rw [openFamily_valid hs]
    rfl
  | false =>
    rw [openFamily_closed hs, held_of_invalid (isValid_eq_false_iff.mp hs), socketEvents_socket,
      follow_handedOut]

lemma release_not_mem_openFamily (p : SocketPlatform δ) (s : IPSocket δ) (family protocol : ℕ)
    (answer d : δ) :
    .release d ∉ socketEvents p (s.openFamily p family protocol answer).calls := by
  cases hs : s.isValid p with
  | true =>
    rw [openFamily_valid hs]
    exact List.not_mem_nil
  | false =>
    rw [openFamily_closed hs, socketEvents_socket]
    exact release_not_mem_handedOut d answer

/-! ## `Open(address, protocol, openAttempt)` -/

/-- The steps that the attempt takes once there is a handle all succeed.  A connection that is
pending or already made counts as one. -/
def Succeeds (p : SocketPlatform δ) (openAttempt : OpenAttempt) (os : OpenAnswers δ) : Prop :=
  match openAttempt with
  | .openOnly => True
  | .openAndBind => os.bind = true
  | .openBindAndListen => os.bind = true ∧ os.listen = true
  | .openAndConnect => ∀ error, os.connect = some error → error = p.isConn ∨ error ∈ p.pending

omit [DecidableEq δ] in
lemma connectResult_ne_failed_iff {answer : Option ℤ} :
    connectResult p answer ≠ .failed
      ↔ ∀ error, answer = some error → error = p.isConn ∨ error ∈ p.pending := by
  cases answer with
  | none => simp [connectResult]
  | some error =>
    by_cases hconn : error = p.isConn
    · simp [connectResult, hconn]
    · by_cases hpending : error ∈ p.pending
      · simp [connectResult, hconn, hpending]
      · simp [connectResult, hconn, hpending]

/-- `WOULDBLOCK` stands for a pending connection on Windows only. -/
example : connectResult posixSockets (some 11) = .failed
    ∧ connectResult windowsSockets (some 10035) = .pending :=
  ⟨rfl, rfl⟩

/-- `Open` with an address is `Open` with its family, followed by calls that hand out no handle and
give none back. -/
lemma openAddress_spec (p : SocketPlatform δ) (s : IPSocket δ) (address : IPAddress)
    (protocol : ℕ) (openAttempt : OpenAttempt) (os : OpenAnswers δ) :
    (s.openAddress p address protocol openAttempt os).object
        = (s.openFamily p address.getFamily protocol os.socket).object
      ∧ ((s.openAddress p address protocol openAttempt os).result = true
        ↔ (s.openFamily p address.getFamily protocol os.socket).result = true
          ∧ Succeeds p openAttempt os)
      ∧ socketEvents p (s.openAddress p address protocol openAttempt os).calls
        = socketEvents p (s.openFamily p address.getFamily protocol os.socket).calls := by
  unfold openAddress
  dsimp only
  cases hopened : (s.openFamily p address.getFamily protocol os.socket).result with
  | false => simp
  | true =>
    simp only [if_true, true_and]
    cases openAttempt with
    | openOnly => exact ⟨rfl, iff_of_true rfl trivial, rfl⟩
    | openAndBind =>
      refine ⟨rfl, Iff.rfl, ?_⟩
      rw [socketEvents_append]
      exact List.append_nil _
    | openBindAndListen =>
      cases hbind : os.bind with
      | false =>
        simp only [bind, Succeeds, hbind, Bool.false_eq_true, if_false, false_and, true_and]
        rw [socketEvents_append]
        exact List.append_nil _
      | true =>
        simp only [bind, listen, Succeeds, hbind, if_true, true_and]
        rw [socketEvents_append]
        exact List.append_nil _
    | openAndConnect =>
      refine ⟨rfl, ?_, ?_⟩
      · exact decide_eq_true_iff.trans connectResult_ne_failed_iff
      · rw [socketEvents_append]
        exact List.append_nil _

/-! ## After a failure -/

/-- Nothing is left of an `Open`: the object is closed, every handle was given back, and the next
`Open` makes its call. -/
structure NothingLeft (p : SocketPlatform δ) (opened : Opened δ) : Prop where
  isValid : opened.object.isValid p = false
  events : Runs.run follow none (socketEvents p opened.calls) = some none
  next : ∀ family protocol answer,
    .socket family protocol answer ∈ (opened.object.openFamily p family protocol answer).calls

/-- **A failed `Open` leaves nothing behind** exactly when the system gave no handle, or all that
the attempt does with it succeeds. -/
theorem nothingLeft_iff {s : IPSocket δ} (hclosed : s.isValid p = false) (address : IPAddress)
    (protocol : ℕ) (openAttempt : OpenAttempt) (os : OpenAnswers δ) :
    ((s.openAddress p address protocol openAttempt os).result = false →
        NothingLeft p (s.openAddress p address protocol openAttempt os))
      ↔ os.socket = p.invalidHandle ∨ Succeeds p openAttempt os := by
  obtain ⟨hobject, hresult, hevents⟩ := openAddress_spec p s address protocol openAttempt os
  by_cases hsocket : os.socket = p.invalidHandle
  · have hinvalid : (s.openAddress p address protocol openAttempt os).object.isValid p = false := by
      rw [hobject, openFamily_closed hclosed]
      exact isValid_eq_false_iff.mpr hsocket
    refine iff_of_true (fun _ => ⟨hinvalid, ?_, fun family protocol' answer => ?_⟩)
      (Or.inl hsocket)
    · have hfollow := follow_openFamily p s address.getFamily protocol os.socket
      rwa [held_of_invalid (isValid_eq_false_iff.mp hclosed), ← hevents, ← hobject,
        held_of_invalid (isValid_eq_false_iff.mp hinvalid)] at hfollow
    · rw [openFamily_closed hinvalid]
      exact List.mem_singleton_self _
  · have hvalid : isValid p ⟨os.socket⟩ = true := isValid_eq_true_iff.mpr hsocket
    rw [openFamily_closed hclosed] at hobject hresult
    rw [or_iff_right hsocket]
    constructor
    · intro h
      by_contra hfails
      have hfalse := Bool.not_eq_true _ ▸ mt (fun h => (hresult.mp h).2) hfails
      have hinvalid := (h hfalse).isValid
      rw [hobject, hvalid] at hinvalid
      exact Bool.noConfusion hinvalid
    · intro hsucceeds hfalse
      rw [hresult.mpr ⟨hvalid, hsucceeds⟩] at hfalse
      exact Bool.noConfusion hfalse

/-- `127.0.0.1:8080`. -/
def localAddress : IPAddress :=
  .ofSockaddrIn ⟨#v[31, 144], loopbackIP, .replicate 8 0⟩ (.replicate 12 0)

/-- There is no handle. -/
theorem nothingLeft_exhausted :
    NothingLeft posixSockets ((construct posixSockets).openAddress posixSockets localAddress 1
      .openAndConnect ⟨-1, true, true, none⟩) :=
  (nothingLeft_iff rfl localAddress 1 .openAndConnect ⟨-1, true, true, none⟩).mpr (Or.inl rfl) rfl

/-- The port is taken: `Open` fails, and so does the next one without a call. -/
theorem not_nothingLeft_bind :
    ∃ opened, opened = (construct posixSockets).openAddress posixSockets localAddress 1
        .openBindAndListen ⟨3, false, true, none⟩
      ∧ opened.result = false ∧ opened.object.isValid posixSockets = true
      ∧ opened.object.openFamily posixSockets ipv4 1 4 = ⟨⟨3⟩, false, []⟩
      ∧ ¬NothingLeft posixSockets opened :=
  ⟨_, rfl, rfl, rfl, rfl, fun h => Bool.noConfusion h.isValid⟩

end IPSocket
end SMBB
