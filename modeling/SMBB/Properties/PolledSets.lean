import SMBB.Construction.PollSetsWindows
import SMBB.Properties.Polling
import SMBB.Framework.Machines

/-!
# What an array of `PollItem`s is for

Seen from outside, a `PollItem` has a socket, a switch, a mask of what it monitors and the result
of the last `Poll` that it was part of.  `PollEntry` is that: four fields, and the socket is what it
is whether the switch is on or off.  In the code the switch is a bit of the handle, which the
system reads as well: it passes over an item whose handle has it.

A program goes through an interface (`PollInterface`).  Where one implementation is another in
disguise, no program can tell them apart (`PollInterface.Disguises.answers_eq`), and both builds
are `PollEntry`s in disguise.  What the builds make of a `Poll` differs, and stays so in the
description: where no item is enabled, the POSIX build asks the system and clears the results, the
Windows build does neither (`posixManner`, `windowsManner`).
-/

namespace SMBB

open Flags

/-! ## Programs -/

/-- A handle that leaves its upper bit to the switch, as those of open sockets do. -/
abbrev ValidHandle (w : ℕ) := { handle : BitVec w // handle.msb = false }

/-- Whether a system call fails, and what it then makes of the result in each place of the array. -/
abbrev PollFailure := Option (ℕ → BitVec 16 → BitVec 16)

/-- What can be done with an array of items. -/
structure PollInterface (w : ℕ) (item : Type) where
  make : ValidHandle w → PollValue → item
  enable : item → item
  disable : item → item
  setMonitor : item → PollValue → item
  isEnabled : item → Bool
  getMonitor : item → PollValue
  getSocket : item → BitVec w
  hasFailedConnectionResult : item → (BitVec w → Bool) → Bool
  hasResult : item → PollValue → Bool
  getResult : item → PollValue
  poll : (BitVec w → BitVec 16) → PollFailure → List item → ℕ → ℤ → Option (ℤ × List item)

/-- The calls of a program on an array of items.  With a `Poll` comes what is pending on each
socket, and how the system call fails if it does. -/
inductive PollInput (w : ℕ)
  | make (i : ℕ) (socket : ValidHandle w) (monitor : PollValue)
  | enable (i : ℕ)
  | disable (i : ℕ)
  | setMonitor (i : ℕ) (value : PollValue)
  | isEnabled (i : ℕ)
  | getMonitor (i : ℕ)
  | getSocket (i : ℕ)
  | hasFailedConnectionResult (i : ℕ) (excepted : BitVec w → Bool)
  | hasResult (i : ℕ) (value : PollValue)
  | getResult (i : ℕ)
  | poll (pending : BitVec w → BitVec 16) (failure : PollFailure) (numItems : ℕ) (timeoutMs : ℤ)

/-- What the calls return. -/
inductive PollAnswer (w : ℕ)
  | done
  | bool (value : Bool)
  | mask (value : PollValue)
  | socket (handle : BitVec w)
  | polled (result : ℤ)
deriving DecidableEq

namespace PollInterface

variable {w : ℕ} {item entry : Type}

/-- An item is changed in its place. -/
def modify (set : List item) (i : ℕ) (f : item → item) : Option (List item × PollAnswer w) :=
  set[i]?.map fun old => (set.set i (f old), .done)

/-- An item is asked. -/
def look (set : List item) (i : ℕ) (f : item → PollAnswer w) :
    Option (List item × PollAnswer w) :=
  set[i]?.map fun old => (set, f old)

/-- A call.  An index beyond the array has no meaning. -/
def respond (m : PollInterface w item) (set : List item) :
    PollInput w → Option (List item × PollAnswer w)
  | .make i socket monitor => modify set i fun _ => m.make socket monitor
  | .enable i => modify set i m.enable
  | .disable i => modify set i m.disable
  | .setMonitor i value => modify set i fun old => m.setMonitor old value
  | .isEnabled i => look set i fun old => .bool (m.isEnabled old)
  | .getMonitor i => look set i fun old => .mask (m.getMonitor old)
  | .getSocket i => look set i fun old => .socket (m.getSocket old)
  | .hasFailedConnectionResult i excepted =>
    look set i fun old => .bool (m.hasFailedConnectionResult old excepted)
  | .hasResult i value => look set i fun old => .bool (m.hasResult old value)
  | .getResult i => look set i fun old => .mask (m.getResult old)
  | .poll pending failure numItems timeoutMs =>
    (m.poll pending failure set numItems timeoutMs).map fun polled => (polled.2, .polled polled.1)

/-- Every item of the one implementation that comes up in a program is the disguise of one of the
other, and every call sees through it. -/
structure Disguises (m : PollInterface w item) (m' : PollInterface w entry)
    (disguise : entry → item) : Prop where
  make : ∀ socket monitor, m.make socket monitor = disguise (m'.make socket monitor)
  enable : ∀ e, m.enable (disguise e) = disguise (m'.enable e)
  disable : ∀ e, m.disable (disguise e) = disguise (m'.disable e)
  setMonitor : ∀ e value, m.setMonitor (disguise e) value = disguise (m'.setMonitor e value)
  isEnabled : ∀ e, m.isEnabled (disguise e) = m'.isEnabled e
  getMonitor : ∀ e, m.getMonitor (disguise e) = m'.getMonitor e
  getSocket : ∀ e, m.getSocket (disguise e) = m'.getSocket e
  hasFailedConnectionResult : ∀ e excepted,
    m.hasFailedConnectionResult (disguise e) excepted = m'.hasFailedConnectionResult e excepted
  hasResult : ∀ e value, m.hasResult (disguise e) value = m'.hasResult e value
  getResult : ∀ e, m.getResult (disguise e) = m'.getResult e
  poll : ∀ pending failure entries numItems timeoutMs,
    m.poll pending failure (entries.map disguise) numItems timeoutMs
      = (m'.poll pending failure entries numItems timeoutMs).map
          (Prod.map id (List.map disguise))

section Disguises

variable {m : PollInterface w item} {m' : PollInterface w entry} {disguise : entry → item}

lemma modify_map {f : item → item} {g : entry → entry}
    (h : ∀ e, f (disguise e) = disguise (g e)) (entries : List entry) (i : ℕ) :
    modify (w := w) (entries.map disguise) i f
      = (modify (w := w) entries i g).map (Prod.map (List.map disguise) id) := by
  rw [modify, modify, List.getElem?_map]
  rcases entries[i]? with _ | old
  · rfl
  · simp only [Option.map_some, h, Prod.map, List.map_set, id]

lemma look_map {α : Type} {read : item → α} {read' : entry → α} (say : α → PollAnswer w)
    (h : ∀ e, read (disguise e) = read' e) (entries : List entry) (i : ℕ) :
    look (entries.map disguise) i (fun old => say (read old))
      = (look entries i fun old => say (read' old)).map (Prod.map (List.map disguise) id) := by
  rw [look, look, List.getElem?_map]
  rcases entries[i]? with _ | old
  · rfl
  · simp only [Option.map_some, h, Prod.map, id]

lemma Disguises.respond_eq (h : Disguises m m' disguise) (entries : List entry)
    (input : PollInput w) :
    m.respond (entries.map disguise) input
      = (m'.respond entries input).map (Prod.map (List.map disguise) id) := by
  cases input
  case make i socket monitor => exact modify_map (fun _ => h.make socket monitor) entries i
  case enable i => exact modify_map h.enable entries i
  case disable i => exact modify_map h.disable entries i
  case setMonitor i value => exact modify_map (fun e => h.setMonitor e value) entries i
  case isEnabled i => exact look_map PollAnswer.bool h.isEnabled entries i
  case getMonitor i => exact look_map PollAnswer.mask h.getMonitor entries i
  case getSocket i => exact look_map PollAnswer.socket h.getSocket entries i
  case hasFailedConnectionResult i excepted =>
    exact look_map PollAnswer.bool (fun e => h.hasFailedConnectionResult e excepted) entries i
  case hasResult i value =>
    exact look_map PollAnswer.bool (fun e => h.hasResult e value) entries i
  case getResult i => exact look_map PollAnswer.mask h.getResult entries i
  case poll pending failure numItems timeoutMs =>
    rw [respond, respond, h.poll]
    rcases m'.poll pending failure entries numItems timeoutMs with _ | polled <;> rfl

/-- No program can tell the two implementations apart. -/
lemma Disguises.answers_eq (h : Disguises m m' disguise) (entries : List entry)
    (inputs : List (PollInput w)) :
    Machines.answers m.respond (entries.map disguise) inputs
      = Machines.answers m'.respond entries inputs :=
  Machines.answers_map (List.map disguise) h.respond_eq entries inputs

end Disguises

end PollInterface

/-! ## Entries -/

/-- An item as a program sees it. -/
structure PollEntry (w : ℕ) (checkAll : PollValue) where
  socket : ValidHandle w
  enabled : Bool
  monitor : PollValue
  masked : monitor &&& checkAll = monitor
  result : BitVec 16

/-- What is particular to a build: the flags that can be monitored, those that the system reports
unasked, what becomes of the result of an item that it passes over, whether `Poll` sleeps where no
item is enabled, and how a failed connection shows. -/
structure PollManner where
  checkAll : PollValue
  always : BitVec 16
  passedOver : BitVec 16 → BitVec 16
  sleeps : Bool
  failedConnection : Bool → BitVec 16 → Bool → Bool

/-- A system call that waits for items answers in each of them, and returns how many have a result.
How long it waits does not show.  A call that fails may leave any results: `poll` clears them where
a signal interrupts it. -/
def pollCall {item : Type} (answer : item → item) (result : item → BitVec 16)
    (withResult : item → BitVec 16 → item) (failure : PollFailure) : PollCall item := fun set _ =>
  match failure with
  | none => ((set.map answer).countP fun item => result item ≠ 0, set.map answer)
  | some left => (-1, set.mapIdx fun i item => withResult item (left i (result item)))

/-- An entry with another result. -/
def PollEntry.withResult {w : ℕ} {checkAll : PollValue} (e : PollEntry w checkAll)
    (result : BitVec 16) : PollEntry w checkAll :=
  { e with result := result }

namespace PollManner

variable (manner : PollManner) {w : ℕ}

/-- The entry after the system has answered. -/
def answer (pending : BitVec w → BitVec 16) (e : PollEntry w manner.checkAll) :
    PollEntry w manner.checkAll :=
  { e with
    result :=
      if e.enabled then pending e.socket.val &&& (e.monitor.setWidth 16 ||| manner.always)
      else manner.passedOver e.result }

/-- Entries, as an implementation of `PollItem`. -/
def interface : PollInterface w (PollEntry w manner.checkAll) where
  make socket monitor :=
    ⟨socket, true, monitor &&& manner.checkAll, by rw [BitVec.and_assoc, BitVec.and_self], 0⟩
  enable e := { e with enabled := true }
  disable e := { e with enabled := false }
  setMonitor e value :=
    { e with
      monitor := value &&& manner.checkAll
      masked := by rw [BitVec.and_assoc, BitVec.and_self] }
  isEnabled e := e.enabled
  getMonitor e := e.monitor
  getSocket e := e.socket.val
  hasFailedConnectionResult e excepted :=
    manner.failedConnection e.enabled e.result (excepted e.socket.val)
  hasResult e value := e.result.signExtend 32 &&& value ≠ 0
  getResult e := e.result.signExtend 32
  poll pending failure entries numItems timeoutMs :=
    if entries.length < numItems then none
    else if manner.sleeps && (entries.take numItems).all (!·.enabled) then some (0, entries)
    else
      pollFirst (pollCall (manner.answer pending) PollEntry.result PollEntry.withResult failure)
        entries numItems timeoutMs

end PollManner

section Calls

variable {item entry : Type} {disguise : entry → item}

lemma pollCall_map {answer : item → item} {answer' : entry → entry} {result : item → BitVec 16}
    {result' : entry → BitVec 16} {withResult : item → BitVec 16 → item}
    {withResult' : entry → BitVec 16 → entry}
    (hanswer : ∀ e, answer (disguise e) = disguise (answer' e))
    (hresult : ∀ e, result (disguise e) = result' e)
    (hwith : ∀ e value, withResult (disguise e) value = disguise (withResult' e value))
    (failure : PollFailure) (set : List entry) (timeoutMs : ℤ) :
    pollCall answer result withResult failure (set.map disguise) timeoutMs
      = Prod.map id (List.map disguise)
          (pollCall answer' result' withResult' failure set timeoutMs) := by
  cases failure with
  | none =>
    have hmap : (set.map disguise).map answer = (set.map answer').map disguise := by
      rw [List.map_map, List.map_map]
      exact List.map_congr_left fun e _ => hanswer e
    simp only [pollCall, hmap, List.countP_map, Function.comp_def, hresult, Prod.map, id]
  | some left =>
    have hmap : (set.map disguise).mapIdx (fun i item => withResult item (left i (result item)))
        = (set.mapIdx fun i e => withResult' e (left i (result' e))).map disguise := by
      refine List.ext_getElem? fun i => ?_
      rw [List.getElem?_mapIdx, List.getElem?_map, List.getElem?_map, List.getElem?_mapIdx]
      cases set[i]? with
      | none => rfl
      | some e => simp only [Option.map_some, hresult, hwith]
    exact congrArg (Prod.mk (-1)) hmap

lemma pollFirst_map {call : PollCall item} {call' : PollCall entry} {set : List entry}
    {numItems : ℕ} {timeoutMs : ℤ}
    (h : call ((set.take numItems).map disguise) timeoutMs
      = Prod.map id (List.map disguise) (call' (set.take numItems) timeoutMs)) :
    pollFirst call (set.map disguise) numItems timeoutMs
      = (pollFirst call' set numItems timeoutMs).map (Prod.map id (List.map disguise)) := by
  rw [pollFirst, pollFirst, List.length_map]
  by_cases hlength : set.length < numItems
  · rw [if_pos hlength, if_pos hlength]
    rfl
  · rw [if_neg hlength, if_neg hlength, ← List.map_take, h, ← List.map_drop]
    simp only [Prod.map, Option.map_some, List.map_append, id]

lemma ite_pollFirst (call : PollCall item) (set : List item) (numItems : ℕ) (timeoutMs : ℤ) :
    (if set.length < numItems then none else pollFirst call set numItems timeoutMs)
      = pollFirst call set numItems timeoutMs := by
  rw [pollFirst]
  split <;> rfl

end Calls

/-! ## A handle with a switch -/

section Packed

variable {w : ℕ} (socket : ValidHandle w) (enabled : Bool)

/-- The word that holds a handle and, in its upper bit, that the item is disabled. -/
def packed : BitVec w := socket.val ||| flagIf w (!enabled) (w - 1)

lemma ValidHandle.getLsbD_eq (socket : ValidHandle w) : socket.val.getLsbD (w - 1) = false :=
  socket.val.msb_eq_getLsbD_last.symm.trans socket.property

lemma packed_true : packed socket true = socket.val := BitVec.or_zero

lemma packed_and_not : packed socket enabled &&& ~~~BitVec.twoPow w (w - 1) = socket.val :=
  spare_value socket.getLsbD_eq (!enabled)

lemma packed_or : packed socket enabled ||| BitVec.twoPow w (w - 1) = packed socket false :=
  spare_set socket.val (!enabled) (w - 1)

lemma msb_packed (hw : 0 < w) : (packed socket enabled).msb = !enabled := by
  rw [BitVec.msb_eq_getLsbD_last]
  exact spare_flag socket.getLsbD_eq (!enabled) (Nat.sub_lt hw Nat.one_pos)

lemma packed_and_eq_zero (hw : 0 < w) :
    decide (packed socket enabled &&& BitVec.twoPow w (w - 1) = 0) = enabled := by
  rw [Bool.eq_iff_iff, decide_eq_true_iff, ← not_iff_not, ← ne_eq,
    and_twoPow_ne_zero_iff (Nat.sub_lt hw Nat.one_pos), ← BitVec.msb_eq_getLsbD_last,
    msb_packed socket enabled hw, Bool.not_eq_true', Bool.not_eq_true]

/-- A system that passes over negative handles answers for the items that are enabled. -/
lemma packed_answer (hw : 0 < w) (pending : BitVec w → BitVec 16) (events kept : BitVec 16) :
    (if (packed socket enabled).msb then kept else pending (packed socket enabled) &&& events)
      = if enabled then pending socket.val &&& events else kept := by
  cases enabled
  · have hmsb : (packed socket false).msb = true := msb_packed socket false hw
    rw [if_pos hmsb, if_neg Bool.false_ne_true]
  · have hmsb : (packed socket true).msb = false := msb_packed socket true hw
    rw [if_neg (fun h => Bool.false_ne_true (hmsb.symm.trans h)), if_pos rfl, packed_true]

end Packed

/-! ## The POSIX build -/

/-- `poll` clears the result of an item that it passes over, and reports `POLLERR`, `POLLHUP` and
`POLLNVAL` unasked. -/
def posixManner : PollManner where
  checkAll := PollValue.checkAll
  always := 0x38
  passedOver _ := 0
  sleeps := false
  failedConnection _ result _ := result.signExtend 32 &&& PollValue.error ≠ 0

namespace Pollfd

/-- How `poll` answers in an item: it passes over negative handles. -/
def answer (pending : BitVec 32 → BitVec 16) (item : Pollfd) : Pollfd :=
  { item with
    revents :=
      if item.fd.msb then posixManner.passedOver item.revents
      else pending item.fd &&& (item.events ||| posixManner.always) }

/-- An item in which `poll` has left a result. -/
def withRevents (item : Pollfd) (revents : BitVec 16) : Pollfd := { item with revents := revents }

/-- The items of the build. -/
def interface : PollInterface 32 Pollfd where
  make socket monitor := make ⟨socket.val⟩ monitor
  enable := enable
  disable := disable
  setMonitor := setMonitor
  isEnabled item := item.isEnabled
  getMonitor item := item.getMonitor
  getSocket item := item.getSocket.handle
  hasFailedConnectionResult item _ := item.hasFailedConnectionResult
  hasResult := hasResult
  getResult := getResult
  poll pending failure := poll (pollCall (answer pending) Pollfd.revents withRevents failure)

/-- The item that an entry is in the code. -/
def ofEntry (e : PollEntry 32 posixManner.checkAll) : Pollfd where
  fd := packed e.socket e.enabled
  events := PollItem.toEvents e.monitor
  revents := e.result

lemma withRevents_ofEntry (e : PollEntry 32 posixManner.checkAll) (value : BitVec 16) :
    (ofEntry e).withRevents value = ofEntry (e.withResult value) := rfl

/-- The answer of the system is the one to the entry. -/
lemma answer_ofEntry (pending : BitVec 32 → BitVec 16)
    (e : PollEntry 32 posixManner.checkAll) :
    (ofEntry e).answer pending = ofEntry (posixManner.answer pending e) := by
  have hevents : PollItem.toEvents e.monitor = e.monitor.setWidth 16 :=
    congrArg (BitVec.setWidth 16) e.masked
  have hanswer := packed_answer e.socket e.enabled (by decide) pending
    (PollItem.toEvents e.monitor ||| posixManner.always) (posixManner.passedOver e.result)
  refine congrArg (Pollfd.mk (ofEntry e).toPollItem) (hanswer.trans ?_)
  rw [hevents]
  rfl

/-- The items of the build are entries in disguise. -/
lemma disguises : interface.Disguises posixManner.interface ofEntry where
  make socket monitor := by
    show (⟨⟨socket.val, PollItem.toEvents monitor⟩, 0⟩ : Pollfd)
      = ⟨⟨packed socket true, PollItem.toEvents (monitor &&& PollValue.checkAll)⟩, 0⟩
    rw [packed_true, PollItem.toEvents, PollItem.toEvents, setWidth_and_and]
  enable e := by
    show (⟨⟨packed e.socket e.enabled &&& ~~~PollItem.signBit, _⟩, _⟩ : Pollfd)
      = ⟨⟨packed e.socket true, _⟩, _⟩
    rw [packed_true]
    exact congrArg (fun fd => (⟨⟨fd, _⟩, _⟩ : Pollfd)) (packed_and_not e.socket e.enabled)
  disable e :=
    congrArg (fun fd => (⟨⟨fd, _⟩, _⟩ : Pollfd)) (packed_or e.socket e.enabled)
  setMonitor e value := by
    show (⟨⟨_, PollItem.toEvents value⟩, _⟩ : Pollfd)
      = ⟨⟨_, PollItem.toEvents (value &&& PollValue.checkAll)⟩, _⟩
    rw [PollItem.toEvents, PollItem.toEvents, setWidth_and_and]
    rfl
  isEnabled e := packed_and_eq_zero e.socket e.enabled (by decide)
  getMonitor e := (PollItem.signExtend_toEvents e.monitor).trans e.masked
  getSocket e := packed_and_not e.socket e.enabled
  hasFailedConnectionResult _ _ := rfl
  hasResult _ _ := rfl
  getResult _ := rfl
  poll pending failure entries numItems timeoutMs := by
    refine (pollFirst_map (pollCall_map (answer_ofEntry pending) (fun _ => rfl)
      withRevents_ofEntry failure _ _)).trans (congrArg (Option.map _) ?_)
    exact (ite_pollFirst _ entries numItems timeoutMs).symm

/-- **No program can tell the items from entries**: for every array of items of open sockets and
every run of calls on it, whatever is pending on the sockets at each `Poll`, whether it fails and
what it leaves in the results if it does, the answers are those of the entries, for which a disabled
item is one that is not asked about. -/
theorem answers_asEntries (entries : List (PollEntry 32 posixManner.checkAll))
    (inputs : List (PollInput 32)) :
    Machines.answers interface.respond (entries.map ofEntry) inputs
      = Machines.answers posixManner.interface.respond entries inputs :=
  disguises.answers_eq entries inputs

end Pollfd

/-! ## The Windows build -/

namespace Windows

/-- `WSAPoll` reports `POLLERR`, `POLLHUP` and `POLLNVAL` unasked, but no failed connection: that
is one that has no result and is an exception.  What `WSAPoll` leaves in an item that it passes
over is open. -/
def windowsManner (passedOver : BitVec 16 → BitVec 16) : PollManner where
  checkAll := PollValue.checkAll
  always := 0x7
  passedOver := passedOver
  sleeps := true
  failedConnection enabled result excepted :=
    enabled && decide (result.signExtend 32 = 0#32) && excepted

namespace PollItem

variable (passedOver : BitVec 16 → BitVec 16)

/-- How `WSAPoll` answers in an item. -/
def answer (pending : BitVec 64 → BitVec 16) (item : PollItem) : PollItem :=
  { item with
    revents :=
      if item.fd.msb then passedOver item.revents
      else pending item.fd &&& (item.events ||| (windowsManner passedOver).always) }

/-- An item in which `WSAPoll` has left a result. -/
def withRevents (item : PollItem) (revents : BitVec 16) : PollItem :=
  { item with revents := revents }

/-- `WSAPoll`: it fails where it would pass over every item. -/
def wsaPoll (pending : BitVec 64 → BitVec 16) (failure : PollFailure) : PollCall PollItem :=
  fun set =>
    pollCall (answer passedOver pending) PollItem.revents withRevents
      (if set.all (·.fd.msb) then some fun _ result => result else failure) set

/-- The items of the build.  `select` returns how many of the exceptions there are. -/
def interface : PollInterface 64 PollItem where
  make socket monitor := make ⟨socket.val⟩ monitor
  enable := enable
  disable := disable
  setMonitor := setMonitor
  isEnabled := isEnabled
  getMonitor := getMonitor
  getSocket item := item.getSocket.handle
  hasFailedConnectionResult item excepted :=
    item.hasFailedConnectionResult fun socket => if excepted socket then 1 else 0
  hasResult := hasResult
  getResult := getResult
  poll pending failure := poll (wsaPoll passedOver pending failure)

/-- The item that an entry is in the code. -/
def ofEntry (e : PollEntry 64 (windowsManner passedOver).checkAll) : PollItem where
  fd := packed e.socket e.enabled
  events := toEvents e.monitor
  revents := e.result

/-- The loop passes over a list exactly if no item of it is enabled. -/
lemma le_findEnabled_iff (set : List PollItem) (i : ℕ) :
    i + set.length ≤ findEnabled set i ↔ set.all (!·.isEnabled) = true := by
  induction set generalizing i with
  | nil => exact iff_of_true le_rfl rfl
  | cons item rest ih =>
    rw [findEnabled, List.all_cons, List.length_cons]
    rcases item.isEnabled with _ | _
    · rw [if_neg Bool.false_ne_true, Bool.not_false, Bool.true_and, ← ih (i + 1)]
      omega
    · rw [if_pos rfl, Bool.not_true, Bool.false_and]
      exact iff_of_false (by omega) Bool.false_ne_true

variable {passedOver}

lemma isEnabled_ofEntry (e : PollEntry 64 (windowsManner passedOver).checkAll) :
    (ofEntry passedOver e).isEnabled = e.enabled :=
  packed_and_eq_zero e.socket e.enabled (by decide)

lemma answer_ofEntry (pending : BitVec 64 → BitVec 16)
    (e : PollEntry 64 (windowsManner passedOver).checkAll) :
    (ofEntry passedOver e).answer passedOver pending
      = ofEntry passedOver ((windowsManner passedOver).answer pending e) := by
  have hevents : toEvents e.monitor = e.monitor.setWidth 16 :=
    congrArg (BitVec.setWidth 16) e.masked
  have hanswer := packed_answer e.socket e.enabled (by decide) pending
    (toEvents e.monitor ||| (windowsManner passedOver).always) (passedOver e.result)
  refine congrArg (PollItem.mk _ _) (hanswer.trans ?_)
  rw [hevents]
  rfl

lemma hasFailedConnectionResult_ofEntry (e : PollEntry 64 (windowsManner passedOver).checkAll)
    (excepted : BitVec 64 → Bool) :
    (interface passedOver).hasFailedConnectionResult (ofEntry passedOver e) excepted
      = (windowsManner passedOver).interface.hasFailedConnectionResult e excepted := by
  show (ofEntry passedOver e).hasFailedConnectionResult
      (fun socket => if excepted socket then 1 else 0)
    = (e.enabled && decide (e.result.signExtend 32 = 0#32) && excepted e.socket.val)
  rw [hasFailedConnectionResult, isEnabled_ofEntry]
  show (if (!e.enabled || decide (e.result.signExtend 32 ≠ 0#32)) = true then false
    else decide ((if excepted (packed e.socket e.enabled) then (1 : ℤ) else 0) = 1)) = _
  cases e.enabled
  · rfl
  · rw [packed_true]
    by_cases hresult : e.result.signExtend 32 = 0#32
    · cases excepted e.socket.val <;> simp [hresult]
    · simp [hresult]

/-- `Poll` of the entries, in the code. -/
lemma poll_ofEntry (pending : BitVec 64 → BitVec 16) (failure : PollFailure)
    (entries : List (PollEntry 64 (windowsManner passedOver).checkAll)) (numItems : ℕ)
    (timeoutMs : ℤ) :
    poll (wsaPoll passedOver pending failure) (entries.map (ofEntry passedOver)) numItems timeoutMs
      = ((windowsManner passedOver).interface.poll pending failure entries numItems
          timeoutMs).map (Prod.map id (List.map (ofEntry passedOver))) := by
  show _ = Option.map _ (if entries.length < numItems then none
    else if (true && (entries.take numItems).all (!·.enabled)) = true then some (0, entries)
    else _)
  rw [poll, List.length_map, ← List.map_take, Bool.true_and]
  by_cases hlength : entries.length < numItems
  · rw [if_pos hlength, if_pos hlength]
    rfl
  have hfind := le_findEnabled_iff ((entries.take numItems).map (ofEntry passedOver)) 0
  rw [List.length_map, List.length_take_of_le (not_lt.mp hlength), Nat.zero_add, List.all_map]
    at hfind
  simp only [Function.comp_def, isEnabled_ofEntry] at hfind
  rw [if_neg hlength, if_neg hlength]
  by_cases hall : (entries.take numItems).all (!·.enabled) = true
  · rw [if_pos (hfind.mpr hall), if_pos hall]
    rfl
  · rw [if_neg (mt hfind.mp hall), if_neg hall]
    refine pollFirst_map ?_
    have hmsb : ((entries.take numItems).map (ofEntry passedOver)).all (·.fd.msb) = false := by
      rw [List.all_map, ← Bool.not_eq_true]
      refine fun h => hall ?_
      rw [← h]
      exact List.all_congr rfl fun e => (msb_packed e.socket e.enabled (by decide)).symm
    rw [wsaPoll, hmsb, if_neg Bool.false_ne_true]
    exact pollCall_map (answer_ofEntry pending) (fun _ => rfl) (fun _ _ => rfl) failure _ _

/-- The items of the build are entries in disguise. -/
lemma disguises :
    (interface passedOver).Disguises (windowsManner passedOver).interface
      (ofEntry passedOver) where
  make socket monitor := by
    show (⟨socket.val, toEvents monitor, 0⟩ : PollItem)
      = ⟨packed socket true, toEvents (monitor &&& PollValue.checkAll), 0⟩
    rw [packed_true, toEvents, toEvents, setWidth_and_and]
  enable e := by
    show (⟨packed e.socket e.enabled &&& ~~~signBit, _, _⟩ : PollItem)
      = ⟨packed e.socket true, _, _⟩
    rw [packed_true]
    exact congrArg (fun fd => (⟨fd, _, _⟩ : PollItem)) (packed_and_not e.socket e.enabled)
  disable e := congrArg (fun fd => (⟨fd, _, _⟩ : PollItem)) (packed_or e.socket e.enabled)
  setMonitor e value := by
    show (⟨_, toEvents value, _⟩ : PollItem) = ⟨_, toEvents (value &&& PollValue.checkAll), _⟩
    rw [toEvents, toEvents, setWidth_and_and]
    rfl
  isEnabled := isEnabled_ofEntry
  getMonitor e := (signExtend_setWidth_and (by decide) e.monitor).trans e.masked
  getSocket e := packed_and_not e.socket e.enabled
  hasFailedConnectionResult := hasFailedConnectionResult_ofEntry
  hasResult _ _ := rfl
  getResult _ := rfl
  poll := poll_ofEntry

/-- **No program can tell the items from entries** here either, whatever `WSAPoll` leaves in the
items that it passes over and in all of them where it fails: it is never called where it would fail
for want of an enabled one. -/
theorem wsaAnswers_asEntries (entries : List (PollEntry 64 (windowsManner passedOver).checkAll))
    (inputs : List (PollInput 64)) :
    Machines.answers (interface passedOver).respond (entries.map (ofEntry passedOver)) inputs
      = Machines.answers (windowsManner passedOver).interface.respond entries inputs :=
  disguises.answers_eq entries inputs

end PollItem

end Windows

end SMBB
