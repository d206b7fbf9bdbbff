import SMBB.Construction.DSCPWindows
import SMBB.Framework.Machines
import SMBB.Framework.References
import SMBB.Framework.Runs

/-!
# The flows of `DSCPData` objects

To a program on Windows, each `DSCPData` has a flow of its own once a DSCP was set with it: a
socket, the traffic type of the first value, and the last value (`Marks`).  The code keeps a number
in the object and leaves the flow to the library; that nobody else changes the flow is because no
two objects ever have the same number (`dscp_asMarks`).

Nothing gives a flow back.  The setters that take no `DSCPData` leave theirs behind, and no call
can reach it any more.

The sockets stay open, and objects are not copied.
-/

namespace SMBB
namespace Windows

open References

/-! ## The library -/

/-- A flow. -/
structure QosFlow where
  socket : ℕ
  destination : Option IPAddress
  trafficType : QosTrafficType
  dscp : Option ℕ
deriving DecidableEq

/-- The flows after a call.  A new flow has a number that is not zero and not in use; there is no
setting a flow that there is not. -/
def QosCall.apply (flows : ℕ → Option QosFlow) : QosCall → Option (ℕ → Option QosFlow)
  | .addSocketToFlow socket destination trafficType (some flow) =>
    if flow = 0 ∨ flows flow ≠ none then none
    else some (Function.update flows flow (some ⟨socket, destination, trafficType, none⟩))
  | .addSocketToFlow _ _ _ none => some flows
  | .setFlow flow dscp true =>
    (flows flow).map fun found => Function.update flows flow (some { found with dscp := dscp })
  | .setFlow _ _ false => some flows

/-! ## Programs -/

/-- The calls of a program with the data objects `ι`, any of its sockets, and the answers of the
library.  To a getter, `report` is the DSCP that `QOSQueryFlow` then finds in a flow, unless it
fails. -/
inductive DSCPInput (ι : Type)
  | setDSCPData (i : ι) (socket value : ℕ) (os : QosAnswers)
  | setDSCP (socket value : ℕ) (os : QosAnswers)
  | setTOS (socket value : ℕ) (os : QosAnswers)
  | getDSCP (i : ι) (report : QosFlow → Option ℕ)

/-- What the calls return. -/
inductive DSCPAnswer
  | set (result : Bool)
  | dscp (value : ℕ)
deriving DecidableEq

/-- The data objects and the flows. -/
structure DSCPWorld (ι : Type) where
  data : ι → DSCPData
  flows : ℕ → Option QosFlow

variable {ι : Type} [DecidableEq ι]

namespace DSCPWorld

/-- The objects are constructed from addresses. -/
def start (address : ι → IPAddress) : DSCPWorld ι :=
  ⟨fun i => .construct (address i), fun _ => none⟩

/-- A call. -/
def respond (w : DSCPWorld ι) : DSCPInput ι → Option (DSCPWorld ι × DSCPAnswer)
  | .setDSCPData i socket value os =>
    let set := Windows.setDSCPData socket value (w.data i) os
    (Runs.run QosCall.apply w.flows set.calls).map fun flows =>
      (⟨Function.update w.data i set.data, flows⟩, .set set.result)
  | .setDSCP socket value os =>
    let set := Windows.setDSCP socket value os
    (Runs.run QosCall.apply w.flows set.calls).map fun flows =>
      ({ w with flows := flows }, .set set.result)
  | .setTOS socket value os =>
    let set := Windows.setTOS socket value os
    (Runs.run QosCall.apply w.flows set.calls).map fun flows =>
      ({ w with flows := flows }, .set set.result)
  | .getDSCP i report =>
    some (w, .dscp (Windows.getDSCP (w.data i) fun flow => (w.flows flow).bind report))

end DSCPWorld

/-! ## What a program sees -/

/-- The flow after an attempt to set a value. -/
def QosFlow.mark (flow : QosFlow) (value : ℕ) (ok : Bool) : QosFlow :=
  if ok then { flow with dscp := some (value &&& dscpMask) } else flow

/-- The flow that a first value makes. -/
def QosFlow.first (socket : ℕ) (address : IPAddress) (value : ℕ) : QosFlow :=
  ⟨socket, if address.getFamily = familyUnspecified then none else some address,
    Windows.trafficType value, none⟩

/-- The flow of each data object, and the numbers of the flows that are left behind. -/
structure Marks (ι : Type) where
  own : ι → Option QosFlow
  strays : List ℕ

namespace Marks

/-- No flow. -/
def start : Marks ι := ⟨fun _ => none, []⟩

/-- What is set without a data object is marked for nobody. -/
def setAlone (marks : Marks ι) (os : QosAnswers) : Option (Marks ι × DSCPAnswer) :=
  match os.added with
  | some flow => some ({ marks with strays := flow :: marks.strays }, .set os.set)
  | none => some (marks, .set false)

/-- A call. -/
def respond (address : ι → IPAddress) (marks : Marks ι) :
    DSCPInput ι → Option (Marks ι × DSCPAnswer)
  | .setDSCPData i socket value os =>
    match marks.own i, os.added with
    | some flow, _ =>
      some ({ marks with own := Function.update marks.own i (some (flow.mark value os.set)) },
        .set os.set)
    | none, some _ =>
      some ({ marks with
        own := Function.update marks.own i
          (some ((QosFlow.first socket (address i) value).mark value os.set)) }, .set os.set)
    | none, none => some (marks, .set false)
  | .setDSCP _ _ os => marks.setAlone os
  | .setTOS _ _ os => marks.setAlone os
  | .getDSCP i report => some (marks, .dscp (((marks.own i).bind report).getD 0))

end Marks

/-! ## The numbers -/

/-- The number in a data object, if it has one. -/
def DSCPData.reference (data : DSCPData) : Option ℕ :=
  if data.flow = 0 then none else some data.flow

lemma reference_eq_none {data : DSCPData} (h : data.flow = 0) : data.reference = none := if_pos h

lemma reference_eq_some {data : DSCPData} (h : data.flow ≠ 0) : data.reference = some data.flow :=
  if_neg h

/-- The objects have the flows of the library that the marks have, each its own. -/
structure Shows (address : ι → IPAddress) (w : DSCPWorld ι) (marks : Marks ι) : Prop where
  address_eq : ∀ i, (w.data i).address = address i
  zero : w.flows 0 = none
  refers : Refers (fun i => (w.data i).reference) w.flows marks.own marks.strays

section Calls

variable {flows flows' : ℕ → Option QosFlow} {flow : ℕ}

/-- A setter's last call. -/
lemma run_setFlow {found : QosFlow} (hfound : flows flow = some found) (value : ℕ) (ok : Bool) :
    Runs.run QosCall.apply flows [.setFlow flow (value &&& dscpMask) ok]
      = some (Function.update flows flow (some (found.mark value ok))) := by
  cases ok
  · show some flows = some (Function.update flows flow (some found))
    rw [← hfound, Function.update_eq_self]
  · show ((flows flow).map _).bind some = _
    rw [hfound]
    rfl

/-- The calls of a setter that has no flow yet. -/
lemma run_addSocketToFlow {socket value : ℕ} {address : IPAddress} {ok : Bool}
    (h : Runs.run QosCall.apply flows
      [.addSocketToFlow socket
          (if address.getFamily = familyUnspecified then none else some address)
          (trafficType value) (some flow),
        .setFlow flow (value &&& dscpMask) ok] = some flows') :
    flow ≠ 0 ∧ flows flow = none
      ∧ flows' = Function.update flows flow
          (some ((QosFlow.first socket address value).mark value ok)) := by
  obtain ⟨added, hadd, hset⟩ := Runs.run_cons_eq_some.mp h
  rw [QosCall.apply] at hadd
  split at hadd
  · exact Option.absurd_none hadd
  · rename_i hfresh
    obtain ⟨hzero, hnone⟩ := not_or.mp hfresh
    refine ⟨hzero, not_not.mp hnone, ?_⟩
    obtain rfl := Option.some.inj hadd
    rw [run_setFlow (Function.update_self flow _ flows), Function.update_idem] at hset
    exact (Option.some.inj hset).symm

/-- What a setter with a flow does. -/
lemma setDSCPData_of_ne {data : DSCPData} (h : data.flow ≠ 0) (socket value : ℕ)
    (os : QosAnswers) :
    setDSCPData socket value data os
      = ⟨os.set, data, [.setFlow data.flow (value &&& dscpMask) os.set]⟩ := by
  simp only [setDSCPData, if_pos h]
  rfl

/-- What a setter does that is given no flow. -/
lemma setDSCPData_refused {data : DSCPData} (h : data.flow = 0) (socket value : ℕ) (ok : Bool) :
    setDSCPData socket value data ⟨none, ok⟩
      = ⟨false, data, [.addSocketToFlow socket
          (if data.address.getFamily = familyUnspecified then none else some data.address)
          (trafficType value) none]⟩ := by
  simp only [setDSCPData, h, ne_eq, not_true_eq_false, if_false]

/-- What a setter does that is given one. -/
lemma setDSCPData_added {data : DSCPData} (h : data.flow = 0) (socket value : ℕ) (ok : Bool)
    (flow : ℕ) :
    setDSCPData socket value data ⟨some flow, ok⟩
      = ⟨ok, { data with flow := flow }, [.addSocketToFlow socket
          (if data.address.getFamily = familyUnspecified then none else some data.address)
          (trafficType value) (some flow), .setFlow flow (value &&& dscpMask) ok]⟩ := by
  simp only [setDSCPData, h, ne_eq, not_true_eq_false, if_false]
  rfl

end Calls

namespace Shows

variable {address : ι → IPAddress} {w : DSCPWorld ι} {marks : Marks ι}

omit [DecidableEq ι] in
lemma start (address : ι → IPAddress) : Shows address (DSCPWorld.start address) Marks.start where
  address_eq _ := rfl
  zero := rfl
  refers := refers_nothing

/-- A setter with a data object. -/
lemma setDSCPData (h : Shows address w marks) {i : ι} {socket value : ℕ}
    {os : QosAnswers} {flows' : ℕ → Option QosFlow}
    (hrun : Runs.run QosCall.apply w.flows
      (Windows.setDSCPData socket value (w.data i) os).calls = some flows') :
    ∃ marks', marks.respond address (.setDSCPData i socket value os)
        = some (marks', .set (Windows.setDSCPData socket value (w.data i) os).result)
      ∧ Shows address
          ⟨Function.update w.data i (Windows.setDSCPData socket value (w.data i) os).data, flows'⟩
          marks' := by
  by_cases hflow : (w.data i).flow = 0
  · have hown : marks.own i = none := h.refers.own_eq_none_iff.mpr (reference_eq_none hflow)
    rcases os with ⟨_ | flow, ok⟩
    · rw [setDSCPData_refused hflow] at hrun ⊢
      obtain rfl := Option.some.inj hrun
      refine ⟨marks, ?_, ?_⟩
      · rw [Marks.respond, hown]
      · rw [Function.update_eq_self]
        exact h
    · rw [setDSCPData_added hflow] at hrun ⊢
      obtain ⟨hzero, hfresh, rfl⟩ := run_addSocketToFlow hrun
      refine ⟨_, by rw [Marks.respond, hown], ?_, ?_, ?_⟩
      · intro j
        by_cases hj : j = i
        · subst hj
          exact (congrArg DSCPData.address (Function.update_self j _ w.data)).trans
            (h.address_eq j)
        · exact (congrArg DSCPData.address (Function.update_of_ne hj _ w.data)).trans
            (h.address_eq j)
      · exact (Function.update_of_ne hzero.symm _ _).trans h.zero
      · have hall := h.refers.allocate (reference_eq_none hflow) hfresh
          ((QosFlow.first socket (w.data i).address value).mark value ok)
        have href : (fun j => (Function.update w.data i
            (DSCPData.mk (w.data i).address flow) j).reference)
            = Function.update (fun j => (w.data j).reference) i (some flow) := by
          refine (Function.comp_update DSCPData.reference w.data i _).trans ?_
          rw [reference_eq_some (by exact hzero)]
          rfl
        rw [← href, h.address_eq i] at hall
        rw [h.address_eq i]
        exact hall
  · have href : (w.data i).reference = some (w.data i).flow := reference_eq_some hflow
    have hlive : w.flows (w.data i).flow ≠ none := (h.refers.live_iff _).mpr (Or.inl ⟨i, href⟩)
    obtain ⟨found, hfound⟩ := Option.ne_none_iff_exists'.mp hlive
    have hown : marks.own i = some found := by
      rw [h.refers.own_eq, href]
      exact hfound
    rw [setDSCPData_of_ne hflow] at hrun ⊢
    rw [run_setFlow hfound] at hrun
    obtain rfl := Option.some.inj hrun
    refine ⟨_, by rw [Marks.respond, hown], ?_⟩
    rw [Function.update_eq_self]
    exact
      { address_eq := h.address_eq
        zero := (Function.update_of_ne (Ne.symm hflow) _ _).trans h.zero
        refers := h.refers.write href _ }

omit [DecidableEq ι] in
/-- A setter with a data object of its own, which is gone when it returns. -/
lemma setDSCPAlone (h : Shows address w marks) {connectAddress : IPAddress} {socket value : ℕ}
    {os : QosAnswers} {flows' : ℕ → Option QosFlow}
    (hrun : Runs.run QosCall.apply w.flows
      (Windows.setDSCPData socket value (.construct connectAddress) os).calls = some flows') :
    ∃ marks', marks.setAlone os = some (marks',
        .set (Windows.setDSCPData socket value (.construct connectAddress) os).result)
      ∧ Shows address { w with flows := flows' } marks' := by
  rcases os with ⟨_ | flow, ok⟩
  · rw [setDSCPData_refused rfl] at hrun ⊢
    obtain rfl := Option.some.inj hrun
    exact ⟨marks, rfl, h⟩
  · rw [setDSCPData_added rfl] at hrun ⊢
    obtain ⟨hzero, hfresh, rfl⟩ := run_addSocketToFlow hrun
    exact ⟨_, rfl,
      { address_eq := h.address_eq
        zero := (Function.update_of_ne hzero.symm _ _).trans h.zero
        refers := h.refers.stray hfresh _ }⟩

/-- Every call answers as it does to one who marks. -/
lemma respond (h : Shows address w marks) {input : DSCPInput ι} {w' : DSCPWorld ι}
    {answer : DSCPAnswer} (hstep : w.respond input = some (w', answer)) :
    ∃ marks', marks.respond address input = some (marks', answer)
      ∧ Shows address w' marks' := by
  cases input
  case getDSCP i report =>
    obtain ⟨rfl, rfl⟩ := Prod.mk.inj (Option.some.inj hstep)
    refine ⟨marks, ?_, h⟩
    have hfound : (w.data i).reference.bind w.flows = w.flows (w.data i).flow := by
      by_cases hflow : (w.data i).flow = 0
      · rw [reference_eq_none hflow, hflow, h.zero]
        rfl
      · rw [reference_eq_some hflow]
        rfl
    rw [Marks.respond, h.refers.own_eq, hfound]
    rfl
  all_goals
    obtain ⟨flows', hrun, heq⟩ := Option.map_eq_some_iff.mp hstep
    obtain ⟨rfl, rfl⟩ := Prod.mk.inj heq
  case setDSCPData i socket value os => exact h.setDSCPData hrun
  case setDSCP socket value os => exact h.setDSCPAlone hrun
  case setTOS socket value os => exact h.setDSCPAlone hrun

end Shows

/-- **Each data object has its flow to itself**: in every run of setters and getters, on any sockets
and data objects, whatever the library answers and whichever free numbers it chooses, every call
returns what it would if the flows were in the objects, and the flows of the library are those and
the ones left behind. -/
theorem dscp_asMarks (address : ι → IPAddress) {inputs : List (DSCPInput ι)} {w : DSCPWorld ι}
    {answers : List DSCPAnswer}
    (h : Machines.play DSCPWorld.respond (.start address) inputs = some (w, answers)) :
    ∃ marks, Machines.play (Marks.respond address) .start inputs = some (marks, answers)
      ∧ Shows address w marks :=
  Machines.play_of_step (fun _ _ _ _ _ hshows hstep => hshows.respond hstep)
    (Shows.start address) h

/-- Two data objects and a call without one: the first object still finds its value. -/
theorem dscp_asMarks_twoObjects :
    ∃ w, Machines.play DSCPWorld.respond
        (.start fun _ : Bool => .ofFamily familyUnspecified)
        [.setDSCPData true 5 0x2E ⟨some 1, true⟩, .setDSCPData false 5 0x08 ⟨some 2, true⟩,
          .setTOS 5 0xE0 ⟨some 3, true⟩, .getDSCP true QosFlow.dscp]
          = some (w, [.set true, .set true, .set true, .dscp 0x2E])
      ∧ ∃ marks, Machines.play
          (Marks.respond fun _ : Bool => .ofFamily familyUnspecified) .start
          [.setDSCPData true 5 0x2E ⟨some 1, true⟩, .setDSCPData false 5 0x08 ⟨some 2, true⟩,
            .setTOS 5 0xE0 ⟨some 3, true⟩, .getDSCP true QosFlow.dscp]
            = some (marks, [.set true, .set true, .set true, .dscp 0x2E])
        ∧ Shows (fun _ => .ofFamily familyUnspecified) w marks :=
  ⟨_, rfl, dscp_asMarks _ rfl⟩

end Windows
end SMBB
