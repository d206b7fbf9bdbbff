import SMBB.Construction.AddressConstructors
import SMBB.Construction.OptionGetters

/-!
# The DSCP of a socket, Windows build

There is no option for it.  A socket is added to a flow of the quality of service library, and the
flow is given the DSCP.  A `DSCPData` keeps the number of the flow from call to call; the setters
without one make one for the call.

What the library answers comes from outside; a call is recorded with its answer.
-/

namespace SMBB
namespace Windows

/-- `QOS_TRAFFIC_TYPE`. -/
inductive QosTrafficType
  | bestEffort
  | background
  | excellentEffort
  | audioVideo
  | voice
  | control
deriving DecidableEq

/-- A call of the library. -/
inductive QosCall
  /-- `QOSAddSocketToFlow`, with the number of the flow unless it fails. -/
  | addSocketToFlow (socket : ℕ) (destination : Option IPAddress) (trafficType : QosTrafficType)
    (flow : Option ℕ)
  /-- `QOSSetFlow` of an outgoing DSCP value. -/
  | setFlow (flow dscp : ℕ) (ok : Bool)
deriving DecidableEq

/-- What the library answers to a setter, as far as it is asked. -/
structure QosAnswers where
  added : Option ℕ
  set : Bool

/-- `DSCPData`. -/
structure DSCPData where
  address : IPAddress
  flow : ℕ
deriving DecidableEq

/-- `DSCPData(connectAddress)`. -/
def DSCPData.construct (connectAddress : IPAddress) : DSCPData := ⟨connectAddress, 0⟩

/-- `trafficType` of `SetDSCP`: the thresholds are `DSCP_CS_7`, `DSCP_SERVICE_TELEPHONY`,
`DSCP_SERVICE_STREAMING` and `DSCP_SERVICE_LOW_PRIORITY`. -/
def trafficType (value : ℕ) : QosTrafficType :=
  if 0x38 ≤ value then .control
  else if 0x2E ≤ value then .voice
  else if 0x18 ≤ value then .audioVideo
  else if 0x08 < value then .excellentEffort
  else if value = 0x08 then .background
  else .bestEffort

/-- What a setter returns, the data after it, and the calls that it makes. -/
structure DSCPSet where
  result : Bool
  data : DSCPData
  calls : List QosCall

/-- The call of `QOSSetFlow` in `SetDSCP`. -/
def setFlow (value : ℕ) (data : DSCPData) (ok : Bool) (before : List QosCall) : DSCPSet :=
  ⟨ok, data, before ++ [.setFlow data.flow (value &&& dscpMask) ok]⟩

/-- `SetDSCP(value, data)` on the socket. -/
def setDSCPData (socket value : ℕ) (data : DSCPData) (os : QosAnswers) : DSCPSet :=
  let destination := if data.address.getFamily = familyUnspecified then none else some data.address
  if data.flow ≠ 0 then setFlow value data os.set []
  else
    let add := QosCall.addSocketToFlow socket destination (trafficType value) os.added
    match os.added with
    | none => ⟨false, data, [add]⟩
    | some flow => setFlow value { data with flow := flow } os.set [add]

/-- `SetDSCP(value)`, with a `DSCPData` of its own. -/
def setDSCP (socket value : ℕ) (os : QosAnswers) : DSCPSet :=
  setDSCPData socket value (.construct (.ofFamily familyUnspecified)) os

/-- `SetTOS(value)`, with a `DSCPData` of its own. -/
def setTOS (socket value : ℕ) (os : QosAnswers) : DSCPSet :=
  setDSCPData socket (value >>> 2) (.construct (.ofFamily familyUnspecified)) os

/-- `GetDSCP(data)`; `query` is what `QOSQueryFlow` stores for a flow, unless it fails.  The
default is `DSCP_DEFAULT_FORWARDING`. -/
def getDSCP (data : DSCPData) (query : ℕ → Option ℕ) : ℕ := (query data.flow).getD 0

end Windows
end SMBB
