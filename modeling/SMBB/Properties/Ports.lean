import SMBB.Properties.URIRoundTrip

/-!
# The port of an address

A port goes into an address as an `unsigned short` and comes out in two ways: `ToURI` prints it,
and `GetPort` returns it as a `short`.  From 32768 on, the two do not say the same.
-/

namespace SMBB
namespace IPAddress

open AddressText (writePortSuffix)

/-- The lower half of the ports keeps its value as a `short`. -/
lemma toShort_eq_iff {port : ℕ} (h : port < 65536) : toShort port = port ↔ port < 32768 := by
  rw [toShort, BitVec.toInt_ofNat', Int.bmod_def]
  split <;> omega

lemma getPort_eq {a : IPAddress} (ha : a.IsInet) : a.getPort = toShort a.port := by
  rcases ha with h4 | h6
  · exact if_pos h4
  · rw [getPort, h6, if_neg ipv6_ne_ipv4, if_pos rfl]
    rfl

/-- Changing the port leaves the rest of the address alone, and both ways of asking for it give
that port. -/
structure PortNamed (a : IPAddress) (port : ℕ) : Prop where
  getFamily : (a.withPort port).getFamily = a.getFamily
  addressBytes : (a.withPort port).addressBytes = a.addressBytes
  sin6Flowinfo : (a.withPort port).sin6Flowinfo = a.sin6Flowinfo
  sin6ScopeId : (a.withPort port).sin6ScopeId = a.sin6ScopeId
  getPort : (a.withPort port).getPort = port
  uriText : ∃ host, a.uriText false = some host
    ∧ (a.withPort port).uriText true = some (host ++ ':' :: Nat.toDigits 10 port)

/-- `ToURI` prints the port that was given. -/
lemma uriText_withPort {a : IPAddress} (ha : a.IsInet) {port : ℕ} (h : port < 65536) :
    (a.withPort port).uriText true = some (a.hostText ++ ':' :: Nat.toDigits 10 port) := by
  have hinet : (a.withPort port).IsInet := by
    rw [IsInet, getFamily_withPort]
    exact ha
  have hhost : (a.withPort port).hostText = a.hostText := by
    rw [hostText, hostText, getFamily_withPort, sinAddr_withPort, sin6Addr_withPort]
  rw [uriText_eq hinet, hhost, printedPort, if_pos rfl, port_withPort ha h, writePortSuffix]

/-- **The port of an address is named alike by `GetPort` and `ToURI`** exactly when it is below
32768. -/
theorem portNamed_iff {a : IPAddress} (ha : a.IsInet) {port : ℕ} (h : port < 65536) :
    a.PortNamed port ↔ port < 32768 := by
  have hinet : (a.withPort port).IsInet := by
    rw [IsInet, getFamily_withPort]
    exact ha
  have hport : (a.withPort port).getPort = port ↔ port < 32768 := by
    rw [getPort_eq hinet, port_withPort ha h, toShort_eq_iff h]
  constructor
  · exact fun hnamed => hport.mp hnamed.getPort
  · intro hlow
    have hhost : a.uriText false = some a.hostText := by
      rw [uriText_eq ha, printedPort, if_neg Bool.false_ne_true, writePortSuffix, List.append_nil]
    exact
      { getFamily := getFamily_withPort a port
        addressBytes := addressBytes_withPort a port
        sin6Flowinfo := sin6Flowinfo_withPort a port
        sin6ScopeId := sin6ScopeId_withPort a port
        getPort := hport.mpr hlow
        uriText := ⟨a.hostText, hhost, uriText_withPort ha h⟩ }

/-- The port of HTTP. -/
theorem portNamed_http : loopback80.PortNamed 80 :=
  (portNamed_iff (by decide) (by decide)).mpr (by decide)

/-- An ephemeral port is negative. -/
theorem not_portNamed_ephemeral :
    (loopback80.withPort 49152).getPort = -16384
      ∧ (loopback80.withPort 49152).uriText true
        = some ['[', ':', ':', '1', ']', ':', '4', '9', '1', '5', '2']
      ∧ ¬loopback80.PortNamed 49152 := by
  have hport : (loopback80.withPort 49152).getPort = -16384 := by decide
  exact ⟨hport, by decide, fun h => absurd (hport.symm.trans h.getPort) (by decide)⟩

end IPAddress
end SMBB
