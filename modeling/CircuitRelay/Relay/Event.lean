import CircuitRelay.Relay.Gate

/-!
# Events of the relay protocol

The relay protocol reports what became of requests.  `Relay.handle` applies a report to the gate;
reports about sending failures of denials, and about destinations that could not be reached,
concern no permit and change nothing.
-/

namespace CircuitRelay

namespace Relay

/-- A report of the relay protocol; the peer is the one that made the request. -/
inductive Event where
  /-- A reservation was accepted, as a renewal or anew. -/
  | reservationAccepted (peer : PeerId) (renewed : Bool)
  /-- The acceptance of a reservation could not be sent. -/
  | reservationAcceptFailed (peer : PeerId)
  | reservationDenied (peer : PeerId)
  /-- The denial of a reservation could not be sent. -/
  | reservationDenyFailed (peer : PeerId)
  | reservationClosed (peer : PeerId)
  | reservationTimedOut (peer : PeerId)
  | circuitDenied (peer destination : PeerId) (status : Status)
  /-- The denial of a circuit could not be sent. -/
  | circuitDenyFailed (peer destination : PeerId)
  | circuitAccepted (peer destination : PeerId)
  /-- The destination of a circuit could not be asked. -/
  | circuitOutboundFailed (peer destination : PeerId)
  /-- The acceptance of a circuit could not be sent. -/
  | circuitAcceptFailed (peer destination : PeerId)
  | circuitClosed (peer destination : PeerId)
  deriving DecidableEq, Repr

/-- Applies a report to the gate. -/
def handle (r : Relay) : Event → Relay
  | .reservationAccepted p renewed => r.reservationAccepted p renewed
  | .reservationAcceptFailed p => r.reservationFailed p
  | .reservationDenied _ => r.reservationDenied
  | .reservationDenyFailed _ => r
  | .reservationClosed p => r.reservationEnded p
  | .reservationTimedOut p => r.reservationEnded p
  | .circuitDenied p _ status => r.circuitDenied p status
  | .circuitDenyFailed _ _ => r
  | .circuitAccepted p d => r.circuitAccepted p d
  | .circuitOutboundFailed _ _ => r
  | .circuitAcceptFailed p _ => r.circuitFailed p
  | .circuitClosed p d => r.circuitClosed p d

end Relay

end CircuitRelay
