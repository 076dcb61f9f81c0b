import CircuitRelay.Host.Basic
import CircuitRelay.Relay.Event

/-!
# Events of the swarm

The swarm tells the host what happens on its listeners, its connections and its protocols.  Events
of listeners change what is disclosed, and the operator is told; events of connections concern the
seeds and, when the last connection to a peer is gone, the relay; peers that speak the protocol of
the overlay make their addresses known.
-/

namespace CircuitRelay

namespace Host

/-- The protocol of the overlay. -/
def overlayProtocol : String := "/ipfs/kad/1.0.0"

/-- An event of the swarm. -/
inductive Event where
  | listening (address : Address)
  | listeningEnded (address : Address)
  | listenerClosed (addresses : List Address)
  | established (peer : PeerId)
  /-- A connection to a peer was closed, and so many are left. -/
  | closed (peer : PeerId) (remaining : Nat)
  /-- A peer told the protocols it speaks and the addresses it listens on. -/
  | identified (peer : PeerId) (protocols : List String) (addresses : List Address)
  | relay (event : Relay.Event)
  | progress (progress : Routing.Progress)
  | other
  deriving DecidableEq

/-- Makes the addresses of a peer known to the overlay. -/
def learnAll (h : Host) (peer : PeerId) (addresses : List Address) : Host :=
  { h with overlay := addresses.foldl (fun o a => (o.learn peer a.withoutPeer).2) h.overlay }

/-- Handles an event at a time; the answer is what the operator is told. -/
def handle (h : Host) (now : Instant) : Event → List String × Host
  | .listening a => (h.addListen a).report
  | .listeningEnded a => (h.removeListen a).report
  | .listenerClosed as => (as.foldl removeListen h).report
  | .established peer => ([], h.mapRouting fun r => r.mapBootstrap (·.peerConnected peer))
  | .closed peer remaining =>
    if remaining = 0 then
      ([], (h.mapRouting fun r => r.mapBootstrap (·.peerDisconnected peer)).mapRelay
        (·.peerDisconnected peer))
    else ([], h)
  | .identified peer protocols addresses =>
    if overlayProtocol ∈ protocols then ([], h.learnAll peer addresses) else ([], h)
  | .relay e => ([], h.mapRelay (·.handle e))
  | .progress p => ([], h.mapRouting (·.progressed p now))
  | .other => ([], h)

end Host

end CircuitRelay
