import CircuitRelay.Ip.Basic
import CircuitRelay.Peer.Id

/-!
# Addresses

An address is a path of protocol components, outermost last: an IP address or a host name, a
transport with its port, and what runs on top of it, possibly a hop through another peer.  Two
addresses are equal when their components are.
-/

namespace CircuitRelay

/-- One component of an address. -/
inductive Component where
  | ip4 (host : IPv4)
  | ip6 (host : IPv6)
  | ip6zone (zone : String)
  | ipcidr (size : Nat)
  | dns (name : String)
  | dns4 (name : String)
  | dns6 (name : String)
  /-- A host name that resolves to whole addresses. -/
  | dnsaddr (name : String)
  | tcp (port : Nat)
  | udp (port : Nat)
  | dccp (port : Nat)
  | sctp (port : Nat)
  | memory (id : Nat)
  | unix (path : String)
  | sni (name : String)
  | p2p (peer : PeerId)
  | ws (path : String)
  | wss (path : String)
  | tls
  | noise
  | quic
  | quicV1
  | http
  | https
  | utp
  | udt
  | webtransport
  | webrtc
  | webrtcDirect
  | p2pCircuit
  | p2pStardust
  | p2pWebsocketStar
  | p2pWebrtcStar
  | p2pWebrtcDirect
  deriving DecidableEq, Repr

/-- An address, first component first. -/
structure Address where
  components : List Component
  deriving DecidableEq, Repr

namespace Address

/-- The IP address of a component. -/
def componentIp? : Component → Option Ip
  | .ip4 a => some (.v4 a)
  | .ip6 a => some (.v6 a)
  | _ => none

/-- The first IP address in an address. -/
def ip? (a : Address) : Option Ip := a.components.findSome? componentIp?

/-- Whether the address passes through a relay. -/
def isRelayed (a : Address) : Bool := a.components.contains .p2pCircuit

/-- The peer that the address ends in, with the address in front of it. -/
def splitPeer? (a : Address) : Option (PeerId × Address) :=
  match a.components.getLast? with
  | some (.p2p peer) => some (peer, ⟨a.components.dropLast⟩)
  | _ => none

/-- The address without a peer at its end. -/
def withoutPeer (a : Address) : Address :=
  match a.splitPeer? with
  | some (_, rest) => rest
  | none => a

/-- The address ending in a peer; `none` when it already ends in another one. -/
def withPeer? (a : Address) (peer : PeerId) : Option Address :=
  match a.splitPeer? with
  | some (own, _) => if own = peer then some a else none
  | none => some ⟨a.components ++ [.p2p peer]⟩

end Address

end CircuitRelay
