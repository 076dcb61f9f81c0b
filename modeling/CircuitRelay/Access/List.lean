import CircuitRelay.Address.Basic
import CircuitRelay.Distinct
import CircuitRelay.Ip.Subnet

/-!
# Access lists

An access list decides whether a peer may use the relay.  Its rules stand in a fixed order, and
the first one that applies decides: denied peers and denied destinations, the limit on a peer's
connections, allowed peers, allowed source networks, and last the default.  Without a configured
default a list that allows someone denies everyone else.
-/

namespace CircuitRelay

/-- The outcome of a decision. -/
inductive Verdict where
  | allow
  | deny
  deriving DecidableEq, Repr

/-- The name of a verdict. -/
def Verdict.name : Verdict → String
  | .allow => "allow"
  | .deny => "deny"

/-- What a peer asks of the relay. -/
inductive RelayRequest where
  | reserve (source : Address)
  /-- A circuit, asked for from an address; the destination may be unknown at admission. -/
  | connect (source : Address) (destination : Option PeerId)
  deriving DecidableEq, Repr

namespace RelayRequest

/-- The kinds of requests. -/
inductive Action where
  | reserve
  | connect
  deriving DecidableEq, Repr

/-- The name of a kind of request. -/
def Action.name : Action → String
  | .reserve => "reserve"
  | .connect => "connect"

/-- The kind of a request. -/
def action : RelayRequest → Action
  | .reserve _ => .reserve
  | .connect _ _ => .connect

/-- The address that a request comes from. -/
def source : RelayRequest → Address
  | .reserve a => a
  | .connect a _ => a

/-- The peer that a circuit should reach, if it is known. -/
def destination? : RelayRequest → Option PeerId
  | .reserve _ => none
  | .connect _ d => d

end RelayRequest

/-- Who may use the relay. -/
structure AccessList where
  /-- Peers that are allowed unless they are denied. -/
  allowPeers : List PeerId
  /-- Peers that are always denied. -/
  denyPeers : List PeerId
  /-- Networks from which requests are allowed. -/
  allowSubnets : List Subnet
  /-- The verdict when no rule applies, if one is configured. -/
  default : Option Verdict
  /-- Peers with more connections than this are denied. -/
  maxConnections : Option Nat
  /-- Whether denials are logged at the usual level. -/
  audit : Bool

namespace AccessList

/-- The list that allows everyone. -/
def «open» : AccessList := ⟨[], [], [], none, none, false⟩

/-- The rules of an access list. -/
inductive Rule where
  | denyList
  | destinationDenied
  | connectionLimit
  | allowList
  | subnet
  | default
  deriving DecidableEq, Repr

/-- The name of a rule. -/
def Rule.name : Rule → String
  | .denyList => "DenyList"
  | .destinationDenied => "DestinationDenied"
  | .connectionLimit => "ConnectionLimit"
  | .allowList => "AllowList"
  | .subnet => "Subnet"
  | .default => "Default"

/-- The verdict when no rule applies: as configured, or denial as soon as someone is allowed. -/
def defaultVerdict (l : AccessList) : Verdict :=
  l.default.getD (if l.allowPeers.isEmpty && l.allowSubnets.isEmpty then .allow else .deny)

/-- Whether a peer is on the list of denied peers. -/
def denies (l : AccessList) (peer : PeerId) : Bool := l.denyPeers.contains peer

/-- Whether a peer with so many connections has too many. -/
def overLimit (l : AccessList) (connections : Nat) : Bool :=
  match l.maxConnections with
  | some max => max < connections
  | none => false

/-- Whether requests from an address are allowed for its network. -/
def allowsSource (l : AccessList) (source : Address) : Bool :=
  match source.ip? with
  | some ip => l.allowSubnets.any fun s => s.contains ip
  | none => false

/-- The verdict on a request of a peer with so many connections, and the rule that decided. -/
def decide (l : AccessList) (peer : PeerId) (request : RelayRequest) (connections : Nat) :
    Verdict × Rule :=
  if l.denies peer then (.deny, .denyList)
  else if request.destination?.any l.denies then (.deny, .destinationDenied)
  else if l.overLimit connections then (.deny, .connectionLimit)
  else if l.allowPeers.contains peer then (.allow, .allowList)
  else if l.allowsSource request.source then (.allow, .subnet)
  else (l.defaultVerdict, .default)

/-- The texts of peers in ascending order and once each. -/
def sortedTexts (peers : List PeerId) : List String :=
  ((distinct peers).map PeerId.toText).mergeSort fun a b => !(b < a)

end AccessList

end CircuitRelay
