import CircuitRelay.Address.Text
import CircuitRelay.Config.Basic
import CircuitRelay.Disclosure
import CircuitRelay.Text.Quoted

/-!
# Settings for the components

The texts of the configuration are read as addresses, peers and networks when a component asks for
its settings.  A fault names the setting and the text.
-/

namespace CircuitRelay

namespace Config

/-- Why a component cannot have its settings. -/
inductive Fault where
  | peer (setting text : String) (fault : PeerId.Fault)
  | subnet (text : String)
  | address (setting text : String) (fault : Address.Fault)
  | watermarks (fault : Watermarks.Fault)
  deriving DecidableEq

/-- The words for a fault. -/
def Fault.message : Fault → String
  | .peer setting text f =>
    "invalid peer id " ++ Text.quoted text ++ " in " ++ setting ++ ": " ++ f.message
  | .subnet text =>
    "invalid subnet " ++ Text.quoted text ++ " in acl.allowSubnets: " ++ Ip.faultMessage
  | .address setting text f =>
    "invalid multiaddr " ++ Text.quoted text ++ " in " ++ setting ++ ": " ++ f.message
  | .watermarks f => "invalid connMgr section: " ++ f.message

/-- Reads the texts of a setting as addresses. -/
def addresses (setting : String) (texts : List String) : Except Fault (List Address) :=
  texts.mapM fun s => (Address.ofText s).mapError (.address setting s)

/-- Reads the texts of a setting as peers. -/
def peers (setting : String) (texts : List String) : Except Fault (List PeerId) :=
  texts.mapM fun s => (PeerId.ofText s).mapError (.peer setting s)

/-- Reads a text as a network. -/
def subnet (s : String) : Except Fault Subnet :=
  match Subnet.ofText? s with
  | some n => .ok n
  | none => .error (.subnet s)

/-- The addresses to listen on. -/
def listenAddresses (c : Config) : Except Fault (List Address) :=
  addresses "network.listenAddrs" c.network.listen

/-- How announced addresses follow from those listened on. -/
def disclosure (c : Config) : Except Fault Disclosure.Policy :=
  (addresses "network.announceAddrs" c.network.announce).map .ofAddresses

/-- The marks of the connection manager, with the usual time between passes. -/
def watermarks (c : Config) : Except Fault Watermarks :=
  (Watermarks.check c.connections.low c.connections.high c.connections.grace
    Watermarks.standard.interval).mapError .watermarks

/-- The access list; networks are read before peers. -/
def accessList (c : Config) : Except Fault AccessList := do
  let a := c.access
  let subnets ← a.allowSubnets.mapM subnet
  let allow ← peers "acl.allowPeers" a.allowPeers
  let deny ← peers "acl.denyPeers" a.denyPeers
  .ok ⟨allow, deny, subnets, a.default, a.maxConnections, a.audit⟩

/-- What decides the ceilings. -/
def resourcePlan (c : Config) : ResourcePlan where
  maxMemory := c.resources.maxMemory
  maxFds := c.resources.maxFds
  growth := Growth.standard
  overrides := c.resources.overrides

/-- How the node joins the overlay. -/
def routingSettings (c : Config) : Except Fault RoutingSettings :=
  (addresses "routing.bootstrapPeers" c.routing.peers).map fun peers =>
    ⟨peers, c.routing.timeout, c.routing.minResponses, c.routing.retryInterval⟩

end Config

end CircuitRelay
