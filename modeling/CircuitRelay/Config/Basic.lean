import CircuitRelay.Access.List
import CircuitRelay.Connection.Watermarks
import CircuitRelay.Relay.Settings
import CircuitRelay.Resource.Ceilings
import CircuitRelay.Routing.Seeds
import CircuitRelay.Secret.Policy

/-!
# The configuration

What an operator sets, section by section, as it is written: addresses, peers and networks are
still texts here.  Every section has a value for a node without settings.
-/

namespace CircuitRelay

namespace Config

/-- Where the node listens and what it announces. -/
structure Network where
  /-- The addresses to listen on. -/
  listen : List String
  /-- The addresses to announce; none means the public ones among those listened on. -/
  announce : List String
  deriving DecidableEq, Repr

/-- The section without settings. -/
def Network.standard : Network := ⟨["/ip4/0.0.0.0/tcp/4001", "/ip6/::/tcp/4001"], []⟩

/-- How many connections the node keeps. -/
structure Connections where
  low : Nat
  high : Nat
  grace : Duration
  deriving DecidableEq, Repr

/-- The section without settings. -/
def Connections.standard : Connections :=
  ⟨Watermarks.standard.low, Watermarks.standard.high, Watermarks.standard.grace⟩

/-- Who may use the relay. -/
structure Access where
  /-- Peers that are allowed. -/
  allowPeers : List String
  /-- Peers that are denied. -/
  denyPeers : List String
  /-- Networks that are allowed. -/
  allowSubnets : List String
  /-- The verdict when no rule applies. -/
  default : Option Verdict
  /-- How many connections a peer may have. -/
  maxConnections : Option Nat
  /-- Whether denials are logged at the usual level. -/
  audit : Bool
  deriving DecidableEq, Repr

/-- The section without settings. -/
def Access.standard : Access := ⟨[], [], [], none, none, false⟩

/-- What the node may use. -/
structure Resources where
  maxMemory : Option Nat
  maxFds : Option Nat
  /-- Ceilings of single scopes. -/
  overrides : PerScope Overrides

/-- The section without settings. -/
def Resources.standard : Resources := ⟨none, none, .ofFn fun _ => .none⟩

/-- How the node joins the overlay. -/
structure Routing where
  peers : List String
  /-- The longest time of a round. -/
  timeout : Duration
  /-- How many seeds have to be connected. -/
  minResponses : Nat
  /-- The time between rounds. -/
  retryInterval : Duration
  deriving DecidableEq, Repr

/-- The section without settings. -/
def Routing.standard : Routing where
  peers := RoutingSettings.publicPeers
  timeout := RoutingSettings.standard.timeout
  minResponses := RoutingSettings.standard.minResponses
  retryInterval := RoutingSettings.standard.retryInterval

/-- The port on which metrics are served without settings. -/
def standardPort : Int := 9090

end Config

/-- The settings of a node. -/
structure Config where
  /-- Where the node listens and what it announces. -/
  network : Config.Network
  /-- How many connections the node keeps. -/
  connections : Config.Connections
  /-- Who may use the relay. -/
  access : Config.Access
  /-- Whether the relay runs, and within which bounds. -/
  relay : RelaySwitch
  /-- What the node may use. -/
  resources : Config.Resources
  /-- How the node joins the overlay. -/
  routing : Config.Routing
  /-- What to do without the network secret. -/
  onSecretError : SecretPolicy
  /-- The port on which metrics are served; a number that is no port means none. -/
  port : Int

namespace Config

/-- The configuration without settings. -/
def standard : Config where
  network := .standard
  connections := .standard
  access := .standard
  relay := .standard
  resources := .standard
  routing := .standard
  onSecretError := .standard
  port := standardPort

instance : Inhabited Config := ⟨standard⟩

end Config

end CircuitRelay
